/-
This file logs how a resolution calls its services: what it has the cache look up and learn, and
what it sends. Logging changes nothing about the resolution, since the services that log mirror the
others. A round looks up the name that it is about, passes on no other name after that, and goes on
to the next name by an alias that the last of its calls has reported.
-/

import StubResolver.Proofs.Resolver.Work

namespace StubResolver

variable {World : Type}

/-! ### Logging the calls of services -/

/-- How a service is called, and what the cache has said. -/
inductive ServiceCall where
  | lookup (name : Name) (type : RecordType) (said : Outcome)
  | ingest (said : Option Ingested)
  | send (query : Message)

namespace ServiceCall

/-- The name that is passed on. -/
def name? : ServiceCall → Option Name
  | lookup name _ _ => some name
  | ingest _ => none
  | send query => query.question.map Question.name

/-- The outcome that is reported. -/
def outcome? : ServiceCall → Option Outcome
  | lookup _ _ said => some said
  | ingest said => said.map Ingested.outcome
  | send _ => none

end ServiceCall

/-- The services, logging how they are called. -/
def Services.logged (services : Services World) : Services (World × List ServiceCall) where
  lookup := fun (world, calls) name type credibility =>
    let (outcome, looked) := services.lookup world name type credibility
    (outcome, looked, calls ++ [.lookup name type outcome])
  ingest := fun (world, calls) response =>
    let (ingested, learned) := services.ingest world response
    (ingested, learned, calls ++ [.ingest ingested])
  send := fun (world, calls) query =>
    let (reply, left) := services.send world query
    (reply, left, calls ++ [.send query])

/-- The calls that a resolution makes. -/
def Request.calls (services : Services World) (request : Request) (world : World) :
    List ServiceCall :=
  (request.resolve services.logged (world, [])).2.2

/-! ### The log changes nothing -/

section

variable {Other : Type}

/-- Services do as others do, in worlds in which the worlds of the others are seen. -/
structure Services.Mirrors (services : Services World) (others : Services Other)
    (seen : World → Other) : Prop where
  lookup : ∀ {world name type least outcome looked},
    services.lookup world name type least = (outcome, looked) →
      others.lookup (seen world) name type least = (outcome, seen looked)
  ingest : ∀ {world response ingested learned},
    services.ingest world response = (ingested, learned) →
      others.ingest (seen world) response = (ingested, seen learned)
  send : ∀ {world query reply sent}, services.send world query = (reply, sent) →
    others.send (seen world) query = (reply, seen sent)

variable {services : Services World} {others : Services Other} {seen : World → Other}

namespace Services.Mirrors

theorem learn (mirrors : services.Mirrors others seen) {world learned : World}
    {question : Question} {credibility : Credibility} {response : Message} {ingested : Ingested}
    (learns : services.learn world question credibility response = (ingested, learned)) :
    others.learn (seen world) question credibility response = (ingested, seen learned) := by
  unfold Services.learn at learns ⊢
  rcases said : services.ingest world response with ⟨_ | made, left⟩
  · rcases looks : services.lookup left question.name question.type credibility with
      ⟨outcome, looked⟩
    simp only [said, looks] at learns
    simp only [mirrors.ingest said, mirrors.lookup looks]
    cases learns
    rfl
  · simp only [said] at learns
    simp only [mirrors.ingest said]
    cases learns
    rfl

theorem ask (mirrors : services.Mirrors others seen) {world asked : World} {question : Question}
    {credibility : Credibility} {heard : Except Failure Ingested}
    (asks : services.ask world question credibility = (heard, asked)) :
    others.ask (seen world) question credibility = (heard, seen asked) := by
  unfold Services.ask at asks ⊢
  rcases answered : services.send world (Message.query question) with ⟨error | response, sent⟩
  · simp only [answered] at asks
    simp only [mirrors.send answered]
    cases asks
    rfl
  · simp only [answered] at asks
    simp only [mirrors.send answered]
    rcases useful : Failure.ofResponse? question response with _ | failure
    · rcases learns : services.learn sent question credibility response with ⟨ingested, learned⟩
      simp only [useful, learns] at asks
      simp only [mirrors.learn learns]
      cases asks
      rfl
    · simp only [useful] at asks
      cases asks
      rfl

end Services.Mirrors

namespace Progress

variable (request : Request)

/-- A round as it is seen in another world. -/
def Round.seenIn (round : Round World) (seen : World → Other) : Round Other :=
  ⟨round.progress, round.next, seen round.world⟩

theorem networkRound_mirrors (mirrors : services.Mirrors others seen) (current : Name)
    (progress : Progress) (world : World) :
    networkRound others request current progress (seen world) =
      (networkRound services request current progress world).seenIn seen := by
  unfold networkRound
  rcases asks : services.ask world ⟨current, request.type, request.recordClass⟩
    request.options.credibility with ⟨failure | ingested, asked⟩
  · simp only [mirrors.ask asks, asks]
    rfl
  · simp only [mirrors.ask asks, asks]
    rcases progress.respond current ingested.outcome ingested.aliases with ⟨later, step⟩
    cases step <;> rfl

theorem round_mirrors (mirrors : services.Mirrors others seen) (current : Name)
    (progress : Progress) (world : World) :
    round others request current progress (seen world) =
      (round services request current progress world).seenIn seen := by
  unfold round
  rcases looks : services.lookup world current request.type request.options.credibility with
    ⟨outcome, looked⟩
  simp only [mirrors.lookup looks]
  rcases progress.respond current outcome [] with ⟨later, step⟩
  cases step with
  | query => exact networkRound_mirrors request mirrors current later looked
  | _ => rfl

/-- An attempt comes to the same with services that mirror others. -/
theorem attempt_mirrors (mirrors : services.Mirrors others seen) (current : Name)
    (progress : Progress) (world : World) :
    attempt others request current progress (seen world) =
      ((attempt services request current progress world).1,
        seen (attempt services request current progress world).2) := by
  induction current, progress, world using attempt.induct services request with
  | case1 current progress world heard last =>
    have same := round_mirrors request mirrors current progress world
    have lastToo : (round others request current progress (seen world)).next = none :=
      (congrArg Round.next same).trans last
    rw [attempt_of_last others request lastToo, attempt_of_last services request last, same]
    rfl
  | case2 current progress world heard next another inductionHypothesis =>
    have same := round_mirrors request mirrors current progress world
    have anotherToo : (round others request current progress (seen world)).next = some next :=
      (congrArg Round.next same).trans another
    rw [attempt_of_next others request anotherToo, attempt_of_next services request another, same]
    exact inductionHypothesis

end Progress

/-- A resolution comes to the same with services that mirror others. -/
theorem Request.resolve_mirrors (mirrors : services.Mirrors others seen) (request : Request)
    (world : World) :
    request.resolve others (seen world) =
      ((request.resolve services world).1, seen (request.resolve services world).2) := by
  have alike : Progress.Attempting.Alike (Progress.attempt services request)
      (Progress.attempt others request) fun world other => seen world = other := by
    rintro name progress world _ rfl
    rw [Progress.attempt_mirrors request mirrors]
    exact ⟨rfl, rfl⟩
  obtain ⟨same, worlds⟩ := Progress.search_alike alike request world (seen world) rfl
  unfold resolve
  exact Prod.ext (congrArg Progress.conclude same.symm) worlds.symm

theorem Services.logged_mirrors (services : Services World) :
    services.logged.Mirrors services Prod.fst := by
  constructor <;> rintro ⟨world, calls⟩ <;> intros <;> rename_i same <;> cases same <;> rfl

/-- Logging the calls changes nothing about a resolution. -/
theorem Request.resolve_logged (services : Services World) (request : Request) (world : World) :
    request.resolve services.logged (world, []) =
      ((request.resolve services world).1, (request.resolve services world).2,
        request.calls services world) := by
  have same := request.resolve_mirrors services.logged_mirrors (world, [])
  exact Prod.ext (congrArg Prod.fst same).symm (Prod.ext (congrArg Prod.snd same).symm rfl)

end

/-! ### What leads on -/

/-- An outcome for a name leads on to another, by an alias to a target. -/
inductive Outcome.LeadsOn (old target : Name) : Outcome → Name → Prop where
  | cname (set : RRset) (stands : set.aliasTarget? = some target) :
      LeadsOn old target (.cname set) target
  | dname (set : RRset) (next : Name) (stands : set.aliasTarget? = some target)
      (moved : old.substitute set.name target = .ok next) : LeadsOn old target (.dname set) next

/-- A name that an alias leads to is as absolute as the target. -/
theorem Outcome.LeadsOn.absolute {old target next : Name} {outcome : Outcome}
    (leads : outcome.LeadsOn old target next) : next.absolute = target.absolute := by
  cases leads with
  | cname set stands => rfl
  | dname set next stands moved => exact ((Name.substitute_eq_ok_iff _ _ _ _).mp moved).2.2

/-- Whatever is followed has led on. -/
theorem Progress.respond_leadsOn {progress later : Progress} {current next : Name}
    {outcome : Outcome} {chain : List Name}
    (followed : progress.respond current outcome chain = (later, .follow next)) :
    ∃ target, outcome.LeadsOn current target next := by
  unfold respond at followed
  cases outcome with
  | cname set =>
    dsimp only at followed
    split at followed
    · rename_i target stands
      obtain ⟨rfl, _⟩ := followAlias_follow followed
      exact ⟨next, .cname set stands⟩
    · cases followed
  | dname set =>
    dsimp only at followed
    split at followed
    · rename_i target stands
      unfold followRedirection at followed
      split at followed
      · rename_i moved isMoved
        obtain ⟨rfl, _⟩ := followAlias_follow followed
        exact ⟨target, .dname set next stands isMoved⟩
      · cases followed
    · cases followed
  | _ => cases followed

/-- The last of some calls has reported an outcome. -/
def Reported (calls : List ServiceCall) (outcome : Outcome) : Prop :=
  ∃ call, calls.getLast? = some call ∧ call.outcome? = some outcome

theorem Reported.append {calls : List ServiceCall} {outcome : Outcome}
    (reported : Reported calls outcome) (before : List ServiceCall) :
    Reported (before ++ calls) outcome := by
  obtain ⟨call, last, reports⟩ := reported
  exact ⟨call, by rw [List.getLast?_append, last]; rfl, reports⟩

/-! ### The calls of a round -/

/-- Calls stay with a question: they pass on no other name, and send no other query. -/
def Question.KeptIn (question : Question) (calls : List ServiceCall) : Prop :=
  ∀ call ∈ calls, (∀ name, call.name? = some name → name = question.name) ∧
    ∀ query, call = .send query → query = Message.query question

theorem Question.KeptIn.cons {question : Question} {call : ServiceCall} {calls : List ServiceCall}
    (name : ∀ name, call.name? = some name → name = question.name)
    (query : ∀ query, call = .send query → query = Message.query question)
    (kept : question.KeptIn calls) : question.KeptIn (call :: calls) := by
  intro other member
  rcases List.mem_cons.mp member with rfl | later
  · exact ⟨name, query⟩
  · exact kept other later

theorem Question.KeptIn.nil (question : Question) : question.KeptIn [] :=
  fun _ member => absurd member List.not_mem_nil

section

variable {services : Services World} {calls : List ServiceCall} {question : Question}
  {credibility : Credibility}

/-- Whoever learns reports what has been learned, or else what has been looked up instead. -/
theorem Services.logged_learn (world : World) (response : Message) {ingested : Ingested}
    {learned : World × List ServiceCall}
    (learns : services.logged.learn (world, calls) question credibility response =
      (ingested, learned)) :
    ∃ rest, learned.2 = calls ++ rest ∧ question.KeptIn rest ∧ Reported rest ingested.outcome := by
  unfold Services.learn Services.logged at learns
  rcases said : services.ingest world response with ⟨_ | made, left⟩
  · rcases looks : services.lookup left question.name question.type credibility with
      ⟨outcome, looked⟩
    simp only [said, looks] at learns
    cases learns
    refine ⟨[.ingest none, .lookup question.name question.type outcome], List.append_assoc _ _ _,
      .cons ?_ ?_ (.cons ?_ ?_ (.nil question)), _, rfl, rfl⟩ <;> rintro _ ⟨⟩
    rfl
  · simp only [said] at learns
    cases learns
    refine ⟨[.ingest (some _)], rfl, .cons ?_ ?_ (.nil question), _, rfl, rfl⟩ <;> rintro _ ⟨⟩

/-- Whoever asks sends the question, and then reports what it has led to. -/
theorem Services.logged_ask (world : World) {heard : Except Failure Ingested}
    {asked : World × List ServiceCall}
    (asks : services.logged.ask (world, calls) question credibility = (heard, asked)) :
    ∃ rest, asked.2 = calls ++ rest ∧ question.KeptIn rest ∧
      ∀ ingested, heard = .ok ingested → Reported rest ingested.outcome := by
  have sends (rest : List ServiceCall) (kept : question.KeptIn rest) :
      question.KeptIn (.send (Message.query question) :: rest) := by
    refine kept.cons (fun name same => (Option.some_inj.mp same).symm) fun query same => ?_
    cases same
    rfl
  unfold Services.ask at asks
  rcases answered : services.send world (Message.query question) with ⟨error | response, sent⟩
  all_goals
    have logging : services.logged.send (world, calls) (Message.query question) =
        (_, sent, calls ++ [.send (Message.query question)]) :=
      congrArg (fun answered => (answered.1, answered.2,
        calls ++ [.send (Message.query question)])) answered
    simp only [logging] at asks
  · cases asks
    exact ⟨[.send (Message.query question)], rfl, sends [] (.nil question), nofun⟩
  · rcases useful : Failure.ofResponse? question response with _ | failure
    · rcases learns : services.logged.learn (sent, calls ++ [.send (Message.query question)])
        question credibility response with ⟨ingested, learned⟩
      obtain ⟨rest, isLogged, kept, reported⟩ := Services.logged_learn sent response learns
      simp only [useful, learns] at asks
      cases asks
      refine ⟨.send (Message.query question) :: rest, by
        rw [isLogged, List.append_assoc, List.singleton_append], sends rest kept, ?_⟩
      rintro _ ⟨⟩
      exact reported.append [_]
    · simp only [useful] at asks
      cases asks
      exact ⟨[.send (Message.query question)], rfl, sends [] (.nil question), nofun⟩

end

namespace Progress

variable (services : Services World) (request : Request)

/-- What a round calls after the name has been looked up stays with the question, and it goes on as
the last call has reported. -/
theorem networkRound_calls (current : Name) (progress : Progress) (world : World)
    (calls : List ServiceCall) :
    let heard := networkRound services.logged request current progress (world, calls)
    ∃ rest, heard.world.2 = calls ++ rest ∧
      Question.KeptIn ⟨current, request.type, request.recordClass⟩ rest ∧
      ∀ next, heard.next = some next → ∃ outcome target, Reported heard.world.2 outcome ∧
        outcome.LeadsOn current target next := by
  unfold networkRound
  rcases asks : services.logged.ask (world, calls) ⟨current, request.type, request.recordClass⟩
    request.options.credibility with ⟨failure | ingested, asked⟩
  all_goals
    obtain ⟨rest, isLogged, kept, reported⟩ := services.logged_ask world asks
    simp only [asks]
  · exact ⟨rest, isLogged, kept, nofun⟩
  · split
    · rename_i followed
      refine ⟨rest, isLogged, kept, ?_⟩
      rintro _ ⟨⟩
      obtain ⟨target, leads⟩ := respond_leadsOn followed
      refine ⟨_, target, ?_, leads⟩
      dsimp only
      rw [isLogged]
      exact (reported ingested rfl).append calls
    · exact ⟨rest, isLogged, kept, nofun⟩

/-- A round looks up the name that it is about, stays with it, and goes on as the last call has
reported. -/
theorem round_calls (current : Name) (progress : Progress) (world : World)
    (calls : List ServiceCall) :
    let heard := round services.logged request current progress (world, calls)
    ∃ said rest, heard.world.2 = calls ++ .lookup current request.type said :: rest ∧
      Question.KeptIn ⟨current, request.type, request.recordClass⟩ rest ∧
      ∀ next, heard.next = some next → ∃ outcome target, Reported heard.world.2 outcome ∧
        outcome.LeadsOn current target next := by
  unfold round
  rcases looks : services.lookup world current request.type request.options.credibility with
    ⟨outcome, looked⟩
  have logging : services.logged.lookup (world, calls) current request.type
      request.options.credibility =
        (outcome, looked, calls ++ [.lookup current request.type outcome]) :=
    congrArg (fun answered => (answered.1, answered.2,
      calls ++ [.lookup current request.type answered.1])) looks
  simp only [logging]
  rcases responded : progress.respond current outcome [] with ⟨later, step⟩
  cases step with
  | done => exact ⟨outcome, [], rfl, .nil _, nofun⟩
  | follow next =>
    refine ⟨outcome, [], rfl, .nil _, ?_⟩
    rintro _ ⟨⟩
    obtain ⟨target, leads⟩ := respond_leadsOn responded
    exact ⟨outcome, target, ⟨_, List.getLast?_concat, rfl⟩, leads⟩
  | query =>
    obtain ⟨rest, isLogged, kept, goesOn⟩ := networkRound_calls services request current later
      looked (calls ++ [.lookup current request.type outcome])
    rw [List.append_assoc, List.singleton_append] at isLogged
    exact ⟨outcome, rest, isLogged, kept, goesOn⟩

end Progress

end StubResolver
