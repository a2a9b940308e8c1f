/-
This file settles what a resolution amounts to when no alias is met. An attempt then is one inquiry:
the cache is asked about the candidate, and the network if the cache does not settle the matter. An
inquiry comes to a finding, which depends on what the services say and on nothing that the
resolution remembers; so the inquiries of a search can be made one after the other without it. Which
errors are a timeout or another failure of the network, and which responses cannot be used, is said
here anew, so that the findings do not rest on how an attempt tells them apart.

What a resolution remembers is then a summary of the findings. Each flag says whether a kind of
finding has occurred, the reason is that of the last response that was unusable, and the decision is
that of the last finding, since a search ends with the first one that decides. Whether other servers
would have had to be asked is remembered as well, but is left out of the summary: it changes no more
than the reason of a resolution that has found nothing. The verdict can be read off the summary.

That no alias is met is asked of the inquiries made, not of all that the services could say.
-/

import StubResolver.Proofs.Resolver.SearchPath

namespace StubResolver

variable {World : Type}

/-! ### Findings -/

/-- What an inquiry about a name comes to. -/
inductive Finding where
  /-- The name has these records. -/
  | answered (sets : List RRset)
  /-- The name has no records of the type. -/
  | typeMissing
  /-- The name does not exist. -/
  | nameMissing
  /-- The name could not be asked about. -/
  | failed (failure : Failure)
  /-- Nothing was found out. -/
  | nothing
  /-- An alias has been met. -/
  | redirected
deriving DecidableEq

namespace Finding

/-- The decision that a finding brings about on its own. -/
def verdict? : Finding → Option Verdict
  | answered _ => some ⟨.successful, none⟩
  | typeMissing => some ⟨.typeNotFound, none⟩
  | _ => none

/-- The sets that a finding leaves as those found, if it touches them at all. -/
def answers? : Finding → Option (List RRset)
  | answered sets => some sets
  | typeMissing => some []
  | _ => none

/-- What was wrong with a response that could not be used. -/
def fault? : Finding → Option String
  | failed (.unusable reason) => some reason
  | _ => none

/-- Whether no other candidate is inquired about after a finding. -/
def isLast : Finding → Bool
  | answered _ | typeMissing | redirected => true
  | _ => false

/-- Where no alias is met, the finding that ends a search is the one that decides it. -/
theorem isLast_eq {finding : Finding} (plain : finding ≠ redirected) :
    finding.isLast = finding.verdict?.isSome := by
  cases finding with
  | redirected => exact absurd rfl plain
  | _ => rfl

end Finding

/-- What an outcome settles. A referral settles as little as no knowledge does. -/
def Outcome.finding? : Outcome → Option Finding
  | successful sets => some (.answered sets)
  | nxRRset => some .typeMissing
  | nxDomain => some .nameMissing
  | cname _ | dname _ => some .redirected
  | delegation _ | unknown => none

/-- What a response that a cache has learned from comes to. -/
def Ingested.finding (ingested : Ingested) : Finding :=
  if ingested.aliases = [] then ingested.outcome.finding?.getD .nothing else .redirected

/-! ### What the network says -/

/-- The failure that an error of a sender is. It gave up waiting, or it did not get through, or what
came back made no sense to it. -/
def Error.failure (error : Error) : Failure :=
  match error with
  | .queryTimeout | .connectTimeout _ => .timeout
  | .connectionRefused _ | .inputOutput _ => .network
  | .invalidName _ | .nameTooLong _ | .metaType _ | .invalidResponse _ | .configuration _ =>
    .unusable error.message

/-- What is wrong with a response to a question, if anything is: it says neither that all is well
nor that the name does not exist, or it does not repeat the question. -/
def Message.fault? (response : Message) (question : Question) : Option String :=
  if response.result ≠ .noError ∧ response.result ≠ .nxDomain then
    some response.result.mnemonic
  else if response.question.any fun echoed => echoed ≈ question then
    none
  else
    some "response does not match query"

theorem Failure.ofError_eq (error : Error) : Failure.ofError error = error.failure := by
  cases error <;> rfl

theorem Failure.ofResponse?_eq (question : Question) (response : Message) :
    Failure.ofResponse? question response = (response.fault? question).map Failure.unusable := by
  have useful : (!response.result.isCacheable) = true ↔
      response.result ≠ .noError ∧ response.result ≠ .nxDomain := by
    simp [ResponseCode.isCacheable]
  unfold ofResponse? Message.fault?
  by_cases refused : response.result ≠ .noError ∧ response.result ≠ .nxDomain
  · rw [if_pos (useful.mpr refused), if_pos refused]
    rfl
  · rw [if_neg (mt useful.mp refused), if_neg refused]
    cases response.question with
    | none => rfl
    | some echoed =>
      dsimp only [Option.any_some]
      by_cases same : echoed ≈ question
      · rw [if_pos same, if_pos (decide_eq_true same)]
        rfl
      · rw [if_neg same, if_neg (same ∘ of_decide_eq_true)]
        rfl

/-! ### Inquiries -/

/-- An inquiry: the name it was about, and the finding. -/
structure Inquiry where
  name : Name
  finding : Finding
deriving DecidableEq

namespace Services

variable (services : Services World) (request : Request)

/-- Inquires of the network about a name. Where the cache learns nothing from a response, what it
knows anyway has to do. -/
def inquireNetwork (world : World) (name : Name) : Finding × World :=
  let question : Question := ⟨name, request.type, request.recordClass⟩
  match services.send world (Message.query question) with
  | (.error error, sent) => (.failed error.failure, sent)
  | (.ok response, sent) =>
    match response.fault? question with
    | some reason => (.failed (.unusable reason), sent)
    | none =>
      match services.ingest sent response with
      | (some ingested, learned) => (ingested.finding, learned)
      | (none, unchanged) =>
        let (outcome, looked) :=
          services.lookup unchanged name request.type request.options.credibility
        (outcome.finding?.getD .nothing, looked)

/-- Asking the network is inquiring of it. -/
theorem inquireNetwork_eq (world : World) (name : Name) :
    services.inquireNetwork request world name =
      match services.ask world ⟨name, request.type, request.recordClass⟩
        request.options.credibility with
      | (.error failure, asked) => (.failed failure, asked)
      | (.ok ingested, asked) => (ingested.finding, asked) := by
  unfold inquireNetwork ask
  dsimp only
  rcases services.send world (Message.query ⟨name, request.type, request.recordClass⟩) with
    ⟨error | response, sent⟩
  · simp only [Failure.ofError_eq]
  · simp only [Failure.ofResponse?_eq]
    cases response.fault? ⟨name, request.type, request.recordClass⟩ with
    | some reason => rfl
    | none =>
      simp only [Option.map_none, learn]
      rcases services.ingest sent response with ⟨ingested | _, learned⟩ <;> rfl

/-- Inquires about a name: of the cache first, and of the network if that settles nothing. -/
def inquire (world : World) (name : Name) : Finding × World :=
  let (outcome, looked) := services.lookup world name request.type request.options.credibility
  match outcome.finding? with
  | some finding => (finding, looked)
  | none => services.inquireNetwork request looked name

/-- Inquires about one name after the other, up to the first finding that is to be the last. -/
def inquireEach (world : World) : (names : List Name) → List Inquiry × World
  | [] => ([], world)
  | name :: rest =>
    let (finding, left) := services.inquire request world name
    if finding.isLast then
      ([⟨name, finding⟩], left)
    else
      let (others, last) := inquireEach left rest
      (⟨name, finding⟩ :: others, last)

/-- Where inquiries go on, the other names follow. -/
theorem inquireEach_cons_of_goesOn (world : World) (name : Name) (rest : List Name)
    (goesOn : (services.inquire request world name).1.isLast = false) :
    services.inquireEach request world (name :: rest) =
      (⟨name, (services.inquire request world name).1⟩ ::
          (services.inquireEach request (services.inquire request world name).2 rest).1,
        (services.inquireEach request (services.inquire request world name).2 rest).2) := by
  simp [inquireEach, goesOn]

/-- Where inquiries end, the other names are not looked at. -/
theorem inquireEach_cons_of_isLast (world : World) (name : Name) (rest : List Name)
    (isLast : (services.inquire request world name).1.isLast = true) :
    services.inquireEach request world (name :: rest) =
      ([⟨name, (services.inquire request world name).1⟩],
        (services.inquire request world name).2) := by
  simp [inquireEach, isLast]

/-- A finding that is to be the last is the last. -/
theorem getLast?_inquireEach (world : World) (names : List Name) (inquiry : Inquiry)
    (made : inquiry ∈ (services.inquireEach request world names).1)
    (isLast : inquiry.finding.isLast = true) :
    (services.inquireEach request world names).1.getLast? = some inquiry := by
  induction names generalizing world with
  | nil => simp [inquireEach] at made
  | cons name rest inductionHypothesis =>
    by_cases ends : (services.inquire request world name).1.isLast = true
    · rw [inquireEach_cons_of_isLast _ _ _ _ _ ends] at made ⊢
      rw [List.mem_singleton.mp made, List.getLast?_singleton]
    · have goesOn : (services.inquire request world name).1.isLast = false := by simpa using ends
      rw [inquireEach_cons_of_goesOn _ _ _ _ _ goesOn] at made ⊢
      rcases List.mem_cons.mp made with rfl | later
      · exact absurd isLast ends
      · rw [List.getLast?_cons, inductionHypothesis _ later, Option.getD_some]

end Services

/-- Services that never speak of an alias: no outcome is one, and no response was found to cross
any. -/
structure Services.Plain (services : Services World) : Prop where
  lookup : ∀ world name type least set,
    (services.lookup world name type least).1 ≠ .cname set ∧
      (services.lookup world name type least).1 ≠ .dname set
  ingest : ∀ world response ingested, (services.ingest world response).1 = some ingested →
    ingested.aliases = [] ∧ ∀ set, ingested.outcome ≠ .cname set ∧ ingested.outcome ≠ .dname set

/-- The inquiries of a search: those about the candidates, in order. -/
def Request.inquiries (request : Request) (services : Services World) (world : World) :
    List Inquiry :=
  (services.inquireEach request world request.candidates).1

theorem Outcome.finding?_ne_redirected {outcome : Outcome}
    (direct : ∀ set, outcome ≠ .cname set ∧ outcome ≠ .dname set) :
    outcome.finding? ≠ some .redirected := by
  cases outcome with
  | cname set => exact absurd rfl (direct set).1
  | dname set => exact absurd rfl (direct set).2
  | _ => simp [finding?]

namespace Services.Plain

variable {services : Services World} (plain : services.Plain) (request : Request)
include plain

/-- What is learned from a response is no alias, even if it is what was known anyway. -/
theorem learn (world : World) (question : Question) (least : Credibility) (response : Message) :
    (services.learn world question least response).1.finding ≠ .redirected := by
  have notRedirected {outcome : Outcome}
      (direct : ∀ set, outcome ≠ .cname set ∧ outcome ≠ .dname set) :
      (Ingested.mk outcome []).finding ≠ .redirected := by
    have settles := outcome.finding?_ne_redirected direct
    rw [Ingested.finding, if_pos rfl]
    cases found : outcome.finding? with
    | none => simp
    | some finding => simpa [found] using settles
  unfold Services.learn
  split
  · rename_i ingested learned said
    obtain ⟨noAliases, direct⟩ := plain.ingest world response ingested (by rw [said])
    obtain ⟨outcome, aliases⟩ := ingested
    cases noAliases
    exact notRedirected direct
  · exact notRedirected (plain.lookup _ _ _ _)

/-- No inquiry of the network meets an alias. -/
theorem inquireNetwork (world : World) (name : Name) :
    (services.inquireNetwork request world name).1 ≠ .redirected := by
  rw [services.inquireNetwork_eq]
  unfold Services.ask
  dsimp only
  rcases services.send world (Message.query ⟨name, request.type, request.recordClass⟩) with
    ⟨error | response, sent⟩
  · simp
  · dsimp only
    cases Failure.ofResponse? ⟨name, request.type, request.recordClass⟩ response with
    | some failure => simp
    | none => exact plain.learn _ _ _ _

/-- No inquiry meets an alias. -/
theorem inquire (world : World) (name : Name) :
    (services.inquire request world name).1 ≠ .redirected := by
  have direct := Outcome.finding?_ne_redirected
    (plain.lookup world name request.type request.options.credibility)
  unfold Services.inquire
  dsimp only
  split
  · rename_i finding settles
    rw [settles] at direct
    exact fun redirected => direct (congrArg some redirected)
  · exact plain.inquireNetwork request _ _

/-- So none is met by inquiries about any names. -/
theorem inquireEach (world : World) (names : List Name) :
    ∀ inquiry ∈ (services.inquireEach request world names).1, inquiry.finding ≠ .redirected := by
  induction names generalizing world with
  | nil => simp [Services.inquireEach]
  | cons name rest inductionHypothesis =>
    intro inquiry made
    have first := plain.inquire request world name
    cases ends : (services.inquire request world name).1.isLast with
    | true =>
      rw [inquireEach_cons_of_isLast _ _ _ _ _ ends] at made
      rw [List.mem_singleton.mp made]
      exact first
    | false =>
      rw [inquireEach_cons_of_goesOn _ _ _ _ _ ends] at made
      rcases List.mem_cons.mp made with rfl | later
      · exact first
      · exact inductionHypothesis _ inquiry later

end Services.Plain

/-! ### An attempt is an inquiry -/

namespace Progress

/-- The progress after a finding. -/
def note (progress : Progress) : Finding → Progress
  | .answered sets => { progress with answers := sets, verdict := some ⟨.successful, none⟩ }
  | .typeMissing => progress.missType
  | .nameMissing => progress.missName
  | .failed failure => progress.noteFailure failure
  | .nothing | .redirected => progress

/-- All that a finding changes, as long as no alias has been counted. -/
theorem note_eq (progress : Progress) (direct : progress.aliasCount = 0) (finding : Finding) :
    progress.note finding = { progress with
      verdict := finding.verdict?.or progress.verdict
      answers := finding.answers?.getD progress.answers
      badResponse := finding.fault?.or progress.badResponse
      timedOut := progress.timedOut || decide (finding = .failed .timeout)
      networkError := progress.networkError || decide (finding = .failed .network)
      nxDomain := progress.nxDomain || decide (finding = .nameMissing) } := by
  obtain ⟨count⟩ := progress
  subst direct
  cases finding with
  | failed failure =>
    cases failure <;>
      simp [note, noteFailure, Finding.verdict?, Finding.answers?, Finding.fault?]
  | _ => simp [note, missType, missName, Finding.verdict?, Finding.answers?, Finding.fault?]

/-- An outcome that settles something is noted. -/
theorem respond_of_finding (progress : Progress) (name : Name) {outcome : Outcome}
    {finding : Finding} (settles : outcome.finding? = some finding)
    (plain : finding ≠ .redirected) :
    progress.respond name outcome [] = (progress.note finding, .done) := by
  cases outcome with
  | cname set | dname set => exact absurd (Option.some.inj settles).symm plain
  | delegation set => cases settles
  | unknown => cases settles
  | successful sets | nxRRset | nxDomain =>
    cases settles
    rfl

/-- After an outcome that settles nothing the network is asked. All that may have changed is that
other servers would have to be asked. -/
theorem respond_of_none (progress : Progress) (name : Name) {outcome : Outcome}
    (settlesNothing : outcome.finding? = none) :
    ∃ referral, progress.respond name outcome [] =
      ({ progress with referral := referral }, .query) := by
  cases outcome with
  | delegation set => exact ⟨true, rfl⟩
  | unknown => exact ⟨progress.referral, rfl⟩
  | _ => cases settlesNothing

variable (services : Services World) (request : Request)

/-- A round in the network that meets no alias notes what the inquiry comes to, and is the last. -/
theorem networkRound_eq_note (name : Name) (progress : Progress) (world : World)
    (plain : (services.inquireNetwork request world name).1 ≠ .redirected) :
    ∃ referral, networkRound services request name progress world =
      ⟨({ progress with referral := referral } : Progress).note
        (services.inquireNetwork request world name).1, none,
        (services.inquireNetwork request world name).2⟩ := by
  rw [services.inquireNetwork_eq] at plain ⊢
  unfold networkRound
  dsimp only
  generalize services.ask world ⟨name, request.type, request.recordClass⟩
    request.options.credibility = reply at plain ⊢
  obtain ⟨failure | ingested, asked⟩ := reply
  · exact ⟨progress.referral, rfl⟩
  · have direct : ingested.aliases = [] :=
      Decidable.byContradiction fun crossed => plain (if_neg crossed)
    have found : ingested.finding = ingested.outcome.finding?.getD .nothing := if_pos direct
    dsimp only at plain ⊢
    rw [found] at plain ⊢
    rw [direct]
    cases settles : ingested.outcome.finding? with
    | some finding =>
      rw [settles] at plain
      rw [respond_of_finding progress name settles plain]
      exact ⟨progress.referral, rfl⟩
    | none =>
      obtain ⟨referral, responds⟩ := respond_of_none progress name settles
      rw [responds]
      exact ⟨referral, rfl⟩

/-- A round that meets no alias notes what the inquiry comes to, and is the last. -/
theorem round_eq_note (name : Name) (progress : Progress) (world : World)
    (plain : (services.inquire request world name).1 ≠ .redirected) :
    ∃ referral, round services request name progress world =
      ⟨({ progress with referral := referral } : Progress).note
        (services.inquire request world name).1, none,
        (services.inquire request world name).2⟩ := by
  unfold Services.inquire at plain ⊢
  unfold round
  generalize services.lookup world name request.type request.options.credibility = answer
    at plain ⊢
  obtain ⟨outcome, looked⟩ := answer
  dsimp only at plain ⊢
  cases settles : outcome.finding? with
  | some found =>
    rw [settles] at plain
    rw [respond_of_finding progress name settles plain]
    exact ⟨progress.referral, rfl⟩
  | none =>
    rw [settles] at plain
    obtain ⟨referral, responds⟩ := respond_of_none progress name settles
    rw [responds]
    exact networkRound_eq_note services request name _ looked plain

/-- An attempt that meets no alias notes what the inquiry comes to. -/
theorem attempt_eq_note (name : Name) (progress : Progress) (world : World)
    (plain : (services.inquire request world name).1 ≠ .redirected) :
    ∃ referral, attempt services request name progress world =
      (({ progress with referral := referral } : Progress).note
        (services.inquire request world name).1, (services.inquire request world name).2) := by
  obtain ⟨referral, only⟩ := round_eq_note services request name progress world plain
  have last : (round services request name progress world).next = none := by rw [only]
  exact ⟨referral, by rw [attempt_of_last services request last, only]⟩

/-! ### What is remembered of the findings -/

/-- What a resolution remembers sums up the findings so far. -/
structure SumsUp (progress : Progress) (findings : List Finding) : Prop where
  aliasCount : progress.aliasCount = 0
  foundAlias : progress.foundAlias = false
  /-- The last finding is the one that decides. -/
  verdict : progress.verdict = findings.getLast?.bind Finding.verdict?
  answers : ∀ sets, findings.getLast? = some (.answered sets) → progress.answers = sets
  badResponse : progress.badResponse = (findings.filterMap Finding.fault?).getLast?
  timedOut : progress.timedOut = decide (.failed .timeout ∈ findings)
  networkError : progress.networkError = decide (.failed .network ∈ findings)
  nxDomain : progress.nxDomain = decide (.nameMissing ∈ findings)

/-- At the start there is nothing to sum up. -/
theorem start_sumsUp : start.SumsUp [] :=
  ⟨rfl, rfl, rfl, fun _ none => (Option.some_ne_none _ none.symm).elim, rfl, rfl, rfl, rfl⟩

namespace SumsUp

variable {progress : Progress} {findings : List Finding}

/-- What else is remembered makes no difference. -/
theorem congr (sums : progress.SumsUp findings) (referral nameTooLong : Bool) :
    ({ progress with referral := referral, nameTooLong := nameTooLong } : Progress).SumsUp
      findings :=
  ⟨sums.aliasCount, sums.foundAlias, sums.verdict, sums.answers, sums.badResponse, sums.timedOut,
    sums.networkError, sums.nxDomain⟩

/-- A finding that is noted is summed up with those before it, as long as they decide nothing. -/
theorem note (sums : progress.SumsUp findings) (undecided : progress.verdict = none)
    (finding : Finding) : (progress.note finding).SumsUp (findings ++ [finding]) := by
  rw [note_eq progress sums.aliasCount finding]
  exact {
    aliasCount := sums.aliasCount
    foundAlias := sums.foundAlias
    verdict := by simp [undecided]
    answers := by
      intro sets answered
      rw [List.getLast?_concat, Option.some_inj] at answered
      rw [answered]
      rfl
    badResponse := by
      cases fault : finding.fault? <;> simp [fault, sums.badResponse]
    timedOut := by simp [sums.timedOut, eq_comm]
    networkError := by simp [sums.networkError, eq_comm]
    nxDomain := by simp [sums.nxDomain, eq_comm] }

end SumsUp

/-! ### The inquiries of a search -/

/-- An attempt that meets no alias is summed up, and decides the resolution exactly if its finding
is to be the last. -/
theorem attempt_sumsUp {progress : Progress} {findings : List Finding}
    (sums : progress.SumsUp findings) (undecided : progress.isDone = false) (name : Name)
    (world : World) (plain : (services.inquire request world name).1 ≠ .redirected) :
    ∃ later, attempt services request name progress world =
        (later, (services.inquire request world name).2) ∧
      later.SumsUp (findings ++ [(services.inquire request world name).1]) ∧
      later.isDone = (services.inquire request world name).1.isLast := by
  obtain ⟨referral, attempted⟩ := attempt_eq_note services request name progress world plain
  have stillOpen : progress.verdict = none := by simpa [isDone] using undecided
  have summed := (sums.congr referral progress.nameTooLong).note stillOpen
    (services.inquire request world name).1
  refine ⟨_, attempted, summed, ?_⟩
  rw [isDone, summed.verdict, List.getLast?_concat, Option.bind_some, Finding.isLast_eq plain]

/-- Attempts made after those in `made` are the inquiries about some names: they start from the
same names, they leave the world as the inquiries do, and what is remembered after them sums up
their findings along with those before. -/
def Inquires (names : List Name) (findings : List Finding) (world : World)
    (made : List AttemptMade) (ended : Progress × World × List AttemptMade) : Prop :=
  ∃ taken : List AttemptMade,
    taken.map AttemptMade.start =
        (services.inquireEach request world names).1.map Inquiry.name ∧
      ended.2 = ((services.inquireEach request world names).2, made ++ taken) ∧
      ended.1.SumsUp
        (findings ++ (services.inquireEach request world names).1.map Inquiry.finding)

/-- Where there are no names, no attempts are made. -/
theorem Inquires.nil {progress : Progress} {findings : List Finding}
    (sums : progress.SumsUp findings) (world : World) (made : List AttemptMade) :
    Inquires services request [] findings world made (progress, world, made) :=
  ⟨[], rfl, by simp [Services.inquireEach], by simpa [Services.inquireEach] using sums⟩

/-- Where no alias is met among inquiries about names, none is met in the first. -/
theorem plain_of_cons {world : World} {name : Name} {rest : List Name}
    (plain : ∀ inquiry ∈ (services.inquireEach request world (name :: rest)).1,
      inquiry.finding ≠ .redirected) :
    (services.inquire request world name).1 ≠ .redirected ∧
      ((services.inquire request world name).1.isLast = false →
        ∀ inquiry ∈ (services.inquireEach request
            (services.inquire request world name).2 rest).1, inquiry.finding ≠ .redirected) := by
  cases ends : (services.inquire request world name).1.isLast with
  | true =>
    rw [Services.inquireEach_cons_of_isLast _ _ _ _ _ ends] at plain
    exact ⟨plain _ List.mem_cons_self, fun goesOn => nomatch goesOn⟩
  | false =>
    rw [Services.inquireEach_cons_of_goesOn _ _ _ _ _ ends] at plain
    exact ⟨plain _ List.mem_cons_self, fun _ inquiry made =>
      plain inquiry (List.mem_cons_of_mem _ made)⟩

/-- An attempt that meets no alias, and those after it unless it decides the resolution. Whether the
search also stops at an alias makes no difference. -/
theorem Inquires.cons {progress : Progress} {findings : List Finding}
    (sums : progress.SumsUp findings) (undecided : progress.isDone = false) {world : World}
    {name : Name} {rest : List Name} {made : List AttemptMade}
    (plain : ∀ inquiry ∈ (services.inquireEach request world (name :: rest)).1,
      inquiry.finding ≠ .redirected)
    (stops : Progress → Bool)
    (asDone : ∀ later : Progress, later.foundAlias = false → stops later = later.isDone)
    (next : Progress → World → List AttemptMade → Progress × World × List AttemptMade)
    (goesOn : ∀ later left made findings, later.SumsUp findings → later.isDone = false →
      (∀ inquiry ∈ (services.inquireEach request left rest).1, inquiry.finding ≠ .redirected) →
      Inquires services request rest findings left made (next later left made)) :
    Inquires services request (name :: rest) findings world made
      (let (later, left, made) :=
        Attempting.recorded (attempt services request) name progress (world, made)
      if stops later then (later, left, made) else next later left made) := by
  obtain ⟨first, others⟩ := plain_of_cons services request plain
  obtain ⟨later, attempted, summed, ends⟩ :=
    attempt_sumsUp services request sums undecided name world first
  rw [recorded_apply, attempted]
  dsimp only
  rw [asDone later summed.foundAlias]
  split
  · rename_i isDone
    rw [ends] at isDone
    refine ⟨[⟨name, later⟩], ?_⟩
    rw [Services.inquireEach_cons_of_isLast _ _ _ _ _ isDone]
    exact ⟨rfl, rfl, summed⟩
  · rename_i stillOpen
    rw [Bool.not_eq_true] at stillOpen
    have further : (services.inquire request world name).1.isLast = false := ends ▸ stillOpen
    obtain ⟨taken, starts, ended, all⟩ := goesOn later (services.inquire request world name).2
      (made ++ [⟨name, later⟩]) _ summed stillOpen (others further)
    refine ⟨⟨name, later⟩ :: taken, ?_⟩
    rw [Services.inquireEach_cons_of_goesOn _ _ _ _ _ further]
    refine ⟨congrArg (name :: ·) starts, ?_, ?_⟩
    · rw [ended, List.append_assoc]
      rfl
    · rw [List.append_assoc] at all
      exact all

/-- Attempts under suffixes make the inquiries about the names that the suffixes complete. -/
theorem attemptUnderEach_inquires (relative : request.name.absolute = false)
    (suffixes : List Name) {progress : Progress} {findings : List Finding}
    (sums : progress.SumsUp findings) (undecided : progress.isDone = false) (world : World)
    (made : List AttemptMade)
    (plain : ∀ inquiry ∈ (services.inquireEach request world
      (suffixes.filterMap request.name.completed?)).1, inquiry.finding ≠ .redirected) :
    Inquires services request (suffixes.filterMap request.name.completed?) findings world made
      (attemptUnderEach (Attempting.recorded (attempt services request)) request progress
        (world, made) suffixes) := by
  -- over the suffixes left, whatever was found before
  induction suffixes generalizing progress findings world made with
  | nil => exact Inquires.nil services request sums world made
  | cons suffix rest inductionHypothesis =>
    rw [attemptUnderEach]
    cases completes : request.name.completed? suffix with
    | none =>
      rw [List.filterMap_cons_none completes] at plain ⊢
      rw [attemptUnder_of_none _ relative suffix completes]
      have goesOn : (({ progress with nameTooLong := true } : Progress).isDone ||
          progress.foundAlias) = false := by
        rw [sums.foundAlias, Bool.or_false]
        exact undecided
      dsimp only
      rw [goesOn, if_neg Bool.false_ne_true]
      exact inductionHypothesis (sums.congr progress.referral true) undecided world made plain
    | some complete =>
      rw [List.filterMap_cons_some completes] at plain ⊢
      rw [attemptUnder_of_some _ relative suffix complete completes]
      exact Inquires.cons services request sums undecided plain
        (fun later => later.isDone || later.foundAlias)
        (fun later noAlias => by rw [noAlias, Bool.or_false])
        (fun later left made => attemptUnderEach
          (Attempting.recorded (attempt services request)) request later (left, made) rest)
        fun _ left made _ summed stillOpen => inductionHypothesis summed stillOpen left made

/-- The attempts of a search that meets no alias are its inquiries. -/
theorem search_inquires (world : World)
    (plain : ∀ inquiry ∈ request.inquiries services world, inquiry.finding ≠ .redirected) :
    Inquires services request request.candidates [] world []
      (search (Attempting.recorded (attempt services request)) request (world, [])) := by
  unfold Request.inquiries at plain
  by_cases absolute : request.name.absolute = true
  · have only : request.candidates = [request.name] := if_pos absolute
    rw [only] at plain ⊢
    rw [search, if_pos absolute]
    have walked : Inquires services request [request.name] [] world [] _ :=
      Inquires.cons services request start_sumsUp rfl plain isDone (fun _ _ => rfl)
        (fun later left made => (later, left, made))
        fun _ left made _ summed _ _ => Inquires.nil services request summed left made
    simpa only [ite_self] using walked
  have relative : request.name.absolute = false := Bool.not_eq_true _ ▸ absolute
  by_cases rootFirst : request.options.ndots < request.name.labelCount
  · rw [candidates_rootFirst relative rootFirst] at plain ⊢
    rw [search_rootFirst _ relative rootFirst]
    exact Inquires.cons services request start_sumsUp rfl plain isDone (fun _ _ => rfl)
      (fun later left made => attemptUnderEach
        (Attempting.recorded (attempt services request)) request later (left, made)
          request.options.searchPath)
      fun _ left made _ summed stillOpen others => attemptUnderEach_inquires services request
        relative request.options.searchPath summed stillOpen left made others
  · rw [candidates_rootLast relative rootFirst] at plain ⊢
    rw [search_rootLast _ relative rootFirst]
    exact attemptUnderEach_inquires services request relative _ start_sumsUp rfl world [] plain

end Progress

/-! ### The verdict -/

/-- None of the findings decides the resolution. -/
def Undecided (findings : List Finding) : Prop := ∀ finding ∈ findings, finding.verdict? = none

/-- None of the findings is a failure to ask about a name. -/
def AllAsked (findings : List Finding) : Prop := ∀ failure, .failed failure ∉ findings

/-- The result that findings amount to. -/
structure Resolution.Weighs (resolution : Resolution) (findings : List Finding) : Prop where
  /-- Sets that were found are the answers, and nothing was inquired about after them. -/
  answered : ∀ sets, .answered sets ∈ findings → findings.getLast? = some (.answered sets) ∧
    resolution.status = .successful ∧ resolution.answers = sets
  /-- So it is with a name that has no records of the type. -/
  typeMissing : .typeMissing ∈ findings → findings.getLast? = some .typeMissing ∧
    resolution.status = .typeNotFound
  /-- Otherwise the last response that could not be used gives the reason to try again. -/
  fault : Undecided findings → ∀ reason,
    (findings.filterMap Finding.fault?).getLast? = some reason →
      resolution.status = .tryAgain ∧ resolution.reason = reason
  /-- Without one, it is a timeout. -/
  timeout : Undecided findings → findings.filterMap Finding.fault? = [] →
    .failed .timeout ∈ findings →
      resolution.status = .tryAgain ∧ resolution.reason = "timed out"
  /-- Without that, it is another failure of the network. -/
  network : Undecided findings → findings.filterMap Finding.fault? = [] →
    .failed .timeout ∉ findings → .failed .network ∈ findings →
      resolution.status = .tryAgain ∧ resolution.reason = "network error"
  /-- Only when every name could be asked about does it count that one does not exist. -/
  nameMissing : Undecided findings → AllAsked findings → .nameMissing ∈ findings →
    resolution.status = .hostNotFound
  /-- Nothing was found out about any name. -/
  nothing : Undecided findings → AllAsked findings → .nameMissing ∉ findings →
    resolution.status = .unrecoverable
  /-- A name is not reported as missing when some candidate could not be asked about. -/
  allAsked : resolution.status = .hostNotFound → AllAsked findings
  /-- Only a successful resolution gives out sets. -/
  answers : resolution.answers ≠ [] → resolution.status = .successful

/-- A failure to ask is a timeout, another failure of the network, or a fault of a response. -/
theorem allAsked_iff (findings : List Finding) : AllAsked findings ↔
    findings.filterMap Finding.fault? = [] ∧ .failed .timeout ∉ findings ∧
      .failed .network ∉ findings := by
  constructor
  · intro asked
    refine ⟨?_, asked .timeout, asked .network⟩
    rw [List.filterMap_eq_nil_iff]
    intro finding found
    cases finding with
    | failed failure => exact absurd found (asked failure)
    | _ => rfl
  · rintro ⟨faultless, noTimeout, noOther⟩ failure found
    cases failure with
    | timeout => exact noTimeout found
    | network => exact noOther found
    | unusable reason => cases List.filterMap_eq_nil_iff.mp faultless _ found

namespace Progress.SumsUp

variable {progress : Progress} {findings : List Finding}

/-- Where the last finding decides, so does the summary. -/
theorem weigh_of_last (sums : progress.SumsUp findings) {finding : Finding} {verdict : Verdict}
    (last : findings.getLast? = some finding) (decides : finding.verdict? = some verdict) :
    progress.weigh = verdict := by
  simp [weigh, sums.verdict, last, decides]

/-- Where no finding decides, there is no decision yet. -/
theorem verdict_of_undecided (sums : progress.SumsUp findings) (undecided : Undecided findings) :
    progress.verdict = none := by
  rw [sums.verdict]
  cases last : findings.getLast? with
  | none => rfl
  | some finding => exact undecided finding (List.mem_of_getLast? last)

/-- A decision is never that the name does not exist: where no alias was counted, another suffix
may still help. -/
theorem verdict_ne_hostNotFound (sums : progress.SumsUp findings) {verdict : Verdict}
    (decided : progress.verdict = some verdict) : verdict.status ≠ .hostNotFound := by
  rw [sums.verdict] at decided
  obtain ⟨finding, _, decides⟩ := Option.bind_eq_some_iff.mp decided
  cases finding with
  | answered sets | typeMissing =>
    cases decides
    decide
  | _ => cases decides

/-- The summary does not report a name as missing when some name could not be asked about. -/
theorem allAsked_of_hostNotFound (sums : progress.SumsUp findings)
    (missing : progress.weigh.status = .hostNotFound) : AllAsked findings := by
  rw [allAsked_iff]
  unfold weigh at missing
  split at missing
  · rename_i verdict decided
    exact absurd missing (sums.verdict_ne_hostNotFound decided)
  · cases missing
  · rename_i _ faultless
    rw [sums.badResponse, List.getLast?_eq_none_iff] at faultless
    rw [sums.timedOut, sums.networkError] at missing
    refine ⟨faultless, fun timeout => ?_, fun other => ?_⟩
    · simp [timeout] at missing
    · simp [other] at missing
      split at missing <;> cases missing

/-- What the summary concludes is what the findings amount to. -/
theorem conclude_weighs (sums : progress.SumsUp findings)
    (ends : ∀ finding ∈ findings, finding.isLast = true → findings.getLast? = some finding) :
    progress.conclude.Weighs findings := by
  have noVerdict := sums.verdict_of_undecided
  have badResponse := sums.badResponse
  have timedOut := sums.timedOut
  have networkError := sums.networkError
  have nxDomain := sums.nxDomain
  exact {
    answered := by
      intro sets found
      have last := ends _ found rfl
      refine ⟨last, ?_⟩
      simp [conclude, sums.weigh_of_last last rfl, sums.answers sets last]
    typeMissing := by
      intro found
      have last := ends _ found rfl
      refine ⟨last, ?_⟩
      simp [conclude, sums.weigh_of_last last rfl]
    fault := by
      intro undecided reason last
      simp [conclude, weigh, noVerdict undecided, badResponse, last]
    timeout := by
      intro undecided faultless found
      simp [conclude, weigh, noVerdict undecided, badResponse, timedOut, faultless, found]
    network := by
      intro undecided faultless noTimeout found
      simp [conclude, weigh, noVerdict undecided, badResponse, timedOut, networkError, faultless,
        noTimeout, found]
    nameMissing := by
      intro undecided asked found
      obtain ⟨faultless, noTimeout, noOther⟩ := (allAsked_iff findings).mp asked
      simp [conclude, weigh, noVerdict undecided, badResponse, timedOut, networkError, nxDomain,
        faultless, noTimeout, noOther, found]
    nothing := by
      intro undecided asked exist
      obtain ⟨faultless, noTimeout, noOther⟩ := (allAsked_iff findings).mp asked
      simp only [conclude, weigh, noVerdict undecided, badResponse, timedOut, networkError,
        nxDomain, faultless, noTimeout, noOther, exist]
      -- a referral and a name that is too long make a difference to the reason only
      cases progress.referral <;> cases progress.nameTooLong <;> rfl
    allAsked := sums.allAsked_of_hostNotFound
    answers := fun given => Decidable.byContradiction fun other => given (if_neg other) }

end Progress.SumsUp

open Progress

/-- When no alias is met, the attempts of a resolution are the inquiries about the candidates, up to
the first one that decides: they start from the same names and leave the world as the inquiries do.
The result is what the findings amount to. -/
theorem Request.resolve_weighs (services : Services World) (request : Request) (world : World)
    (plain : ∀ inquiry ∈ request.inquiries services world, inquiry.finding ≠ .redirected) :
    (attemptsOf (attempt services request) request world).map AttemptMade.start =
        (request.inquiries services world).map Inquiry.name ∧
      (request.resolve services world).2 =
        (services.inquireEach request world request.candidates).2 ∧
      (request.resolve services world).1.Weighs
        ((request.inquiries services world).map Inquiry.finding) := by
  obtain ⟨taken, starts, ended, sums⟩ := search_inquires services request world plain
  obtain ⟨fresh, same⟩ := search_recorded (attempt services request) request world []
  refine ⟨?_, ?_, ?_⟩
  · rw [attemptsOf, ended]
    exact starts
  · rw [same] at ended
    exact congrArg Prod.fst ended
  · rw [same] at sums
    refine sums.conclude_weighs fun finding found isLast => ?_
    obtain ⟨inquiry, made, rfl⟩ := List.mem_map.mp found
    rw [List.nil_append, List.getLast?_map,
      services.getLast?_inquireEach request world _ inquiry made isLast, Option.map_some]

/-- Servers that do not answer about `w.c.`, fail to answer about `w.d.` and know of no other name,
behind a cache that knows nothing. -/
def partlyDown : Services Unit where
  lookup := fun world _ _ _ => (.unknown, world)
  ingest := fun world _ => (some ⟨.nxDomain, []⟩, world)
  send := fun world query =>
    let asksAbout (name : Name) := query.question.any fun question => question.name ≈ name
    if asksAbout (Name.ofOctets [0x77, 0x63]) then
      (.error .queryTimeout, world)
    else if asksAbout (Name.ofOctets [0x77, 0x64]) then
      (.ok { Message.responseTo query with result := ⟨2⟩ }, world)
    else
      (.ok { Message.responseTo query with result := .nxDomain }, world)

/-- The request for the addresses of `w`, under the suffixes `c.` and `d.` and then as it is. -/
def suffixesRequest : Request :=
  ⟨{ Name.ofOctets [0x77] with absolute := false }, .a, .inet,
    ⟨[Name.ofOctets [0x63], Name.ofOctets [0x64]], 1, .normal⟩⟩

/-- The candidate that does not exist does not outweigh those that could not be asked about, and a
response that could not be used outweighs a timeout. -/
theorem partlyDown_weighs :
    (attemptsOf (attempt partlyDown suffixesRequest) suffixesRequest ()).map AttemptMade.start =
        [Name.ofOctets [0x77, 0x63], Name.ofOctets [0x77, 0x64], Name.ofOctets [0x77]] ∧
      (suffixesRequest.inquiries partlyDown ()).map Inquiry.finding =
        [.failed .timeout, .failed (.unusable "SERVFAIL"), .nameMissing] ∧
      (suffixesRequest.resolve partlyDown ()).1.status = .tryAgain ∧
      (suffixesRequest.resolve partlyDown ()).1.reason = "SERVFAIL" := by
  have inquiries : suffixesRequest.inquiries partlyDown () =
      [⟨Name.ofOctets [0x77, 0x63], .failed .timeout⟩,
        ⟨Name.ofOctets [0x77, 0x64], .failed (.unusable "SERVFAIL")⟩,
        ⟨Name.ofOctets [0x77], .nameMissing⟩] := by
    decide +kernel
  have plain : partlyDown.Plain := by
    constructor
    · intro world name type least set
      simp [partlyDown]
    · rintro world response ingested ⟨⟩
      simp
  obtain ⟨starts, _, weighs⟩ := Request.resolve_weighs partlyDown suffixesRequest ()
    (plain.inquireEach suffixesRequest () suffixesRequest.candidates)
  rw [inquiries] at starts weighs ⊢
  exact ⟨starts, rfl, weighs.fault (by unfold Undecided; decide) "SERVFAIL" rfl⟩

end StubResolver
