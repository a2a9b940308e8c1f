/-
This file settles whether a chain of aliases can return to a name it has passed without being
noticed. The names crossed always differ in a successful resolution. Before an alias is followed,
the name that it leads to is compared with all names before; and when a response has crossed
aliases, the names it crossed are. But the name that such a response ends at is compared with none.
So the records that are found may belong to a name that was passed before the response: then it
leads from the last stop of the resolution back to an alias of its own.

Within the response itself this cannot happen, since a name that has records is not crossed. Nor can
it happen where nothing is crossed, unless the cache held an alias to a name that is not absolute,
which is looked up as if it were.
-/

import StubResolver.Proofs.Resolver.Caches
import StubResolver.Proofs.Resolver.Work

namespace StubResolver

open Cache

/-! ### Where records are found -/

theorem Name.toAbsolute_congr {name other : Name} (same : name ≈ other) :
    name.toAbsolute ≈ other.toAbsolute := by
  rw [Name.equiv_iff_lowered] at same ⊢
  exact congrArg Name.toAbsolute same

/-- What is heard about a name has found records in the right place: they belong to the name itself
if nothing was crossed, and to none of the names that were. -/
def Ingested.InPlace (ingested : Ingested) (current : Name) : Prop :=
  ∀ sets, ingested.outcome = .successful sets → ∀ set ∈ sets,
    (ingested.aliases = [] → set.name ≈ current.toAbsolute) ∧
      ∀ crossed ∈ ingested.aliases, ¬ set.name ≈ crossed

/-- A name is crossed only if none of the answers is for it. So the records that a response leads to
do not belong to a name that it has crossed. -/
theorem Cache.digestFor_inPlace (message : Message) (question : Question) :
    (digestFor message question).ingested.InPlace question.name := by
  intro sets found set member
  obtain ⟨links, stuck, walks⟩ :=
    trailOf_walks question (setsInClass message .answer question.recordClass)
  by_cases unanswered : (trailThrough message question).finals = []
  · obtain ⟨otherwise, nowhere, ingested⟩ :=
      digestFor_ingested_of_open message question unanswered
    rw [ingested] at found
    exact absurd found (firstAliasOr_ne_successful _ nowhere sets)
  · have ingested := digestFor_ingested_of_finals message question unanswered
    rw [ingested] at found ⊢
    cases found
    obtain ⟨present, answers⟩ := walks.within.finals set member
    obtain ⟨owner, wanted⟩ := of_decide_eq_true answers
    dsimp only
    rw [walks.aliases]
    refine ⟨fun nothing => ?_, fun crossed inside same => ?_⟩
    · have chain := walks.chain
      rw [List.map_eq_nil_iff.mp nothing] at chain
      exact Setoid.trans owner (Setoid.symm chain)
    · obtain ⟨link, isLink, rfl⟩ := List.mem_map.mp inside
      obtain ⟨next, crosses⟩ := walks.chain.each link isLink
      have answersToo : set ∈ (setsInClass message .answer question.recordClass).filter
          (answersQuestion link.crossed question.type) :=
        List.mem_filter.mpr ⟨present, decide_eq_true ⟨same, wanted⟩⟩
      rw [crosses.unanswered] at answersToo
      cases answersToo

/-- The records that a cache has found belong to the name that was asked for. -/
theorem Cache.lookup_inPlace {cache : Cache} (reachable : Reachable cache) (now : Nat)
    (name : Name) (type : RecordType) (least : Credibility) :
    Ingested.InPlace ⟨(cache.lookup now name type least).1, []⟩ name := by
  intro sets found set member
  have supported := (lookup_spec reachable.tidy now name type least).2
  dsimp only at found
  rw [found] at supported
  obtain ⟨key, ⟨entry, alive, _, isSet⟩, _⟩ := supported set member
  have owner := (reachable.inPlace name.toAbsolute key entry set
    (live?_eq_some_iff.mp alive).1 isSet).2.1
  exact ⟨fun _ => owner, fun _ none => absurd none List.not_mem_nil⟩

/-! ### Services that answer from caches -/

/-- Services that stay sound, look up records in their place, and learn from responses what they
say. -/
structure AnswersInPlace {World : Type} (services : Services World) (sound : World → Prop) :
    Prop where
  lookup : ∀ world name type least, sound world →
    sound (services.lookup world name type least).2 ∧
      Ingested.InPlace ⟨(services.lookup world name type least).1, []⟩ name
  send : ∀ world query, sound world → sound (services.send world query).2
  ingest : ∀ world response, sound world →
    sound (services.ingest world response).2 ∧
      (services.ingest world response).1 = (digest? response).map Digest.ingested

namespace AnswersInPlace

variable {World : Type} {services : Services World} {sound : World → Prop}

theorem learn (inPlace : AnswersInPlace services sound) {world : World} (isSound : sound world)
    {question echoed : Question} {response : Message} (credibility : Credibility)
    (echoes : response.question = some echoed) (same : echoed ≈ question) :
    sound (services.learn world question credibility response).2 ∧
      (services.learn world question credibility response).1.InPlace question.name := by
  obtain ⟨soundThen, reported⟩ := inPlace.ingest world response isSound
  unfold Services.learn
  split
  · rename_i ingested learned said
    rw [said] at soundThen reported
    obtain ⟨digest, isDigest, rfl⟩ := Option.map_eq_some_iff.mp reported.symm
    refine ⟨soundThen, fun sets found set member => ?_⟩
    obtain ⟨asked, isQuestion, rfl, _⟩ := digest?_drawn isDigest
    cases echoes.symm.trans isQuestion
    obtain ⟨owner, beyond⟩ := digestFor_inPlace response echoed sets found set member
    have sameName := Name.toAbsolute_congr (Question.equiv_iff.mp same).1
    exact ⟨fun nothing => Setoid.trans (owner nothing) sameName, beyond⟩
  · rename_i unchanged said
    rw [said] at soundThen
    exact inPlace.lookup unchanged question.name question.type credibility soundThen

theorem ask (inPlace : AnswersInPlace services sound) {world : World} (isSound : sound world)
    (question : Question) (credibility : Credibility) :
    sound (services.ask world question credibility).2 ∧
      ∀ ingested, (services.ask world question credibility).1 = .ok ingested →
        ingested.InPlace question.name := by
  have soundThen := inPlace.send world (Message.query question) isSound
  unfold Services.ask
  split
  · rename_i error sent isSent
    rw [isSent] at soundThen
    exact ⟨soundThen, nofun⟩
  · rename_i response sent isSent
    rw [isSent] at soundThen
    split
    · exact ⟨soundThen, nofun⟩
    · rename_i useful
      obtain ⟨echoed, echoes, same⟩ := Failure.ofResponse?_eq_none useful
      obtain ⟨soundAfter, learned⟩ := inPlace.learn soundThen credibility echoes same
      refine ⟨soundAfter, fun ingested said => ?_⟩
      cases said
      exact learned

end AnswersInPlace

/-! ### The last stop of an attempt -/

namespace Progress

variable {World : Type} {services : Services World} {request : Request} {sound : World → Prop}

/-- A stop of an attempt: the name that it has come to, with what is remembered there. -/
structure Stop (World : Type) where
  name : Name
  progress : Progress
  world : World

/-- What is heard at a stop. -/
def Stop.round (services : Services World) (request : Request) (stop : Stop World) : Round World :=
  Progress.round services request stop.name stop.progress stop.world

/-- The stops that an attempt makes from a first one. -/
inductive Stops (services : Services World) (request : Request) (first : Stop World) :
    Stop World → Prop where
  | first : Stops services request first first
  | next {stop : Stop World} (earlier : Stops services request first stop) {name : Name}
      (goesOn : (stop.round services request).next = some name) :
      Stops services request first
        ⟨name, (stop.round services request).progress, (stop.round services request).world⟩

/-- What has been found at a stop: there the aliases of the response, if there was one, were crossed
after those before, all of them differ, and the records are in their place. -/
structure Arrives (stop : Stop World) (crossed : List Name) (later : Progress) : Prop where
  aliases : later.aliases = stop.progress.aliases ++ crossed
  differ : Name.AllDiffer later.aliases
  inPlace : Ingested.InPlace ⟨.successful later.answers, crossed⟩ stop.name

theorem followAlias_not_succeeded {progress : Progress} (undecided : progress.verdict = none)
    (target old : Name) : ¬ (progress.followAlias target old).1.Succeeded := by
  rcases followed : progress.followAlias target old with ⟨later, step⟩
  cases step with
  | done => exact followAlias_done followed
  | query => exact absurd followed followAlias_not_query
  | follow next =>
    exact not_succeeded_of_undecided ((followAlias_follow followed).2.2.trans undecided)

/-- Records are found only in an outcome that has them. -/
theorem respond_succeeded {progress : Progress} {current : Name} {outcome : Outcome}
    {chain : List Name} (undecided : progress.verdict = none)
    (succeeded : (progress.respond current outcome chain).1.Succeeded) :
    ∃ sets, outcome = .successful sets ∧
      (progress.respond current outcome chain).1 = progress.succeed sets chain := by
  have notNowhere (nowhere : outcome.LeadsNowhere) :=
    (respond_leadsNowhere current undecided nowhere chain).1
  cases outcome with
  | successful sets => exact ⟨sets, rfl, rfl⟩
  | cname set =>
    unfold respond at succeeded
    dsimp only at succeeded
    split at succeeded
    · exact absurd succeeded (followAlias_not_succeeded undecided _ _)
    · exact absurd succeeded (not_succeeded_of_undecided undecided)
  | dname set =>
    unfold respond followRedirection at succeeded
    dsimp only at succeeded
    split at succeeded
    · split at succeeded
      · exact absurd succeeded (followAlias_not_succeeded undecided _ _)
      · cases succeeded
    · exact absurd succeeded (not_succeeded_of_undecided undecided)
  | _ => exact absurd succeeded (notNowhere trivial)

/-- What is heard in its place, and found, is an arrival. -/
theorem arrives_of_respond {stop : Stop World} {progress : Progress} {ingested : Ingested}
    (same : progress.aliases = stop.progress.aliases) (come : progress.HasComeTo stop.name)
    (undecided : progress.verdict = none) (inPlace : ingested.InPlace stop.name)
    (succeeded : (progress.respond stop.name ingested.outcome ingested.aliases).1.Succeeded) :
    Arrives stop ingested.aliases
      (progress.respond stop.name ingested.outcome ingested.aliases).1 := by
  obtain ⟨sets, found, isFound⟩ := respond_succeeded undecided succeeded
  rw [isFound] at succeeded ⊢
  obtain ⟨aliases, answers⟩ := succeed_spec succeeded
  obtain ⟨_, differ, _⟩ := come.succeed succeeded
  refine ⟨by rw [aliases, same], by rw [aliases]; exact differ, ?_⟩
  rw [answers]
  intro others same set member
  cases same
  exact inPlace sets found set member

/-- What the network is asked at a stop leaves the services sound, and what it finds is an arrival.
-/
theorem networkRound_arrives (inPlace : AnswersInPlace services sound) (stop : Stop World)
    {progress : Progress} (same : progress.aliases = stop.progress.aliases)
    (come : progress.HasComeTo stop.name) (undecided : progress.verdict = none) {world : World}
    (isSound : sound world) :
    let heard := networkRound services request stop.name progress world
    sound heard.world ∧
      (heard.progress.Succeeded → ∃ crossed, Arrives stop crossed heard.progress) := by
  obtain ⟨soundThen, placed⟩ := inPlace.ask isSound
    ⟨stop.name, request.type, request.recordClass⟩ request.options.credibility
  unfold networkRound
  dsimp only
  split
  · rename_i failure asked isAsked
    rw [isAsked] at soundThen
    refine ⟨soundThen, fun succeeded => absurd succeeded (not_succeeded_of_undecided ?_)⟩
    exact (noteFailure_verdict _ _).trans undecided
  · rename_i ingested asked isAsked
    rw [isAsked] at soundThen placed
    have arrives := arrives_of_respond same come undecided (placed ingested rfl)
    split
    all_goals
      rename_i responded
      rw [responded] at arrives
      exact ⟨soundThen, fun succeeded => ⟨_, arrives succeeded⟩⟩

/-- What is heard at a stop leaves the services sound, and what it finds is an arrival. -/
theorem round_arrives (inPlace : AnswersInPlace services sound) (stop : Stop World)
    (come : stop.progress.HasComeTo stop.name) (undecided : stop.progress.verdict = none)
    (isSound : sound stop.world) :
    sound (stop.round services request).world ∧
      ((stop.round services request).progress.Succeeded →
        ∃ crossed, Arrives stop crossed (stop.round services request).progress) := by
  obtain ⟨soundThen, placed⟩ := inPlace.lookup stop.world stop.name request.type
    request.options.credibility isSound
  unfold Stop.round Progress.round
  generalize services.lookup stop.world stop.name request.type request.options.credibility = answer
    at soundThen placed ⊢
  obtain ⟨outcome, looked⟩ := answer
  have arrives := arrives_of_respond rfl come undecided placed
  dsimp only at arrives ⊢
  split
  · rename_i responded
    rw [responded] at arrives
    exact ⟨soundThen, fun succeeded => ⟨[], arrives succeeded⟩⟩
  · rename_i responded
    rw [responded] at arrives
    exact ⟨soundThen, fun succeeded => ⟨[], arrives succeeded⟩⟩
  · rename_i later responded
    obtain ⟨aliases, verdict⟩ := respond_query_keeps responded
    exact networkRound_arrives inPlace stop aliases (respond_query_hasComeTo come responded)
      (verdict.trans undecided) soundThen

/-- A resolution that is undecided and has come to a stop by stops before. -/
structure HasStoppedAt (services : Services World) (request : Request) (sound : World → Prop)
    (first stop : Stop World) : Prop where
  stops : Stops services request first stop
  come : stop.progress.HasComeTo stop.name
  undecided : stop.progress.verdict = none
  isSound : sound stop.world

theorem HasStoppedAt.next (inPlace : AnswersInPlace services sound) {first stop : Stop World}
    (hasStopped : HasStoppedAt services request sound first stop) {name : Name}
    (goesOn : (stop.round services request).next = some name) :
    HasStoppedAt services request sound first
      ⟨name, (stop.round services request).progress, (stop.round services request).world⟩ := by
  obtain ⟨before, aliases, count, verdict, followed⟩ := round_followed goesOn
  have come : before.HasComeTo stop.name := hasStopped.come.congr aliases count
  refine ⟨.next hasStopped.stops goesOn, come.followAlias followed, ?_,
    (round_arrives inPlace stop hasStopped.come hasStopped.undecided hasStopped.isSound).1⟩
  exact (followAlias_follow followed).2.2.trans (verdict.trans hasStopped.undecided)

/-- An attempt that finds records has arrived with what it heard at its last stop. -/
theorem attempt_arrives (inPlace : AnswersInPlace services sound) (first : Stop World)
    (hasStopped : HasStoppedAt services request sound first first)
    (succeeded :
      (attempt services request first.name first.progress first.world).1.Succeeded) :
    ∃ stop crossed, HasStoppedAt services request sound first stop ∧
      (stop.round services request).next = none ∧
      Arrives stop crossed
        (attempt services request first.name first.progress first.world).1 := by
  refine attempt_induction services request
    (fun name progress world => HasStoppedAt services request sound first ⟨name, progress, world⟩)
    (fun later _ => later.Succeeded → ∃ stop crossed,
      HasStoppedAt services request sound first stop ∧
        (stop.round services request).next = none ∧ Arrives stop crossed later)
    ?_ ?_ first.name first.progress first.world hasStopped succeeded
  · intro name progress world next hasStopped goesOn
    exact hasStopped.next inPlace goesOn
  · intro name progress world hasStopped last succeeded
    obtain ⟨crossed, arrives⟩ :=
      (round_arrives inPlace _ hasStopped.come hasStopped.undecided hasStopped.isSound).2 succeeded
    exact ⟨⟨name, progress, world⟩, crossed, hasStopped, last, arrives⟩

end Progress

/-! ### Caches that can hold anything -/

namespace Registry

variable {Network : Type}

/-- Whatever caches hold, and whoever else uses them, the services of a registry find records in
their place. -/
theorem sharedServices_answersInPlace (recordClass : RecordClass) (send : Sender Network)
    {others : Recorded Network → Recorded Network}
    (leave : ∀ world, world.1.Each Reachable → (others world).1.Each Reachable)
    (clock : Recorded Network → Nat) :
    AnswersInPlace (sharedServices recordClass send others clock)
      fun world => world.1.Each Reachable where
  lookup := by
    intro world name type least each
    obtain ⟨eachThen, cache, reachable, _, reported⟩ := (leave world each).withCache
      (fun limits => Reachable.new recordClass limits)
      (fun cache => cache.lookup (clock world) name type least)
      fun cache reachable _ => reachable.step (clock world) (.lookup name type least) trivial
    refine ⟨eachThen, ?_⟩
    have inPlace := lookup_inPlace reachable (clock world) name type least
    rw [← reported] at inPlace
    exact inPlace
  send := fun world query each => leave world each
  ingest := by
    intro world response each
    obtain ⟨eachThen, cache, _, _, reported⟩ := (leave world each).withCache
      (fun limits => Reachable.new recordClass limits)
      (fun cache => cache.ingestResponse (clock world) response)
      fun cache reachable _ => reachable.operation (clock world) (.ingest response) trivial
    refine ⟨eachThen, reported.trans ?_⟩
    unfold ingestResponse
    cases digest? response <;> rfl

end Registry

/-! ### Resolutions that return -/

/-- Some of the records belong to a name that was crossed. -/
def Resolution.Returns (resolution : Resolution) : Prop :=
  ∃ set ∈ resolution.answers, ∃ crossed ∈ resolution.aliases, set.name ≈ crossed

instance (resolution : Resolution) : Decidable resolution.Returns :=
  inferInstanceAs (Decidable (∃ set ∈ resolution.answers, ∃ crossed ∈ resolution.aliases,
    set.name ≈ crossed))

/-- Records that are found at a stop belong to a name that was crossed exactly if it was crossed
before the stop. That takes a response that crosses aliases from there, or a name that is not
absolute. -/
theorem Progress.Arrives.returns_iff {World : Type} {stop : Progress.Stop World}
    {crossed : List Name} {later : Progress} (arrives : Progress.Arrives stop crossed later)
    (differ : Name.AllDiffer (stop.progress.aliases ++ [stop.name])) :
    ((∃ set ∈ later.answers, ∃ name ∈ later.aliases, set.name ≈ name) ↔
        ∃ set ∈ later.answers, ∃ name ∈ stop.progress.aliases, set.name ≈ name) ∧
      ((∃ set ∈ later.answers, ∃ name ∈ later.aliases, set.name ≈ name) →
        crossed ≠ [] ∨ stop.name.absolute = false) := by
  have before : (∃ set ∈ later.answers, ∃ name ∈ later.aliases, set.name ≈ name) →
      ∃ set ∈ later.answers, ∃ name ∈ stop.progress.aliases, set.name ≈ name := by
    rintro ⟨set, member, name, isAlias, same⟩
    rw [arrives.aliases] at isAlias
    rcases List.mem_append.mp isAlias with earlier | last
    · exact ⟨set, member, name, earlier, same⟩
    · exact absurd same ((arrives.inPlace _ rfl set member).2 name last)
  refine ⟨⟨before, fun ⟨set, member, name, earlier, same⟩ => ⟨set, member, name, ?_, same⟩⟩, ?_⟩
  · rw [arrives.aliases]
    exact List.mem_append_left _ earlier
  · intro returns
    obtain ⟨set, member, name, earlier, same⟩ := before returns
    by_cases absolute : stop.name.absolute = true
    · refine Or.inl fun nothing => (Name.allDiffer_snoc.mp differ).2 ?_
      have owner := (arrives.inPlace _ rfl set member).1 nothing
      rw [Name.toAbsolute_of_absolute _ absolute] at owner
      exact List.any_eq_true.mpr
        ⟨name, earlier, decide_eq_true (Setoid.trans (Setoid.symm same) owner)⟩
    · exact Or.inr (Bool.not_eq_true _ ▸ absolute)

/-- Whatever the caches hold, whatever the servers say, and whoever else uses the caches: a
successful resolution of an absolute name has crossed names that differ. It returns exactly if the
records that it found at its last stop belong to a name crossed before. It does not return if the
last stop is at an absolute name and no response has crossed aliases from there. -/
theorem Request.resolve_returns_iff {Network : Type} (request : Request)
    (isAbsolute : request.name.absolute = true) (recordClass : RecordClass) (send : Sender Network)
    {others : Recorded Network → Recorded Network}
    (leave : ∀ world, world.1.Each Reachable → (others world).1.Each Reachable)
    (clock : Recorded Network → Nat) (world : Recorded Network) (each : world.1.Each Reachable)
    (successful : (request.resolve (Registry.sharedServices recordClass send others clock)
      world).1.status = .successful) :
    let services := Registry.sharedServices recordClass send others clock
    let resolution := (request.resolve services world).1
    Name.AllDiffer resolution.aliases ∧
      ∃ stop crossed, Progress.Stops services request ⟨request.name, .start, world⟩ stop ∧
        (stop.round services request).next = none ∧
        resolution.aliases = stop.progress.aliases ++ crossed ∧
        (resolution.Returns ↔
          ∃ set ∈ resolution.answers, ∃ name ∈ stop.progress.aliases, set.name ≈ name) ∧
        (resolution.Returns → crossed ≠ [] ∨ stop.name.absolute = false) := by
  intro services resolution
  have inPlace := Registry.sharedServices_answersInPlace recordClass send leave clock
  have searched : Progress.search (Progress.attempt services request) request world =
      Progress.attempt services request request.name .start world := by
    unfold Progress.search
    rw [if_pos isAbsolute]
  have concluded : resolution =
      (Progress.attempt services request request.name .start world).1.conclude := by
    show (request.resolve services world).1 = _
    unfold resolve
    rw [searched]
  have successfulThen : resolution.status = .successful := successful
  rw [concluded] at successfulThen
  obtain ⟨succeeded, answers⟩ := Progress.conclude_successful successfulThen
  obtain ⟨stop, crossed, hasStopped, last, arrives⟩ := Progress.attempt_arrives inPlace
    ⟨request.name, .start, world⟩ ⟨.first, Progress.start_hasComeTo _, rfl, each⟩ succeeded
  obtain ⟨returns, unnoticed⟩ := arrives.returns_iff hasStopped.come.differ
  unfold Resolution.Returns
  rw [concluded, answers]
  exact ⟨arrives.differ, stop, crossed, hasStopped.stops, last, arrives.aliases, returns,
    unnoticed⟩

/-- The name `w.` stands for `g.`. -/
def outward : List Record :=
  [⟨Name.ofOctets [0x77], .inet, 300, .cname (Name.ofOctets [0x67])⟩]

/-- The name `g.` stands for `w.`, which has an address. -/
def backward : List Record :=
  [⟨Name.ofOctets [0x67], .inet, 300, .cname (Name.ofOctets [0x77])⟩, Record.address 1 300]

/-- A server that leads from `w.` to `g.`, and from there back. -/
def pointingBack : Sender Unit := fun network query =>
  let back := query.question.any fun question => question.name ≈ Name.ofOctets [0x67]
  (.ok { Message.responseTo query with answers := if back then backward else outward }, network)

theorem pointingBack_absolute : pointingBack.Absolute := by
  have all : ∀ record ∈ backward ++ outward,
      record.name.absolute = true ∧ ∀ name ∈ record.data.names, name.absolute = true := by
    decide +kernel
  intro network query response said part record inside
  cases said
  cases part with
  | answer =>
    unfold Message.records at inside
    dsimp only at inside
    split at inside
    · exact all record (List.mem_append_left _ inside)
    · exact all record (List.mem_append_right _ inside)
  | _ => cases inside

/-- What comes of the request for the addresses of `w.`, all alone, at that server. -/
def addressPointedBack : Resolution × Recorded Unit :=
  addressRequest.resolve (Registry.sharedServices .inet pointingBack id fun _ => 0) freshWorld

theorem freshWorld_each : freshWorld.1.Each Reachable :=
  fun _ member => absurd member List.not_mem_nil

/-- The address was found at a stop that `w.` had been crossed before, and it belongs to `w.`: the
last response has crossed an alias from there. -/
theorem addressPointedBack_returns :
    freshWorld.1.Each Reachable ∧
      ∃ (stop : Progress.Stop (Recorded Unit)) (crossed : List Name),
        addressPointedBack.1.aliases = stop.progress.aliases ++ crossed ∧
          (∃ set ∈ addressPointedBack.1.answers, ∃ name ∈ stop.progress.aliases,
            set.name ≈ name) ∧
          (crossed ≠ [] ∨ stop.name.absolute = false) := by
  refine ⟨freshWorld_each, ?_⟩
  obtain ⟨_, stop, crossed, _, _, aliases, returns, unnoticed⟩ :=
    Request.resolve_returns_iff addressRequest rfl .inet pointingBack (fun _ each => each)
      (fun _ => 0) freshWorld freshWorld_each (by decide +kernel)
  have doesReturn : addressPointedBack.1.Returns := by decide +kernel
  exact ⟨stop, crossed, aliases, returns.mp doesReturn, unnoticed doesReturn⟩

/-- A chain that returns to `w.` is not always noticed: the resolution is successful, with an
address of `w.` behind `w.` and `g.`. -/
theorem resolve_returns_unnoticed :
    pointingBack.Absolute ∧ freshWorld.1.Each Reachable ∧ addressRequest.name.absolute = true ∧
      addressPointedBack.1.status = .successful ∧
      addressPointedBack.1.aliases = [Name.ofOctets [0x77], Name.ofOctets [0x67]] ∧
      addressPointedBack.1.Returns :=
  ⟨pointingBack_absolute, freshWorld_each, rfl, by decide +kernel, by decide +kernel,
    by decide +kernel⟩

end StubResolver
