/-
This file settles whether a successful resolution answers the question that was asked. The aliases
it reports are a chain of links from the name asked for to the owner of the answer. Some links come
from the cache, some from responses of which only the first alias was followed, and some were
crossed within one response; all of them were received.

Each link leads where the program takes it to lead, and that is where it should, with one exception.
A redirection among names of which one begins with a wildcard label, and the other does not, is
applied to names that do not lie below its owner, or moves them with the wrong number of labels. A
redirection owned by `*.` captures every name.
-/

import StubResolver.Proofs.Name.Letters
import StubResolver.Proofs.Resolver.Hearing
import StubResolver.Proofs.Resolver.Rounds
import StubResolver.Resolver.Search

namespace StubResolver

variable {log longer : List Exchange} {recordClass : RecordClass} {type : RecordType}

/-! ### The way from the name asked for -/

/-- Aliases lead from one name to another: there are links to crossed names, all of them received.
-/
def Along (log : List Exchange) (recordClass : RecordClass) (start : Name) (aliases : List Name)
    (last : Name) : Prop :=
  ∃ links : List Link, aliases = links.map Link.crossed ∧ Chain Link.LeadsTo start links last ∧
    ∀ link ∈ links, Received log recordClass link.set

namespace Along

variable {start middle last : Name} {aliases others : List Name}

theorem nil (log : List Exchange) (recordClass : RecordClass) (start : Name) :
    Along log recordClass start [] start :=
  ⟨[], rfl, Setoid.refl start, fun _ member => absurd member List.not_mem_nil⟩

theorem mono (extended : log <+: longer) (along : Along log recordClass start aliases last) :
    Along longer recordClass start aliases last := by
  obtain ⟨links, crossed, chain, received⟩ := along
  exact ⟨links, crossed, chain, fun link member => (received link member).mono extended⟩

theorem append (along : Along log recordClass start aliases middle)
    (further : Along log recordClass middle others last) :
    Along log recordClass start (aliases ++ others) last := by
  obtain ⟨links, rfl, chain, received⟩ := along
  obtain ⟨later, rfl, laterChain, laterReceived⟩ := further
  refine ⟨links ++ later, List.map_append.symm, chain.append laterChain, fun link member => ?_⟩
  rcases List.mem_append.mp member with before | after
  · exact received link before
  · exact laterReceived link after

/-- One link more. -/
theorem snoc (along : Along log recordClass start aliases middle) {set : RRset}
    (leads : Link.LeadsTo ⟨middle, set⟩ last) (received : Received log recordClass set) :
    Along log recordClass start (aliases ++ [middle]) last :=
  along.append ⟨[⟨middle, set⟩], rfl, ⟨Setoid.refl middle, last, leads, Setoid.refl last⟩, by
    intro link member
    rw [List.mem_singleton.mp member]
    exact received⟩

end Along

/-- Sets answer a question for a name and a type behind aliases: the aliases lead from the name to
the owner of the sets, which are of the type. -/
def AnswerBehind (log : List Exchange) (recordClass : RecordClass) (name : Name) (type : RecordType)
    (aliases : List Name) (sets : List RRset) : Prop :=
  ∃ owner, Along log recordClass name aliases owner ∧
    Backed log recordClass owner type (.successful sets)

/-- What is heard to be successful answers the question. -/
theorem Heard.answerBehind {name : Name} {sets : List RRset} {crossed : List Name}
    (heard : Heard log recordClass name type ⟨.successful sets, crossed⟩) :
    AnswerBehind log recordClass name type crossed sets := by
  cases heard with
  | plain _ backed => exact ⟨name, .nil _ _ _, backed⟩
  | through links last chain received _ backed =>
    exact ⟨last, ⟨links, rfl, chain, received⟩, backed⟩

/-- What is heard of an alias goes back to a set that was received. -/
theorem Heard.backed {name : Name} {ingested : Ingested}
    (heard : Heard log recordClass name type ingested)
    (unanswered : ∀ sets, ingested.outcome ≠ .successful sets) :
    Backed log recordClass name type ingested.outcome := by
  cases heard with
  | plain _ backed => exact backed
  | through _ _ _ _ sets _ => exact absurd rfl (unanswered sets)

/-! ### Outcomes that are followed -/

namespace Progress

/-- Whether a resolution has found records. -/
def Succeeded (progress : Progress) : Prop :=
  progress.verdict.map Verdict.status = some .successful

/-- Following an alias adds it to those that were crossed, and decides nothing. -/
theorem followAlias_follow {progress later : Progress} {target old next : Name}
    (followed : progress.followAlias target old = (later, .follow next)) :
    next = target ∧ later.aliases = progress.aliases ++ [old] ∧
      later.verdict = progress.verdict := by
  unfold followAlias at followed
  dsimp only at followed
  split at followed
  · cases followed
  · cases followed
    exact ⟨rfl, rfl, rfl⟩

theorem followAlias_done {progress later : Progress} {target old : Name}
    (followed : progress.followAlias target old = (later, .done)) : ¬ later.Succeeded := by
  unfold followAlias at followed
  dsimp only at followed
  split at followed
  · cases followed
    intro succeeded
    cases succeeded
  · cases followed

theorem followAlias_not_query {progress later : Progress} {target old : Name} :
    progress.followAlias target old ≠ (later, .query) := by
  unfold followAlias
  dsimp only
  split <;> intro same <;> cases same

/-- Aliases that are in order are added to those that were crossed. -/
theorem recordChain_spec (progress : Progress) (chain : List Name) :
    (progress.recordChain chain).2 = true →
      (progress.recordChain chain).1.aliases = progress.aliases ++ chain := by
  induction chain generalizing progress with
  | nil => exact fun _ => (List.append_nil _).symm
  | cons name rest inductionHypothesis =>
    unfold recordChain
    dsimp only
    split
    · intro inOrder
      cases inOrder
    · intro inOrder
      rw [inductionHypothesis _ inOrder, List.append_assoc]
      rfl

/-- Aliases that are not in order decide against the resolution. -/
theorem recordChain_failed (progress : Progress) (chain : List Name) :
    (progress.recordChain chain).2 = false → ¬ (progress.recordChain chain).1.Succeeded := by
  induction chain generalizing progress with
  | nil =>
    intro outOfOrder
    cases outOfOrder
  | cons name rest inductionHypothesis =>
    unfold recordChain
    dsimp only
    split
    · intro _ succeeded
      cases succeeded
    · exact inductionHypothesis _

theorem succeed_spec {progress : Progress} {sets : List RRset} {chain : List Name}
    (succeeded : (progress.succeed sets chain).Succeeded) :
    (progress.succeed sets chain).aliases = progress.aliases ++ chain ∧
      (progress.succeed sets chain).answers = sets := by
  have inOrder := recordChain_spec progress chain
  have outOfOrder := recordChain_failed progress chain
  unfold succeed at succeeded ⊢
  split
  · rename_i recorded isRecorded
    rw [isRecorded] at inOrder
    exact ⟨inOrder rfl, rfl⟩
  · rename_i recorded isRecorded
    rw [isRecorded] at outOfOrder succeeded
    exact absurd succeeded (outOfOrder rfl)

/-- What is followed is a link that was received, and leads to an absolute name. -/
theorem respond_follow (absolute : AbsoluteLog log) {current next : Name}
    {progress later : Progress} {outcome : Outcome} {crossed : List Name}
    (heard : Heard log recordClass current type ⟨outcome, crossed⟩)
    (isAbsolute : current.absolute = true)
    (followed : progress.respond current outcome crossed = (later, .follow next)) :
    next.absolute = true ∧ later.aliases = progress.aliases ++ [current] ∧
      later.verdict = progress.verdict ∧
      ∃ set, Link.LeadsTo ⟨current, set⟩ next ∧ Received log recordClass set := by
  unfold respond at followed
  cases outcome with
  | cname set =>
    obtain ⟨received, isCname, owner⟩ := heard.backed fun _ differ => by cases differ
    dsimp only at followed
    split at followed
    · rename_i target isTarget
      obtain ⟨rfl, aliases, verdict⟩ := followAlias_follow followed
      refine ⟨(received.absolute absolute).2 _ isTarget, aliases, verdict, set, ?_, received⟩
      exact ⟨next, isTarget, Or.inl ⟨isCname, owner, rfl⟩⟩
    · cases followed
  | dname set =>
    obtain ⟨received, isDname, differ⟩ := heard.backed fun _ differ => by cases differ
    obtain ⟨ownerAbsolute, targetAbsolute⟩ := received.absolute absolute
    dsimp only at followed
    split at followed
    · rename_i target isTarget
      unfold followRedirection at followed
      split at followed
      · rename_i moved substituted
        obtain ⟨rfl, aliases, verdict⟩ := followAlias_follow followed
        have nextAbsolute : next.absolute = target.absolute :=
          ((Name.substitute_eq_ok_iff _ _ _ _).mp substituted).2.2
        refine ⟨nextAbsolute.trans (targetAbsolute target isTarget), aliases, verdict, set, ?_,
          received⟩
        exact ⟨target, isTarget, Or.inr ⟨isDname, differ, isAbsolute.trans ownerAbsolute.symm,
          substituted⟩⟩
      · cases followed
    · cases followed
  | _ => cases followed

/-- What decides a resolution for good is an answer behind the aliases that led to the name and
those that were crossed in the response. -/
theorem respond_done {start current : Name} {progress later : Progress} {outcome : Outcome}
    {crossed : List Name} (heard : Heard log recordClass current type ⟨outcome, crossed⟩)
    (along : Along log recordClass start progress.aliases current)
    (undecided : progress.verdict = none)
    (ended : progress.respond current outcome crossed = (later, .done))
    (succeeded : later.Succeeded) :
    AnswerBehind log recordClass start type later.aliases later.answers := by
  have notYet : ¬ progress.Succeeded := by
    unfold Succeeded
    rw [undecided]
    intro same
    cases same
  unfold respond at ended
  cases outcome with
  | successful sets =>
    cases ended
    obtain ⟨aliases, answers⟩ := succeed_spec succeeded
    obtain ⟨owner, further, backed⟩ := heard.answerBehind
    rw [aliases, answers]
    exact ⟨owner, along.append further, backed⟩
  | nxDomain =>
    cases ended
    unfold missName Succeeded at succeeded
    split at succeeded
    · cases succeeded
    · exact absurd succeeded notYet
  | nxRRset =>
    cases ended
    cases succeeded
  | cname set =>
    dsimp only at ended
    split at ended
    · exact absurd succeeded (followAlias_done ended)
    · cases ended
  | dname set =>
    dsimp only at ended
    split at ended
    · unfold followRedirection at ended
      split at ended
      · exact absurd succeeded (followAlias_done ended)
      · cases ended
        cases succeeded
    · cases ended
  | _ => cases ended

/-- An outcome after which the network has to be asked leaves aliases and decision alone. -/
theorem respond_query_keeps {current : Name} {progress later : Progress} {outcome : Outcome}
    {crossed : List Name} (asked : progress.respond current outcome crossed = (later, .query)) :
    later.aliases = progress.aliases ∧ later.verdict = progress.verdict := by
  unfold respond at asked
  cases outcome with
  | cname set =>
    dsimp only at asked
    split at asked
    · exact absurd asked followAlias_not_query
    · cases asked
      exact ⟨rfl, rfl⟩
  | dname set =>
    dsimp only at asked
    split at asked
    · unfold followRedirection at asked
      split at asked
      · exact absurd asked followAlias_not_query
      · cases asked
    · cases asked
      exact ⟨rfl, rfl⟩
  | delegation servers =>
    cases asked
    exact ⟨rfl, rfl⟩
  | unknown =>
    cases asked
    exact ⟨rfl, rfl⟩
  | _ => cases asked

/-! ### Rounds and attempts -/

section

variable {World : Type} {services : Services World} {sound : World → Prop}
  {trace : World → List Exchange} {request : Request}

/-- A resolution that is undecided and has come from one name to another. -/
structure CameFrom (log : List Exchange) (recordClass : RecordClass) (start current : Name)
    (progress : Progress) : Prop where
  undecided : progress.verdict = none
  along : Along log recordClass start progress.aliases current

/-- What has been found, if anything, answers the question for a name and the type of a request. -/
def Answered (log : List Exchange) (request : Request) (start : Name) (progress : Progress) :
    Prop :=
  progress.Succeeded →
    AnswerBehind log request.recordClass start request.type progress.aliases progress.answers

theorem Answered.of_undecided {start : Name} {progress : Progress}
    (undecided : progress.verdict = none) : Answered log request start progress := by
  intro succeeded
  unfold Succeeded at succeeded
  rw [undecided] at succeeded
  cases succeeded

/-- What a round makes of a resolution that has come to a name after some exchanges. Wherever it
came from, it goes on from there or has found an answer to what was asked there. -/
structure Round.Keeps (round : Round World) (sound : World → Prop) (trace : World → List Exchange)
    (request : Request) (before : List Exchange) (current : Name) (progress : Progress) : Prop where
  sound : sound round.world
  extended : before <+: trace round.world
  absolute : ∀ next, round.next = some next → next.absolute = true
  goesOn : ∀ next start, round.next = some next →
    CameFrom before request.recordClass start current progress →
    CameFrom (trace round.world) request.recordClass start next round.progress
  ends : ∀ start, round.next = none → CameFrom before request.recordClass start current progress →
    Answered (trace round.world) request start round.progress

theorem noteFailure_verdict (progress : Progress) (failure : Failure) :
    (progress.noteFailure failure).verdict = progress.verdict := by
  cases failure <;> rfl

/-- What is followed after something was heard keeps the round to the way. -/
theorem keeps_of_follow {before : List Exchange} {after : World} (isSound : sound after)
    (extended : before <+: trace after) (absolute : AbsoluteLog (trace after)) {current next : Name}
    {progress later : Progress} {outcome : Outcome} {crossed : List Name}
    (heard : Heard (trace after) request.recordClass current request.type ⟨outcome, crossed⟩)
    (isAbsolute : current.absolute = true)
    (followed : progress.respond current outcome crossed = (later, .follow next)) :
    Round.Keeps ⟨later, some next, after⟩ sound trace request before current progress := by
  obtain ⟨nextAbsolute, aliases, verdict, set, leads, received⟩ :=
    respond_follow absolute heard isAbsolute followed
  refine ⟨isSound, extended, ?_, ?_, fun _ ends => (by cases ends)⟩
  · intro other same
    cases same
    exact nextAbsolute
  · intro other start same cameFrom
    cases same
    refine ⟨verdict.trans cameFrom.undecided, ?_⟩
    show Along _ _ _ later.aliases _
    rw [aliases]
    exact (cameFrom.along.mono extended).snoc leads received

/-- A round that is the last one keeps to the way if it ends with an answer. -/
theorem keeps_of_last {before : List Exchange} {after : World} (isSound : sound after)
    (extended : before <+: trace after) {current : Name} {progress later : Progress}
    (ends : ∀ start, CameFrom before request.recordClass start current progress →
      Answered (trace after) request start later) :
    Round.Keeps ⟨later, none, after⟩ sound trace request before current progress := by
  refine ⟨isSound, extended, ?_, ?_, fun start _ cameFrom => ends start cameFrom⟩
  · intro next goesOn
    cases goesOn
  · intro next start goesOn
    cases goesOn

/-- A round in the network keeps to the way. -/
theorem networkRound_keeps (faithful : Faithful services request.recordClass sound trace)
    {world : World} (isSound : sound world) {current : Name} (isAbsolute : current.absolute = true)
    (progress : Progress) :
    (networkRound services request current progress world).Keeps sound trace request (trace world)
      current progress := by
  obtain ⟨soundThen, extended, isHeard⟩ := faithful.ask isSound
    ⟨current, request.type, request.recordClass⟩ rfl isAbsolute request.options.credibility
  unfold networkRound
  dsimp only
  split
  · rename_i failure asked isAsked
    rw [isAsked] at soundThen extended
    refine keeps_of_last soundThen extended fun _ cameFrom => ?_
    exact Answered.of_undecided ((noteFailure_verdict _ _).trans cameFrom.undecided)
  · rename_i ingested asked isAsked
    rw [isAsked] at soundThen extended isHeard
    have heard := isHeard ingested rfl
    split
    · rename_i later next responded
      exact keeps_of_follow soundThen extended (faithful.absolute asked soundThen) heard isAbsolute
        responded
    · rename_i later step notFollowed responded
      refine keeps_of_last soundThen extended fun start cameFrom => ?_
      cases step with
      | done => exact respond_done heard (cameFrom.along.mono extended) cameFrom.undecided responded
      | query =>
        exact Answered.of_undecided ((respond_query_keeps responded).2.trans cameFrom.undecided)
      | follow next => exact absurd rfl (notFollowed next)

/-- A round keeps to the way. -/
theorem round_keeps (faithful : Faithful services request.recordClass sound trace) {world : World}
    (isSound : sound world) {current : Name} (isAbsolute : current.absolute = true)
    (progress : Progress) :
    (round services request current progress world).Keeps sound trace request (trace world) current
      progress := by
  obtain ⟨soundThen, extended, backed⟩ := faithful.lookup world current request.type
    request.options.credibility isSound isAbsolute
  unfold round
  generalize services.lookup world current request.type request.options.credibility = answer
    at soundThen extended backed ⊢
  obtain ⟨outcome, looked⟩ := answer
  dsimp only
  have heard : Heard (trace looked) request.recordClass current request.type ⟨outcome, []⟩ :=
    .plain _ backed
  split
  · rename_i later next responded
    exact keeps_of_follow soundThen extended (faithful.absolute looked soundThen) heard isAbsolute
      responded
  · rename_i later responded
    refine keeps_of_last soundThen extended fun start cameFrom => ?_
    exact respond_done heard (cameFrom.along.mono extended) cameFrom.undecided responded
  · rename_i later responded
    obtain ⟨aliases, verdict⟩ := respond_query_keeps responded
    have asked := networkRound_keeps faithful soundThen isAbsolute later
    have still (start : Name)
        (cameFrom : CameFrom (trace world) request.recordClass start current progress) :
        CameFrom (trace looked) request.recordClass start current later :=
      ⟨verdict.trans cameFrom.undecided, aliases ▸ cameFrom.along.mono extended⟩
    exact ⟨asked.sound, extended.trans asked.extended, asked.absolute,
      fun next start goesOn cameFrom => asked.goesOn next start goesOn (still start cameFrom),
      fun start ends cameFrom => asked.ends start ends (still start cameFrom)⟩

/-- Whatever an attempt finds answers the question that it came from. -/
theorem attempt_keeps (faithful : Faithful services request.recordClass sound trace)
    {world : World} (isSound : sound world) {current : Name} (isAbsolute : current.absolute = true)
    (progress : Progress) :
    sound (attempt services request current progress world).2 ∧
      trace world <+: trace (attempt services request current progress world).2 ∧
      ∀ start, CameFrom (trace world) request.recordClass start current progress →
        Answered (trace (attempt services request current progress world).2) request start
          (attempt services request current progress world).1 := by
  refine attempt_induction services request
    (fun reached later now => sound now ∧ trace world <+: trace now ∧ reached.absolute = true ∧
      ∀ start, CameFrom (trace world) request.recordClass start current progress →
        CameFrom (trace now) request.recordClass start reached later)
    (fun later now => sound now ∧ trace world <+: trace now ∧
      ∀ start, CameFrom (trace world) request.recordClass start current progress →
        Answered (trace now) request start later)
    ?_ ?_ current progress world ⟨isSound, List.prefix_rfl, isAbsolute, fun _ => id⟩
  · rintro reached later now next ⟨soundNow, extended, absolute, cameFrom⟩ goesOn
    have keeps := round_keeps faithful soundNow absolute later
    exact ⟨keeps.sound, extended.trans keeps.extended, keeps.absolute next goesOn,
      fun start before => keeps.goesOn next start goesOn (cameFrom start before)⟩
  · rintro reached later now ⟨soundNow, extended, absolute, cameFrom⟩ ends
    have keeps := round_keeps faithful soundNow absolute later
    exact ⟨keeps.sound, extended.trans keeps.extended,
      fun start before => keeps.ends start ends (cameFrom start before)⟩

/-! ### Whole resolutions -/

/-- All attempts that a request asks for leave the services sound. -/
theorem search_sound (faithful : Faithful services request.recordClass sound trace) {world : World}
    (isSound : sound world) :
    sound (search (attempt services request) request world).2 ∧
      trace world <+: trace (search (attempt services request) request world).2 := by
  refine search_keeps request (fun now => sound now ∧ trace world <+: trace now)
    (fun _ progress now isAbsolute before => ?_) ⟨isSound, List.prefix_rfl⟩
  obtain ⟨soundThen, extended, _⟩ := attempt_keeps faithful before.1 isAbsolute progress
  exact ⟨soundThen, before.2.trans extended⟩

/-- Only progress that has found records is concluded to be successful, and the records are given
out with the aliases. -/
theorem conclude_successful {progress : Progress}
    (successful : progress.conclude.status = .successful) :
    progress.Succeeded ∧ progress.conclude.answers = progress.answers := by
  have weighed : progress.weigh.status = .successful := successful
  constructor
  · unfold weigh at weighed
    unfold Succeeded
    repeat' split at weighed
    · rename_i verdict _ decided
      rw [decided]
      exact congrArg some weighed
    all_goals cases weighed
  · unfold conclude
    exact if_pos weighed

end

end Progress

/-! ### Successful resolutions -/

/-- What a resolution reports goes back to exchanges in a log: the aliases are the names that links
have crossed, the sets are of one owner, of the class and type asked for, and all was received. -/
structure Resolution.GoesBackTo (resolution : Resolution) (log : List Exchange) (request : Request)
    (links : List Link) (owner : Name) : Prop where
  aliases : resolution.aliases = links.map Link.crossed
  links : ∀ link ∈ links, Received log request.recordClass link.set
  answers : ∀ set ∈ resolution.answers, Received log request.recordClass set ∧ set.name ≈ owner ∧
    (request.type = .any ∨ set.type = request.type)

namespace Request

/-- A resolution leaves services sound that it can rely on. -/
theorem resolve_sound {World : Type} {services : Services World} {sound : World → Prop}
    {trace : World → List Exchange} {request : Request}
    (faithful : Faithful services request.recordClass sound trace) {world : World}
    (isSound : sound world) :
    sound (request.resolve services world).2 ∧
      trace world <+: trace (request.resolve services world).2 :=
  Progress.search_sound faithful isSound

/-- A successful resolution of an absolute name has found an answer to the question. -/
theorem resolve_answerBehind {World : Type} {services : Services World} {sound : World → Prop}
    {trace : World → List Exchange} {request : Request}
    (faithful : Faithful services request.recordClass sound trace) {world : World}
    (isSound : sound world) (isAbsolute : request.name.absolute = true)
    (successful : (request.resolve services world).1.status = .successful) :
    AnswerBehind (trace (request.resolve services world).2) request.recordClass request.name
      request.type (request.resolve services world).1.aliases
      (request.resolve services world).1.answers := by
  obtain ⟨_, _, answered⟩ := Progress.attempt_keeps faithful isSound isAbsolute .start
  have atStart : Progress.CameFrom (trace world) request.recordClass request.name request.name
      .start := ⟨rfl, .nil _ _ _⟩
  have found := answered request.name atStart
  unfold resolve Progress.search at successful ⊢
  rw [if_pos isAbsolute] at successful ⊢
  obtain ⟨succeeded, answers⟩ := Progress.conclude_successful successful
  dsimp only
  rw [answers]
  exact found succeeded

variable {Network : Type} {send : Sender Network}
  {others : Recorded Network → Recorded Network}

/-- Resolutions of any kind, among others that are honest, fill caches only with what was received.
-/
theorem resolve_honest (request : Request) (absolute : send.Absolute) (honest : Honest others)
    (clock : Recorded Network → Nat) :
    Honest fun world => (request.resolve
      (Registry.sharedServices request.recordClass send others clock) world).2 :=
  fun _ isSound => resolve_sound
    (Registry.sharedServices_faithful request.recordClass absolute honest clock) isSound

/-- A successful resolution of an absolute name goes back to what was received: it ends with sets of
one owner, of the class and type asked for, behind links that lead there from the name asked for.
The chain of links is genuine exactly if none of them redirects among names that do not align. -/
theorem resolve_genuine_iff (request : Request) (isAbsolute : request.name.absolute = true)
    (absolute : send.Absolute) (honest : Honest others) (clock : Recorded Network → Nat)
    (world : Recorded Network) (isSound : world.Sound)
    (successful : (request.resolve (Registry.sharedServices request.recordClass send others clock)
      world).1.status = .successful) :
    let (resolution, left) :=
      request.resolve (Registry.sharedServices request.recordClass send others clock) world
    ∃ owner links, resolution.GoesBackTo left.log request links owner ∧
      Chain Link.LeadsTo request.name links owner ∧
        (Chain Link.IsGenuine request.name links owner ↔ ∀ link ∈ links, ¬ link.Misaligned) := by
  have faithful := Registry.sharedServices_faithful request.recordClass absolute honest clock
  obtain ⟨owner, ⟨links, aliases, chain, received⟩, answers⟩ :=
    resolve_answerBehind faithful isSound isAbsolute successful
  exact ⟨owner, links, ⟨aliases, received, answers⟩, chain, chain.isGenuine_iff⟩

end Request

/-- A server that answers every query with the same records. -/
def answering (records : List Record) : Sender Unit :=
  fun network query => (.ok { Message.responseTo query with answers := records }, network)

theorem answering_absolute {records : List Record} (absolute : ∀ record ∈ records,
    record.name.absolute = true ∧ ∀ name ∈ record.data.names, name.absolute = true) :
    (answering records).Absolute := by
  intro network query response said part record inside
  cases said
  cases part with
  | answer => exact absolute record inside
  | _ => cases inside

/-- The request for the addresses of `w.`. -/
def addressRequest : Request := ⟨Name.ofOctets [0x77], .a, .inet, .default⟩

/-- A world without caches, in which nothing has been exchanged. -/
def freshWorld : Recorded Unit := (.new .default, (), [])

theorem freshWorld_sound : freshWorld.Sound :=
  ⟨fun _ member => absurd member List.not_mem_nil, fun _ member => absurd member List.not_mem_nil⟩

/-- What comes of the request, all alone, at a server that always answers the same. -/
def addressAmong (records : List Record) : Resolution × Recorded Unit :=
  addressRequest.resolve
    (Registry.sharedServices .inet (answering records) (fun world => world) fun _ => 0) freshWorld

/-- Whatever was received from a server that always gives the same records is one of their sets. -/
theorem mem_groupRecords_of_received {records : List Record}
    (contents : ∀ exchange ∈ log, exchange.response.answers = records ∧
      exchange.response.authority = [] ∧ exchange.response.additional = []) {set : RRset}
    (received : Received log recordClass set) : set ∈ Message.groupRecords records := by
  obtain ⟨_, exchange, member, _, part, _, _, inside⟩ := received
  obtain ⟨answers, authority, additional⟩ := contents exchange member
  unfold Message.sets Message.records at inside
  cases part with
  | question => cases inside
  | answer => exact answers ▸ inside
  | authority =>
    dsimp only at inside
    rw [authority] at inside
    cases inside
  | additional =>
    dsimp only at inside
    rw [additional] at inside
    cases inside

/-- An address of `w.` by the name of `g.`. -/
def throughAlias : List Record :=
  [⟨Name.ofOctets [0x77], .inet, 300, .cname (Name.ofOctets [0x67])⟩,
    { Record.address 1 300 with name := Name.ofOctets [0x67] }]

/-- No set received is a redirection, so that all links are genuine. -/
theorem received_throughAlias {set : RRset}
    (received : Received (addressAmong throughAlias).2.log .inet set) : set.type ≠ .dname := by
  have sets : ∀ set ∈ Message.groupRecords throughAlias, set.type ≠ .dname := by decide +kernel
  exact sets set (mem_groupRecords_of_received (by decide +kernel) received)

/-- The address of `g.` is found for `w.`, at the end of a chain that leads there genuinely. -/
theorem resolve_genuine_throughAlias :
    ∃ owner links, (addressAmong throughAlias).1.GoesBackTo (addressAmong throughAlias).2.log
        addressRequest links owner ∧
      Chain Link.LeadsTo addressRequest.name links owner ∧
      Chain Link.IsGenuine addressRequest.name links owner ∧
      links.map Link.crossed = [addressRequest.name] := by
  have absolute : (answering throughAlias).Absolute := answering_absolute (by decide +kernel)
  have successful : (addressAmong throughAlias).1.status = .successful := by decide +kernel
  obtain ⟨owner, links, back, chain, genuine⟩ := Request.resolve_genuine_iff addressRequest rfl
    absolute Honest.id (fun _ => 0) freshWorld freshWorld_sound successful
  refine ⟨owner, links, back, chain, genuine.mpr fun link member misaligned => ?_, ?_⟩
  · exact received_throughAlias (back.links link member) misaligned.1
  · exact back.aliases.symm.trans (by decide +kernel)

/-- A redirection of all that lies below a wildcard, and an address where it leads `w.`. -/
def throughWildcard : List Record :=
  [⟨Name.ofOctets [0x2a], .inet, 300, .dname (Name.ofOctets [0x65])⟩,
    { Record.address 1 300 with name := Name.ofOctets [0x77, 0x65] }]

/-- The only alias among the sets received does not belong to `w.`, and `w.` does not lie below its
owner. -/
theorem received_throughWildcard {set : RRset}
    (received : Received (addressAmong throughWildcard).2.log .inet set) :
    set.type ≠ .cname ∧ (set.type = .dname → ¬ addressRequest.name.LiesBelow set.name) := by
  have sets : ∀ set ∈ Message.groupRecords throughWildcard, set.type ≠ .cname ∧
      (set.type = .dname → set.name.labels.length = 1) := by decide +kernel
  obtain ⟨notCname, short⟩ :=
    sets set (mem_groupRecords_of_received (by decide +kernel) received)
  refine ⟨notCname, fun isDname below => ?_⟩
  have fewer := below.length_lt
  rw [short isDname] at fewer
  exact absurd fewer (by decide +kernel)

/-- The address of `w.e.` is found for `w.`, although nothing received leads from one to the other.
-/
theorem resolve_not_genuine_throughWildcard :
    (answering throughWildcard).Absolute ∧
    freshWorld.Sound ∧
    (addressAmong throughWildcard).1.status = .successful ∧
    ¬ ∃ owner links, (addressAmong throughWildcard).1.GoesBackTo
        (addressAmong throughWildcard).2.log addressRequest links owner ∧
      Chain Link.IsGenuine addressRequest.name links owner := by
  refine ⟨answering_absolute (by decide +kernel), freshWorld_sound, by decide +kernel, ?_⟩
  rintro ⟨owner, links, back, chain⟩
  have aliases : links.map Link.crossed = [addressRequest.name] :=
    back.aliases.symm.trans (by decide +kernel)
  cases links with
  | nil => cases aliases
  | cons link rest =>
    have crossed : link.crossed = addressRequest.name := (List.cons.inj aliases).1
    obtain ⟨notCname, notBelow⟩ := received_throughWildcard (back.links link List.mem_cons_self)
    obtain ⟨_, _, ⟨_, _, ⟨isCname, _⟩ | ⟨isDname, below, _⟩⟩, _⟩ := chain
    · exact notCname isCname
    · rw [crossed] at below
      exact notBelow isDname below

end StubResolver
