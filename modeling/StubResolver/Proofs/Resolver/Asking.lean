/-
This file settles which names a resolution passes on: to the cache, which looks them up, and to
servers, in questions. To speak of them, the services are made to log how they are called and what
the cache has said; the log changes nothing.

Every attempt starts from an absolute name, and the next name is what an alias leads to. A response
that crosses aliases makes their targets absolute first. A resolution that follows an alias takes
the target as it is: the name passed on is relative exactly if the call before it has given an alias
with a relative target. Such a target comes only with a record whose target was relative when it was
added or received; so where all of them are absolute, everything that is passed on is.

A question about a relative name is written as if the name were absolute. A server repeats the
question that it reads, which is then another one than was asked.
-/

import StubResolver.Proofs.Resolver.Logging
import StubResolver.Proofs.Resolver.Records
import StubResolver.Proofs.Wire.Queries

namespace StubResolver

variable {World : Type}

/-! ### Relative names -/

/-- An alias with a relative target has led to a name: the alias was reported, and then the name was
looked up. -/
def BehindRelative (calls : List ServiceCall) (name : Name) : Prop :=
  ∃ before type said after outcome old target,
    calls = before ++ .lookup name type said :: after ∧ Reported before outcome ∧
      outcome.LeadsOn old target name ∧ target.absolute = false

theorem BehindRelative.append {calls : List ServiceCall} {name : Name}
    (behind : BehindRelative calls name) (later : List ServiceCall) :
    BehindRelative (calls ++ later) name := by
  obtain ⟨before, type, said, after, outcome, old, target, rfl, leads⟩ := behind
  exact ⟨before, type, said, after ++ later, outcome, old, target, by
    rw [List.append_assoc, List.cons_append], leads⟩

theorem BehindRelative.relative {calls : List ServiceCall} {name : Name}
    (behind : BehindRelative calls name) : name.absolute = false := by
  obtain ⟨_, _, _, _, _, _, _, _, _, leads, relative⟩ := behind
  exact leads.absolute.trans relative

/-! ### The calls of a resolution -/

/-- All names and queries that calls pass on are accounted for: a name that is relative is behind a
relative target, and a query is one of the request. -/
structure Request.Accounts (request : Request) (calls : List ServiceCall) : Prop where
  names : ∀ call ∈ calls, ∀ name, call.name? = some name → name.absolute = false →
    BehindRelative calls name
  queries : ∀ query, .send query ∈ calls → ∃ name, query = request.query name

/-- Calls have come to a name: it is absolute, or the last of them leads to it. -/
def ComeTo (calls : List ServiceCall) (current : Name) : Prop :=
  current.absolute = false → ∃ outcome old target, Reported calls outcome ∧
    outcome.LeadsOn old target current

variable {request : Request} {calls : List ServiceCall}

/-- A round about a name that calls have come to accounts for what it passes on. -/
theorem Request.Accounts.round (accounts : request.Accounts calls) {current : Name}
    (come : ComeTo calls current) (said : Outcome) {rest : List ServiceCall}
    (kept : Question.KeptIn ⟨current, request.type, request.recordClass⟩ rest) :
    request.Accounts (calls ++ .lookup current request.type said :: rest) := by
  have behind (relative : current.absolute = false) :
      BehindRelative (calls ++ .lookup current request.type said :: rest) current := by
    obtain ⟨outcome, old, target, reported, leads⟩ := come relative
    exact ⟨calls, request.type, said, rest, outcome, old, target, rfl, reported, leads,
      leads.absolute.symm.trans relative⟩
  constructor
  · intro call member name passes relative
    rcases List.mem_append.mp member with before | here
    · exact (accounts.names call before name passes relative).append _
    · rcases List.mem_cons.mp here with rfl | after
      · cases passes
        exact behind relative
      · rw [(kept call after).1 name passes] at relative ⊢
        exact behind relative
  · intro query member
    rcases List.mem_append.mp member with before | here
    · exact accounts.queries query before
    · rcases List.mem_cons.mp here with other | after
      · cases other
      · exact ⟨current, (kept _ after).2 query rfl⟩

/-- An attempt from an absolute name accounts for what it passes on. -/
theorem Progress.attempt_accounts (services : Services World) {current : Name}
    (isAbsolute : current.absolute = true) (progress : Progress)
    {logged : World × List ServiceCall} (accounts : request.Accounts logged.2) :
    request.Accounts (attempt services.logged request current progress logged).2.2 := by
  refine attempt_induction services.logged request
    (fun current _ logged => request.Accounts logged.2 ∧ ComeTo logged.2 current)
    (fun _ logged => request.Accounts logged.2) ?_ ?_ current progress logged
    ⟨accounts, fun relative => by rw [isAbsolute] at relative; cases relative⟩
  · rintro current progress ⟨world, calls⟩ next ⟨accounts, come⟩ goes
    obtain ⟨said, rest, isLogged, kept, goesOn⟩ :=
      round_calls services request current progress world calls
    obtain ⟨outcome, target, reported, leads⟩ := goesOn next goes
    refine ⟨?_, fun _ => ⟨outcome, current, target, reported, leads⟩⟩
    rw [isLogged]
    exact accounts.round come said kept
  · rintro current progress ⟨world, calls⟩ ⟨accounts, come⟩ -
    obtain ⟨said, rest, isLogged, kept, _⟩ :=
      round_calls services request current progress world calls
    rw [isLogged]
    exact accounts.round come said kept

/-- Whatever the services do, a resolution accounts for what it passes on. -/
theorem Request.accounts_calls (services : Services World) (request : Request) (world : World) :
    request.Accounts (request.calls services world) :=
  Progress.search_keeps request
    (fun logged : World × List ServiceCall => request.Accounts logged.2)
    (fun _ progress _ isAbsolute before =>
      Progress.attempt_accounts services isAbsolute progress before)
    ⟨fun _ member => absurd member List.not_mem_nil, fun _ member => absurd member List.not_mem_nil⟩

/-! ### Echoes -/

/-- The question that a server repeats when this one is asked. The name is absolute on the wire. -/
def Question.echoed (question : Question) : Question :=
  { question.received with name := question.name.toAbsolute }

/-- A question is repeated as it was asked exactly if its name is absolute and its class has a
mnemonic. -/
theorem Question.echoed_equiv_iff (question : Question) :
    question.echoed ≈ question ↔
      question.name.absolute = true ∧ question.recordClass.IsNamed := by
  rw [← question.received_equiv_iff, Question.equiv_iff, Question.equiv_iff]
  constructor
  · rintro ⟨name, rest⟩
    exact ⟨(Name.absolute_of_equiv name).symm, Setoid.refl _, rest⟩
  · rintro ⟨absolute, _, rest⟩
    refine ⟨?_, rest⟩
    exact (Name.equiv_iff_lowered _ _).mpr
      (congrArg Name.lowered (Name.toAbsolute_of_absolute _ absolute))

/-- Every query can be written, and is read back with the question that a server repeats. -/
theorem Wire.decode_query (question : Question) :
    ∃ octets, encodeQuery (Message.query question) = .ok octets ∧
      decode octets = .ok (Message.query question.echoed) := by
  refine ⟨_, encodeQuery_eq (Message.query question) question rfl, ?_⟩
  -- the octets are the same whether the name is absolute or not
  show decode (ofQuery (Message.query question) question.echoed) = _
  simp only [decode, readMessage?_ofQuery (Message.query question) question.echoed rfl]
  rfl

/-! ### What is asked -/

/-- What a resolution asks, of the cache and of servers. -/
structure Request.Asks (services : Services World) (request : Request) (world : World) : Prop where
  /-- The calls are those of the resolution as it is. -/
  calls : request.resolve services.logged (world, []) =
    ((request.resolve services world).1, (request.resolve services world).2,
      request.calls services world)
  /-- Every name that is passed on fits into a message. -/
  fits : ∀ call ∈ request.calls services world, ∀ name, call.name? = some name →
    wireLength name.labels ≤ 255
  /-- It is relative exactly if it is behind a relative target. -/
  relative : ∀ call ∈ request.calls services world, ∀ name, call.name? = some name →
    (name.absolute = false ↔ BehindRelative (request.calls services world) name)
  /-- Every query can be written. The question in it is of the type and class asked for, and a
  server repeats it as it was asked exactly if the name is absolute and the class has a mnemonic. -/
  queries : ∀ query, .send query ∈ request.calls services world →
    ∃ name octets echoed, query = request.query name ∧
      Wire.encodeQuery query = .ok octets ∧
      Wire.decode octets = .ok (Message.query echoed) ∧
      (echoed ≈ ⟨name, request.type, request.recordClass⟩ ↔
        name.absolute = true ∧ request.recordClass.IsNamed)

/-- Whatever the cache and servers say, a resolution asks about names that fit, in questions that
can be written. A name is relative, and its question not repeated as it was asked, exactly if an
alias with a relative target has led to it. -/
theorem Request.resolve_asks (services : Services World) (request : Request) (world : World) :
    request.Asks services world := by
  have accounts := request.accounts_calls services world
  refine ⟨request.resolve_logged services world, fun _ _ name _ => name.fits,
    fun call member name passes => ⟨accounts.names call member name passes,
      BehindRelative.relative⟩, fun query member => ?_⟩
  obtain ⟨name, rfl⟩ := accounts.queries query member
  obtain ⟨octets, written, read⟩ :=
    Wire.decode_query ⟨name, request.type, request.recordClass⟩
  exact ⟨name, octets, _, rfl, written, read, Question.echoed_equiv_iff _⟩

/-! ### Absolute targets -/

/-- What a record stands for, if it stands for anything, is absolute. -/
def Record.TargetsAbsolute (record : Record) : Prop :=
  ∀ target ∈ record.data.aliasTarget?, target.absolute = true

/-- All records of a set do. -/
def RRset.TargetsAbsolute (set : RRset) : Prop := ∀ record ∈ set.all, record.TargetsAbsolute

/-- All records of a message. -/
def Message.TargetsAbsolute (message : Message) : Prop :=
  ∀ part, ∀ record ∈ message.records part, record.TargetsAbsolute

/-- Whatever an outcome leads to. -/
def Outcome.TargetsAbsolute (outcome : Outcome) : Prop :=
  ∀ old target next, outcome.LeadsOn old target next → target.absolute = true

theorem RRset.TargetsAbsolute.target {set : RRset} (targets : set.TargetsAbsolute) :
    ∀ target ∈ set.aliasTarget?, target.absolute = true := by
  intro target stands
  obtain ⟨record, first, data⟩ := Option.bind_eq_some_iff.mp stands
  exact targets record (List.mem_append_left _ (List.mem_of_head? first)) target data

theorem RRset.TargetsAbsolute.insert {set : RRset} (targets : set.TargetsAbsolute)
    {record : Record} (recordTargets : record.TargetsAbsolute) :
    (set.insert record).TargetsAbsolute := by
  intro other member
  rcases RRset.mem_insert_all member with old | rfl
  · exact targets other old
  · exact recordTargets

theorem RRset.TargetsAbsolute.toAbsolute {set : RRset} (coherent : set.Coherent)
    (targets : set.TargetsAbsolute) : set.toAbsolute.TargetsAbsolute := by
  cases absolute : set.name.absolute with
  | true =>
    rw [toAbsolute_of_absolute absolute]
    exact targets
  | false =>
    rw [toAbsolute_of_relative coherent absolute]
    intro record member
    simp only [all, ← List.map_append] at member
    obtain ⟨original, present, rfl⟩ := List.mem_map.mp member
    exact targets original present

theorem Message.TargetsAbsolute.sets {message : Message} (targets : message.TargetsAbsolute)
    {part : Section} {set : RRset} (present : set ∈ message.sets part) : set.TargetsAbsolute :=
  fun record member =>
    targets part record ((Message.groupRecords_from _ set present).2 record member)

namespace Outcome

theorem cname_targetsAbsolute {set : RRset} (targets : set.TargetsAbsolute) :
    (Outcome.cname set).TargetsAbsolute := by
  intro old target next leads
  cases leads with
  | cname _ stands => exact targets.target target stands

theorem dname_targetsAbsolute {set : RRset} (targets : set.TargetsAbsolute) :
    (Outcome.dname set).TargetsAbsolute := by
  intro old target next leads
  cases leads with
  | dname _ _ stands => exact targets.target target stands

theorem LeadsNowhere.targetsAbsolute {outcome : Outcome} (nowhere : outcome.LeadsNowhere) :
    outcome.TargetsAbsolute := by
  intro old target next leads
  cases leads <;> exact nowhere.elim

end Outcome

namespace Cache

/-- All aliases that an operation brings have absolute targets. -/
def Operation.TargetsAbsolute : Operation → Prop
  | addRecord record _ => record.TargetsAbsolute
  | addSet set _ => set.TargetsAbsolute
  | preload records => ∀ pair ∈ records, pair.1.TargetsAbsolute
  | ingest message => message.TargetsAbsolute
  | _ => True

/-- All aliases that a step brings. -/
def Change.TargetsAbsolute : Change → Prop
  | addRecord record _ => record.TargetsAbsolute
  | storeSet set _ => set.TargetsAbsolute
  | _ => True

theorem Operation.Takes.targetsAbsolute {operation : Operation} {change : Change}
    (takes : operation.Takes change) (coherent : operation.Coherent)
    (targets : operation.TargetsAbsolute) : change.TargetsAbsolute := by
  cases takes with
  | addRecord record credibility => exact targets
  | addSet set credibility cacheable => exact RRset.TargetsAbsolute.toAbsolute coherent targets
  | preload records pair member => exact targets pair member
  | ingest message question write asked cacheable written =>
    cases write with
    | absence name key zoneStart credibility => exact trivial
    | set set credibility =>
      obtain ⟨_, part, present⟩ := (digestFor_drawn message question _ written).drawn set rfl
      exact Message.TargetsAbsolute.sets targets present
  | _ => exact trivial

/-- The caches that operations lead to which bring only absolute targets. -/
inductive TargetsAbsolute : Cache → Prop where
  | new (recordClass : RecordClass) (limits : CacheLimits) :
      TargetsAbsolute (Cache.new recordClass limits)
  | operation {cache : Cache} (before : TargetsAbsolute cache) (now : Nat) (operation : Operation)
      (coherent : operation.Coherent) (targets : operation.TargetsAbsolute) :
      TargetsAbsolute (operation.apply now cache)

theorem TargetsAbsolute.reachable {cache : Cache} (targets : cache.TargetsAbsolute) :
    Reachable cache := by
  induction targets with
  | new recordClass limits => exact .new recordClass limits
  | operation before now operation coherent targets inductionHypothesis =>
    exact inductionHypothesis.operation now operation coherent

/-- All aliases in such a cache have absolute targets. -/
theorem TargetsAbsolute.sets {cache : Cache} (targets : cache.TargetsAbsolute) :
    AllSets cache RRset.TargetsAbsolute := by
  induction targets with
  | new recordClass limits =>
    intro name key entry set found
    cases found
  | @operation cache before now operation coherent targets inductionHypothesis =>
    have changesTargets (change : Change) (member : change ∈ operation.changes now cache) :
        change.TargetsAbsolute :=
      (Operation.takes_of_mem_changes member).targetsAbsolute coherent targets
    rw [operation.apply_eq]
    refine (inductionHypothesis.applyAll before.reachable.tidy now _ ?_ ?_).1
    · rintro _ member record credibility set rfl setTargets
      exact setTargets.insert (changesTargets _ member)
    · intro change member set credibility brings
      have changeTargets := changesTargets change member
      cases change with
      | addRecord record _ =>
        cases brings
        intro other inside
        rcases RRset.mem_insert_all inside with none | rfl
        · cases none
        · exact changeTargets
      | storeSet _ _ =>
        cases brings
        exact changeTargets
      | _ => cases brings

/-- What a lookup reports leads to absolute names. -/
theorem TargetsAbsolute.lookup {cache : Cache} (targets : cache.TargetsAbsolute) (now : Nat)
    (name : Name) (type : RecordType) (least : Credibility) :
    (cache.lookup now name type least).1.TargetsAbsolute := by
  have supported := (lookup_spec targets.reachable.tidy now name type least).2
  have offered {level : Name} {key : EntryKey} {set : RRset}
      (offers : cache.Offers now least level key set) : set.TargetsAbsolute := by
    obtain ⟨entry, alive, _, isSet⟩ := offers
    exact targets.sets level key entry set (live?_eq_some_iff.mp alive).1 isSet
  generalize (cache.lookup now name type least).1 = outcome at supported ⊢
  cases outcome with
  | cname set => exact Outcome.cname_targetsAbsolute (offered supported)
  | dname set =>
    obtain ⟨_, _, offers⟩ := supported
    exact Outcome.dname_targetsAbsolute (offered offers)
  | _ => exact nofun

/-- So does what a response is found to say. -/
theorem digest?_targetsAbsolute {message : Message} (targets : message.TargetsAbsolute)
    {digest : Digest} (said : digest? message = some digest) :
    digest.ingested.outcome.TargetsAbsolute := by
  obtain ⟨question, _, _, rfl⟩ := digest?_eq_some said
  by_cases unanswered : (trailThrough message question).finals = []
  · obtain ⟨otherwise, nowhere, ingested⟩ := digestFor_ingested_of_open message question unanswered
    rw [ingested]
    dsimp only
    unfold firstAliasOr
    split
    · exact nowhere.targetsAbsolute
    · rename_i set rest used
      have within := trailOf_within question (setsInClass message .answer question.recordClass)
      have present := within.used set (used ▸ List.mem_cons_self)
      have setTargets := targets.sets (mem_setsInClass present).2
      unfold aliasOutcome
      split
      · exact Outcome.dname_targetsAbsolute setTargets
      · exact Outcome.cname_targetsAbsolute setTargets
  · rw [digestFor_ingested_of_finals message question unanswered]
    exact nofun

end Cache

/-! ### Asking where all targets are absolute -/

/-- Services that stay sound, are sent only absolute targets, and report no others. -/
structure GivesTargets (services : Services World) (sound : World → Prop) : Prop where
  lookup : ∀ world name type least, sound world →
    sound (services.lookup world name type least).2 ∧
      (services.lookup world name type least).1.TargetsAbsolute
  send : ∀ world query, sound world →
    sound (services.send world query).2 ∧
      ∀ response, (services.send world query).1 = .ok response → response.TargetsAbsolute
  ingest : ∀ world response, sound world → response.TargetsAbsolute →
    sound (services.ingest world response).2 ∧
      ∀ ingested, (services.ingest world response).1 = some ingested →
        ingested.outcome.TargetsAbsolute

/-- All outcomes reported in calls lead to absolute names. -/
def ReportTargets (calls : List ServiceCall) : Prop :=
  ∀ call ∈ calls, ∀ outcome, call.outcome? = some outcome → outcome.TargetsAbsolute

theorem ReportTargets.snoc {calls : List ServiceCall} (targets : ReportTargets calls)
    {call : ServiceCall}
    (last : ∀ outcome, call.outcome? = some outcome → outcome.TargetsAbsolute) :
    ReportTargets (calls ++ [call]) := by
  intro other member
  rcases List.mem_append.mp member with before | same
  · exact targets other before
  · rw [List.mem_singleton.mp same]
    exact last

/-- Where only absolute targets are reported, no name is behind a relative one. -/
theorem ReportTargets.not_behind {calls : List ServiceCall} (targets : ReportTargets calls)
    (name : Name) : ¬ BehindRelative calls name := by
  rintro ⟨before, _, _, _, outcome, old, target, rfl, ⟨call, last, reports⟩, leads, relative⟩
  rw [targets call (List.mem_append_left _ (List.mem_of_getLast? last)) outcome reports old target
    name leads] at relative
  cases relative

/-- The log of such services holds only absolute targets. -/
theorem GivesTargets.logged {services : Services World} {sound : World → Prop}
    (gives : GivesTargets services sound) :
    services.logged.Upholds Message.TargetsAbsolute
      fun logged => sound logged.1 ∧ ReportTargets logged.2 where
  lookup := by
    rintro ⟨world, calls⟩ name type least ⟨isSound, targets⟩
    obtain ⟨soundThen, said⟩ := gives.lookup world name type least isSound
    refine ⟨soundThen, targets.snoc fun outcome reports => ?_⟩
    cases reports
    exact said
  send := by
    rintro ⟨world, calls⟩ query ⟨isSound, targets⟩
    obtain ⟨soundThen, sent⟩ := gives.send world query isSound
    exact ⟨⟨soundThen, targets.snoc nofun⟩, sent⟩
  ingest := by
    rintro ⟨world, calls⟩ response ⟨isSound, targets⟩ fit
    obtain ⟨soundThen, said⟩ := gives.ingest world response isSound fit
    refine ⟨soundThen, targets.snoc fun outcome reports => ?_⟩
    obtain ⟨ingested, same, rfl⟩ := Option.map_eq_some_iff.mp reports
    exact said ingested same

/-- With services that give only absolute targets, a resolution passes on only absolute names. -/
theorem Request.calls_absolute {services : Services World} {sound : World → Prop}
    (gives : GivesTargets services sound) (request : Request) {world : World}
    (isSound : sound world) {call : ServiceCall} (member : call ∈ request.calls services world)
    {name : Name} (passes : call.name? = some name) : name.absolute = true := by
  have atStart : sound world ∧ ReportTargets [] :=
    ⟨isSound, fun _ none => absurd none List.not_mem_nil⟩
  have upheld : sound _ ∧ ReportTargets (request.calls services world) :=
    request.resolve_upholds gives.logged atStart
  refine Bool.not_eq_false _ ▸ fun relative => ?_
  exact upheld.2.not_behind name
    ((request.accounts_calls services world).names call member name passes relative)

/-- A sender whose responses have only absolute targets. -/
def Sender.TargetsAbsolute {Network : Type} (send : Sender Network) : Prop :=
  ∀ network query response, (send network query).1 = .ok response → response.TargetsAbsolute

/-- The services of a registry give only absolute targets, if its caches hold no others and servers
send none, and if others leave it so. -/
theorem Registry.sharedServices_givesTargets {Network : Type} (recordClass : RecordClass)
    {send : Sender Network} (targets : send.TargetsAbsolute)
    {others : Recorded Network → Recorded Network}
    (leave : ∀ world, world.1.Each Cache.TargetsAbsolute →
      (others world).1.Each Cache.TargetsAbsolute)
    (clock : Recorded Network → Nat) :
    GivesTargets (sharedServices recordClass send others clock)
      fun world => world.1.Each Cache.TargetsAbsolute where
  lookup := by
    intro world name type least each
    obtain ⟨eachThen, cache, holds, _, reported⟩ := (leave world each).withCache
      (fun limits => Cache.TargetsAbsolute.new recordClass limits)
      (fun cache => cache.lookup (clock world) name type least)
      fun _ holds _ => holds.operation (clock world) (.lookup name type least) trivial trivial
    refine ⟨eachThen, ?_⟩
    have said := holds.lookup (clock world) name type least
    rw [← reported] at said
    exact said
  send := by
    intro world query each
    refine ⟨leave world each, fun response said => ?_⟩
    have fromSender := targets (others world).2.1 query
    change (send.recorded (others world).2 query).1 = .ok response at said
    unfold Sender.recorded at said
    dsimp only at said
    split at said
    · rename_i sent _ isSent
      cases said
      exact fromSender response (by rw [isSent])
    · cases said
  ingest := by
    intro world response each fit
    obtain ⟨eachThen, cache, _, _, reported⟩ := (leave world each).withCache
      (fun limits => Cache.TargetsAbsolute.new recordClass limits)
      (fun cache => cache.ingestResponse (clock world) response)
      fun _ holds _ => holds.operation (clock world) (.ingest response) trivial fit
    refine ⟨eachThen, fun ingested said => ?_⟩
    have learned := reported.symm.trans said
    unfold Cache.ingestResponse at learned
    cases isDigest : Cache.digest? response with
    | none =>
      rw [isDigest] at learned
      cases learned
    | some digest =>
      rw [isDigest] at learned
      cases learned
      exact Cache.digest?_targetsAbsolute fit isDigest

/-! ### Everything that is asked -/

/-- Whatever its caches hold, and whatever servers send, a resolution asks about names that fit, in
questions that can be written; a name is relative, and a question about it not repeated as it was
asked, exactly if an alias with a relative target has led to it. As long as operations and servers
bring only absolute targets, every name is absolute. -/
theorem Request.resolve_asks_iff {Network : Type} (request : Request) (send : Sender Network)
    (others : Recorded Network → Recorded Network) (clock : Recorded Network → Nat)
    (world : Recorded Network) :
    let services := Registry.sharedServices request.recordClass send others clock
    request.Asks services world ∧
      (send.TargetsAbsolute →
        (∀ world, world.1.Each Cache.TargetsAbsolute →
          (others world).1.Each Cache.TargetsAbsolute) →
        world.1.Each Cache.TargetsAbsolute →
        ∀ call ∈ request.calls services world, ∀ name, call.name? = some name →
          name.absolute = true) := by
  refine ⟨request.resolve_asks _ world, fun targets leave each call member name passes => ?_⟩
  have gives := Registry.sharedServices_givesTargets request.recordClass targets leave clock
  exact request.calls_absolute gives each member passes

/-- Adds `w.` to a cache, as an alias of another name. -/
def addAlias (target : Name) : Cache.Operation :=
  .addRecord ⟨Name.ofOctets [0x77], .inet, 300, .cname target⟩ .authAnswer

/-- A world in which this has been done. -/
def aliasedWorld (target : Name) : Recorded Unit :=
  (((Registry.new .default).withCache .inet fun cache =>
    ((), (addAlias target).apply 0 cache)).2, (), [])

/-- The calls that the request for the addresses of `w.` makes there, where servers know nothing. -/
def aliasedCalls (target : Name) : List ServiceCall :=
  addressRequest.calls
    (Registry.sharedServices .inet (answering []) (fun world => world) fun _ => 0)
    (aliasedWorld target)

/-- If the target is absolute, all that is passed on is. -/
theorem aliasedCalls_absolute :
    (aliasedCalls (Name.ofOctets [0x67])).filterMap ServiceCall.name? =
        [Name.ofOctets [0x77], Name.ofOctets [0x67], Name.ofOctets [0x67]] ∧
      ∀ call ∈ aliasedCalls (Name.ofOctets [0x67]), ∀ name, call.name? = some name →
        name.absolute = true := by
  refine ⟨by decide +kernel, (addressRequest.resolve_asks_iff (answering []) (fun world => world)
    (fun _ => 0) (aliasedWorld _)).2 ?_ (fun _ => id) ?_⟩
  · rintro network query response said part record member
    cases said
    cases part <;> cases member
  · have fresh : (Registry.new .default).Each Cache.TargetsAbsolute :=
      fun _ member => absurd member List.not_mem_nil
    refine (fresh.withCache (fun limits => .new .inet limits)
      (fun cache => ((), (addAlias (Name.ofOctets [0x67])).apply 0 cache)) fun cache made _ =>
        made.operation 0 (addAlias _) trivial ?_).1
    rintro target ⟨⟩
    rfl

/-- The target `g`, not `g.`. -/
def relativeTarget : Name := { Name.ofOctets [0x67] with absolute := false }

/-- If it is relative, it is looked up and asked about as it is, and a server repeats another
question than this one. -/
theorem aliasedCalls_relative :
    (aliasedCalls relativeTarget).filterMap ServiceCall.name? =
        [Name.ofOctets [0x77], relativeTarget, relativeTarget] ∧
      relativeTarget.absolute = false ∧
      Question.echoed ⟨relativeTarget, .a, .inet⟩ = ⟨Name.ofOctets [0x67], .a, .inet⟩ ∧
      ¬ (⟨Name.ofOctets [0x67], .a, .inet⟩ : Question) ≈ ⟨relativeTarget, .a, .inet⟩ := by
  exact ⟨by decide +kernel, rfl, rfl, by decide +kernel⟩

end StubResolver
