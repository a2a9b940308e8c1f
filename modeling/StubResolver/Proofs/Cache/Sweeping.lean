/-
This file proves that what has expired cannot be seen, and that it makes no difference whether it is
swept away. Entries that have expired leave a cache in many ways: an addition drops the one in its
place, a lookup drops those of the names it visits, a sweep drops all of some names or of the whole
cache. Which of them are still there at a given time depends on all of that.

Two caches are called twins when the same entries are alive in both. The replies of twins are the
same, and whatever is done to both leaves twins. A sweep drops nothing that is alive, so that a
cache that is swept stays the twin of one that is not. From then on they can be followed side by
side for as long as the clock does not go back: what has expired never comes back to life.

Where room is limited, none of this holds, since an expired entry takes up room and may push out
another that is alive.
-/

import StubResolver.Proofs.Cache.Levels

namespace StubResolver.Cache

/-! ### Twins -/

/-- What is alive later is what is alive now and has not expired by then. -/
theorem live?_later (cache : Cache) {now later : Nat} (inOrder : now ≤ later) (name : Name)
    (key : EntryKey) :
    cache.live? later name key =
      (cache.live? now name key).filter fun entry => !entry.isExpired later := by
  unfold live?
  rw [Option.filter_filter]
  congr 1
  funext entry
  unfold Entry.isExpired
  cases expiredLater : decide (entry.expiresAt ≤ later) with
  | true => rw [Bool.not_true, Bool.and_false]
  | false =>
    have lasts := of_decide_eq_false expiredLater
    rw [decide_eq_false fun expired => lasts (Nat.le_trans expired inOrder), Bool.not_false,
      Bool.and_true]

/-- Caches in which the same entries are alive, and which have room for all names. -/
structure Twins (now : Nat) (first second : Cache) : Prop where
  firstReachable : Reachable first
  secondReachable : Reachable second
  unbounded : first.limits.capacity = 0
  limits : second.limits = first.limits
  live : ∀ name key, second.live? now name key = first.live? now name key

variable {now : Nat} {cache first second : Cache}

/-- What is alive in a cache that a name was flushed from. -/
theorem live?_flushName (cache : Cache) (name other : Name) (key : EntryKey) :
    (cache.flushName name).live? now other key =
      if name.toAbsolute ≈ other then none else cache.live? now other key := by
  unfold live? entryAt? flushName
  rw [Shelf.entryAt?_eq, Shelf.entryAt?_eq, Shelf.entriesOf_eraseName]
  split <;> rfl

namespace Twins

theorem refl (reachable : Reachable cache) (unbounded : cache.limits.capacity = 0) (now : Nat) :
    Twins now cache cache :=
  ⟨reachable, reachable, unbounded, rfl, fun _ _ => rfl⟩

theorem symm (twins : Twins now first second) : Twins now second first where
  firstReachable := twins.secondReachable
  secondReachable := twins.firstReachable
  unbounded := by rw [twins.limits, twins.unbounded]
  limits := twins.limits.symm
  live := fun name key => (twins.live name key).symm

/-- Twins stay twins as time goes by. -/
theorem later (twins : Twins now first second) {afterwards : Nat} (inOrder : now ≤ afterwards) :
    Twins afterwards first second where
  firstReachable := twins.firstReachable
  secondReachable := twins.secondReachable
  unbounded := twins.unbounded
  limits := twins.limits
  live := by
    intro name key
    rw [live?_later second inOrder, live?_later first inOrder, twins.live]

/-- What can be used in twins is the same. -/
theorem usable? (twins : Twins now first second) (least : Credibility) :
    second.usable? now least = first.usable? now least := by
  funext name key
  unfold Cache.usable?
  rw [twins.live]

/-- A cache that has faded is still the twin of one that has not. -/
theorem fades (twins : Twins now first second) {after : Cache} (fades : Fades now first after)
    (reachable : Reachable after) : Twins now after second where
  firstReachable := reachable
  secondReachable := twins.secondReachable
  unbounded := by rw [fades.limits, twins.unbounded]
  limits := by rw [twins.limits, fades.limits]
  live := by
    intro name key
    rw [fades.live?, twins.live]

/-! ### What is done to both -/

/-- Changes that leave the same entries alive in both leave twins. -/
theorem step (twins : Twins now first second) (change : Change) (coherent : change.Coherent)
    (room : (change.apply now first).limits.capacity = 0)
    (limits : (change.apply now second).limits = (change.apply now first).limits)
    (live : ∀ name key,
      (change.apply now second).live? now name key = (change.apply now first).live? now name key) :
    Twins now (change.apply now first) (change.apply now second) :=
  ⟨twins.firstReachable.step now change coherent, twins.secondReachable.step now change coherent,
    room, limits, live⟩

/-- Additions to both that come to the same in one place. -/
theorem settles (twins : Twins now first second) (change : Change) (coherent : change.Coherent)
    {name : Name} {key : EntryKey} {result : Option Entry}
    (one : Settles first (change.apply now first) name key result)
    (two : Settles second (change.apply now second) name key result) :
    Twins now (change.apply now first) (change.apply now second) := by
  refine twins.step change coherent (by rw [one.limits, twins.unbounded])
    (by rw [two.limits, one.limits, twins.limits]) fun other otherKey => ?_
  rw [one.live? twins.unbounded, two.live? (by rw [twins.limits, twins.unbounded]), twins.live]

/-- Steps by which both only fade. -/
theorem bothFade (twins : Twins now first second) (change : Change) (coherent : change.Coherent)
    (one : Fades now first (change.apply now first))
    (two : Fades now second (change.apply now second)) :
    Twins now (change.apply now first) (change.apply now second) :=
  have half := twins.fades one (twins.firstReachable.step now change coherent)
  (half.symm.fades two (twins.secondReachable.step now change coherent)).symm

/-- A step taken by both leaves twins, unless it takes away their room. -/
theorem change (twins : Twins now first second) (change : Change) (coherent : change.Coherent)
    (keepsRoom : ∀ capacity, change ≠ .setCapacity capacity) :
    Twins now (change.apply now first) (change.apply now second) := by
  have firstTidy := twins.firstReachable.tidy
  have secondTidy := twins.secondReachable.tidy
  cases change with
  | addRecord record credibility =>
    cases isMeta : record.setType.isMeta with
    | true =>
      rw [refuse_addRecord isMeta, refuse_addRecord isMeta]
      exact twins
    | false =>
      have one := apply_addRecord_settles firstTidy now record credibility isMeta
      have two := apply_addRecord_settles secondTidy now record credibility isMeta
      rw [twins.limits, twins.live] at two
      exact twins.settles _ coherent one two
  | storeSet set credibility =>
    have one := storeSet_settles firstTidy now set credibility
    have two := storeSet_settles secondTidy now set credibility
    rw [twins.limits, twins.live] at two
    exact twins.settles (.storeSet set credibility) coherent one two
  | storeAbsence name key zoneStart credibility =>
    have one := storeAbsence_settles firstTidy now name key zoneStart credibility
    have two := storeAbsence_settles secondTidy now name key zoneStart credibility
    rw [twins.limits, twins.live] at two
    exact twins.settles (.storeAbsence name key zoneStart credibility) coherent one two
  | lookup name type least =>
    exact twins.bothFade (.lookup name type least) coherent
      (lookup_spec firstTidy now name type least).1 (lookup_spec secondTidy now name type least).1
  | sweepName name =>
    exact twins.bothFade (.sweepName name) coherent (sweepName_fades firstTidy now name)
      (sweepName_fades secondTidy now name)
  | countSweep removed => exact twins.step _ coherent twins.unbounded twins.limits twins.live
  | flushName name =>
    refine twins.step (.flushName name) coherent twins.unbounded twins.limits fun other key => ?_
    show (second.flushName name).live? now other key = (first.flushName name).live? now other key
    rw [live?_flushName, live?_flushName, twins.live]
  | flushEntry name key =>
    exact twins.settles (.flushEntry name key) coherent
      (eraseEntry_settles firstTidy name.toAbsolute key _)
      (eraseEntry_settles secondTidy name.toAbsolute key _)
  | clear => exact twins.step _ coherent twins.unbounded twins.limits fun _ _ => rfl
  | setCapacity capacity => exact absurd rfl (keepsRoom capacity)
  | setLongestPositive longest =>
    refine twins.step (.setLongestPositive longest) coherent twins.unbounded ?_ twins.live
    show { second.limits with longestPositive := longest } = _
    rw [twins.limits]
    rfl
  | setLongestNegative longest =>
    refine twins.step (.setLongestNegative longest) coherent twins.unbounded ?_ twins.live
    show { second.limits with longestNegative := longest } = _
    rw [twins.limits]
    rfl

/-- Steps taken by both, one after the other. -/
theorem applyAll (twins : Twins now first second) (changes : List Change)
    (coherent : ∀ change ∈ changes, change.Coherent)
    (keepsRoom : ∀ change ∈ changes, ∀ capacity, change ≠ .setCapacity capacity) :
    Twins now (Change.applyAll now changes first) (Change.applyAll now changes second) := by
  induction changes generalizing first second with
  | nil => exact twins
  | cons change rest inductionHypothesis =>
    have after := twins.change change (coherent change List.mem_cons_self)
      (keepsRoom change List.mem_cons_self)
    exact inductionHypothesis after (fun other later => coherent other (List.mem_cons_of_mem _ later))
      fun other later => keepsRoom other (List.mem_cons_of_mem _ later)

end Twins

/-! ### Calls and their replies -/

/-- A call to a cache by those who use it. -/
inductive Call where
  | addRecord (record : Record) (credibility : Credibility)
  | addSet (set : RRset) (credibility : Credibility)
  | addAbsence (name : Name) (key : EntryKey) (zoneStart : Option Record)
      (credibility : Credibility)
  | ingest (message : Message)
  | lookup (name : Name) (type : RecordType) (least : Credibility)
  | findRecords (name : Name) (type : RecordType)
  | findAnyRecords (name : Name) (type : RecordType)
  | flushName (name : Name)
  | flushEntry (name : Name) (key : EntryKey)
  | clear

/-- What a caller gets back. -/
inductive Reply where
  | done
  | added (result : Except Error Unit)
  | denied (result : Except AbsenceOfAll Unit)
  | learned (ingested : Option Ingested)
  | found (outcome : Outcome)
  | records (sets : Option (List RRset))

namespace Call

/-- What a call returns and leaves. -/
def perform (call : Call) (now : Nat) (cache : Cache) : Reply × Cache :=
  match call with
  | addRecord record credibility =>
    let result := cache.addRecord now record credibility
    (.added (result.map fun _ => ()), result.toOption.getD cache)
  | addSet set credibility =>
    let result := cache.addSet now set credibility
    (.added (result.map fun _ => ()), result.toOption.getD cache)
  | addAbsence name key zoneStart credibility =>
    let result := cache.addAbsence now name key zoneStart credibility
    (.denied (result.map fun _ => ()), result.toOption.getD cache)
  | ingest message =>
    let (ingested, after) := cache.ingestResponse now message
    (.learned ingested, after)
  | lookup name type least =>
    let (outcome, after) := cache.lookup now name type least
    (.found outcome, after)
  | findRecords name type =>
    let (sets, after) := cache.findRecords? now name type
    (.records sets, after)
  | findAnyRecords name type =>
    let (sets, after) := cache.findAnyRecords? now name type
    (.records sets, after)
  | flushName name => (.done, cache.flushName name)
  | flushEntry name key => (.done, cache.flushEntry name key)
  | clear => (.done, cache.clear)

/-- The operation that a call is. Finding records is looking them up with a credibility that is
fixed. -/
def operation : Call → Operation
  | addRecord record credibility => .addRecord record credibility
  | addSet set credibility => .addSet set credibility
  | addAbsence name key zoneStart credibility => .addAbsence name key zoneStart credibility
  | ingest message => .ingest message
  | lookup name type least => .lookup name type least
  | findRecords name type => .lookup name type .normal
  | findAnyRecords name type => .lookup name type .glue
  | flushName name => .flushName name
  | flushEntry name key => .flushEntry name key
  | clear => .clear

end Call

theorem findSets?_eq (cache : Cache) (now : Nat) (name : Name) (type : RecordType)
    (least : Credibility) :
    cache.findSets? now name type least =
      ((cache.lookup now name type least).1.answers.toOption,
        (cache.lookup now name type least).2) := by
  unfold findSets?
  cases cache.lookup now name type least with
  | mk outcome after => cases outcome <;> rfl

namespace Call

theorem perform_after (call : Call) (now : Nat) (cache : Cache) :
    (call.perform now cache).2 = call.operation.apply now cache := by
  cases call with
  | findRecords name type => exact congrArg Prod.snd (findSets?_eq cache now name type .normal)
  | findAnyRecords name type => exact congrArg Prod.snd (findSets?_eq cache now name type .glue)
  | _ => rfl

/-- The steps that a call is made of do not depend on the cache, and none of them takes away
room. -/
theorem changes_eq (call : Call) (now : Nat) (first second : Cache) :
    call.operation.changes now first = call.operation.changes now second := by
  cases call <;> rfl

theorem keepsRoom (call : Call) (now : Nat) (cache : Cache) :
    ∀ change ∈ call.operation.changes now cache, ∀ capacity, change ≠ .setCapacity capacity := by
  intro change member capacity
  cases call with
  | addSet set credibility =>
    rw [Operation.mem_changes_addSet member]
    exact Change.noConfusion
  | addAbsence name key zoneStart credibility =>
    rw [Operation.mem_changes_addAbsence member]
    exact Change.noConfusion
  | ingest message =>
    obtain ⟨_, write, _, rfl, _⟩ := Operation.mem_changes_ingest member
    cases write <;> exact Change.noConfusion
  | _ =>
    rw [List.mem_singleton.mp member]
    exact Change.noConfusion

/-- A lookup answers alike in twins. -/
theorem lookup_reply (twins : Twins now first second) (name : Name) (type : RecordType)
    (least : Credibility) :
    (second.lookup now name type least).1 = (first.lookup now name type least).1 := by
  rw [(lookup_eq twins.firstReachable.tidy twins.firstReachable.inPlace now name type least).1,
    (lookup_eq twins.secondReachable.tidy twins.secondReachable.inPlace now name type least).1,
    twins.usable?]

theorem addRecord_result {cache : Cache} (tidy : cache.shelf.Tidy) (now : Nat) (record : Record)
    (credibility : Credibility) :
    ((cache.addRecord now record credibility).map fun _ => ()) =
      if record.setType.isMeta then .error (refuseMeta record.setType) else .ok () := by
  cases isMeta : record.setType.isMeta with
  | true =>
    unfold Cache.addRecord
    rw [if_pos isMeta]
    rfl
  | false =>
    obtain ⟨after, added, _⟩ := addRecord_settles tidy now record credibility isMeta
    rw [added]
    rfl

/-- What a call returns is the same in twins. -/
theorem perform_reply (twins : Twins now first second) (call : Call) :
    (call.perform now second).1 = (call.perform now first).1 := by
  cases call with
  | addRecord record credibility =>
    show Reply.added _ = Reply.added _
    rw [addRecord_result twins.firstReachable.tidy, addRecord_result twins.secondReachable.tidy]
  | addSet set credibility =>
    show Reply.added ((second.addSet now set credibility).map _) =
      Reply.added ((first.addSet now set credibility).map _)
    unfold Cache.addSet
    split <;> rfl
  | addAbsence name key zoneStart credibility =>
    show Reply.denied ((second.addAbsence now name key zoneStart credibility).map _) =
      Reply.denied ((first.addAbsence now name key zoneStart credibility).map _)
    unfold Cache.addAbsence
    split <;> rfl
  | ingest message =>
    show Reply.learned (second.ingestResponse now message).1 =
      Reply.learned (first.ingestResponse now message).1
    unfold ingestResponse
    split <;> rfl
  | lookup name type least => exact congrArg Reply.found (lookup_reply twins name type least)
  | findRecords name type =>
    show Reply.records (second.findSets? now name type .normal).1 =
      Reply.records (first.findSets? now name type .normal).1
    rw [findSets?_eq, findSets?_eq, lookup_reply twins]
  | findAnyRecords name type =>
    show Reply.records (second.findSets? now name type .glue).1 =
      Reply.records (first.findSets? now name type .glue).1
    rw [findSets?_eq, findSets?_eq, lookup_reply twins]
  | _ => rfl

/-- A call made to twins leaves twins. -/
theorem perform_twins (twins : Twins now first second) (call : Call)
    (coherent : call.operation.Coherent) :
    Twins now (call.perform now first).2 (call.perform now second).2 := by
  rw [call.perform_after, call.perform_after, call.operation.apply_eq, call.operation.apply_eq,
    call.changes_eq now second first]
  exact twins.applyAll _ (Operation.changes_coherent coherent now first) (call.keepsRoom now first)

end Call

/-! ### Runs with sweeps and without -/

/-- What happens to a cache: a call, or one of the two kinds of sweep. -/
inductive Event where
  | call (call : Call)
  | sweepNames (names : List Name)
  | sweep

namespace Event

/-- Whether a caller waits for the reply. -/
def isCall : Event → Bool
  | .call _ => true
  | _ => false

/-- The operation that an event is. -/
def operation : Event → Operation
  | .call request => request.operation
  | .sweepNames names => .sweepNames names
  | .sweep => .sweep

end Event

/-- The replies that callers get, when events happen to a cache, each at its time. -/
def replies : List (Nat × Event) → Cache → List Reply
  | [], _ => []
  | (now, .call call) :: rest, cache =>
    (call.perform now cache).1 :: replies rest (call.perform now cache).2
  | (now, .sweepNames names) :: rest, cache => replies rest (cache.sweepNames now names).2
  | (now, .sweep) :: rest, cache => replies rest (cache.sweep now).2

/-- The calls among events. -/
def callsOf (events : List (Nat × Event)) : List (Nat × Event) :=
  events.filter fun event => event.2.isCall

/-- Twins give the same replies, though one of them is swept and the other is not. -/
theorem Twins.replies (twins : Twins now first second) (events : List (Nat × Event))
    (notBefore : ∀ event ∈ events, now ≤ event.1)
    (inOrder : events.Pairwise fun event next => event.1 ≤ next.1)
    (coherent : ∀ event ∈ events, event.2.operation.Coherent) :
    replies (callsOf events) second = replies events first := by
  induction events generalizing now first second with
  | nil => rfl
  | cons event rest inductionHypothesis =>
    obtain ⟨time, event⟩ := event
    obtain ⟨ordered, restInOrder⟩ := List.pairwise_cons.mp inOrder
    have nowTwins := twins.later (notBefore _ List.mem_cons_self)
    have restCoherent : ∀ other ∈ rest, other.2.operation.Coherent :=
      fun other later => coherent other (List.mem_cons_of_mem _ later)
    cases event with
    | call call =>
      have callCoherent : call.operation.Coherent := coherent _ List.mem_cons_self
      show (call.perform time second).1 :: _ = (call.perform time first).1 :: _
      rw [call.perform_reply nowTwins]
      exact congrArg _ (inductionHypothesis (call.perform_twins nowTwins callCoherent) ordered
        restInOrder restCoherent)
    | sweepNames names =>
      have swept := nowTwins.fades (sweepNames_fades nowTwins.firstReachable.tidy time names)
        (nowTwins.firstReachable.operation time (.sweepNames names) trivial)
      exact inductionHypothesis swept ordered restInOrder restCoherent
    | sweep =>
      have swept := nowTwins.fades (sweep_fades nowTwins.firstReachable.tidy time)
        (nowTwins.firstReachable.operation time .sweep trivial)
      exact inductionHypothesis swept ordered restInOrder restCoherent

/-- In a cache with room for all names, whatever is called at times that do not go back, and however
sweeps of some names or of the whole cache come in between, every call gets the reply that it gets
without any sweep. Nor does it matter which expired entries there were at the start. -/
theorem sweeps_unobservable {cache : Cache} (reachable : Reachable cache)
    (unbounded : cache.limits.capacity = 0) (start : Nat) (events : List (Nat × Event))
    (notBefore : ∀ event ∈ events, start ≤ event.1)
    (inOrder : events.Pairwise fun event next => event.1 ≤ next.1)
    (coherent : ∀ event ∈ events, event.2.operation.Coherent) :
    replies events cache = replies (callsOf events) cache ∧
      ∀ twin, Twins start cache twin → replies events cache = replies (callsOf events) twin := by
  have alike (twin : Cache) (twins : Twins start cache twin) :
      replies events cache = replies (callsOf events) twin :=
    (twins.replies events notBefore inOrder coherent).symm
  exact ⟨alike cache (Twins.refl reachable unbounded start), alike⟩

/-- An address is learned and looked up again after it has expired, and the cache is swept in
between. -/
def sweptRun : List (Nat × Event) :=
  [(1000, .call (.addRecord (Record.address 1 60) .normal)),
    (1030, .call (.findRecords (Name.ofOctets [0x77]) .a)),
    (1060, .sweep),
    (1060, .call (.lookup (Name.ofOctets [0x77]) .a .normal))]

/-- The address is found until it expires, whether or not it is then swept away. -/
theorem sweptRun_replies :
    replies sweptRun (Cache.new .inet ⟨0, none, 3600⟩) =
        replies (callsOf sweptRun) (Cache.new .inet ⟨0, none, 3600⟩) ∧
      replies (callsOf sweptRun) (Cache.new .inet ⟨0, none, 3600⟩) =
        [.added (.ok ()), .records (some [RRset.ofRecord (Record.address 1 60)]),
          .found .unknown] :=
  ⟨(sweeps_unobservable (Reachable.new .inet ⟨0, none, 3600⟩) rfl 1000 sweptRun
    (by decide) (by decide) (by simp [sweptRun, Event.operation, Call.operation,
      Operation.Coherent])).1, by rfl⟩

end StubResolver.Cache
