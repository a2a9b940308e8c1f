/-
This file settles for how long an entry is found that a cache has come to hold. It should be found
for as long as was promised when it was installed, and not for a second longer: the lifetime of the
set, or what the zone says of how long an absence lasts, cut short by the limit that was in force at
that time. The clock ends at its last second, and so does every lifetime. Nothing that is done in
other places has a part in this, neither a lookup or a sweep that drops what has expired around the
entry, nor a limit that is changed afterwards.

The promise is kept for names that are absolute. A set that was learned from a response may stand at
a relative name, and there no lookup comes by.
-/

import StubResolver.Proofs.Cache.Absences
import StubResolver.Proofs.Cache.Owners
import StubResolver.Proofs.Cache.Signatures

namespace StubResolver.Cache

/-! ### Promises -/

/-- What is promised of an entry when it is installed: what the answer to a question for its name
and type will be, how credible that is, and for how many seconds. -/
structure Promise where
  outcome : Outcome
  credibility : Credibility
  lifetime : Nat
deriving DecidableEq

/-- What a step promises that adds a set, or an absence that the start of a zone attests. -/
def Change.promise? (limits : CacheLimits) : Change → Option Promise
  | storeSet set credibility =>
    let lifetime := match limits.longestPositive with
      | some longest => min set.ttl.toNat longest.toNat
      | none => set.ttl.toNat
    some ⟨.single set, credibility, lifetime⟩
  | storeAbsence _ _ (some zoneStart) credibility =>
    zoneStart.data.minimum?.map fun minimum =>
      ⟨.nxRRset, credibility, min minimum.toNat limits.longestNegative.toNat⟩
  | _ => none

/-- The second from which on a promise that was made at `now` is over. -/
def Promise.deadline (promise : Promise) (now : Nat) : Nat :=
  min (now + promise.lifetime) lastSecond

/-- What an entry answers. -/
def Entry.answer (entry : Entry) : Outcome := (entry.set?.map .single).getD .nxRRset

/-- An entry is as it was promised. -/
structure Promise.Describes (promise : Promise) (now : Nat) (entry : Entry) : Prop where
  outcome : entry.answer = promise.outcome
  credibility : entry.credibility = promise.credibility
  expiresAt : entry.expiresAt = promise.deadline now

variable {cache : Cache} {now : Nat} {name : Name} {key : EntryKey} {entry : Entry}

theorem ofSet_expiresAt (set : RRset) (credibility : Credibility) (now : Nat)
    (longest : Option UInt32) :
    (Entry.ofSet set credibility now longest).expiresAt =
      min (now + match longest with
        | some bound => min set.ttl.toNat bound.toNat
        | none => set.ttl.toNat) lastSecond := by
  cases longest with
  | none => rfl
  | some bound =>
    show min (now + (min set.ttl bound).toNat) lastSecond = _
    rw [UInt32.toNat_min]

/-- What a step installs is as it has promised. -/
theorem Installs.describes (tidy : cache.shelf.Tidy) {change : Change} {promise : Promise}
    (installs : Installs now cache (change.apply now cache) name key entry)
    (promises : change.promise? cache.limits = some promise) : promise.Describes now entry := by
  cases change with
  | storeSet set credibility =>
    cases promises
    change Installs now cache (cache.storeSet now set credibility) name key entry at installs
    rw [storeSet_eq] at installs
    cases entryOfSet?_eq_some (settle_installs tidy installs).2
    exact ⟨rfl, rfl, ofSet_expiresAt _ _ _ _⟩
  | storeAbsence owner ownKey zoneStart credibility =>
    change Installs now cache (cache.storeAbsence now owner ownKey zoneStart credibility) name key
      entry at installs
    rw [storeAbsence_eq] at installs
    have fresh := (settle_installs tidy installs).2
    cases zoneStart with
    | none => cases promises
    | some record =>
      obtain ⟨minimum, isMinimum, rfl⟩ := Option.map_eq_some_iff.mp promises
      unfold entryOfAbsence? at fresh
      dsimp only at fresh
      split at fresh
      · cases fresh
      · rw [isMinimum, Option.getD_some] at fresh
        cases fresh
        refine ⟨rfl, rfl, ?_⟩
        show min (now + (min minimum cache.limits.longestNegative).toNat) lastSecond = _
        rw [UInt32.toNat_min]
        rfl
  | _ => cases promises

/-! ### What is done elsewhere -/

/-- A step is about other names or other keys, or it only drops what has expired, or changes limits
without taking away room. -/
def Change.Avoids (name : Name) (key : EntryKey) : Change → Prop
  | addRecord record _ => ¬ ((kept record).name ≈ name ∧ .type record.setType = key)
  | storeSet set _ => ¬ (set.name ≈ name ∧ .type set.type = key)
  | storeAbsence owner ownKey _ _ => ¬ (owner ≈ name ∧ ownKey = key)
  | flushName flushed => ¬ flushed.toAbsolute ≈ name
  | flushEntry flushed ownKey => ¬ (flushed.toAbsolute ≈ name ∧ ownKey = key)
  | clear => False
  | setCapacity capacity => capacity = 0
  | lookup _ _ _ | sweepName _ | countSweep _ | setLongestPositive _ | setLongestNegative _ => True

/-- All steps that an operation can take are such steps. -/
def Operation.Avoids (operation : Operation) (name : Name) (key : EntryKey) : Prop :=
  ∀ change, operation.Takes change → change.Avoids name key

namespace Change.Avoids

variable {change : Change}

/-- A step that is made elsewhere leaves an entry as it is, or drops it when it has expired. -/
theorem entryAt? (avoids : change.Avoids name key) (tidy : cache.shelf.Tidy)
    (unbounded : cache.limits.capacity = 0) (now : Nat) :
    (change.apply now cache).entryAt? name key = cache.entryAt? name key ∨
      (change.apply now cache).entryAt? name key = none ∧ cache.live? now name key = none := by
  cases change with
  | addRecord record credibility =>
    cases refused : record.setType.isMeta with
    | true =>
      rw [refuse_addRecord refused]
      exact Or.inl rfl
    | false =>
      exact Or.inl ((apply_addRecord_settles tidy now record credibility refused).elsewhere_eq
        unbounded name key avoids)
  | storeSet set credibility =>
    exact Or.inl ((storeSet_settles tidy now set credibility).elsewhere_eq unbounded name key
      avoids)
  | storeAbsence owner ownKey zoneStart credibility =>
    exact Or.inl ((storeAbsence_settles tidy now owner ownKey zoneStart credibility).elsewhere_eq
      unbounded name key avoids)
  | lookup asked type least => exact (lookup_spec tidy now asked type least).1.entries name key
  | sweepName swept => exact (sweepName_fades tidy now swept).entries name key
  | flushName flushed =>
    refine Or.inl ?_
    show (cache.flushName flushed).entryAt? name key = _
    unfold Cache.entryAt? Cache.flushName
    rw [Shelf.entryAt?_eq, Shelf.entryAt?_eq, Shelf.entriesOf_eraseName, if_neg avoids]
  | flushEntry flushed ownKey =>
    exact Or.inl ((eraseEntry_settles tidy flushed.toAbsolute ownKey cache.metrics).elsewhere_eq
      unbounded name key avoids)
  | clear => exact avoids.elim
  | setCapacity capacity =>
    cases avoids
    exact Or.inl rfl
  | countSweep removed => exact Or.inl rfl
  | setLongestPositive longest => exact Or.inl rfl
  | setLongestNegative longest => exact Or.inl rfl

theorem unbounded (avoids : change.Avoids name key) (tidy : cache.shelf.Tidy)
    (unbounded : cache.limits.capacity = 0) (now : Nat) :
    (change.apply now cache).limits.capacity = 0 := by
  have others (keeps : change.KeepsLimits) : (change.apply now cache).limits.capacity = 0 := by
    rw [keeps.limits tidy now, unbounded]
  cases change with
  | setCapacity capacity => exact avoids
  | setLongestPositive longest => exact unbounded
  | setLongestNegative longest => exact unbounded
  | _ => exact others trivial

end Change.Avoids

/-- An entry is in its place, or it has expired by a given time and is gone. -/
def StandsUntil (cache : Cache) (time : Nat) (name : Name) (key : EntryKey) (entry : Entry) :
    Prop :=
  cache.entryAt? name key = some entry ∨
    cache.entryAt? name key = none ∧ entry.isExpired time = true

/-- Steps that are made elsewhere, and not later than a given time, leave an entry in its place
until it has expired. -/
theorem StandsUntil.run {time : Nat} (stands : cache.StandsUntil time name key entry)
    (tidy : cache.shelf.Tidy) (unbounded : cache.limits.capacity = 0)
    (steps : List (Nat × Change))
    (elsewhere : ∀ step ∈ steps, step.1 ≤ time ∧ step.2.Avoids name key) :
    (Change.run steps cache).StandsUntil time name key entry := by
  induction steps generalizing cache with
  | nil => exact stands
  | cons step rest inductionHypothesis =>
    obtain ⟨inTime, avoids⟩ := elsewhere step List.mem_cons_self
    refine inductionHypothesis ?_ (apply_steps tidy step.1 step.2).tidy
      (avoids.unbounded tidy unbounded step.1) fun other later =>
        elsewhere other (List.mem_cons_of_mem _ later)
    rcases avoids.entryAt? tidy unbounded step.1 with same | ⟨gone, dead⟩
    · unfold StandsUntil
      rw [same]
      exact stands
    · refine Or.inr ⟨gone, ?_⟩
      rcases stands with found | ⟨_, expired⟩
      · unfold live? at dead
        rw [found, Option.filter_some] at dead
        refine entry.isExpired_later ?_ inTime
        by_contra lasts
        simp [lasts] at dead
      · exact expired

/-! ### What is found -/

/-- The answer to a question for an absolute name is what stands there under the type. -/
theorem lookup_of_live (reachable : Reachable cache) {type : RecordType} (single : type ≠ .any)
    (absolute : name.absolute = true) (alive : cache.live? now name (.type type) = some entry)
    {least : Credibility} (credible : least ≤ entry.credibility) :
    (cache.lookup now name type least).1 = entry.answer := by
  have usable : cache.usable? now least name.toAbsolute (.type type) = some entry := by
    unfold usable?
    rw [Name.toAbsolute_of_absolute name absolute, alive, Option.filter_some,
      decide_eq_true credible, if_pos rfl]
  rw [(lookup_eq reachable.tidy reachable.inPlace now name type least).1]
  unfold decision verdicts
  rw [List.map_cons, Level.exactRules_of_entry single usable]
  rfl

/-- The cache without the entry of a name under a key. -/
def without (cache : Cache) (name : Name) (key : EntryKey) : Cache :=
  { cache with shelf := cache.shelf.eraseEntry name key }

theorem entryAt?_without (tidy : cache.shelf.Tidy) (name other : Name) (key otherKey : EntryKey) :
    (cache.without name key).entryAt? other otherKey =
      if name ≈ other ∧ key = otherKey then none else cache.entryAt? other otherKey := by
  unfold entryAt? without
  rw [Shelf.entryAt?_eq, Shelf.entryAt?_eq, Shelf.entriesOf_eraseEntry tidy]
  by_cases same : name ≈ other
  · rw [if_pos same, Entries.get?_erase]
    simp only [same, true_and]
  · rw [if_neg same, if_neg fun there => same there.1]

/-- No answer comes from an entry that is not alive. -/
theorem lookup_without (reachable : Reachable cache) (dead : cache.live? now name key = none)
    (asked : Name) (type : RecordType) (least : Credibility) :
    (cache.lookup now asked type least).1 =
      ((cache.without name key).lookup now asked type least).1 := by
  have entries (other : Name) (otherKey : EntryKey) :=
    entryAt?_without reachable.tidy name other key otherKey
  have live (other : Name) (otherKey : EntryKey) :
      (cache.without name key).live? now other otherKey = cache.live? now other otherKey := by
    unfold live?
    rw [entries]
    split
    · rename_i there
      rw [there.2, live?_congr cache there.1] at dead
      exact dead.symm
    · rfl
  have inPlace : (cache.without name key).InPlace := by
    intro other otherKey entry set found isSet
    rw [entries] at found
    split at found
    · cases found
    · exact reachable.inPlace other otherKey entry set found isSet
  have usable : (cache.without name key).usable? now least = cache.usable? now least := by
    funext other otherKey
    unfold usable?
    rw [live]
  rw [(lookup_eq reachable.tidy reachable.inPlace now asked type least).1,
    (lookup_eq (reachable.tidy.eraseEntry name key) inPlace now asked type least).1, usable]

/-! ### Promises are kept -/

/-- What promises something is no change of the limits. -/
theorem Operation.Takes.keepsLimits_of_promise {operation : Operation} {change : Change}
    (takes : operation.Takes change) {limits : CacheLimits} {promise : Promise}
    (promises : change.promise? limits = some promise) : operation.KeepsLimits := by
  cases takes with
  | setCapacity | setLongestPositive | setLongestNegative => cases promises
  | _ => exact trivial

/-- Absences are recorded at absolute names. -/
theorem Operation.Takes.absolute_of_absence {operation : Operation} {change : Change}
    (takes : operation.Takes change) {owner : Name} {ownKey : EntryKey} {zoneStart : Option Record}
    {credibility : Credibility}
    (isAbsence : change = .storeAbsence owner ownKey zoneStart credibility) :
    owner.absolute = true := by
  cases takes with
  | addAbsence =>
    cases isAbsence
    exact Name.toAbsolute_absolute _
  | ingest message question write asked cacheable written =>
    cases write with
    | set set credibility => cases isAbsence
    | absence _ _ _ _ =>
      cases isAbsence
      refine Bool.of_not_eq_false fun relative => ?_
      obtain ⟨_, _, other, _⟩ := keptFromAbove_of_relative written relative
      cases other
  | _ => cases isAbsence

/-- What is promised and stands in its place is the answer exactly if the name is absolute. -/
theorem Promise.Describes.lookup_iff {operation : Operation} {change : Change} {promise : Promise}
    {limits : CacheLimits} {type : RecordType} {before : Cache} {time : Nat}
    (describes : promise.Describes now entry) (takes : operation.Takes change)
    (promises : change.promise? limits = some promise) (tidyBefore : before.shelf.Tidy)
    (installs : Installs now before (change.apply now before) name (.type type) entry)
    (reachable : Reachable cache) (single : type ≠ .any)
    (alive : cache.live? time name (.type type) = some entry) {least : Credibility}
    (credible : least ≤ promise.credibility) :
    (cache.lookup time name type least).1 = promise.outcome ↔ name.absolute = true := by
  have credibleEntry : least ≤ entry.credibility := describes.credibility ▸ credible
  refine ⟨fun answered => ?_, fun absolute => ?_⟩
  · cases change with
    | storeSet set credibility =>
      cases promises
      have isSet : entry.set? = some set := by
        have answer := describes.outcome
        unfold Entry.answer at answer
        cases held : entry.set? with
        | none =>
          rw [held] at answer
          cases answer
        | some other =>
          rw [held] at answer
          cases answer
          rfl
      exact (lookup_eq_single_iff reachable single alive isSet credibleEntry).mp answered
    | storeAbsence owner ownKey zoneStart credibility =>
      exact (Name.absolute_of_equiv (storeAbsence_installs tidyBefore installs)).trans
        (takes.absolute_of_absence rfl)
    | _ => cases promises
  · rw [lookup_of_live reachable single absolute alive credibleEntry, describes.outcome]

/-- What a step has installed stands until it expires, as long as all that comes after the step is
done elsewhere. -/
theorem Installs.standsUntil {before : Cache} {change : Change}
    (installs : Installs now before (change.apply now before) name key entry)
    (tidy : before.shelf.Tidy) (unbounded : (change.apply now before).limits.capacity = 0)
    {afterwards : List Change} (undisturbed : ∀ other ∈ afterwards, other.Avoids name key)
    {events : List (Nat × Operation)} (elsewhere : ∀ event ∈ events, event.2.Avoids name key)
    {time : Nat} (notBefore : now ≤ time) (inTime : ∀ event ∈ events, event.1 ≤ time) :
    (Operation.run events (Change.applyAll now afterwards (change.apply now before))).StandsUntil
      time name key entry := by
  -- what comes after the step, as one sequence of steps
  rw [Operation.run_eq_run_steps, Change.applyAll_eq_run, ← Change.run_append]
  refine StandsUntil.run (Or.inl (installs.found tidy).1) (apply_steps tidy now change).tidy
    unbounded _ fun step member => ?_
  rcases List.mem_append.mp member with soon | later
  · obtain ⟨other, follows, rfl⟩ := List.mem_map.mp soon
    exact ⟨notBefore, undisturbed other follows⟩
  · obtain ⟨event, happens, taken⟩ := Operation.takes_of_mem_steps later
    exact ⟨inTime _ happens, elsewhere _ happens _ taken⟩

/-- An entry that an operation installs in one of its steps is found for exactly as long as that
step has promised, as long as what comes after the step is done elsewhere: until its deadline a
question for its name and type, which asks for no more credibility than it has, is answered with it
if the name is absolute, and otherwise is not. From the deadline on no question at all is answered
with it, since all answers are the same as if it were not there. -/
theorem installed_lasts_exactly {cache : Cache} (reachable : Reachable cache)
    (unbounded : cache.limits.capacity = 0) {now : Nat} {operation : Operation}
    (built : operation.Built) {earlier afterwards : List Change} {change : Change}
    (made : operation.changes now cache = earlier ++ change :: afterwards) {promise : Promise}
    (promises : change.promise? cache.limits = some promise) {name : Name} {type : RecordType}
    (single : type ≠ .any) {entry : Entry}
    (installs : Installs now (Change.applyAll now earlier cache)
      (change.apply now (Change.applyAll now earlier cache)) name (.type type) entry)
    (undisturbed : ∀ other ∈ afterwards, other.Avoids name (.type type))
    (events : List (Nat × Operation)) (builtLater : ∀ event ∈ events, event.2.Built)
    (elsewhere : ∀ event ∈ events, event.2.Avoids name (.type type)) (time : Nat)
    (notBefore : now ≤ time) (inTime : ∀ event ∈ events, event.1 ≤ time) :
    let left := Operation.run events (operation.apply now cache)
    (time < promise.deadline now → ∀ least ≤ promise.credibility,
      ((left.lookup time name type least).1 = promise.outcome ↔ name.absolute = true)) ∧
    (promise.deadline now ≤ time → ∀ asked askedType least,
      (left.lookup time asked askedType least).1 =
        ((left.without name (.type type)).lookup time asked askedType least).1) := by
  intro left
  have coherent := operation.changes_coherent built.coherent now cache
  have takes : operation.Takes change := Operation.takes_of_mem_changes
    (made ▸ List.mem_append_right _ List.mem_cons_self)
  have keeps := takes.keepsLimits_of_promise promises
  have steps : ∀ other ∈ earlier ++ change :: afterwards, other.Coherent ∧ other.KeepsLimits :=
    fun other member => ⟨coherent other (made ▸ member),
      (Operation.takes_of_mem_changes (made ▸ member)).keepsLimits keeps⟩
  generalize isBefore : Change.applyAll now earlier cache = before at installs
  have reachableBefore : Reachable before := isBefore ▸ reachable.applyAll now earlier
    fun other member => (steps other (List.mem_append_left _ member)).1
  have limits : before.limits = cache.limits := isBefore ▸ Change.applyAll_limits
    (fun other member => (steps other (List.mem_append_left _ member)).2) reachable.tidy now
  obtain ⟨changeCoherent, changeKeeps⟩ := steps change (List.mem_append_right _ List.mem_cons_self)
  have describes := installs.describes reachableBefore.tidy (limits ▸ promises)
  have first : operation.apply now cache =
      Change.applyAll now afterwards (change.apply now before) := by
    rw [operation.apply_eq, made, Change.applyAll_append, isBefore]
    rfl
  have roomAfter : (change.apply now before).limits.capacity = 0 := by
    rw [changeKeeps.limits reachableBefore.tidy now, limits, unbounded]
  have stands : left.StandsUntil time name (.type type) entry := by
    show (Operation.run events (operation.apply now cache)).StandsUntil _ _ _ _
    rw [first]
    exact installs.standsUntil reachableBefore.tidy roomAfter undisturbed elsewhere notBefore inTime
  have reachableLeft : Reachable left :=
    (reachable.operation now operation built.coherent).run events builtLater
  refine ⟨fun early least credible => ?_, fun late asked askedType least => ?_⟩
  · have lasts : entry.isExpired time = false :=
      decide_eq_false (Nat.not_le.mpr (describes.expiresAt ▸ early))
    have found := stands.resolve_right fun gone => Bool.false_ne_true (lasts.symm.trans gone.2)
    exact describes.lookup_iff takes promises reachableBefore.tidy installs reachableLeft single
      (live?_eq_some_iff.mpr ⟨found, lasts⟩) credible
  · have expired : entry.isExpired time = true :=
      decide_eq_true (describes.expiresAt ▸ late)
    refine lookup_without reachableLeft ?_ asked askedType least
    unfold live?
    rcases stands with found | ⟨gone, _⟩
    · rw [found, Option.filter_some, expired]
      rfl
    · rw [gone]
      rfl

/-- What others do while the addresses of `w.` are in a cache: they look at the cache, shorten the
lifetime of sets that are added from then on, add a set of that kind, and sweep. -/
def bystanders : List (Nat × Operation) :=
  [(1100, .lookup (Name.ofOctets [0x77]) .any .glue), (1150, .setLongestPositive (some 5)),
    (1200, .addRecord { Record.address 3 300 with name := Name.ofOctets [0x67] } .normal),
    (1290, .sweep)]

theorem bystanders_avoid :
    ∀ event ∈ bystanders, event.2.Avoids (Name.ofOctets [0x77]) (.type .a) := by
  intro event member change takes
  simp only [bystanders, List.mem_cons, List.not_mem_nil, or_false] at member
  rcases member with rfl | rfl | rfl | rfl <;> cases takes
  case addRecord => exact fun same => absurd same.1 (by decide)
  all_goals exact trivial

theorem bystanders_early : ∀ event ∈ bystanders, event.1 ≤ 1290 := by
  simp [bystanders]

/-- The addresses, which last for 300 seconds, are found up to the last of them, and then no more.
-/
theorem twoAddresses_last_exactly :
    let start := Cache.new .inet ⟨0, none, 3600⟩
    let cache := (Operation.addSet twoAddresses .normal).apply 1000 start
    let left := Operation.run bystanders cache
    (left.lookup 1299 (Name.ofOctets [0x77]) .a .normal).1 = .single twoAddresses ∧
      (left.lookup 1300 (Name.ofOctets [0x77]) .a .normal).1 =
        ((left.without (Name.ofOctets [0x77]) (.type .a)).lookup 1300 (Name.ofOctets [0x77]) .a
          .normal).1 := by
  intro start cache left
  have built : (Operation.addSet twoAddresses .normal).Built := (RRset.Built.ofRecord _).addAll _
  have installs : Installs 1000 (Cache.new .inet ⟨0, none, 3600⟩)
      ((Change.storeSet twoAddresses .normal).apply 1000 (Cache.new .inet ⟨0, none, 3600⟩))
      (Name.ofOctets [0x77]) (.type .a) (Entry.ofSet twoAddresses .normal 1000 none) := by
    unfold Installs
    decide +kernel
  have made : (Operation.addSet twoAddresses .normal).changes 1000
      (Cache.new .inet ⟨0, none, 3600⟩) = [] ++ Change.storeSet twoAddresses .normal :: [] := rfl
  have promises : (Change.storeSet twoAddresses .normal).promise? ⟨0, none, 3600⟩ =
      some ⟨.single twoAddresses, .normal, 300⟩ := by decide +kernel
  have lasts (time : Nat) (notBefore : 1290 ≤ time) :=
    installed_lasts_exactly (Reachable.new .inet ⟨0, none, 3600⟩) rfl built made promises
      (by decide) installs (List.forall_mem_nil _) bystanders
      (by simp [bystanders, Operation.Built])
      bystanders_avoid time (Nat.le_trans (by decide) notBefore) fun event member =>
        Nat.le_trans (bystanders_early event member) notBefore
  refine ⟨?_, ?_⟩
  · exact ((lasts 1299 (by decide)).1 (by decide +kernel) .normal (Nat.le_refl _)).mpr rfl
  · exact (lasts 1300 (by decide)).2 (by decide +kernel) _ _ _

/-- The servers that a response brings with a relative owner are to last for 300 seconds as well,
but are not found in the first. -/
theorem relativeServers_not_found :
    let start := Cache.new .inet ⟨0, none, 3600⟩
    let servers := RRset.ofRecord relativeServers
    let step := Change.storeSet servers .nonAuthAnswer
    (Operation.ingest relativeReferral).changes 1000 start = [step] ∧
      Installs 1000 start (step.apply 1000 start) relativeServers.name (.type .ns)
        (Entry.ofSet servers .nonAuthAnswer 1000 none) ∧
      step.promise? start.limits = some ⟨.single servers, .nonAuthAnswer, 300⟩ ∧
      (((Operation.ingest relativeReferral).apply 1000 start).lookup 1000 relativeServers.name .ns
        .nonAuthAnswer).1 = .unknown := by
  intro start servers step
  refine ⟨?_, ?_, by decide +kernel, by decide +kernel⟩
  · have writes : (digest? relativeReferral).map Digest.writes =
        some [.set servers .nonAuthAnswer] := by decide +kernel
    obtain ⟨digest, said, isWrites⟩ := Option.map_eq_some_iff.mp writes
    show ((digest? relativeReferral).map fun digest => digest.writes.map Change.ofWrite).getD [] = _
    rw [said, Option.map_some, Option.getD_some, isWrites]
    rfl
  · unfold Installs
    decide +kernel

end StubResolver.Cache
