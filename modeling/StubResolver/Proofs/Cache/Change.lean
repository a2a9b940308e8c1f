/-
This file gives the steps that every use of a cache is made of, and what a step can do to an entry:
one addition, one lookup, one name swept, one limit changed. A cache that steps can lead to is
called reachable, and what every step preserves holds of all reachable caches.

An entry that is found after a step was there before, or the step has brought it. This is all that
most statements about entries need to know of a step.
-/

import StubResolver.Proofs.Cache.Lookup

namespace StubResolver.Cache

/-! ### Steps -/

/-- A step in the use of a cache. -/
inductive Change where
  | addRecord (record : Record) (credibility : Credibility)
  | storeSet (set : RRset) (credibility : Credibility)
  | storeAbsence (name : Name) (key : EntryKey) (zoneStart : Option Record)
      (credibility : Credibility)
  | lookup (name : Name) (type : RecordType) (least : Credibility)
  | sweepName (name : Name)
  | countSweep (removed : Nat)
  | flushName (name : Name)
  | flushEntry (name : Name) (key : EntryKey)
  | clear
  | setCapacity (capacity : Nat)
  | setLongestPositive (longest : Option UInt32)
  | setLongestNegative (longest : UInt32)

namespace Change

/-- The cache after a step at a given time. A record of a type that is never cached leaves it as it
is. -/
def apply (change : Change) (now : Nat) (cache : Cache) : Cache :=
  match change with
  | addRecord record credibility => ((cache.addRecord now record credibility).toOption).getD cache
  | storeSet set credibility => cache.storeSet now set credibility
  | storeAbsence name key zoneStart credibility =>
    cache.storeAbsence now name key zoneStart credibility
  | lookup name type least => (cache.lookup now name type least).2
  | sweepName name => (cache.sweepName now name).2
  | countSweep removed => cache.countSweep removed
  | flushName name => cache.flushName name
  | flushEntry name key => cache.flushEntry name key
  | clear => cache.clear
  | setCapacity capacity => cache.setCapacity capacity
  | setLongestPositive longest => cache.setLongestPositive longest
  | setLongestNegative longest => cache.setLongestNegative longest

/-- The set that a step brings, if it brings one, is put together as sets are. -/
def Coherent : Change → Prop
  | storeSet set _ => set.Coherent
  | _ => True

/-- The cache after several steps at one time. -/
def applyAll (now : Nat) (changes : List Change) (cache : Cache) : Cache :=
  changes.foldl (fun cache change => change.apply now cache) cache

/-- The cache after several steps, each at its time. -/
def run (steps : List (Nat × Change)) (cache : Cache) : Cache :=
  steps.foldl (fun cache step => step.2.apply step.1 cache) cache

theorem applyAll_append (now : Nat) (first second : List Change) (cache : Cache) :
    applyAll now (first ++ second) cache = applyAll now second (applyAll now first cache) :=
  List.foldl_append

theorem run_append (first second : List (Nat × Change)) (cache : Cache) :
    run (first ++ second) cache = run second (run first cache) := List.foldl_append

/-- Steps at one time are steps. -/
theorem applyAll_eq_run (now : Nat) (changes : List Change) (cache : Cache) :
    applyAll now changes cache = run (changes.map (now, ·)) cache := by
  unfold applyAll run
  rw [List.foldl_map]

end Change

/-- The caches that steps can lead to, at whatever times they are made. -/
inductive Reachable : Cache → Prop where
  | new (recordClass : RecordClass) (limits : CacheLimits) :
      Reachable (Cache.new recordClass limits)
  | step {cache : Cache} (reachable : Reachable cache) (now : Nat) (change : Change)
      (coherent : change.Coherent) : Reachable (change.apply now cache)

theorem Reachable.applyAll {cache : Cache} (reachable : Reachable cache) (now : Nat)
    (changes : List Change) (coherent : ∀ change ∈ changes, change.Coherent) :
    Reachable (Change.applyAll now changes cache) := by
  induction changes generalizing cache with
  | nil => exact reachable
  | cons change rest inductionHypothesis =>
    refine inductionHypothesis (reachable.step now change (coherent change List.mem_cons_self)) ?_
    exact fun other later => coherent other (List.mem_cons_of_mem _ later)

/-! ### What a step does to entries -/

/-- The cache that is left when entries were dropped and no others came. -/
structure Shrinks (before after : Cache) : Prop where
  recordClass : after.recordClass = before.recordClass
  tidy : after.shelf.Tidy
  entries : ∀ name key, after.entryAt? name key = before.entryAt? name key ∨
    after.entryAt? name key = none

variable {cache : Cache}

theorem Fades.shrinks {now : Nat} {before after : Cache} (fades : Fades now before after) :
    Shrinks before after :=
  ⟨fades.recordClass, fades.tidy, fun name key => (fades.entries name key).imp_right And.left⟩

theorem flushName_shrinks (tidy : cache.shelf.Tidy) (name : Name) :
    Shrinks cache (cache.flushName name) := by
  refine ⟨rfl, tidy.eraseName _, fun other key => ?_⟩
  unfold entryAt? flushName
  rw [Shelf.entryAt?_eq, Shelf.entryAt?_eq, Shelf.entriesOf_eraseName]
  split
  · exact Or.inr rfl
  · exact Or.inl rfl

theorem flushEntry_shrinks (tidy : cache.shelf.Tidy) (name : Name) (key : EntryKey) :
    Shrinks cache (cache.flushEntry name key) := by
  have erased := eraseEntry_settles tidy name.toAbsolute key cache.metrics
  refine ⟨rfl, erased.tidy, fun other otherKey => ?_⟩
  by_cases same : name.toAbsolute ≈ other ∧ key = otherKey
  · exact Or.inr (same.2 ▸ erased.there other same.1)
  · exact (erased.elsewhere other otherKey same).imp_right And.right

theorem clear_shrinks : Shrinks cache cache.clear :=
  ⟨rfl, Shelf.Tidy.nil, fun _ _ => Or.inr rfl⟩

theorem setCapacity_shrinks (tidy : cache.shelf.Tidy) (capacity : Nat) :
    Shrinks cache (cache.setCapacity capacity) := by
  refine ⟨rfl, tidy.fit capacity, fun name key => ?_⟩
  unfold entryAt? setCapacity
  rw [Shelf.entryAt?_eq, Shelf.entryAt?_eq]
  rcases Shelf.entriesOf_fit cache.shelf capacity name with same | gone
  · exact Or.inl (by rw [same])
  · exact Or.inr (by rw [gone, Entries.get?_nil])

/-- The set that a step brings, with its credibility. A record comes as a set of its own. -/
def Change.brought? : Change → Option (RRset × Credibility)
  | .storeSet set credibility => some (set, credibility)
  | .addRecord record credibility => some (RRset.ofRecord (kept record), credibility)
  | _ => none

/-- How an entry that is found after a step comes to be there. -/
inductive Origin (before : Cache) (now : Nat) (change : Change) (name : Name) (key : EntryKey)
    (entry : Entry) : Prop where
  /-- It was there before. -/
  | stayed (found : before.entryAt? name key = some entry)
  /-- The step has brought its set. -/
  | brought (set : RRset) (credibility : Credibility)
      (brings : change.brought? = some (set, credibility)) (owner : set.name ≈ name)
      (type : key = .type set.type)
      (same : entry = Entry.ofSet set credibility now before.limits.longestPositive)
  /-- The record that the step adds has joined it. -/
  | joined (record : Record) (standing : Entry)
      (adds : change = .addRecord record standing.credibility)
      (cacheable : record.setType.isMeta = false) (owner : (kept record).name ≈ name)
      (type : key = .type (kept record).setType)
      (alive : before.live? now name key = some standing)
      (same : entry = standing.joined (kept record))
  /-- It says that there is nothing. -/
  | absence (nothing : entry.data = .negative)

theorem Shrinks.origin {before after : Cache} (shrinks : Shrinks before after) {now : Nat}
    {change : Change} {name : Name} {key : EntryKey} {entry : Entry}
    (found : after.entryAt? name key = some entry) : Origin before now change name key entry := by
  rcases shrinks.entries name key with same | gone
  · exact .stayed (same.symm.trans found)
  · rw [gone] at found
    cases found

/-- An entry that is found after an addition was there before, or is what was added. -/
theorem Settles.entry_cases {before after : Cache} {name other : Name} {key otherKey : EntryKey}
    {result : Option Entry} {entry : Entry} (settles : Settles before after name key result)
    (found : after.entryAt? other otherKey = some entry) :
    before.entryAt? other otherKey = some entry ∨
      name ≈ other ∧ key = otherKey ∧ result = some entry := by
  by_cases there : name ≈ other ∧ key = otherKey
  · obtain ⟨same, rfl⟩ := there
    exact Or.inr ⟨same, rfl, (settles.there other same).symm.trans found⟩
  · rcases settles.elsewhere other otherKey there with stayed | ⟨_, gone⟩
    · exact Or.inl (stayed.symm.trans found)
    · rw [gone] at found
      cases found

theorem settled_cases {standing fresh : Option Entry} {credibility : Credibility} {entry : Entry}
    (found : settled standing fresh credibility = some entry) :
    standing = some entry ∨ fresh = some entry := by
  rcases Option.or_eq_some_iff.mp found with stays | ⟨_, new⟩
  · exact Or.inl (Option.filter_eq_some_iff.mp stays).1
  · exact Or.inr new

theorem entryOfSet?_eq_some {limits : CacheLimits} {now : Nat} {set : RRset}
    {credibility : Credibility} {entry : Entry}
    (kept : entryOfSet? limits now set credibility = some entry) :
    entry = Entry.ofSet set credibility now limits.longestPositive := by
  unfold entryOfSet? at kept
  split at kept
  · cases kept
  · exact (Option.some_inj.mp kept).symm

theorem entryOfAbsence?_eq_some {limits : CacheLimits} {now : Nat} {zoneStart : Option Record}
    {credibility : Credibility} {entry : Entry}
    (kept : entryOfAbsence? limits now zoneStart credibility = some entry) :
    entry.data = .negative := by
  unfold entryOfAbsence? at kept
  split at kept
  · cases kept
  · split at kept
    · cases kept
    · cases kept
      rfl

theorem recordSettled_cases {limits : CacheLimits} {now : Nat} {standing : Option Entry}
    {record : Record} {credibility : Credibility} {entry : Entry}
    (found : recordSettled limits now standing record credibility = some entry) :
    (∃ joined, standing = some joined ∧ joined.credibility = credibility ∧
        entry = joined.joined record) ∨
      standing = some entry ∨
        entry = Entry.ofSet (RRset.ofRecord record) credibility now limits.longestPositive := by
  unfold recordSettled at found
  split at found
  · rename_i joined equal
    obtain ⟨stands, same⟩ := Option.filter_eq_some_iff.mp equal
    exact Or.inl ⟨joined, stands, of_decide_eq_true same, (Option.some_inj.mp found).symm⟩
  · exact Or.inr ((settled_cases found).imp_right entryOfSet?_eq_some)

/-- What every step keeps, and where the entries come from that are found after it. -/
structure Steps (before : Cache) (now : Nat) (change : Change) (after : Cache) : Prop where
  recordClass : after.recordClass = before.recordClass
  tidy : after.shelf.Tidy
  origin : ∀ name key entry, after.entryAt? name key = some entry →
    Origin before now change name key entry

theorem Shrinks.steps {before after : Cache} (shrinks : Shrinks before after) (now : Nat)
    (change : Change) : Steps before now change after :=
  ⟨shrinks.recordClass, shrinks.tidy, fun _ _ _ found => shrinks.origin found⟩

theorem refuse_addRecord {record : Record} (isMeta : record.setType.isMeta = true) (now : Nat)
    (credibility : Credibility) (cache : Cache) :
    (Change.addRecord record credibility).apply now cache = cache := by
  show ((cache.addRecord now record credibility).toOption).getD cache = cache
  unfold addRecord
  rw [if_pos isMeta]
  rfl

/-- What a step comes to that adds a record of a type that is cached. -/
theorem apply_addRecord_settles (tidy : cache.shelf.Tidy) (now : Nat) (record : Record)
    (credibility : Credibility) (cacheable : record.setType.isMeta = false) :
    Settles cache ((Change.addRecord record credibility).apply now cache) (kept record).name
      (.type (kept record).setType)
      (recordSettled cache.limits now
        (cache.live? now (kept record).name (.type (kept record).setType)) (kept record)
        credibility) := by
  obtain ⟨after, added, settles⟩ := addRecord_settles tidy now record credibility cacheable
  show Settles cache (((cache.addRecord now record credibility).toOption).getD cache) _ _ _
  rw [added]
  exact settles

theorem addRecord_steps (tidy : cache.shelf.Tidy) (now : Nat) (record : Record)
    (credibility : Credibility) :
    Steps cache now (.addRecord record credibility)
      ((Change.addRecord record credibility).apply now cache) := by
  cases isMeta : record.setType.isMeta with
  | true =>
    rw [refuse_addRecord isMeta]
    exact ⟨rfl, tidy, fun _ _ _ found => .stayed found⟩
  | false =>
    have settles := apply_addRecord_settles tidy now record credibility isMeta
    refine ⟨settles.recordClass, settles.tidy, fun name key entry found => ?_⟩
    rcases settles.entry_cases found with stayed | ⟨owner, rfl, added⟩
    · exact .stayed stayed
    · rw [live?_congr cache owner] at added
      rcases recordSettled_cases added with ⟨standing, alive, equal, same⟩ | stands | new
      · exact .joined record standing (by rw [equal]) isMeta owner rfl alive same
      · exact .stayed (live?_eq_some_iff.mp stands).1
      · exact .brought _ credibility rfl (by rw [RRset.ofRecord_name]; exact owner)
          (by rw [RRset.ofRecord_type]) new

theorem storeSet_steps (tidy : cache.shelf.Tidy) (now : Nat) (set : RRset)
    (credibility : Credibility) :
    Steps cache now (.storeSet set credibility) (cache.storeSet now set credibility) := by
  have settles := storeSet_settles tidy now set credibility
  refine ⟨settles.recordClass, settles.tidy, fun name key entry found => ?_⟩
  rcases settles.entry_cases found with stayed | ⟨owner, rfl, added⟩
  · exact .stayed stayed
  · rw [live?_congr cache owner] at added
    rcases settled_cases added with stands | new
    · exact .stayed (live?_eq_some_iff.mp stands).1
    · exact .brought set credibility rfl owner rfl (entryOfSet?_eq_some new)

theorem storeAbsence_steps (tidy : cache.shelf.Tidy) (now : Nat) (name : Name) (key : EntryKey)
    (zoneStart : Option Record) (credibility : Credibility) :
    Steps cache now (.storeAbsence name key zoneStart credibility)
      (cache.storeAbsence now name key zoneStart credibility) := by
  have settles := storeAbsence_settles tidy now name key zoneStart credibility
  refine ⟨settles.recordClass, settles.tidy, fun other otherKey entry found => ?_⟩
  rcases settles.entry_cases found with stayed | ⟨owner, rfl, added⟩
  · exact .stayed stayed
  · rw [live?_congr cache owner] at added
    rcases settled_cases added with stands | new
    · exact .stayed (live?_eq_some_iff.mp stands).1
    · exact .absence (entryOfAbsence?_eq_some new)

/-- Where the entries come from that are found after a step, whatever the step is. -/
theorem apply_steps (tidy : cache.shelf.Tidy) (now : Nat) (change : Change) :
    Steps cache now change (change.apply now cache) := by
  cases change with
  | addRecord record credibility => exact addRecord_steps tidy now record credibility
  | storeSet set credibility => exact storeSet_steps tidy now set credibility
  | storeAbsence name key zoneStart credibility =>
    exact storeAbsence_steps tidy now name key zoneStart credibility
  | lookup name type least => exact (lookup_spec tidy now name type least).1.shrinks.steps now _
  | sweepName name => exact (sweepName_fades tidy now name).shrinks.steps now _
  | flushName name => exact (flushName_shrinks tidy name).steps now _
  | flushEntry name key => exact (flushEntry_shrinks tidy name key).steps now _
  | clear => exact clear_shrinks.steps now _
  | setCapacity capacity => exact (setCapacity_shrinks tidy capacity).steps now _
  | _ => exact ⟨rfl, tidy, fun _ _ _ found => .stayed found⟩

theorem Change.applyAll_tidy (tidy : cache.shelf.Tidy) (now : Nat) (changes : List Change) :
    (Change.applyAll now changes cache).shelf.Tidy := by
  induction changes generalizing cache with
  | nil => exact tidy
  | cons change rest inductionHypothesis =>
    exact inductionHypothesis (apply_steps tidy now change).tidy

/-! ### Reachable caches -/

theorem Reachable.tidy (reachable : Reachable cache) : cache.shelf.Tidy := by
  induction reachable with
  | new recordClass limits => exact Shelf.Tidy.nil
  | step reachable now change coherent inductionHypothesis =>
    exact (apply_steps inductionHypothesis now change).tidy

/-- Every set of a cache is coherent and stands in its place: under its owner, and under its type.
-/
def InPlace (cache : Cache) : Prop :=
  ∀ name key entry set, cache.entryAt? name key = some entry → entry.set? = some set →
    set.Coherent ∧ set.name ≈ name ∧ key = .type set.type

theorem Change.brought_coherent {change : Change} (coherent : change.Coherent) {set : RRset}
    {credibility : Credibility} (brings : change.brought? = some (set, credibility)) :
    set.Coherent := by
  cases change with
  | addRecord record _ =>
    cases brings
    exact RRset.ofRecord_coherent _
  | storeSet _ _ =>
    cases brings
    exact coherent
  | _ => cases brings

theorem Entry.set?_eq_some {entry : Entry} {set : RRset} :
    entry.set? = some set ↔ entry.data = .positive set := by
  unfold set?
  cases entry.data with
  | positive other =>
    constructor <;> intro same <;> cases same <;> rfl
  | negative =>
    constructor <;> intro same <;> cases same

/-- The set that a record has joined. -/
theorem Entry.joined_set? {standing : Entry} {record : Record} {set : RRset}
    (found : (standing.joined record).set? = some set) :
    ∃ before, standing.set? = some before ∧
      set = if before.accepts record then before.insert record else before := by
  rw [Entry.set?_eq_some] at found
  unfold joined at found
  dsimp only at found
  split at found
  · rename_i before data
    cases found
    exact ⟨before, Entry.set?_eq_some.mpr data, rfl⟩
  · cases found

/-- One step keeps every set in its place. -/
theorem InPlace.step (inPlace : InPlace cache) (tidy : cache.shelf.Tidy) (now : Nat)
    (change : Change) (coherent : change.Coherent) : InPlace (change.apply now cache) := by
  intro name key entry set found isSet
  cases (apply_steps tidy now change).origin name key entry found with
  | stayed before => exact inPlace name key entry set before isSet
  | brought other credibility brings owner type same =>
    rw [same] at isSet
    cases isSet
    exact ⟨Change.brought_coherent coherent brings, owner, type⟩
  | joined record standing adds cacheable owner type alive same =>
    rw [same] at isSet
    obtain ⟨before, stood, becomes⟩ := Entry.joined_set? isSet
    obtain ⟨wasCoherent, wasOwner, wasType⟩ :=
      inPlace name key standing before (live?_eq_some_iff.mp alive).1 stood
    rw [becomes]
    split
    · rename_i accepted
      rw [RRset.insert_name, RRset.insert_type]
      exact ⟨wasCoherent.insert accepted, wasOwner, wasType⟩
    · exact ⟨wasCoherent, wasOwner, wasType⟩
  | absence nothing =>
    rw [Entry.set?_eq_some, nothing] at isSet
    cases isSet

theorem Reachable.inPlace (reachable : Reachable cache) : InPlace cache := by
  induction reachable with
  | new recordClass limits =>
    intro name key entry set found
    cases found
  | step reachable now change coherent inductionHypothesis =>
    exact inductionHypothesis.step reachable.tidy now change coherent

end StubResolver.Cache
