/-
This file takes the operations that a cache offers apart into steps. The operations are many and
some of them do much at once: a response is a number of writes, a sweep goes through all names. Each
is the sequence of its steps, so that what holds of steps holds of operations.
-/

import StubResolver.Cache.Ingest
import StubResolver.Proofs.Cache.Change
import StubResolver.Proofs.Cache.Digest

namespace StubResolver.Cache

/-! ### Operations -/

/-- What a cache offers to those who use it. -/
inductive Operation where
  | addRecord (record : Record) (credibility : Credibility)
  | addSet (set : RRset) (credibility : Credibility)
  | addAbsence (name : Name) (key : EntryKey) (zoneStart : Option Record)
      (credibility : Credibility)
  | preload (records : List (Record × Credibility))
  | ingest (message : Message)
  | lookup (name : Name) (type : RecordType) (least : Credibility)
  | sweepNames (names : List Name)
  | sweep
  | flushName (name : Name)
  | flushEntry (name : Name) (key : EntryKey)
  | clear
  | setCapacity (capacity : Nat)
  | setLongestPositive (longest : Option UInt32)
  | setLongestNegative (longest : UInt32)

namespace Operation

/-- The cache after an operation at a given time. What an operation refuses leaves the cache as it
is. -/
def apply (operation : Operation) (now : Nat) (cache : Cache) : Cache :=
  match operation with
  | addRecord record credibility => ((cache.addRecord now record credibility).toOption).getD cache
  | addSet set credibility => ((cache.addSet now set credibility).toOption).getD cache
  | addAbsence name key zoneStart credibility =>
    ((cache.addAbsence now name key zoneStart credibility).toOption).getD cache
  | preload records => (cache.preload now records).2
  | ingest message => (cache.ingestResponse now message).2
  | lookup name type least => (cache.lookup now name type least).2
  | sweepNames names => (cache.sweepNames now names).2
  | sweep => (cache.sweep now).2
  | flushName name => cache.flushName name
  | flushEntry name key => cache.flushEntry name key
  | clear => cache.clear
  | setCapacity capacity => cache.setCapacity capacity
  | setLongestPositive longest => cache.setLongestPositive longest
  | setLongestNegative longest => cache.setLongestNegative longest

/-- The set that an operation is given, if it is given one, is put together as sets are. -/
def Coherent : Operation → Prop
  | addSet set _ => set.Coherent
  | _ => True

end Operation

/-- A write as a step. -/
def Change.ofWrite : Write → Change
  | .set set credibility => .storeSet set credibility
  | .absence name key zoneStart credibility => .storeAbsence name key zoneStart credibility

/-- Records up to the first that is refused, each added in a step. -/
def Change.ofRecords (records : List (Record × Credibility)) : List Change :=
  (records.takeWhile fun pair => !pair.1.setType.isMeta).map fun pair => .addRecord pair.1 pair.2

/-- The steps that an operation is made of. -/
def Operation.changes (operation : Operation) (now : Nat) (cache : Cache) : List Change :=
  match operation with
  | addRecord record credibility => [.addRecord record credibility]
  | addSet set credibility =>
    if set.type.isMeta then [] else [.storeSet set.toAbsolute credibility]
  | addAbsence name key zoneStart credibility =>
    if key = .type .any then [] else [.storeAbsence name.toAbsolute key zoneStart credibility]
  | preload records => Change.ofRecords records
  | ingest message => ((digest? message).map fun digest => digest.writes.map Change.ofWrite).getD []
  | lookup name type least => [.lookup name type least]
  | sweepNames names => names.map Change.sweepName
  | sweep => cache.names.map Change.sweepName ++
      [.countSweep (cache.sweepBatches now (batches cache.names)).1]
  | flushName name => [.flushName name]
  | flushEntry name key => [.flushEntry name key]
  | clear => [.clear]
  | setCapacity capacity => [.setCapacity capacity]
  | setLongestPositive longest => [.setLongestPositive longest]
  | setLongestNegative longest => [.setLongestNegative longest]

theorem writeAll_eq (cache : Cache) (now : Nat) (writes : List Write) :
    cache.writeAll now writes = Change.applyAll now (writes.map Change.ofWrite) cache := by
  induction writes generalizing cache with
  | nil => rfl
  | cons write rest inductionHypothesis =>
    have first : cache.write now write = (Change.ofWrite write).apply now cache := by
      cases write <;> rfl
    unfold writeAll at inductionHypothesis ⊢
    rw [List.foldl_cons, inductionHypothesis, first]
    rfl

theorem preload_eq (cache : Cache) (now : Nat) (records : List (Record × Credibility)) :
    (cache.preload now records).2 = Change.applyAll now (Change.ofRecords records) cache := by
  induction records generalizing cache with
  | nil => rfl
  | cons pair rest inductionHypothesis =>
    obtain ⟨record, credibility⟩ := pair
    unfold preload Change.ofRecords
    by_cases isMeta : record.setType.isMeta = true
    · have refused : cache.addRecord now record credibility =
          .error (refuseMeta record.setType) := by
        unfold addRecord
        rw [if_pos isMeta]
      rw [refused, List.takeWhile_cons_of_neg (by simpa using isMeta)]
      rfl
    · have cacheable := Bool.eq_false_iff.mpr isMeta
      have added := addRecord_eq cache now record credibility cacheable
      have applied : (Change.addRecord record credibility).apply now cache =
          (cache.dropExpired now (kept record).name (.type (kept record).setType)).addToStanding now
            (kept record) credibility := by
        show ((cache.addRecord now record credibility).toOption).getD cache = _
        rw [added]
        rfl
      rw [List.takeWhile_cons_of_pos (by simpa using cacheable), List.map_cons, added]
      unfold Change.applyAll
      rw [List.foldl_cons, applied]
      exact inductionHypothesis _

theorem sweepNames_eq (cache : Cache) (now : Nat) (names : List Name) :
    (cache.sweepNames now names).2 = Change.applyAll now (names.map Change.sweepName) cache := by
  induction names generalizing cache with
  | nil => rfl
  | cons name rest inductionHypothesis => exact inductionHypothesis (cache.sweepName now name).2

theorem sweepBatches_eq (cache : Cache) (now : Nat) (batches : List (List Name)) :
    (cache.sweepBatches now batches).2 =
      Change.applyAll now (batches.flatten.map Change.sweepName) cache := by
  induction batches generalizing cache with
  | nil => rfl
  | cons batch rest inductionHypothesis =>
    rw [List.flatten_cons, List.map_append, Change.applyAll_append, ← sweepNames_eq cache]
    exact inductionHypothesis (cache.sweepNames now batch).2

/-- Batches are the names in order. -/
theorem flatten_batches (names : List Name) : (batches names).flatten = names := by
  induction names using batches.induct with
  | case1 names empty =>
    rw [batches, if_pos empty, List.isEmpty_iff.mp empty]
    rfl
  | case2 names filled inductionHypothesis =>
    rw [batches, if_neg filled, List.flatten_cons, inductionHypothesis, List.take_append_drop]

/-- Every operation is the sequence of its steps. -/
theorem Operation.apply_eq (operation : Operation) (now : Nat) (cache : Cache) :
    operation.apply now cache = Change.applyAll now (operation.changes now cache) cache := by
  cases operation with
  | preload records => exact preload_eq cache now records
  | ingest message =>
    show (cache.ingestResponse now message).2 = Change.applyAll now
      (((digest? message).map fun digest => digest.writes.map Change.ofWrite).getD []) cache
    unfold ingestResponse
    cases digest? message with
    | none => rfl
    | some digest => exact writeAll_eq cache now digest.writes
  | sweepNames names => exact sweepNames_eq cache now names
  | sweep =>
    show (cache.sweepBatches now (batches cache.names)).2.countSweep _ =
      Change.applyAll now (cache.names.map Change.sweepName ++ [.countSweep _]) cache
    rw [Change.applyAll_append, sweepBatches_eq, flatten_batches]
    rfl
  | addSet set credibility =>
    show ((cache.addSet now set credibility).toOption).getD cache = Change.applyAll now
      (if set.type.isMeta then [] else [.storeSet set.toAbsolute credibility]) cache
    unfold Cache.addSet
    split <;> rfl
  | addAbsence name key zoneStart credibility =>
    show ((cache.addAbsence now name key zoneStart credibility).toOption).getD cache =
      Change.applyAll now (if key = .type .any then []
        else [.storeAbsence name.toAbsolute key zoneStart credibility]) cache
    unfold Cache.addAbsence
    split <;> rfl
  | _ => rfl

namespace Operation

variable {cache : Cache} {now : Nat} {change : Change}

/-- Adding a set takes one step, if it takes any. -/
theorem mem_changes_addSet {set : RRset} {credibility : Credibility}
    (member : change ∈ (addSet set credibility).changes now cache) :
    change = .storeSet set.toAbsolute credibility := by
  unfold changes at member
  dsimp only at member
  split at member
  · cases member
  · exact List.mem_singleton.mp member

/-- So does adding an absence. -/
theorem mem_changes_addAbsence {name : Name} {key : EntryKey} {zoneStart : Option Record}
    {credibility : Credibility}
    (member : change ∈ (addAbsence name key zoneStart credibility).changes now cache) :
    change = .storeAbsence name.toAbsolute key zoneStart credibility := by
  unfold changes at member
  dsimp only at member
  split at member
  · cases member
  · exact List.mem_singleton.mp member

/-- Learning from a response takes steps that write what is drawn from it. -/
theorem mem_changes_ingest {message : Message}
    (member : change ∈ (ingest message).changes now cache) :
    ∃ question write, message.question = some question ∧ change = .ofWrite write ∧
      write.DrawnFrom message question.recordClass := by
  unfold changes at member
  dsimp only at member
  cases said : digest? message with
  | none =>
    rw [said] at member
    cases member
  | some digest =>
    rw [said] at member
    obtain ⟨write, written, rfl⟩ := List.mem_map.mp member
    obtain ⟨question, asked, _, drawn⟩ := digest?_drawn said
    exact ⟨question, write, asked, rfl, drawn write written⟩

/-- The steps that an operation can take, whatever the cache and the time. -/
inductive Takes : Operation → Change → Prop where
  | addRecord (record : Record) (credibility : Credibility) :
      Takes (.addRecord record credibility) (.addRecord record credibility)
  | addSet (set : RRset) (credibility : Credibility) (cacheable : set.type.isMeta = false) :
      Takes (.addSet set credibility) (.storeSet set.toAbsolute credibility)
  | addAbsence (name : Name) (key : EntryKey) (zoneStart : Option Record)
      (credibility : Credibility) (single : key ≠ .type .any) :
      Takes (.addAbsence name key zoneStart credibility)
        (.storeAbsence name.toAbsolute key zoneStart credibility)
  | preload (records : List (Record × Credibility)) (pair : Record × Credibility)
      (member : pair ∈ records) : Takes (.preload records) (.addRecord pair.1 pair.2)
  | ingest (message : Message) (question : Question) (write : Write)
      (asked : message.question = some question) (cacheable : message.result.isCacheable = true)
      (written : write ∈ (digestFor message question).writes) :
      Takes (.ingest message) (.ofWrite write)
  | lookup (name : Name) (type : RecordType) (least : Credibility) :
      Takes (.lookup name type least) (.lookup name type least)
  | sweepNames (names : List Name) (name : Name) (member : name ∈ names) :
      Takes (.sweepNames names) (.sweepName name)
  | sweep (name : Name) : Takes .sweep (.sweepName name)
  | countSweep (removed : Nat) : Takes .sweep (.countSweep removed)
  | flushName (name : Name) : Takes (.flushName name) (.flushName name)
  | flushEntry (name : Name) (key : EntryKey) : Takes (.flushEntry name key) (.flushEntry name key)
  | clear : Takes .clear .clear
  | setCapacity (capacity : Nat) : Takes (.setCapacity capacity) (.setCapacity capacity)
  | setLongestPositive (longest : Option UInt32) :
      Takes (.setLongestPositive longest) (.setLongestPositive longest)
  | setLongestNegative (longest : UInt32) :
      Takes (.setLongestNegative longest) (.setLongestNegative longest)

/-- An operation takes no other steps. -/
theorem takes_of_mem_changes {operation : Operation} (member : change ∈ operation.changes now cache) :
    operation.Takes change := by
  cases operation with
  | addSet set credibility =>
    by_cases isMeta : set.type.isMeta = true
    · simp [changes, isMeta] at member
    · rw [mem_changes_addSet member]
      exact .addSet set credibility (Bool.eq_false_iff.mpr isMeta)
  | addAbsence name key zoneStart credibility =>
    by_cases all : key = .type .any
    · simp [changes, all] at member
    · rw [mem_changes_addAbsence member]
      exact .addAbsence name key zoneStart credibility all
  | preload records =>
    obtain ⟨pair, taken, rfl⟩ := List.mem_map.mp member
    exact .preload records pair ((List.takeWhile_sublist _).subset taken)
  | ingest message =>
    cases said : digest? message with
    | none => simp [changes, said] at member
    | some digest =>
      simp only [changes, said, Option.map_some, Option.getD_some] at member
      obtain ⟨write, written, rfl⟩ := List.mem_map.mp member
      obtain ⟨question, asked, cacheable, rfl⟩ := digest?_eq_some said
      exact .ingest message question write asked cacheable written
  | sweepNames names =>
    obtain ⟨name, listed, rfl⟩ := List.mem_map.mp member
    exact .sweepNames names name listed
  | sweep =>
    rcases List.mem_append.mp member with swept | counted
    · obtain ⟨name, _, rfl⟩ := List.mem_map.mp swept
      exact .sweep name
    · exact List.mem_singleton.mp counted ▸ .countSweep _
  | addRecord record credibility => exact List.mem_singleton.mp member ▸ .addRecord _ _
  | lookup name type least => exact List.mem_singleton.mp member ▸ .lookup _ _ _
  | flushName name => exact List.mem_singleton.mp member ▸ .flushName _
  | flushEntry name key => exact List.mem_singleton.mp member ▸ .flushEntry _ _
  | clear => exact List.mem_singleton.mp member ▸ .clear
  | setCapacity capacity => exact List.mem_singleton.mp member ▸ .setCapacity _
  | setLongestPositive longest => exact List.mem_singleton.mp member ▸ .setLongestPositive _
  | setLongestNegative longest => exact List.mem_singleton.mp member ▸ .setLongestNegative _

end Operation

/-- The sets that the steps of an operation bring are put together as sets are. -/
theorem Operation.changes_coherent {operation : Operation} (coherent : operation.Coherent)
    (now : Nat) (cache : Cache) : ∀ change ∈ operation.changes now cache, change.Coherent := by
  intro change member
  cases operation with
  | addSet set credibility =>
    rw [Operation.mem_changes_addSet member]
    exact RRset.Coherent.toAbsolute coherent
  | addAbsence name key zoneStart credibility =>
    rw [Operation.mem_changes_addAbsence member]
    exact trivial
  | preload records =>
    obtain ⟨pair, _, rfl⟩ := List.mem_map.mp member
    exact trivial
  | ingest message =>
    obtain ⟨_, write, _, rfl, drawn⟩ := Operation.mem_changes_ingest member
    cases write with
    | absence name key zoneStart credibility => exact trivial
    | set set credibility =>
      obtain ⟨_, part, present⟩ := drawn.drawn set rfl
      exact Message.sets_coherent message part set present
  | sweepNames names =>
    obtain ⟨name, _, rfl⟩ := List.mem_map.mp member
    exact trivial
  | sweep =>
    rcases List.mem_append.mp member with swept | counted
    · obtain ⟨name, _, rfl⟩ := List.mem_map.mp swept
      exact trivial
    · rw [List.mem_singleton.mp counted]
      exact trivial
  | _ =>
    rw [List.mem_singleton.mp member]
    exact trivial

/-- No operation makes a cache one of another class. -/
theorem Operation.apply_recordClass {cache : Cache} (tidy : cache.shelf.Tidy) (now : Nat)
    (operation : Operation) : (operation.apply now cache).recordClass = cache.recordClass := by
  rw [operation.apply_eq]
  generalize operation.changes now cache = changes
  induction changes generalizing cache with
  | nil => rfl
  | cons change rest inductionHypothesis =>
    have first := apply_steps tidy now change
    exact (inductionHypothesis first.tidy).trans first.recordClass

theorem Operation.apply_tidy {cache : Cache} (tidy : cache.shelf.Tidy) (now : Nat)
    (operation : Operation) : (operation.apply now cache).shelf.Tidy := by
  rw [operation.apply_eq]
  exact Change.applyAll_tidy tidy now _

/-- Operations lead from reachable caches to reachable ones. -/
theorem Reachable.operation {cache : Cache} (reachable : Reachable cache) (now : Nat)
    (operation : Operation) (coherent : operation.Coherent) :
    Reachable (operation.apply now cache) := by
  rw [operation.apply_eq]
  exact reachable.applyAll now _ (operation.changes_coherent coherent now cache)

end StubResolver.Cache
