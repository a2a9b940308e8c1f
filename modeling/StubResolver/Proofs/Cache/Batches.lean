/-
This file says what the batches of a sweep do. A batch goes through its names one by one, and what
that comes to can be said at once: of the slots whose owner it names the expired entries go, a slot
that is left without entries goes too, and all else stays as it is and where it is. The number that
a batch reports is the number of entries that there are fewer.

Since the batches of a sweep are the names of the cache in order, the whole sweep leaves the slots
that have something alive, in the order they were in.
-/

import Mathlib.Data.List.Basic
import StubResolver.Proofs.Cache.Levels

namespace StubResolver.Cache

/-! ### Slots without what has expired -/

theorem Entries.live_live (entries : Entries) (now : Nat) :
    Entries.live (entries.live now) now = entries.live now := by
  simp [Entries.live]

namespace Slot

/-- A slot without its expired entries, unless none are left. -/
def swept? (slot : Slot) (now : Nat) : Option Slot :=
  Shelf.keepUnlessEmpty slot.owner (slot.entries.live now)

/-- A slot after a batch. -/
def passed? (slot : Slot) (now : Nat) (names : List Name) : Option Slot :=
  if ∃ name ∈ names, slot.owner ≈ name then slot.swept? now else some slot

theorem swept?_eq_some {slot after : Slot} {now : Nat} :
    slot.swept? now = some after ↔
      slot.entries.live now ≠ [] ∧ ⟨slot.owner, slot.entries.live now⟩ = after := by
  simp [swept?, Shelf.keepUnlessEmpty]

/-- What was swept once has nothing more to be swept. -/
theorem swept?_bind_swept? (slot : Slot) (now : Nat) :
    ((slot.swept? now).bind fun after => after.swept? now) = slot.swept? now := by
  ext after
  simp only [Option.bind_eq_some_iff, swept?_eq_some]
  constructor
  · rintro ⟨between, ⟨filled, rfl⟩, _, rfl⟩
    exact ⟨filled, by rw [Entries.live_live]⟩
  · rintro ⟨filled, rfl⟩
    exact ⟨_, ⟨filled, rfl⟩, by rwa [Entries.live_live], by rw [Entries.live_live]⟩

@[simp] theorem passed?_nil (slot : Slot) (now : Nat) : slot.passed? now [] = some slot := by
  simp [passed?]

theorem passed?_of_named {slot : Slot} {names : List Name}
    (named : ∃ name ∈ names, slot.owner ≈ name) (now : Nat) :
    slot.passed? now names = slot.swept? now := if_pos named

/-- A batch goes through its names one by one. -/
theorem passed?_cons (slot : Slot) (now : Nat) (name : Name) (rest : List Name) :
    ((slot.passed? now [name]).bind fun after => after.passed? now rest) =
      slot.passed? now (name :: rest) := by
  by_cases here : slot.owner ≈ name
  · rw [passed?_of_named ⟨name, List.mem_singleton_self name, here⟩,
      passed?_of_named ⟨name, List.mem_cons_self, here⟩]
    -- whether the name comes again makes no difference
    refine Eq.trans (Option.bind_congr fun after swept => ?_) (swept?_bind_swept? slot now)
    obtain ⟨filled, rfl⟩ := swept?_eq_some.mp swept
    unfold passed?
    split
    · rfl
    · exact (swept?_eq_some.mpr (by simp [Entries.live_live, filled])).symm
  · simp only [passed?, List.exists_mem_cons_iff, List.not_mem_nil, false_and, exists_false,
      or_false, here, false_or, if_false, Option.bind_some]

theorem owner_of_passed? {slot after : Slot} {now : Nat} {names : List Name}
    (passed : slot.passed? now names = some after) : after.owner = slot.owner := by
  unfold passed? at passed
  split at passed
  · obtain ⟨_, rfl⟩ := swept?_eq_some.mp passed
    rfl
  · cases passed
    rfl

end Slot

namespace Shelf

/-- A shelf after a batch. -/
def passed (shelf : Shelf) (now : Nat) (names : List Name) : Shelf :=
  shelf.filterMap fun slot => slot.passed? now names

/-- The names that are left keep their order. -/
theorem passed_owners (shelf : Shelf) (now : Nat) (names : List Name) :
    ((shelf.passed now names).map Slot.owner).Sublist (shelf.map Slot.owner) :=
  shelf.owners_filterMap fun _ _ passed => Slot.owner_of_passed? passed

/-- Changing the entries of a name changes the number of entries by as much as that of the name. -/
theorem entryCount_reshape {shelf : Shelf} (tidy : shelf.Tidy) {name : Name} {slot : Slot}
    (found : shelf.slot? name = some slot) (change : Entries → Entries) :
    (shelf.reshape name change).entryCount + slot.entries.length =
      shelf.entryCount + (change slot.entries).length := by
  induction shelf with
  | nil => cases found
  | cons head rest inductionHypothesis =>
    by_cases same : head.owner ≈ name
    · rw [slot?_cons, if_pos same] at found
      obtain rfl := Option.some_inj.mp found
      rw [reshape_cons_same same (tidy.absent_of_cons same)]
      split
      · rename_i empty
        rw [List.isEmpty_iff.mp empty]
        simp only [entryCount, List.length_nil]
        omega
      · simp only [entryCount]
        omega
    · rw [slot?_cons, if_neg same] at found
      rw [reshape_cons_other same]
      simp only [entryCount]
      have others := inductionHypothesis tidy.tail found
      omega

/-- Sweeping a name leaves as many entries fewer as had expired there. -/
theorem entryCount_reshape_live {shelf : Shelf} (tidy : shelf.Tidy) (now : Nat) {name : Name}
    {slot : Slot} (found : shelf.slot? name = some slot) :
    slot.entries.length - (slot.entries.live now).length +
        (shelf.reshape name fun entries => entries.live now).entryCount =
      shelf.entryCount := by
  have reshaped := entryCount_reshape tidy found fun entries => entries.live now
  have fewer : (slot.entries.live now).length ≤ slot.entries.length := List.length_filter_le _ _
  omega

end Shelf

/-! ### Batches -/

variable {cache : Cache}

/-- Sweeping a name changes slots, and nothing else. -/
theorem sweepName_eq (cache : Cache) (now : Nat) (name : Name) :
    (cache.sweepName now name).2 = { cache with shelf := cache.shelf.passed now [name] } := by
  have reshaped : cache.shelf.passed now [name] =
      cache.shelf.reshape name fun entries => entries.live now := by
    unfold Shelf.passed Shelf.reshape
    simp only [Slot.passed?, List.mem_singleton, exists_eq_left]
    rfl
  rw [reshaped]
  unfold sweepName
  split
  · rfl
  · rename_i absent
    rw [Shelf.reshape_of_absent]
    intro slot member
    simpa using List.find?_eq_none.mp absent slot member

/-- So does a batch. -/
theorem sweepNames_snd (cache : Cache) (now : Nat) (names : List Name) :
    (cache.sweepNames now names).2 = { cache with shelf := cache.shelf.passed now names } := by
  induction names generalizing cache with
  | nil =>
    show cache = _
    simp [Shelf.passed]
  | cons name rest inductionHypothesis =>
    show ((cache.sweepName now name).2.sweepNames now rest).2 = _
    rw [inductionHypothesis, sweepName_eq]
    simp only [Shelf.passed, List.filterMap_filterMap, Slot.passed?_cons]

/-- Sweeping a name is visiting it, but for the counters. -/
theorem sweepName_visits (tidy : cache.shelf.Tidy) (now : Nat) (name : Name) :
    Visits now [name] cache (cache.sweepName now name).2 := by
  have visited := (visit_visits tidy now name).withMetrics cache.metrics
  have same : (cache.sweepName now name).2 =
      { (cache.visit now name).1 with metrics := cache.metrics } := by
    unfold sweepName visit
    cases cache.shelf.slot? name <;> rfl
  rwa [same]

/-- Of the entries of its names a batch drops those that have expired, and it leaves all others. -/
theorem sweepNames_visits (tidy : cache.shelf.Tidy) (now : Nat) (names : List Name) :
    Visits now names cache (cache.sweepNames now names).2 := by
  induction names generalizing cache with
  | nil => exact .refl tidy
  | cons name rest inductionHypothesis =>
    have first := sweepName_visits tidy now name
    exact first.trans (inductionHypothesis first.tidy)

theorem sweepName_removes (tidy : cache.shelf.Tidy) (now : Nat) (name : Name) :
    (cache.sweepName now name).1 + (cache.sweepName now name).2.entryCount = cache.entryCount := by
  unfold sweepName
  split
  · rename_i slot found
    exact Shelf.entryCount_reshape_live tidy now found
  · exact Nat.zero_add _

/-- A batch reports how many entries there are fewer. -/
theorem sweepNames_removes (tidy : cache.shelf.Tidy) (now : Nat) (names : List Name) :
    (cache.sweepNames now names).1 + (cache.sweepNames now names).2.entryCount =
      cache.entryCount := by
  induction names generalizing cache with
  | nil => exact Nat.zero_add _
  | cons name rest inductionHypothesis =>
    have first := sweepName_removes tidy now name
    have others := inductionHypothesis (sweepName_visits tidy now name).tidy
    show (cache.sweepName now name).1 + ((cache.sweepName now name).2.sweepNames now rest).1 +
      ((cache.sweepName now name).2.sweepNames now rest).2.entryCount = _
    omega

/-! ### Whole sweeps -/

/-- A sweep without interruption leaves the slots that have something alive. -/
theorem sweep_shelf (cache : Cache) (now : Nat) :
    (cache.sweep now).2.shelf = cache.shelf.filterMap fun slot => slot.swept? now := by
  have swept : (cache.sweep now).2.shelf = (cache.sweepNames now cache.names).2.shelf := by
    show (cache.sweepBatches now (batches cache.names)).2.shelf = _
    rw [sweepBatches_eq, flatten_batches, ← sweepNames_eq]
  rw [swept, sweepNames_snd]
  refine List.filterMap_congr fun slot member => Slot.passed?_of_named ?_ now
  exact ⟨slot.owner, List.mem_map_of_mem member, Setoid.refl _⟩

/-- Their names are in the order they were in. -/
theorem sweep_names (cache : Cache) (now : Nat) :
    (cache.sweep now).2.names =
      (cache.shelf.filter fun slot => slot.entries.live now ≠ []).map Slot.owner := by
  unfold names
  rw [sweep_shelf]
  induction cache.shelf with
  | nil => rfl
  | cons slot rest inductionHypothesis =>
    by_cases alive : slot.entries.live now = []
    · have gone : slot.swept? now = none := by simp [Slot.swept?, Shelf.keepUnlessEmpty, alive]
      rw [List.filter_cons_of_neg (by simpa using alive), ← inductionHypothesis]
      simp only [List.filterMap_cons, gone]
    · have stays : slot.swept? now = some ⟨slot.owner, slot.entries.live now⟩ :=
        Slot.swept?_eq_some.mpr ⟨alive, rfl⟩
      rw [List.filter_cons_of_pos (by simpa using alive), List.map_cons, ← inductionHypothesis]
      simp only [List.filterMap_cons, stays, List.map_cons]

end StubResolver.Cache
