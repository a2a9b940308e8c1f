/-
This file proves which names make room when a cache has room for a limited number of them. A cache
keeps no times of use. It keeps its names in an order, and whatever is done to it moves a name to
the front, takes names out, or does neither. What has to be proved is that the order is right after
any history, and that it is the order of what counts as a use: an entry installed at a name, and a
lookup of exactly this name that finds it. All else leaves the order as it is, though it may drop
entries and names: an ancestor visited on the way, a sweep, a record that joins a set, a lookup of
another name.

The last uses are counted on the history and not on the cache. A step of the history is one addition
and not one operation, since a response is learned from in many additions, and one that comes later
may push out the name of an earlier one.
-/

import Mathlib.Data.List.Induction
import StubResolver.Proofs.Cache.Absences

namespace StubResolver.Cache

/-! ### Histories -/

namespace Change

/-- Steps leave a cache with room for its names, as one step does. -/
theorem run_hasRoom {cache : Cache} (tidy : cache.shelf.Tidy) (room : cache.HasRoom)
    (steps : List (Nat × Change)) : (run steps cache).HasRoom := by
  induction steps generalizing cache with
  | nil => exact room
  | cons step rest inductionHypothesis =>
    exact inductionHypothesis (apply_steps tidy step.1 step.2).tidy
      (apply_hasRoom tidy room step.1 step.2)

/-! ### Uses -/

/-- Whether a step uses a name. A lookup uses the name that is looked up, if it is there; a step
that adds uses the name that it adds at, if it counts an insertion. -/
def uses (change : Change) (now : Nat) (cache : Cache) (name : Name) : Bool :=
  match change with
  | lookup asked _ _ => asked.toAbsolute ≈ name ∧ (cache.shelf.slot? name).isSome
  | _ => change.addsAt?.any (· ≈ name) ∧
      (change.apply now cache).metrics.insertions ≠ cache.metrics.insertions

/-- The number of the step that uses a name last, counted from one. It is zero if none does. -/
def lastUse : List (Nat × Change) → Cache → Name → Nat
  | [], _, _ => 0
  | (now, change) :: rest, cache, name =>
    let later := lastUse rest (change.apply now cache) name
    if later ≠ 0 then later + 1 else if change.uses now cache name then 1 else 0

theorem lastUse_concat (steps : List (Nat × Change)) (now : Nat) (change : Change) (cache : Cache)
    (name : Name) :
    lastUse (steps ++ [(now, change)]) cache name =
      if change.uses now (run steps cache) name then steps.length + 1
      else lastUse steps cache name := by
  induction steps generalizing cache with
  | nil => simp [lastUse, run]
  | cons step rest inductionHypothesis =>
    obtain ⟨time, first⟩ := step
    have others := inductionHypothesis (first.apply time cache)
    rw [List.cons_append, lastUse, others, lastUse]
    have later : run ((time, first) :: rest) cache = run rest (first.apply time cache) := rfl
    rw [later]
    split <;> simp

theorem lastUse_le (steps : List (Nat × Change)) (cache : Cache) (name : Name) :
    lastUse steps cache name ≤ steps.length := by
  induction steps generalizing cache with
  | nil => exact Nat.le_refl _
  | cons step rest inductionHypothesis =>
    have later := inductionHypothesis (step.2.apply step.1 cache)
    rw [lastUse, List.length_cons]
    split <;> [skip; split] <;> omega

end Change

/-! ### Names that stay in order -/

variable {cache : Cache}

/-- No name has come or has moved. -/
def Thins (before after : Cache) : Prop := after.names.Sublist before.names

theorem dropExpired_thins (cache : Cache) (now : Nat) (name : Name) (key : EntryKey) :
    Thins cache (cache.dropExpired now name key) := by
  unfold dropExpired
  split
  · split
    · exact Shelf.owners_reshape _ _ _
    · exact .refl _
  · exact .refl _

theorem displace_thins (cache : Cache) (name : Name) (key : EntryKey) (credibility : Credibility) :
    Thins cache (cache.displace name key credibility) := by
  unfold displace
  split
  · split
    · exact Shelf.owners_reshape _ _ _
    · exact .refl _
  · exact .refl _

theorem thins_steady : Steady Thins where
  refl := fun _ => .refl _
  trans := fun first second => second.trans first
  dropExpired := dropExpired_thins
  displace := displace_thins
  joinSet := fun _ _ _ _ => Shelf.owners_reshape _ _ _

theorem visit_thins (cache : Cache) (now : Nat) (name : Name) :
    Thins cache (cache.visit now name).1 := by
  unfold visit
  split
  · exact Shelf.owners_reshape _ _ _
  · exact .refl _

theorem searchAncestors_thins (cache : Cache) (now : Nat) (least : Credibility)
    (names : List Name) : Thins cache (cache.searchAncestors now least names).2 := by
  induction names generalizing cache with
  | nil => exact .refl _
  | cons name rest inductionHypothesis =>
    have visited := visit_thins cache now name
    unfold searchAncestors
    dsimp only
    split
    · exact visited
    · exact (inductionHypothesis _).trans visited

/-- A lookup moves no name but the one that is looked up. -/
theorem lookup_thins (cache : Cache) (now : Nat) (name : Name) (type : RecordType)
    (least : Credibility) :
    Thins { cache with shelf := cache.shelf.promote name.toAbsolute }
      (cache.lookup now name type least).2 := by
  have visited := visit_thins { cache with shelf := cache.shelf.promote name.toAbsolute } now
    name.toAbsolute
  unfold lookup search
  dsimp only
  split
  · exact visited
  · exact (searchAncestors_thins _ now least _).trans visited

theorem sweepName_thins (cache : Cache) (now : Nat) (name : Name) :
    Thins cache (cache.sweepName now name).2 := by
  unfold sweepName
  split
  · exact Shelf.owners_reshape _ _ _
  · exact .refl _

theorem setCapacity_thins (cache : Cache) (capacity : Nat) :
    Thins cache (cache.setCapacity capacity) := by
  show ((cache.shelf.fit capacity).map Slot.owner).Sublist _
  unfold Shelf.fit
  split
  · exact .refl _
  · exact (List.take_sublist _ _).map _

/-- Of the names, one is moved to the front or comes there. -/
def Fronts (name : Name) (before after : Cache) : Prop :=
  ∃ owner, owner ≈ name ∧
    after.names.Sublist (owner :: before.names.filter fun other => !decide (other ≈ name))

theorem Thins.fronts {before middle after : Cache} {name : Name} (thins : Thins middle after)
    (fronts : Fronts name before middle) : Fronts name before after := by
  obtain ⟨owner, same, moved⟩ := fronts
  exact ⟨owner, same, thins.trans moved⟩

theorem Shelf.owners_eraseName (shelf : Shelf) (name : Name) :
    (shelf.eraseName name).map Slot.owner =
      (shelf.map Slot.owner).filter fun other => !decide (other ≈ name) := by
  unfold eraseName
  rw [List.filter_map]
  rfl

theorem promote_fronts {name : Name} (held : (cache.shelf.slot? name).isSome = true) :
    Fronts name cache { cache with shelf := cache.shelf.promote name } := by
  obtain ⟨slot, found⟩ := Option.isSome_iff_exists.mp held
  refine ⟨slot.owner, Shelf.owner_of_slot? found, ?_⟩
  show ((cache.shelf.promote name).map Slot.owner).Sublist _
  unfold Shelf.promote
  rw [found]
  dsimp only
  rw [List.map_cons, Shelf.owners_eraseName]
  exact .refl _

theorem install_fronts (cache : Cache) (name : Name) (key : EntryKey) (entry : Entry) :
    Fronts name cache (cache.install name key entry) := by
  show ∃ owner, owner ≈ name ∧
    ((cache.shelf.install cache.limits.capacity name key entry).map Slot.owner).Sublist _
  unfold Shelf.install
  split
  · rename_i slot found
    refine ⟨slot.owner, Shelf.owner_of_slot? found, ?_⟩
    rw [List.map_cons, Shelf.owners_eraseName]
    exact .refl _
  · rename_i absent
    refine ⟨name, Setoid.refl name, ?_⟩
    have others : (cache.names.filter fun other => !decide (other ≈ name)) = cache.names := by
      refine List.filter_eq_self.mpr fun other member => ?_
      obtain ⟨slot, present, rfl⟩ := List.mem_map.mp member
      simpa using List.find?_eq_none.mp absent slot present
    rw [others]
    unfold Shelf.fit
    split
    · exact .refl _
    · exact (List.take_sublist _ _).map _

theorem Installs.fronts {now : Nat} {after : Cache} {name : Name} {key : EntryKey} {entry : Entry}
    (installs : Installs now cache after name key entry) : Fronts name cache after := by
  unfold Installs at installs
  obtain ⟨owner, same, moved⟩ := install_fronts (cache.dropExpired now name key) name key entry
  refine ⟨owner, same, ?_⟩
  rw [installs]
  exact moved.trans (((dropExpired_thins cache now name key).filter _).cons_cons _)

/-! ### What a step uses -/

theorem Shelf.slot?_congr (shelf : Shelf) {name other : Name} (same : name ≈ other) :
    shelf.slot? name = shelf.slot? other := by
  unfold slot?
  congr 1
  funext slot
  exact decide_eq_decide.mpr ⟨fun owner => Setoid.trans owner same,
    fun owner => Setoid.trans owner (Setoid.symm same)⟩

namespace Change

variable {now : Nat} {change : Change} {name : Name}

theorem uses_of_adds {place : Name} (adds : change.addsAt? = some place) :
    change.uses now cache name = decide (place ≈ name ∧
      (change.apply now cache).metrics.insertions ≠ cache.metrics.insertions) := by
  cases change <;> cases adds <;> simp [uses, addsAt?]

/-- A step that installs nothing uses nothing, unless it is a lookup. -/
theorem not_uses_of_quiet (quiet : Quiet cache (change.apply now cache))
    (noLookup : ∀ asked type least, change ≠ .lookup asked type least) :
    change.uses now cache name = false := by
  unfold uses
  split
  · exact absurd rfl (noLookup _ _ _)
  · exact decide_eq_false fun uses => uses.2 quiet.insertions

/-- A step that installs an entry uses its name. -/
theorem uses_iff_of_installs (tidy : cache.shelf.Tidy) {key : EntryKey} {entry : Entry}
    (installs : Installs now cache (change.apply now cache) name key entry) (other : Name) :
    change.uses now cache other = true ↔ name ≈ other := by
  have counted := (installs.found tidy).2
  have loud : ¬ Quiet cache (change.apply now cache) := by
    intro quiet
    rw [quiet.insertions] at counted
    omega
  cases adds : change.addsAt? with
  | none => exact absurd (apply_quiet cache now adds) loud
  | some place =>
    obtain ⟨_, _, also⟩ := (quiet_steady.addition tidy now adds).resolve_left loud
    have same := (installs.unique also).1
    rw [uses_of_adds adds, decide_eq_true_iff]
    refine ⟨fun uses => Setoid.trans same uses.1, fun named => ⟨?_, by omega⟩⟩
    exact Setoid.trans (Setoid.symm same) named

/-- A step uses a name if it installs an entry at it, or if it is a lookup of it that finds it. -/
theorem uses_iff (tidy : cache.shelf.Tidy) : change.uses now cache name = true ↔
    (∃ owner key entry, owner ≈ name ∧
        Installs now cache (change.apply now cache) owner key entry) ∨
      ∃ asked type least, change = .lookup asked type least ∧ asked.toAbsolute ≈ name ∧
        (cache.shelf.slot? name).isSome = true := by
  constructor
  · intro used
    cases adds : change.addsAt? with
    | some place =>
      rw [uses_of_adds adds, decide_eq_true_iff] at used
      obtain ⟨key, entry, installs⟩ := (quiet_steady.addition tidy now adds).resolve_left
        fun quiet => used.2 quiet.insertions
      exact Or.inl ⟨place, key, entry, used.1, installs⟩
    | none =>
      by_cases isLookup : ∃ asked type least, change = .lookup asked type least
      · obtain ⟨asked, type, least, rfl⟩ := isLookup
        exact Or.inr ⟨asked, type, least, rfl, of_decide_eq_true used⟩
      · have unused : change.uses now cache name = false :=
          not_uses_of_quiet (apply_quiet cache now adds)
            fun asked type least same => isLookup ⟨asked, type, least, same⟩
        exact absurd (unused.symm.trans used) Bool.false_ne_true
  · rintro (⟨owner, _, _, same, installs⟩ | ⟨asked, type, least, rfl, found⟩)
    · exact (uses_iff_of_installs tidy installs name).mpr same
    · exact decide_eq_true found

/-- A step that neither adds nor looks up leaves the names in order. -/
theorem apply_thins (adds : change.addsAt? = none)
    (noLookup : ∀ asked type least, change ≠ .lookup asked type least) :
    Thins cache (change.apply now cache) := by
  cases change with
  | sweepName name => exact sweepName_thins cache now name
  | flushName name => exact List.filter_sublist.map _
  | flushEntry name key => exact Shelf.owners_reshape _ _ _
  | clear => exact List.nil_sublist _
  | setCapacity capacity => exact setCapacity_thins cache capacity
  | lookup asked type least => exact absurd rfl (noLookup asked type least)
  | countSweep removed => exact .refl _
  | setLongestPositive longest => exact .refl _
  | setLongestNegative longest => exact .refl _
  | _ => cases adds

/-- What a step does to the order of the names: the one that it uses comes to the front, and the
others stay in order. -/
theorem apply_order (tidy : cache.shelf.Tidy) (now : Nat) (change : Change) :
    ((∀ name, change.uses now cache name = false) ∧ Thins cache (change.apply now cache)) ∨
      ∃ used, (∀ name, change.uses now cache name = true ↔ used ≈ name) ∧
        Fronts used cache (change.apply now cache) := by
  cases adds : change.addsAt? with
  | some place =>
    have steady := thins_steady.addition tidy now adds
    rcases quiet_steady.addition tidy now adds with quiet | ⟨_, _, installs⟩
    · have noLookup (asked : Name) (type : RecordType) (least : Credibility) :
          change ≠ .lookup asked type least := by
        rintro rfl
        cases adds
      have unused (name : Name) : change.uses now cache name = false :=
        not_uses_of_quiet quiet noLookup
      refine Or.inl ⟨unused, steady.resolve_right ?_⟩
      rintro ⟨_, _, installs⟩
      have uses := (uses_iff_of_installs tidy installs place).mpr (Setoid.refl place)
      exact Bool.false_ne_true ((unused place).symm.trans uses)
    · exact Or.inr ⟨place, uses_iff_of_installs tidy installs, installs.fronts⟩
  | none =>
    by_cases isLookup : ∃ asked type least, change = .lookup asked type least
    · obtain ⟨asked, type, least, rfl⟩ := isLookup
      have thins := lookup_thins cache now asked type least
      cases held : (cache.shelf.slot? asked.toAbsolute).isSome with
      | true =>
        refine Or.inr ⟨asked.toAbsolute, fun name => ?_, thins.fronts (promote_fronts held)⟩
        simp only [uses, decide_eq_true_iff, and_iff_left_iff_imp]
        intro same
        rwa [← cache.shelf.slot?_congr same]
      | false =>
        refine Or.inl ⟨fun name => decide_eq_false fun uses => ?_, ?_⟩
        · rw [← cache.shelf.slot?_congr uses.1, held] at uses
          exact Bool.false_ne_true uses.2
        · have absent : cache.shelf.slot? asked.toAbsolute = none := by simpa using held
          unfold Shelf.promote at thins
          rwa [absent] at thins
    · have noLookup := fun asked type least same => isLookup ⟨asked, type, least, same⟩
      have quiet := apply_quiet cache now adds
      exact Or.inl ⟨fun _ => not_uses_of_quiet quiet noLookup, apply_thins adds noLookup⟩

end Change

/-! ### The order of last uses -/

/-- Every name has been used, and the names are in the order of their last use, the latest first.
-/
structure ByUse (lastUse : Name → Nat) (names : List Name) : Prop where
  used : ∀ name ∈ names, 0 < lastUse name
  order : names.Pairwise fun newer older => lastUse older < lastUse newer

namespace ByUse

variable {lastUse : Name → Nat} {names fewer : List Name}

theorem sublist (byUse : ByUse lastUse names) (part : fewer.Sublist names) :
    ByUse lastUse fewer :=
  ⟨fun name member => byUse.used name (part.subset member), byUse.order.sublist part⟩

/-- Names stay in the order of their last use when one of them is used and comes to the front. -/
theorem front (byUse : ByUse lastUse names) {next : Nat} {used owner : Name}
    {uses : Name → Bool} (isUsed : ∀ name, uses name = true ↔ used ≈ name) (same : owner ≈ used)
    (bound : ∀ name, lastUse name < next) :
    ByUse (fun name => if uses name then next else lastUse name)
      (owner :: names.filter fun other => !decide (other ≈ used)) := by
  have ownerUsed : uses owner = true := (isUsed owner).mpr (Setoid.symm same)
  have unused {name : Name}
      (member : name ∈ names.filter fun other => !decide (other ≈ used)) :
      ¬ uses name = true := by
    have apart : ¬ name ≈ used := by simpa using (List.mem_filter.mp member).2
    exact fun found => apart (Setoid.symm ((isUsed name).mp found))
  refine ⟨fun name member => ?_, List.pairwise_cons.mpr ⟨fun name member => ?_, ?_⟩⟩
  · rcases List.mem_cons.mp member with rfl | other
    · rw [if_pos ownerUsed]
      exact Nat.zero_lt_of_lt (bound name)
    · rw [if_neg (unused other)]
      exact byUse.used name (List.mem_filter.mp other).1
  · rw [if_neg (unused member), if_pos ownerUsed]
    exact bound name
  · refine (byUse.order.sublist List.filter_sublist).imp_of_mem fun isNewer isOlder inOrder => ?_
    rwa [if_neg (unused isNewer), if_neg (unused isOlder)]

end ByUse

theorem run_byUse {start : Cache} (tidy : start.shelf.Tidy) (empty : start.names = [])
    (steps : List (Nat × Change)) :
    ByUse (Change.lastUse steps start) (Change.run steps start).names := by
  induction steps using List.reverseRecOn with
  | nil =>
    rw [show (Change.run [] start).names = [] from empty]
    exact ⟨fun _ member => (List.not_mem_nil member).elim, .nil⟩
  | append_singleton earlier step inductionHypothesis =>
    obtain ⟨now, change⟩ := step
    have lastUse : Change.lastUse (earlier ++ [(now, change)]) start = fun name =>
        if change.uses now (Change.run earlier start) name then earlier.length + 1
        else Change.lastUse earlier start name :=
      funext (Change.lastUse_concat earlier now change start)
    rw [lastUse, Change.run_concat]
    rcases Change.apply_order (Change.run_tidy tidy earlier) now change with
      ⟨unused, thins⟩ | ⟨used, isUsed, owner, same, moved⟩
    · simp only [unused, Bool.false_eq_true, if_false]
      exact inductionHypothesis.sublist thins
    · exact (inductionHypothesis.front isUsed same fun name =>
        Nat.lt_succ_of_le (Change.lastUse_le earlier start name)).sublist moved

/-! ### Making room -/

namespace Shelf

variable {shelf : Shelf} {name other : Name}

theorem slot?_eraseName_other (shelf : Shelf) (apart : ¬ name ≈ other) :
    (shelf.eraseName name).slot? other = shelf.slot? other := by
  unfold slot? eraseName
  rw [List.find?_filter]
  congr 1
  funext slot
  by_cases owner : slot.owner ≈ other
  · have differs : ¬ slot.owner ≈ name := fun same =>
      apart (Setoid.trans (Setoid.symm same) owner)
    rw [decide_eq_true owner, decide_eq_false differs]
    rfl
  · rw [decide_eq_false owner]
    exact decide_eq_false fun both => Bool.false_ne_true both.2

theorem slot?_reshape_other (shelf : Shelf) (apart : ¬ name ≈ other)
    (change : Entries → Entries) : (shelf.reshape name change).slot? other = shelf.slot? other := by
  induction shelf with
  | nil => rfl
  | cons slot rest inductionHypothesis =>
    by_cases owner : slot.owner ≈ name
    · have missed : ¬ slot.owner ≈ other := fun same =>
        apart (Setoid.trans (Setoid.symm owner) same)
      unfold reshape at inductionHypothesis ⊢
      rw [slot?_cons, if_neg missed, ← inductionHypothesis, List.filterMap_cons]
      split
      · rfl
      · rename_i after becomes
        rw [slot?_cons, owner_of_reshaped becomes, if_neg missed]
    · rw [reshape_cons_other owner, slot?_cons, slot?_cons, inductionHypothesis]

/-- A name that is found is one of the owners. -/
theorem slot?_isSome_iff : (shelf.slot? name).isSome = true ↔
    ∃ owner ∈ shelf.map Slot.owner, owner ≈ name := by
  simp [slot?]

theorem slot?_concat_other (shelf : Shelf) {last : Slot} (apart : ¬ last.owner ≈ other) :
    slot? (shelf ++ [last]) other = shelf.slot? other := by
  unfold slot?
  rw [List.find?_append, List.find?_singleton, if_neg (by simpa using apart), Option.or_none]

/-- A shelf that fits stays whole. -/
theorem fit_of_le {capacity : Nat} (fits : capacity = 0 ∨ shelf.length ≤ capacity) :
    shelf.fit capacity = shelf := by
  unfold fit
  split
  · rfl
  · exact List.take_of_length_le (fits.resolve_left ‹_›)

/-- Where there is room, installing an entry leaves all other names as they are. -/
theorem install_roomy (shelf : Shelf) {capacity : Nat} (name : Name) (key : EntryKey)
    (entry : Entry)
    (roomy : (shelf.slot? name).isSome = true ∨ capacity = 0 ∨ shelf.length < capacity) :
    shelf.pushedOut capacity name = 0 ∧ ∀ other, ¬ name ≈ other →
      (shelf.install capacity name key entry).slot? other = shelf.slot? other := by
  unfold pushedOut install
  cases found : shelf.slot? name with
  | some slot =>
    refine ⟨rfl, fun other apart => ?_⟩
    have missed : ¬ slot.owner ≈ other := fun same =>
      apart (Setoid.trans (Setoid.symm (owner_of_slot? found)) same)
    rw [slot?_cons, if_neg missed]
    exact slot?_eraseName_other shelf apart
  | none =>
    rw [found] at roomy
    have fits : capacity = 0 ∨ shelf.length < capacity := by simpa using roomy
    refine ⟨if_neg (by omega), fun other apart => ?_⟩
    dsimp only
    rw [fit_of_le (by rw [List.length_cons]; omega), slot?_cons, if_neg apart]

/-- Where there is no room, the last name makes room for a new one. -/
theorem install_full {kept : Shelf} {last : Slot}
    (absent : slot? (kept ++ [last]) name = none) (key : EntryKey) (entry : Entry) :
    pushedOut (kept ++ [last]) (kept.length + 1) name = 1 ∧
      install (kept ++ [last]) (kept.length + 1) name key entry =
        ⟨name, [(key, entry)]⟩ :: kept := by
  unfold pushedOut install fit
  rw [absent]
  simp

end Shelf

/-- The cache still has all names but one as they were, and has counted no eviction. -/
structure SparesOthers (name : Name) (before after : Cache) : Prop where
  others : ∀ other, ¬ name ≈ other → after.shelf.slot? other = before.shelf.slot? other
  evictions : after.metrics.capacityEvictions = before.metrics.capacityEvictions

/-- One name, other than the one that is added, has gone with all its entries and is counted. -/
structure Evicts (name evicted : Name) (before after : Cache) : Prop where
  held : evicted ∈ before.names
  other : ¬ name ≈ evicted
  gone : after.shelf.slot? evicted = none
  others : ∀ other, ¬ name ≈ other → ¬ evicted ≈ other →
    after.shelf.slot? other = before.shelf.slot? other
  evictions : after.metrics.capacityEvictions = before.metrics.capacityEvictions + 1

theorem dropExpired_spares (cache : Cache) (now : Nat) (name : Name) (key : EntryKey) :
    SparesOthers name cache (cache.dropExpired now name key) := by
  unfold dropExpired
  split
  · split
    · exact ⟨fun _ apart => Shelf.slot?_reshape_other _ apart _, rfl⟩
    · exact ⟨fun _ _ => rfl, rfl⟩
  · exact ⟨fun _ _ => rfl, rfl⟩

theorem dropExpired_of_absent {now : Nat} {name : Name} {key : EntryKey}
    (absent : cache.shelf.slot? name = none) : cache.dropExpired now name key = cache := by
  have nothing : cache.entryAt? name key = none := by
    unfold entryAt? Shelf.entryAt?
    rw [absent, Option.bind_none]
  unfold dropExpired
  rw [nothing]

/-- A name that has gone has left room. -/
theorem Thins.size_lt {before after : Cache} {name : Name} (thins : Thins before after)
    (held : (before.shelf.slot? name).isSome = true) (gone : after.shelf.slot? name = none) :
    after.size < before.size := by
  have atMost : after.names.length ≤ before.names.length := List.Sublist.length_le thins
  have unlike : after.names.length ≠ before.names.length := by
    intro alike
    have same : after.names = before.names := List.Sublist.eq_of_length thins alike
    obtain ⟨owner, member, named⟩ := Shelf.slot?_isSome_iff.mp held
    have stays : owner ∈ after.names := same ▸ member
    have found := Shelf.slot?_isSome_iff.mpr ⟨owner, stays, named⟩
    rw [gone] at found
    cases found
  simp only [names, List.length_map] at atMost unlike
  exact Nat.lt_of_le_of_ne atMost unlike

namespace Installs

variable {now : Nat} {before after : Cache} {name : Name} {key : EntryKey} {entry : Entry}

theorem spares_of_roomy (installs : Installs now before after name key entry)
    (roomy : let dropped := before.dropExpired now name key
      (dropped.shelf.slot? name).isSome = true ∨ dropped.limits.capacity = 0 ∨
        dropped.size < dropped.limits.capacity) : SparesOthers name before after := by
  unfold Installs at installs
  have dropped := dropExpired_spares before now name key
  obtain ⟨noneOut, others⟩ := Shelf.install_roomy _ name key entry roomy
  subst installs
  refine ⟨fun other apart => (others other apart).trans (dropped.others other apart), ?_⟩
  show _ + Shelf.pushedOut _ _ _ = _
  rw [noneOut, dropped.evictions]
  rfl

/-- Installing an entry at a name that is there removes no other name. -/
theorem spares_of_held (installs : Installs now before after name key entry)
    (room : before.HasRoom) (held : (before.shelf.slot? name).isSome = true) :
    SparesOthers name before after := by
  refine installs.spares_of_roomy ?_
  have quiet := dropExpired_quiet before now name key
  cases found : (before.dropExpired now name key).shelf.slot? name with
  | some slot => exact Or.inl (by rw [found, Option.isSome_some])
  | none =>
    have smaller := (dropExpired_thins before now name key).size_lt held found
    refine Or.inr ?_
    rw [dropExpired_limits]
    by_cases bounded : before.limits.capacity = 0
    · exact Or.inl bounded
    · exact Or.inr (Nat.lt_of_lt_of_le smaller (room bounded))

/-- Nor does it remove any where there is room for another name. -/
theorem spares_of_room (installs : Installs now before after name key entry)
    (absent : before.shelf.slot? name = none)
    (room : before.limits.capacity = 0 ∨ before.size < before.limits.capacity) :
    SparesOthers name before after := by
  refine installs.spares_of_roomy ?_
  rw [dropExpired_of_absent absent]
  exact Or.inr room

/-- Where there is no room, the last name goes. -/
theorem evicts (installs : Installs now before after name key entry) (tidy : before.shelf.Tidy)
    (absent : before.shelf.slot? name = none) (bounded : before.limits.capacity ≠ 0)
    (full : before.size = before.limits.capacity) :
    ∃ kept last, before.names = kept ++ [last] ∧ Evicts name last before after := by
  unfold Installs at installs
  rw [dropExpired_of_absent absent] at installs
  obtain empty | ⟨kept, last, split⟩ := before.shelf.eq_nil_or_concat
  · rw [size, empty] at full
    exact absurd full.symm bounded
  · rw [List.concat_eq_append] at split
    have capacity : before.limits.capacity = kept.length + 1 := by
      rw [← full, size, split, List.length_append, List.length_singleton]
    rw [split] at absent
    obtain ⟨oneOut, shelf⟩ := Shelf.install_full absent key entry
    rw [← split, ← capacity] at oneOut shelf
    have shelfAfter : after.shelf = ⟨name, [(key, entry)]⟩ :: kept := by
      rw [installs]
      exact shelf
    have apart : ¬ last.owner ≈ name := by
      have none := List.find?_eq_none.mp absent last (List.mem_append_right _ List.mem_cons_self)
      simpa using none
    have owners := List.pairwise_append.mp (split ▸ tidy.owners)
    refine ⟨kept.map Slot.owner, last.owner, ?_, ?_, ?_, ?_, ?_, ?_⟩
    · rw [names, split, List.map_append, List.map_singleton]
    · rw [names, split]
      exact List.mem_map_of_mem (List.mem_append_right _ List.mem_cons_self)
    · exact fun same => apart (Setoid.symm same)
    · rw [shelfAfter, Shelf.slot?_cons, if_neg fun same => apart (Setoid.symm same)]
      exact Shelf.slot?_eq_none fun slot member =>
        owners.2.2 slot member last List.mem_cons_self
    · intro other notName notLast
      rw [shelfAfter, Shelf.slot?_cons, if_neg notName, split, Shelf.slot?_concat_other _ notLast]
    · rw [installs]
      exact congrArg (before.metrics.capacityEvictions + ·) oneOut

end Installs

/-! ### The law -/

/-- A name makes room only when it is the one used longest ago. Whatever operations are carried out
on a new cache, and whatever its capacity is changed to on the way, look at one of their steps: a
name is used by it if an entry is installed at the name, or if it is a lookup of this name which
finds it. All names that the cache holds have been used. If there is no room for a name at which an
entry is installed, then the name whose last use lies farthest back goes with all its entries, and
is counted; if the name is there already, or there is room, none goes. And a capacity keeps as many
names as it has room for, those that were used last. -/
theorem evicts_leastRecent (recordClass : RecordClass) (limits : CacheLimits)
    (operations : List (Nat × Operation)) :
    let start := Cache.new recordClass limits
    Operation.run operations start = Change.run (Operation.steps operations start) start ∧
      ∀ earlier now change later,
        Operation.steps operations start = earlier ++ (now, change) :: later →
        let before := Change.run earlier start
        let after := change.apply now before
        let lastUse := Change.lastUse earlier start
        (∀ name, change.uses now before name = true ↔
          (∃ owner key entry, owner ≈ name ∧ Installs now before after owner key entry) ∨
            ∃ asked type least, change = .lookup asked type least ∧ asked.toAbsolute ≈ name ∧
              (before.shelf.slot? name).isSome = true) ∧
        (∀ name ∈ before.names, 0 < lastUse name) ∧
        (∀ name key entry, Installs now before after name key entry →
          ((before.shelf.slot? name).isSome = true ∨ before.limits.capacity = 0 ∨
              before.size < before.limits.capacity → SparesOthers name before after) ∧
          (before.shelf.slot? name = none → before.limits.capacity ≠ 0 →
            before.size = before.limits.capacity →
            ∃ oldest, Evicts name oldest before after ∧
              ∀ other ∈ before.names, ¬ other ≈ oldest → lastUse oldest < lastUse other)) ∧
        ∀ capacity, capacity ≠ 0 → change = .setCapacity capacity →
          after.size = min before.size capacity ∧
            (∀ slot ∈ after.shelf, slot ∈ before.shelf) ∧
            ∀ kept ∈ after.names, ∀ dropped ∈ before.names, dropped ∉ after.names →
              lastUse dropped < lastUse kept := by
  intro start
  refine ⟨Operation.run_eq_run_steps operations start, ?_⟩
  intro earlier now change later _ before after lastUse
  have startTidy : start.shelf.Tidy := .nil
  have tidy : before.shelf.Tidy := Change.run_tidy startTidy earlier
  have room : before.HasRoom := Change.run_hasRoom startTidy (fun _ => Nat.zero_le _) earlier
  have byUse : ByUse lastUse before.names := run_byUse startTidy rfl earlier
  refine ⟨fun name => ?_, byUse.used, fun name key entry installs => ⟨?_, ?_⟩, ?_⟩
  · exact Change.uses_iff tidy
  · rintro (held | roomy)
    · exact installs.spares_of_held room held
    · cases found : before.shelf.slot? name with
      | some slot => exact installs.spares_of_held room (by rw [found, Option.isSome_some])
      | none => exact installs.spares_of_room found roomy
  · intro absent bounded full
    obtain ⟨kept, last, split, evicts⟩ := installs.evicts tidy absent bounded full
    refine ⟨last, evicts, fun other member apart => ?_⟩
    have order := List.pairwise_append.mp (split ▸ byUse.order)
    rw [split] at member
    rcases List.mem_append.mp member with stays | isLast
    · exact order.2.2 other stays last List.mem_cons_self
    · exact absurd (List.mem_singleton.mp isLast ▸ Setoid.refl other) apart
  · rintro capacity bounded rfl
    have shelf : after.shelf = before.shelf.take capacity := if_neg bounded
    have namesAfter : after.names = before.names.take capacity := by
      rw [names, shelf, List.map_take, ← names]
    refine ⟨?_, fun slot member => ?_, fun kept stays dropped held gone => ?_⟩
    · rw [size, shelf, List.length_take, Nat.min_comm, size]
    · exact List.mem_of_mem_take (shelf ▸ member)
    · have order := byUse.order
      rw [← List.take_append_drop capacity before.names] at held order
      rw [namesAfter] at stays gone
      exact (List.pairwise_append.mp order).2.2 kept stays dropped
        ((List.mem_append.mp held).resolve_left gone)

/-- A cache with room for two names learns of an address of `w.` and one of `g.`, and is asked for
`w.`. -/
def contention : List (Nat × Operation) :=
  [(1000, .addRecord (Record.address 1 300) .normal),
    (1001, .addRecord { Record.address 2 300 with name := Name.ofOctets [0x67] } .normal),
    (1002, .lookup (Name.ofOctets [0x77]) .a .normal)]

/-- Then it learns of an address of `e.`. -/
def newcomer : Record := { Record.address 3 300 with name := Name.ofOctets [0x65] }

/-- Though `w.` was learned of first, it is `g.` that makes room, since `w.` was looked up after
that. -/
theorem newcomer_evicts :
    let start := Cache.new .inet ⟨2, none, 3600⟩
    let steps := Operation.steps contention start
    let before := Change.run steps start
    let after := (Change.addRecord newcomer .normal).apply 1003 before
    before.names = [Name.ofOctets [0x77], Name.ofOctets [0x67]] ∧
      after.names = [Name.ofOctets [0x65], Name.ofOctets [0x77]] ∧
      ∃ oldest, Evicts (Name.ofOctets [0x65]) oldest before after ∧
        ∀ other ∈ before.names, ¬ other ≈ oldest →
          Change.lastUse steps start oldest < Change.lastUse steps start other := by
  intro start steps before after
  have installs : Installs 1003 before after (Name.ofOctets [0x65]) (.type .a)
      (Entry.ofSet (RRset.ofRecord newcomer) .normal 1003 none) := by
    unfold Installs
    decide +kernel
  obtain ⟨_, inAll⟩ := evicts_leastRecent .inet ⟨2, none, 3600⟩
    (contention ++ [(1003, .addRecord newcomer .normal)])
  obtain ⟨_, _, room, _⟩ := inAll steps 1003 (.addRecord newcomer .normal) [] rfl
  refine ⟨by decide +kernel, by decide +kernel, ?_⟩
  exact (room _ _ _ installs).2 (by decide +kernel) (by decide +kernel) (by decide +kernel)

end StubResolver.Cache
