/-
This file gives the invariant that a cache is kept in, whatever is done to it and in whatever order:
no name without entries, no more names than there is room for, and every set in its place and put
together as sets are. What is done to a cache is a sequence of steps, and a step is of one of two
kinds. Most steps install nothing; they leave or drop entries and names, and a set that a record
joins stays in its place. The others install one entry, and that entry is there afterwards, however
little room there is: the names that make room are those used longest ago, and the name that was
installed at is the latest used.

A response is learned from in many steps, and each of them keeps the invariant, so it holds of the
caches in between as well.
-/

import StubResolver.Proofs.Cache.Operations
import StubResolver.Proofs.Name.Letters

namespace StubResolver

namespace Cache

/-! ### The size of a shelf -/

namespace Shelf

theorem length_reshape_le (shelf : Shelf) (name : Name) (change : Entries → Entries) :
    (shelf.reshape name change).length ≤ shelf.length := List.length_filterMap_le _ _

theorem length_eraseName_le (shelf : Shelf) (name : Name) :
    (shelf.eraseName name).length ≤ shelf.length := List.length_filter_le _ _

/-- Without a name that it holds, a shelf is smaller. -/
theorem length_eraseName_lt {shelf : Shelf} {name : Name} {slot : Slot}
    (found : shelf.slot? name = some slot) : (shelf.eraseName name).length < shelf.length := by
  refine List.length_filter_lt_length_iff_exists.mpr ⟨slot, mem_of_slot? found, ?_⟩
  simpa using owner_of_slot? found

theorem length_promote_le (shelf : Shelf) (name : Name) :
    (shelf.promote name).length ≤ shelf.length := by
  unfold promote
  split
  · rename_i slot found
    exact length_eraseName_lt found
  · exact Nat.le_refl _

theorem length_fit_le (shelf : Shelf) {capacity : Nat} (bounded : capacity ≠ 0) :
    (shelf.fit capacity).length ≤ capacity := by
  unfold fit
  rw [if_neg bounded]
  exact List.length_take_le _ _

/-- However little room there is, installing an entry does not take more. -/
theorem length_install_le {shelf : Shelf} {capacity : Nat} (bounded : capacity ≠ 0)
    (room : shelf.length ≤ capacity) (name : Name) (key : EntryKey) (entry : Entry) :
    (shelf.install capacity name key entry).length ≤ capacity := by
  unfold install
  split
  · rename_i slot found
    exact Nat.le_trans (length_eraseName_lt found) room
  · exact length_fit_le _ bounded

/-- A slot is the one that is found for its owner. -/
theorem Tidy.slot?_owner {shelf : Shelf} (tidy : shelf.Tidy) {slot : Slot}
    (member : slot ∈ shelf) : shelf.slot? slot.owner = some slot := by
  induction shelf with
  | nil => cases member
  | cons head rest inductionHypothesis =>
    unfold slot?
    rcases List.mem_cons.mp member with rfl | later
    · exact List.find?_cons_of_pos (decide_eq_true (Setoid.refl _))
    · rw [List.find?_cons_of_neg]
      · exact inductionHypothesis tidy.tail later
      · intro same
        exact tidy.absent_of_cons (of_decide_eq_true same) slot later (Setoid.refl _)

theorem Tidy.entryAt?_owner {shelf : Shelf} (tidy : shelf.Tidy) {slot : Slot}
    (member : slot ∈ shelf) {key : EntryKey} {entry : Entry} (held : (key, entry) ∈ slot.entries) :
    shelf.entryAt? slot.owner key = some entry := by
  unfold entryAt?
  rw [tidy.slot?_owner member, Option.bind_some]
  exact Entries.get?_of_mem (tidy.keys slot member) held

end Shelf

/-! ### Two kinds of steps -/

/-- The name that a step adds at, if it adds. -/
def Change.addsAt? : Change → Option Name
  | .addRecord record _ => some (kept record).name
  | .storeSet set _ => some set.name
  | .storeAbsence name _ _ _ => some name
  | _ => none

/-- There are not more names than there is room for. -/
def HasRoom (cache : Cache) : Prop :=
  cache.limits.capacity ≠ 0 → cache.size ≤ cache.limits.capacity

/-- Nothing is installed on the way from one cache to another, and no name is added. -/
structure Quiet (before after : Cache) : Prop where
  room : before.HasRoom → after.HasRoom
  insertions : after.metrics.insertions = before.metrics.insertions

namespace Quiet

variable {before middle after : Cache}

theorem refl (cache : Cache) : Quiet cache cache := ⟨id, rfl⟩

theorem trans (first : Quiet before middle) (second : Quiet middle after) : Quiet before after :=
  ⟨second.room ∘ first.room, second.insertions.trans first.insertions⟩

/-- A cache that has not grown has room if it had room before. -/
theorem of_size (capacity : after.limits.capacity = before.limits.capacity)
    (size : after.size ≤ before.size)
    (insertions : after.metrics.insertions = before.metrics.insertions) : Quiet before after := by
  refine ⟨fun room bounded => ?_, insertions⟩
  rw [capacity] at bounded ⊢
  exact Nat.le_trans size (room bounded)

end Quiet

/-- One entry is installed on the way from one cache to another, after what had expired in its
place was dropped. -/
def Installs (now : Nat) (before after : Cache) (name : Name) (key : EntryKey) (entry : Entry) :
    Prop :=
  after = (before.dropExpired now name key).install name key entry

variable {cache : Cache}

theorem dropExpired_quiet (cache : Cache) (now : Nat) (name : Name) (key : EntryKey) :
    Quiet cache (cache.dropExpired now name key) := by
  unfold dropExpired
  split
  · split
    · exact .of_size rfl (Shelf.length_reshape_le _ _ _) rfl
    · exact .refl cache
  · exact .refl cache

theorem displace_quiet (cache : Cache) (name : Name) (key : EntryKey) (credibility : Credibility) :
    Quiet cache (cache.displace name key credibility) := by
  unfold displace
  split
  · split
    · exact .of_size rfl (Shelf.length_reshape_le _ _ _) rfl
    · exact .refl cache
  · exact .refl cache

theorem joinSet_quiet (cache : Cache) (name : Name) (key : EntryKey) (record : Record) :
    Quiet cache (cache.joinSet name key record) :=
  .of_size rfl (Shelf.length_reshape_le _ _ _) rfl

theorem visit_quiet (cache : Cache) (now : Nat) (name : Name) :
    Quiet cache (cache.visit now name).1 := by
  unfold visit
  split
  · exact .of_size rfl (Shelf.length_reshape_le _ _ _) rfl
  · exact .refl cache

theorem searchAncestors_quiet (cache : Cache) (now : Nat) (least : Credibility)
    (names : List Name) : Quiet cache (cache.searchAncestors now least names).2 := by
  induction names generalizing cache with
  | nil => exact .refl cache
  | cons name rest inductionHypothesis =>
    have visited := visit_quiet cache now name
    unfold searchAncestors
    dsimp only
    split
    · exact visited
    · exact visited.trans (inductionHypothesis _)

theorem lookup_quiet (cache : Cache) (now : Nat) (name : Name) (type : RecordType)
    (least : Credibility) : Quiet cache (cache.lookup now name type least).2 := by
  have counted (searched : Cache) (outcome : Outcome) : Quiet searched
      { searched with metrics := searched.metrics.countLookup outcome } := by
    refine .of_size rfl (Nat.le_refl _) ?_
    unfold Metrics.countLookup
    split <;> rfl
  have used : Quiet cache { cache with shelf := cache.shelf.promote name.toAbsolute } :=
    .of_size rfl (Shelf.length_promote_le _ _) rfl
  have visited := used.trans (visit_quiet _ now name.toAbsolute)
  unfold lookup search
  dsimp only
  split
  · exact visited.trans (counted _ _)
  · exact (visited.trans (searchAncestors_quiet _ now least _)).trans (counted _ _)

theorem sweepName_quiet (cache : Cache) (now : Nat) (name : Name) :
    Quiet cache (cache.sweepName now name).2 := by
  unfold sweepName
  split
  · exact .of_size rfl (Shelf.length_reshape_le _ _ _) rfl
  · exact .refl cache

/-- With another capacity a cache has room, since names that no longer fit go. -/
theorem setCapacity_quiet (cache : Cache) (capacity : Nat) :
    Quiet cache (cache.setCapacity capacity) :=
  ⟨fun _ bounded => Shelf.length_fit_le _ bounded, rfl⟩

/-! ### What installs -/

theorem install_hasRoom (room : cache.HasRoom) (name : Name) (key : EntryKey) (entry : Entry) :
    (cache.install name key entry).HasRoom :=
  fun bounded => Shelf.length_install_le bounded (room bounded) name key entry

/-- What has been dropped once need not be dropped again. -/
theorem dropExpired_dropExpired (tidy : cache.shelf.Tidy) (now : Nat) (name : Name)
    (key : EntryKey) :
    (cache.dropExpired now name key).dropExpired now name key =
      cache.dropExpired now name key := by
  have standing := (dropExpired_settles tidy now name key).there name (Setoid.refl name)
  generalize cache.dropExpired now name key = dropped at standing ⊢
  unfold dropExpired
  rw [standing]
  cases alive : cache.live? now name key with
  | none => rfl
  | some entry =>
    have notExpired := (live?_eq_some_iff.mp alive).2
    dsimp only
    rw [notExpired, if_neg Bool.false_ne_true]

/-- A relation that every part of an addition keeps to, apart from the installing. -/
structure Steady (Related : Cache → Cache → Prop) : Prop where
  refl (cache : Cache) : Related cache cache
  trans {before middle after : Cache} (first : Related before middle)
    (second : Related middle after) : Related before after
  dropExpired (cache : Cache) (now : Nat) (name : Name) (key : EntryKey) :
    Related cache (cache.dropExpired now name key)
  displace (cache : Cache) (name : Name) (key : EntryKey) (credibility : Credibility) :
    Related cache (cache.displace name key credibility)
  joinSet (cache : Cache) (name : Name) (key : EntryKey) (record : Record) :
    Related cache (cache.joinSet name key record)

theorem quiet_steady : Steady Quiet :=
  ⟨.refl, .trans, dropExpired_quiet, displace_quiet, joinSet_quiet⟩

namespace Steady

variable {Related : Cache → Cache → Prop} (steady : Steady Related)
include steady

/-- An addition installs an entry in its place, or keeps to the relation. -/
theorem settle (cache : Cache) (now : Nat) (name : Name) (key : EntryKey)
    (credibility : Credibility) (fresh : Option Entry) :
    Related cache ((cache.dropExpired now name key).settle name key credibility fresh) ∨
      ∃ entry, Installs now cache
        ((cache.dropExpired now name key).settle name key credibility fresh) name key entry := by
  have dropped := steady.dropExpired cache now name key
  unfold Cache.settle
  cases fresh with
  | none => exact Or.inl (steady.trans dropped (steady.displace _ _ _ _))
  | some entry =>
    dsimp only
    split
    · exact Or.inl dropped
    · exact Or.inr ⟨entry, rfl⟩

theorem storeSet (cache : Cache) (now : Nat) (set : RRset) (credibility : Credibility) :
    Related cache (cache.storeSet now set credibility) ∨
      ∃ entry, Installs now cache (cache.storeSet now set credibility) set.name (.type set.type)
        entry := by
  rw [storeSet_eq]
  exact steady.settle cache now _ _ _ _

theorem addRecord (tidy : cache.shelf.Tidy) (now : Nat) (record : Record)
    (credibility : Credibility) :
    Related cache ((Change.addRecord record credibility).apply now cache) ∨
      ∃ entry, Installs now cache ((Change.addRecord record credibility).apply now cache)
        (kept record).name (.type (kept record).setType) entry := by
  cases isMeta : record.setType.isMeta with
  | true =>
    rw [refuse_addRecord isMeta]
    exact Or.inl (steady.refl cache)
  | false =>
    have dropped := steady.dropExpired cache now (kept record).name (.type (kept record).setType)
    -- what is stored drops once more what has expired, in vain
    have stored := steady.storeSet
      (cache.dropExpired now (kept record).name (.type (kept record).setType)) now
      (RRset.ofRecord (kept record)) credibility
    unfold Installs at stored
    rw [RRset.ofRecord_name, RRset.ofRecord_type, dropExpired_dropExpired tidy] at stored
    have storedKinds := stored.imp_left (steady.trans dropped)
    show Related cache (((cache.addRecord now record credibility).toOption).getD cache) ∨
      ∃ entry, Installs now cache
        (((cache.addRecord now record credibility).toOption).getD cache) _ _ entry
    rw [addRecord_eq cache now record credibility isMeta]
    show Related cache (addToStanding _ now _ _) ∨
      ∃ entry, Installs now cache (addToStanding _ now _ _) _ _ entry
    unfold addToStanding
    split
    · split
      · exact Or.inl dropped
      · split
        · exact Or.inl (steady.trans dropped (steady.joinSet _ _ _ _))
        · exact storedKinds
    · exact storedKinds

/-- A step that adds installs an entry at the name that it adds at, or keeps to the relation. -/
theorem addition (tidy : cache.shelf.Tidy) (now : Nat) {change : Change} {name : Name}
    (adds : change.addsAt? = some name) :
    Related cache (change.apply now cache) ∨
      ∃ key entry, Installs now cache (change.apply now cache) name key entry := by
  cases change with
  | addRecord record credibility =>
    cases adds
    exact (steady.addRecord tidy now record credibility).imp_right fun installed => ⟨_, installed⟩
  | storeSet set credibility =>
    cases adds
    exact (steady.storeSet cache now set credibility).imp_right fun installed => ⟨_, installed⟩
  | storeAbsence name key zoneStart credibility =>
    cases adds
    have kinds := steady.settle cache now name key credibility
      (entryOfAbsence? cache.limits now zoneStart credibility)
    rw [← storeAbsence_eq] at kinds
    exact kinds.imp_right fun installed => ⟨key, installed⟩
  | _ => cases adds

end Steady

/-- A step that does not add installs nothing. -/
theorem apply_quiet (cache : Cache) (now : Nat) {change : Change} (adds : change.addsAt? = none) :
    Quiet cache (change.apply now cache) := by
  cases change with
  | lookup name type least => exact lookup_quiet cache now name type least
  | sweepName name => exact sweepName_quiet cache now name
  | countSweep removed => exact .of_size rfl (Nat.le_refl _) rfl
  | flushName name => exact .of_size rfl (Shelf.length_eraseName_le _ _) rfl
  | flushEntry name key => exact .of_size rfl (Shelf.length_reshape_le _ _ _) rfl
  | clear => exact .of_size rfl (Nat.zero_le _) rfl
  | setCapacity capacity => exact setCapacity_quiet cache capacity
  | setLongestPositive longest => exact .of_size rfl (Nat.le_refl _) rfl
  | setLongestNegative longest => exact .of_size rfl (Nat.le_refl _) rfl
  | _ => cases adds

/-- Every step is of one of the two kinds. -/
theorem apply_kinds (tidy : cache.shelf.Tidy) (now : Nat) (change : Change) :
    Quiet cache (change.apply now cache) ∨
      ∃ name key entry, Installs now cache (change.apply now cache) name key entry := by
  cases adds : change.addsAt? with
  | none => exact Or.inl (apply_quiet cache now adds)
  | some name =>
    exact (quiet_steady.addition tidy now adds).imp_right fun installed => ⟨name, installed⟩

/-- What is installed is there afterwards, and has been counted. -/
theorem Installs.found (tidy : cache.shelf.Tidy) {now : Nat} {after : Cache} {name : Name}
    {key : EntryKey} {entry : Entry} (installs : Installs now cache after name key entry) :
    after.entryAt? name key = some entry ∧
      after.metrics.insertions = cache.metrics.insertions + 1 := by
  unfold Installs at installs
  subst installs
  have dropped := dropExpired_settles tidy now name key
  refine ⟨(install_settles dropped.tidy name key entry).there name (Setoid.refl name), ?_⟩
  exact congrArg (· + 1) (dropExpired_quiet cache now name key).insertions

theorem apply_hasRoom (tidy : cache.shelf.Tidy) (room : cache.HasRoom) (now : Nat)
    (change : Change) : (change.apply now cache).HasRoom := by
  rcases apply_kinds tidy now change with quiet | ⟨name, key, entry, installs⟩
  · exact quiet.room room
  · unfold Installs at installs
    rw [installs]
    exact install_hasRoom ((dropExpired_quiet cache now name key).room room) name key entry

/-! ### The invariant -/

/-- How a cache is kept, whatever is done to it. -/
structure Upkept (cache : Cache) : Prop where
  /-- No name is held twice. -/
  owners : cache.shelf.Pairwise fun first second => ¬ first.owner ≈ second.owner
  /-- No name is held without entries. -/
  filled : ∀ slot ∈ cache.shelf, slot.entries ≠ []
  /-- No key of a name has two entries. -/
  keys : ∀ slot ∈ cache.shelf, slot.entries.Distinct
  /-- There are not more names than there is room for. -/
  room : cache.limits.capacity ≠ 0 → cache.size ≤ cache.limits.capacity
  /-- A set stands under its owner and its type, and is put together as sets are. -/
  sets : ∀ slot ∈ cache.shelf, ∀ key entry set, (key, entry) ∈ slot.entries →
    entry.set? = some set → set.name ≈ slot.owner ∧ key = .type set.type ∧ set.Coherent
  /-- No set stands under the key for the name as a whole. -/
  named : ∀ slot ∈ cache.shelf, ∀ entry, (EntryKey.name, entry) ∈ slot.entries →
    entry.set? = none

/-- A cache with room is kept if it is tidy and all its sets are in place. -/
theorem upkept_of_hasRoom (tidy : cache.shelf.Tidy) (inPlace : cache.InPlace)
    (room : cache.HasRoom) : cache.Upkept := by
  have sets : ∀ slot ∈ cache.shelf, ∀ key entry set, (key, entry) ∈ slot.entries →
      entry.set? = some set → set.name ≈ slot.owner ∧ key = .type set.type ∧ set.Coherent := by
    intro slot member key entry set held isSet
    obtain ⟨coherent, owner, type⟩ :=
      inPlace slot.owner key entry set (tidy.entryAt?_owner member held) isSet
    exact ⟨owner, type, coherent⟩
  refine ⟨tidy.owners, tidy.filled, tidy.keys, room, sets, fun slot member entry held => ?_⟩
  cases isSet : entry.set? with
  | none => rfl
  | some set => cases (sets slot member .name entry set held isSet).2.1

theorem Reachable.hasRoom (reachable : Reachable cache) : cache.HasRoom := by
  induction reachable with
  | new recordClass limits => exact fun _ => Nat.zero_le _
  | step reachable now change coherent inductionHypothesis =>
    exact apply_hasRoom reachable.tidy inductionHypothesis now change

theorem Reachable.upkept (reachable : Reachable cache) : cache.Upkept :=
  upkept_of_hasRoom reachable.tidy reachable.inPlace reachable.hasRoom

namespace Operation

/-- The set that an operation is given, if it is given one, was put together. -/
def Built : Operation → Prop
  | addSet set _ => set.Built
  | _ => True

theorem Built.coherent {operation : Operation} (built : operation.Built) : operation.Coherent := by
  cases operation with
  | addSet set credibility => exact RRset.Built.coherent built
  | _ => exact trivial

/-- The cache after several operations, each at its time. -/
def run (operations : List (Nat × Operation)) (cache : Cache) : Cache :=
  operations.foldl (fun cache operation => operation.2.apply operation.1 cache) cache

/-- The last operation is carried out on what the others have led to. -/
theorem run_concat (operations : List (Nat × Operation)) (now : Nat) (operation : Operation)
    (cache : Cache) :
    run (operations ++ [(now, operation)]) cache = operation.apply now (run operations cache) := by
  simp [run]

/-- The steps that operations are made of, each at its time. -/
def steps : List (Nat × Operation) → Cache → List (Nat × Change)
  | [], _ => []
  | (now, operation) :: rest, cache =>
    (operation.changes now cache).map (now, ·) ++ steps rest (operation.apply now cache)

/-- Operations come to the same as their steps. -/
theorem run_eq_run_steps (operations : List (Nat × Operation)) (cache : Cache) :
    run operations cache = Change.run (steps operations cache) cache := by
  induction operations generalizing cache with
  | nil => rfl
  | cons operation rest inductionHypothesis =>
    obtain ⟨now, operation⟩ := operation
    have first : Change.run ((operation.changes now cache).map (now, ·)) cache =
        operation.apply now cache := by
      rw [← Change.applyAll_eq_run, operation.apply_eq]
    rw [steps, Change.run_append, first]
    exact inductionHypothesis (operation.apply now cache)

/-- A step of operations is one that an operation can take, at its time. -/
theorem takes_of_mem_steps {operations : List (Nat × Operation)} {cache : Cache} {now : Nat}
    {change : Change} (member : (now, change) ∈ steps operations cache) :
    ∃ operation, (now, operation) ∈ operations ∧ operation.Takes change := by
  induction operations generalizing cache with
  | nil => cases member
  | cons first rest inductionHypothesis =>
    obtain ⟨time, first⟩ := first
    rcases List.mem_append.mp member with here | later
    · obtain ⟨step, taken, same⟩ := List.mem_map.mp here
      cases same
      exact ⟨first, List.mem_cons_self, takes_of_mem_changes taken⟩
    · obtain ⟨operation, among, takes⟩ := inductionHypothesis later
      exact ⟨operation, List.mem_cons_of_mem _ among, takes⟩

end Operation

namespace Change

theorem run_concat (steps : List (Nat × Change)) (now : Nat) (change : Change) (cache : Cache) :
    run (steps ++ [(now, change)]) cache = change.apply now (run steps cache) :=
  run_append steps _ cache

theorem run_tidy {cache : Cache} (tidy : cache.shelf.Tidy) (steps : List (Nat × Change)) :
    (run steps cache).shelf.Tidy := by
  induction steps generalizing cache with
  | nil => exact tidy
  | cons step rest inductionHypothesis =>
    exact inductionHypothesis (apply_steps tidy step.1 step.2).tidy

end Change

theorem Reachable.run (reachable : Reachable cache) (operations : List (Nat × Operation))
    (built : ∀ operation ∈ operations, operation.2.Built) :
    Reachable (Operation.run operations cache) := by
  induction operations generalizing cache with
  | nil => exact reachable
  | cons operation rest inductionHypothesis =>
    have first := reachable.operation operation.1 operation.2
      (built operation List.mem_cons_self).coherent
    exact inductionHypothesis first fun other later => built other (List.mem_cons_of_mem _ later)

/-! ### What leaves the limits alone -/

/-- The limits of a cache are not changed. -/
def Operation.KeepsLimits : Operation → Prop
  | setCapacity _ | setLongestPositive _ | setLongestNegative _ => False
  | _ => True

/-- A step changes no limit. -/
def Change.KeepsLimits : Change → Prop
  | setCapacity _ | setLongestPositive _ | setLongestNegative _ => False
  | _ => True

theorem Operation.Takes.keepsLimits {operation : Operation} {change : Change}
    (takes : operation.Takes change) (keeps : operation.KeepsLimits) : change.KeepsLimits := by
  cases takes with
  | ingest message question write asked cacheable written => cases write <;> exact trivial
  | setCapacity => exact keeps
  | setLongestPositive => exact keeps
  | setLongestNegative => exact keeps
  | _ => exact trivial

theorem Change.KeepsLimits.limits {change : Change} (keeps : change.KeepsLimits)
    (tidy : cache.shelf.Tidy) (now : Nat) : (change.apply now cache).limits = cache.limits := by
  cases change with
  | addRecord record credibility =>
    cases refused : record.setType.isMeta with
    | true => rw [refuse_addRecord refused]
    | false => exact (apply_addRecord_settles tidy now record credibility refused).limits
  | storeSet set credibility => exact (storeSet_settles tidy now set credibility).limits
  | storeAbsence name key zoneStart credibility =>
    exact (storeAbsence_settles tidy now name key zoneStart credibility).limits
  | lookup name type least => exact (lookup_spec tidy now name type least).1.limits
  | sweepName name => exact (sweepName_fades tidy now name).limits
  | setCapacity capacity => exact keeps.elim
  | setLongestPositive longest => exact keeps.elim
  | setLongestNegative longest => exact keeps.elim
  | _ => rfl

theorem Change.applyAll_limits {changes : List Change}
    (keeps : ∀ change ∈ changes, change.KeepsLimits) (tidy : cache.shelf.Tidy) (now : Nat) :
    (applyAll now changes cache).limits = cache.limits := by
  induction changes generalizing cache with
  | nil => rfl
  | cons change rest inductionHypothesis =>
    have first := (keeps change List.mem_cons_self).limits tidy now
    exact (inductionHypothesis (fun other later => keeps other (List.mem_cons_of_mem _ later))
      (apply_steps tidy now change).tidy).trans first

theorem Operation.KeepsLimits.limits {operation : Operation} (keeps : operation.KeepsLimits)
    (tidy : cache.shelf.Tidy) (now : Nat) : (operation.apply now cache).limits = cache.limits := by
  rw [operation.apply_eq]
  exact Change.applyAll_limits
    (fun change member => (takes_of_mem_changes member).keepsLimits keeps) tidy now

theorem Operation.run_limits (operations : List (Nat × Operation)) (reachable : Reachable cache)
    (built : ∀ operation ∈ operations, operation.2.Built)
    (keeps : ∀ operation ∈ operations, operation.2.KeepsLimits) :
    (run operations cache).limits = cache.limits := by
  induction operations generalizing cache with
  | nil => rfl
  | cons operation rest inductionHypothesis =>
    have after := reachable.operation operation.1 operation.2 (built _ List.mem_cons_self).coherent
    have first := (keeps _ List.mem_cons_self).limits reachable.tidy operation.1
    exact (inductionHypothesis after (fun other later => built other (List.mem_cons_of_mem _ later))
      fun other later => keeps other (List.mem_cons_of_mem _ later)).trans first

/-! ### Runs -/

section

variable {Holds : Cache → Prop} {Brings : Change → Prop}
  (step : ∀ {cache : Cache} (now : Nat) {change : Change}, Reachable cache →
    Holds (change.apply now cache) → Holds cache ∨ Brings change)
include step

/-- What is so after a step only if it was so before, or if the step brings it about, is so after
several steps only if it was so at first, or if one of them has brought it about. -/
theorem Reachable.applyAll_cases (reachable : Reachable cache) (now : Nat) (changes : List Change)
    (coherent : ∀ change ∈ changes, change.Coherent)
    (holds : Holds (Change.applyAll now changes cache)) :
    Holds cache ∨ ∃ change ∈ changes, Brings change := by
  induction changes generalizing cache with
  | nil => exact Or.inl holds
  | cons change rest inductionHypothesis =>
    have after := reachable.step now change (coherent change List.mem_cons_self)
    rcases inductionHypothesis after
      (fun other later => coherent other (List.mem_cons_of_mem _ later)) holds with early | later
    · exact (step now reachable early).imp_right fun brings => ⟨change, List.mem_cons_self, brings⟩
    · obtain ⟨other, member, brings⟩ := later
      exact Or.inr ⟨other, List.mem_cons_of_mem _ member, brings⟩

/-- So it is with a run, where it is a step of one of the operations that brings it about. -/
theorem Reachable.run_cases (reachable : Reachable cache) (operations : List (Nat × Operation))
    (built : ∀ operation ∈ operations, operation.2.Built)
    (holds : Holds (Operation.run operations cache)) :
    Holds cache ∨ ∃ operation ∈ operations, ∃ change, operation.2.Takes change ∧ Brings change := by
  induction operations generalizing cache with
  | nil => exact Or.inl holds
  | cons operation rest inductionHypothesis =>
    have coherent := (built operation List.mem_cons_self).coherent
    have after := reachable.operation operation.1 operation.2 coherent
    rcases inductionHypothesis after (fun other later => built other (List.mem_cons_of_mem _ later))
      holds with early | later
    · rw [operation.2.apply_eq] at early
      exact (reachable.applyAll_cases step operation.1 _ (operation.2.changes_coherent coherent _ _)
        early).imp_right fun ⟨change, member, brings⟩ =>
          ⟨operation, List.mem_cons_self, change, Operation.takes_of_mem_changes member, brings⟩
    · obtain ⟨other, member, brings⟩ := later
      exact Or.inr ⟨other, List.mem_cons_of_mem _ member, brings⟩

end

/-- Whatever operations are carried out, in whatever order and at whatever times, the cache is kept.
When one more operation is taken apart into its steps, the caches between them are kept as well, and
a step that counts an insertion has installed one entry, which is there directly afterwards. Others
count none. -/
theorem run_upkept (recordClass : RecordClass) (limits : CacheLimits)
    (operations : List (Nat × Operation)) (built : ∀ operation ∈ operations, operation.2.Built) :
    let cache := Operation.run operations (Cache.new recordClass limits)
    cache.Upkept ∧
      ∀ now (operation : Operation), operation.Built → ∀ earlier change later,
        operation.changes now cache = earlier ++ change :: later →
        let before := Change.applyAll now earlier cache
        let after := change.apply now before
        operation.apply now cache = Change.applyAll now later after ∧
          before.Upkept ∧ after.Upkept ∧
          (after.metrics.insertions = before.metrics.insertions ∨
            ∃ name key entry, Installs now before after name key entry ∧
              after.entryAt? name key = some entry ∧
              after.metrics.insertions = before.metrics.insertions + 1) := by
  intro cache
  have reachable : Reachable cache := (Reachable.new recordClass limits).run operations built
  refine ⟨reachable.upkept, ?_⟩
  intro now operation isBuilt earlier change later steps before after
  have coherent := operation.changes_coherent isBuilt.coherent now cache
  rw [steps] at coherent
  have reachableBefore : Reachable before := reachable.applyAll now earlier fun other member =>
    coherent other (List.mem_append_left _ member)
  have reachableAfter : Reachable after := reachableBefore.step now change
    (coherent change (List.mem_append_right _ List.mem_cons_self))
  refine ⟨?_, reachableBefore.upkept, reachableAfter.upkept, ?_⟩
  · rw [operation.apply_eq, steps, Change.applyAll_append]
    rfl
  · refine (apply_kinds reachableBefore.tidy now change).imp Quiet.insertions ?_
    rintro ⟨name, key, entry, installs⟩
    exact ⟨name, key, entry, installs, installs.found reachableBefore.tidy⟩

/-- Two addresses of `w.`, put together. -/
def twoAddresses : RRset :=
  ((RRset.ofRecord (Record.address 1 300)).addAll [Record.address 2 300]).1

/-- A cache with room for one name learns of the addresses of `w.`, and then that `g.` does not
exist. -/
def crowding : List (Nat × Operation) :=
  [(1000, .setCapacity 1), (1000, .addSet twoAddresses .normal),
    (1001, .addAbsence (Name.ofOctets [0x67]) (.type .a)
      (some ⟨.root, .inet, 300, .soa ⟨.root, .root, 1, 7200, 900, 604800, 300⟩⟩) .normal)]

theorem crowding_built : ∀ operation ∈ crowding, operation.2.Built := by
  intro operation member
  have addresses : twoAddresses.Built := (RRset.Built.ofRecord _).addAll _
  simp only [crowding, List.mem_cons, List.not_mem_nil, or_false] at member
  rcases member with rfl | rfl | rfl
  · exact trivial
  · exact addresses
  · exact trivial

/-- When the addresses are added again, they have to push out `g.`, and are there. -/
theorem crowding_upkept :
    (∀ operation ∈ crowding, operation.2.Built) ∧
      let cache := Operation.run crowding (Cache.new .inet ⟨0, none, 3600⟩)
      let after := (Change.storeSet twoAddresses .normal).apply 1002 cache
      cache.Upkept ∧ after.Upkept ∧ cache.size = 1 ∧
        cache.entryAt? (Name.ofOctets [0x77]) (.type .a) = none ∧
        ∃ name key entry, Installs 1002 cache after name key entry ∧
          after.entryAt? name key = some entry ∧
          after.metrics.insertions = cache.metrics.insertions + 1 := by
  refine ⟨crowding_built, ?_⟩
  obtain ⟨upkept, steps⟩ := run_upkept .inet ⟨0, none, 3600⟩ crowding crowding_built
  have addresses : twoAddresses.Built := (RRset.Built.ofRecord _).addAll _
  obtain ⟨_, _, upkeptAfter, kinds⟩ :=
    steps 1002 (.addSet twoAddresses .normal) addresses [] (.storeSet twoAddresses .normal) [] rfl
  exact ⟨upkept, upkeptAfter, by decide +kernel, by decide +kernel,
    kinds.resolve_left (by decide +kernel)⟩

end Cache

end StubResolver
