/-
This file says what the operations on a shelf do to what is found on it. A shelf is a list of names
with lists of entries; what counts is which entry stands under which name and key. Every operation
is described by that view, so that nothing else has to open the lists.

The description needs that no name has two slots and no key two entries, which holds of every
shelf that operations make. Such a shelf is called tidy.
-/

import StubResolver.Cache.Shelf

namespace StubResolver.Cache

/-! ### The entries of a name -/

namespace Entries

/-- No key has two entries. -/
def Distinct (entries : Entries) : Prop := (entries.map Prod.fst).Nodup

@[simp] theorem get?_nil (key : EntryKey) : get? [] key = none := rfl

theorem get?_cons (slot : EntryKey × Entry) (rest : Entries) (key : EntryKey) :
    get? (slot :: rest) key = if slot.1 = key then some slot.2 else get? rest key := by
  obtain ⟨other, entry⟩ := slot
  unfold get?
  rw [List.lookup_cons]
  by_cases same : other = key
  · rw [if_pos same, same, beq_self_eq_true]
  · rw [if_neg same, beq_eq_false_iff_ne.mpr (Ne.symm same)]

theorem mem_of_get? {entries : Entries} {key : EntryKey} {entry : Entry}
    (found : entries.get? key = some entry) : (key, entry) ∈ entries := by
  induction entries with
  | nil => cases found
  | cons slot rest inductionHypothesis =>
    rw [get?_cons] at found
    split at found
    · rename_i same
      cases found
      rw [← same]
      exact List.mem_cons_self
    · exact List.mem_cons_of_mem _ (inductionHypothesis found)

theorem get?_of_mem {entries : Entries} (distinct : entries.Distinct) {key : EntryKey}
    {entry : Entry} (member : (key, entry) ∈ entries) : entries.get? key = some entry := by
  induction entries with
  | nil => cases member
  | cons slot rest inductionHypothesis =>
    obtain ⟨unique, others⟩ := List.nodup_cons.mp distinct
    rw [get?_cons]
    rcases List.mem_cons.mp member with rfl | later
    · rw [if_pos rfl]
    · rw [if_neg, inductionHypothesis others later]
      intro same
      exact unique (same ▸ List.mem_map_of_mem later)

/-- Without a key among the entries, nothing is found under it. -/
theorem get?_eq_none {entries : Entries} {key : EntryKey}
    (absent : ∀ slot ∈ entries, slot.1 ≠ key) : entries.get? key = none := by
  cases found : entries.get? key with
  | none => rfl
  | some entry => exact absurd rfl (absent _ (mem_of_get? found))

theorem get?_erase (entries : Entries) (key other : EntryKey) :
    (entries.erase key).get? other = if key = other then none else entries.get? other := by
  induction entries with
  | nil => rw [erase, List.filter_nil, get?_nil, ite_self]
  | cons slot rest inductionHypothesis =>
    unfold erase at inductionHypothesis ⊢
    by_cases same : slot.1 = key
    · rw [List.filter_cons_of_neg (by simpa using same), inductionHypothesis]
      by_cases sought : key = other
      · rw [if_pos sought, if_pos sought]
      · rw [if_neg sought, if_neg sought, get?_cons, if_neg (same ▸ sought)]
    · rw [List.filter_cons_of_pos (by simpa using same), get?_cons, get?_cons,
        inductionHypothesis]
      by_cases sought : key = other
      · rw [if_pos sought, if_neg (sought ▸ same), if_pos sought]
      · rw [if_neg sought, if_neg sought]

theorem get?_put (entries : Entries) (key other : EntryKey) (entry : Entry) :
    (entries.put key entry).get? other =
      if key = other then some entry else entries.get? other := by
  rw [put, get?_cons, get?_erase]
  by_cases same : key = other
  · rw [if_pos same, if_pos same]
  · rw [if_neg same, if_neg same, if_neg same]

theorem get?_live {entries : Entries} (distinct : entries.Distinct) (now : Nat) (key : EntryKey) :
    (entries.live now).get? key = (entries.get? key).filter fun entry => !entry.isExpired now := by
  induction entries with
  | nil => rfl
  | cons slot rest inductionHypothesis =>
    obtain ⟨unique, others⟩ := List.nodup_cons.mp distinct
    unfold live at inductionHypothesis ⊢
    rw [get?_cons]
    by_cases expired : slot.2.isExpired now = true
    · rw [List.filter_cons_of_neg (by simpa using expired), inductionHypothesis others]
      by_cases same : slot.1 = key
      · have none : get? rest key = none := get?_eq_none fun other member equal =>
          unique (same ▸ equal ▸ List.mem_map_of_mem member)
        rw [if_pos same, none, Option.filter_some, if_neg (by simpa using expired)]
        rfl
      · rw [if_neg same]
    · rw [List.filter_cons_of_pos (by simpa using expired), get?_cons, inductionHypothesis others]
      by_cases same : slot.1 = key
      · rw [if_pos same, if_pos same, Option.filter_some, if_pos (by simpa using expired)]
      · rw [if_neg same, if_neg same]

/-- Changing the entry of one key in place changes what is found there, and nothing else. -/
theorem get?_map (entries : Entries) (key other : EntryKey) (change : Entry → Entry) :
    get? (entries.map fun slot => if slot.1 = key then (slot.1, change slot.2) else slot) other =
      if key = other then (entries.get? other).map change else entries.get? other := by
  induction entries with
  | nil => rw [List.map_nil, get?_nil, Option.map_none, ite_self]
  | cons slot rest inductionHypothesis =>
    rw [List.map_cons, get?_cons, get?_cons, inductionHypothesis]
    by_cases sought : key = other
    · rw [if_pos sought, if_pos sought]
      by_cases same : slot.1 = key
      · rw [if_pos same, if_pos (same.trans sought), if_pos (same.trans sought), Option.map_some]
      · rw [if_neg same, if_neg (sought ▸ same), if_neg (sought ▸ same)]
    · rw [if_neg sought, if_neg sought]
      by_cases same : slot.1 = key
      · rw [if_pos same, if_neg (same ▸ sought), if_neg (same ▸ sought)]
      · rw [if_neg same]

/-! ### Keeping keys distinct -/

theorem Distinct.filter {entries : Entries} (distinct : entries.Distinct)
    (keep : EntryKey × Entry → Bool) : Distinct (entries.filter keep) :=
  (List.filter_sublist.map Prod.fst).nodup distinct

theorem Distinct.erase {entries : Entries} (distinct : entries.Distinct) (key : EntryKey) :
    (entries.erase key).Distinct := distinct.filter _

theorem Distinct.put {entries : Entries} (distinct : entries.Distinct) (key : EntryKey)
    (entry : Entry) : (entries.put key entry).Distinct := by
  refine List.nodup_cons.mpr ⟨?_, distinct.erase key⟩
  intro member
  obtain ⟨slot, kept, same⟩ := List.mem_map.mp member
  have other := (List.mem_filter.mp kept).2
  exact of_decide_eq_true other same

theorem Distinct.map {entries : Entries} (distinct : entries.Distinct) (key : EntryKey)
    (change : Entry → Entry) :
    Distinct (entries.map fun slot => if slot.1 = key then (slot.1, change slot.2) else slot) := by
  have keys : (entries.map fun slot =>
      if slot.1 = key then (slot.1, change slot.2) else slot).map Prod.fst =
      entries.map Prod.fst := by
    rw [List.map_map]
    refine List.map_congr_left fun slot _ => ?_
    rw [Function.comp_apply]
    split <;> rfl
  rw [Distinct, keys]
  exact distinct

end Entries

namespace Shelf

/-! ### The entries found for a name -/

/-- The entries of a name, which are none if the name has no slot. -/
def entriesOf (shelf : Shelf) (name : Name) : Entries :=
  ((shelf.slot? name).map Slot.entries).getD []

theorem entryAt?_eq (shelf : Shelf) (name : Name) (key : EntryKey) :
    shelf.entryAt? name key = (shelf.entriesOf name).get? key := by
  unfold entryAt? entriesOf
  cases shelf.slot? name <;> rfl

@[simp] theorem entriesOf_nil (name : Name) : entriesOf [] name = [] := rfl

theorem entriesOf_cons (slot : Slot) (rest : Shelf) (name : Name) :
    entriesOf (slot :: rest) name =
      if slot.owner ≈ name then slot.entries else entriesOf rest name := by
  unfold entriesOf slot?
  by_cases same : slot.owner ≈ name
  · rw [List.find?_cons_of_pos (by simpa using same), if_pos same]
    rfl
  · rw [List.find?_cons_of_neg (by simpa using same), if_neg same]

/-- Names that are the same have the same entries. -/
theorem entriesOf_congr (shelf : Shelf) {name other : Name} (same : name ≈ other) :
    shelf.entriesOf name = shelf.entriesOf other := by
  induction shelf with
  | nil => rfl
  | cons slot rest inductionHypothesis =>
    rw [entriesOf_cons, entriesOf_cons, inductionHypothesis]
    by_cases found : slot.owner ≈ name
    · rw [if_pos found, if_pos (Setoid.trans found same)]
    · rw [if_neg found, if_neg fun other => found (Setoid.trans other (Setoid.symm same))]

theorem entriesOf_of_slot? {shelf : Shelf} {name : Name} {slot : Slot}
    (found : shelf.slot? name = some slot) : shelf.entriesOf name = slot.entries := by
  rw [entriesOf, found]
  rfl

theorem entriesOf_of_slot?_none {shelf : Shelf} {name : Name} (absent : shelf.slot? name = none) :
    shelf.entriesOf name = [] := by
  rw [entriesOf, absent]
  rfl

theorem owner_of_slot? {shelf : Shelf} {name : Name} {slot : Slot}
    (found : shelf.slot? name = some slot) : slot.owner ≈ name := by
  simpa using List.find?_some found

theorem mem_of_slot? {shelf : Shelf} {name : Name} {slot : Slot}
    (found : shelf.slot? name = some slot) : slot ∈ shelf := List.mem_of_find?_eq_some found

theorem slot?_cons (slot : Slot) (rest : Shelf) (name : Name) :
    slot? (slot :: rest) name = if slot.owner ≈ name then some slot else slot? rest name := by
  unfold slot?
  split
  · rename_i same
    exact List.find?_cons_of_pos (decide_eq_true same)
  · rename_i other
    exact List.find?_cons_of_neg fun same => other (of_decide_eq_true same)

theorem slot?_eq_none {shelf : Shelf} {name : Name}
    (absent : ∀ slot ∈ shelf, ¬ slot.owner ≈ name) : shelf.slot? name = none :=
  List.find?_eq_none.mpr fun slot member => by simpa using absent slot member

theorem entriesOf_eraseName (shelf : Shelf) (name other : Name) :
    (shelf.eraseName name).entriesOf other =
      if name ≈ other then [] else shelf.entriesOf other := by
  induction shelf with
  | nil => rw [eraseName, List.filter_nil, entriesOf_nil, ite_self]
  | cons slot rest inductionHypothesis =>
    unfold eraseName at inductionHypothesis ⊢
    by_cases same : slot.owner ≈ name
    · rw [List.filter_cons_of_neg (by simpa using same), inductionHypothesis]
      by_cases sought : name ≈ other
      · rw [if_pos sought, if_pos sought]
      · rw [if_neg sought, if_neg sought, entriesOf_cons,
          if_neg fun found => sought (Setoid.trans (Setoid.symm same) found)]
    · rw [List.filter_cons_of_pos (by simpa using same), entriesOf_cons, entriesOf_cons,
        inductionHypothesis]
      by_cases sought : name ≈ other
      · rw [if_pos sought, if_pos sought,
          if_neg fun found => same (Setoid.trans found (Setoid.symm sought))]
      · rw [if_neg sought, if_neg sought]

theorem entriesOf_promote (shelf : Shelf) (name other : Name) :
    (shelf.promote name).entriesOf other = shelf.entriesOf other := by
  unfold promote
  split
  · rename_i slot found
    rw [entriesOf_cons, entriesOf_eraseName]
    have owner := owner_of_slot? found
    by_cases sought : slot.owner ≈ other
    · rw [if_pos sought, ← entriesOf_of_slot? found]
      exact entriesOf_congr shelf (Setoid.trans (Setoid.symm owner) sought)
    · rw [if_neg sought, if_neg fun same => sought (Setoid.trans owner same)]
  · rfl

/-- Making room leaves a name with its entries, or drops it. -/
theorem entriesOf_take (shelf : Shelf) (count : Nat) (name : Name) :
    entriesOf (shelf.take count) name = shelf.entriesOf name ∨
      entriesOf (shelf.take count) name = [] := by
  induction shelf generalizing count with
  | nil => exact Or.inr (by rw [List.take_nil, entriesOf_nil])
  | cons slot rest inductionHypothesis =>
    cases count with
    | zero => exact Or.inr rfl
    | succ count =>
      rw [List.take_succ_cons, entriesOf_cons, entriesOf_cons]
      by_cases found : slot.owner ≈ name
      · rw [if_pos found, if_pos found]
        exact Or.inl rfl
      · rw [if_neg found, if_neg found]
        exact inductionHypothesis count

theorem entriesOf_fit (shelf : Shelf) (capacity : Nat) (name : Name) :
    (shelf.fit capacity).entriesOf name = shelf.entriesOf name ∨
      (shelf.fit capacity).entriesOf name = [] := by
  unfold fit
  split
  · exact Or.inl rfl
  · exact entriesOf_take shelf capacity name

/-! ### Tidy shelves -/

/-- No name has two slots, no key has two entries, and no slot is empty. -/
structure Tidy (shelf : Shelf) : Prop where
  owners : shelf.Pairwise fun first second => ¬ first.owner ≈ second.owner
  keys : ∀ slot ∈ shelf, slot.entries.Distinct
  filled : ∀ slot ∈ shelf, slot.entries ≠ []

theorem Tidy.nil : Tidy [] := ⟨List.Pairwise.nil, by simp, by simp⟩

theorem Tidy.distinct {shelf : Shelf} (tidy : shelf.Tidy) (name : Name) :
    (shelf.entriesOf name).Distinct := by
  unfold entriesOf
  cases found : shelf.slot? name with
  | none => exact List.nodup_nil
  | some slot => exact tidy.keys slot (mem_of_slot? found)

theorem Tidy.sublist {shelf smaller : Shelf} (tidy : shelf.Tidy)
    (part : smaller.Sublist shelf) : smaller.Tidy :=
  ⟨tidy.owners.sublist part, fun slot member => tidy.keys slot (part.subset member),
    fun slot member => tidy.filled slot (part.subset member)⟩

theorem Tidy.eraseName {shelf : Shelf} (tidy : shelf.Tidy) (name : Name) :
    (shelf.eraseName name).Tidy := tidy.sublist List.filter_sublist

theorem Tidy.fit {shelf : Shelf} (tidy : shelf.Tidy) (capacity : Nat) :
    (shelf.fit capacity).Tidy := by
  unfold Shelf.fit
  split
  · exact tidy
  · exact tidy.sublist (List.take_sublist _ _)

/-- A slot put in front of those of other names. -/
theorem Tidy.cons {shelf : Shelf} (tidy : shelf.Tidy) (slot : Slot)
    (fresh : ∀ other ∈ shelf, ¬ slot.owner ≈ other.owner) (keys : slot.entries.Distinct)
    (filled : slot.entries ≠ []) : Tidy (slot :: shelf) where
  owners := List.pairwise_cons.mpr ⟨fresh, tidy.owners⟩
  keys := by
    intro other member
    rcases List.mem_cons.mp member with rfl | later
    · exact keys
    · exact tidy.keys other later
  filled := by
    intro other member
    rcases List.mem_cons.mp member with rfl | later
    · exact filled
    · exact tidy.filled other later

/-! ### Changing the entries of one name -/

theorem reshape_cons_other {slot : Slot} {rest : Shelf} {name : Name}
    (other : ¬ slot.owner ≈ name) (change : Entries → Entries) :
    reshape (slot :: rest) name change = slot :: reshape rest name change :=
  List.filterMap_cons_some (if_neg other)

theorem reshape_of_absent {shelf : Shelf} {name : Name}
    (absent : ∀ slot ∈ shelf, ¬ slot.owner ≈ name) (change : Entries → Entries) :
    shelf.reshape name change = shelf := by
  induction shelf with
  | nil => rfl
  | cons slot rest inductionHypothesis =>
    rw [reshape_cons_other (absent slot List.mem_cons_self), inductionHypothesis]
    exact fun other member => absent other (List.mem_cons_of_mem _ member)

theorem reshape_cons_same {slot : Slot} {rest : Shelf} {name : Name} (same : slot.owner ≈ name)
    (absent : ∀ other ∈ rest, ¬ other.owner ≈ name) (change : Entries → Entries) :
    reshape (slot :: rest) name change =
      if (change slot.entries).isEmpty then rest
      else ⟨slot.owner, change slot.entries⟩ :: rest := by
  have others := reshape_of_absent absent change
  unfold reshape at others ⊢
  by_cases empty : (change slot.entries).isEmpty = true
  · rw [List.filterMap_cons_none (by rw [if_pos same, keepUnlessEmpty, if_pos empty]), others,
      if_pos empty]
  · rw [List.filterMap_cons_some (by rw [if_pos same, keepUnlessEmpty, if_neg empty]), others,
      if_neg empty]

/-- No other slot belongs to the name of the first. -/
theorem Tidy.absent_of_cons {slot : Slot} {rest : Shelf} (tidy : Tidy (slot :: rest)) {name : Name}
    (same : slot.owner ≈ name) : ∀ other ∈ rest, ¬ other.owner ≈ name := by
  intro other member found
  refine (List.pairwise_cons.mp tidy.owners).1 other member ?_
  exact Setoid.trans same (Setoid.symm found)

theorem Tidy.tail {slot : Slot} {rest : Shelf} (tidy : Tidy (slot :: rest)) : Tidy rest :=
  tidy.sublist (List.sublist_cons_self slot rest)

/-- Changing the entries of a name changes what is found for it, and for no other name. -/
theorem entriesOf_reshape {shelf : Shelf} (tidy : shelf.Tidy) (name other : Name)
    (change : Entries → Entries) (nothing : change [] = []) :
    (shelf.reshape name change).entriesOf other =
      if name ≈ other then change (shelf.entriesOf other) else shelf.entriesOf other := by
  induction shelf with
  | nil => rw [reshape, List.filterMap_nil, entriesOf_nil, nothing, ite_self]
  | cons slot rest inductionHypothesis =>
    by_cases same : slot.owner ≈ name
    · have absent := tidy.absent_of_cons same
      rw [reshape_cons_same same absent, entriesOf_cons slot]
      by_cases sought : name ≈ other
      · have found := Setoid.trans same sought
        rw [if_pos sought, if_pos found]
        split
        · rename_i empty
          rw [entriesOf_of_slot?_none (Shelf.slot?_eq_none fun slot member => ?_)]
          · exact (List.isEmpty_iff.mp empty).symm
          · exact tidy.absent_of_cons found slot member
        · rw [entriesOf_cons, if_pos found]
      · have missed : ¬ slot.owner ≈ other := fun found =>
          sought (Setoid.trans (Setoid.symm same) found)
        rw [if_neg sought, if_neg missed]
        split
        · rfl
        · rw [entriesOf_cons, if_neg missed]
    · rw [reshape_cons_other same, entriesOf_cons, entriesOf_cons, inductionHypothesis tidy.tail]
      by_cases found : slot.owner ≈ other
      · rw [if_pos found, if_pos found, if_neg]
        exact fun sought => same (Setoid.trans found (Setoid.symm sought))
      · rw [if_neg found, if_neg found]

/-- Names that are left keep their order, where slots are changed or taken out. -/
theorem owners_filterMap (shelf : Shelf) {change : Slot → Option Slot}
    (keeps : ∀ slot after, change slot = some after → after.owner = slot.owner) :
    ((shelf.filterMap change).map Slot.owner).Sublist (shelf.map Slot.owner) := by
  induction shelf with
  | nil => exact .slnil
  | cons slot rest inductionHypothesis =>
    rw [List.filterMap_cons]
    split
    · exact inductionHypothesis.cons _
    · rename_i after becomes
      rw [List.map_cons, List.map_cons, keeps slot after becomes]
      exact inductionHypothesis.cons_cons _

/-- A slot whose entries are changed stays that of its owner. -/
theorem owner_of_reshaped {slot after : Slot} {name : Name} {change : Entries → Entries}
    (becomes : (if slot.owner ≈ name then keepUnlessEmpty slot.owner (change slot.entries)
      else some slot) = some after) : after.owner = slot.owner := by
  unfold keepUnlessEmpty at becomes
  split at becomes
  · split at becomes <;> cases becomes
    rfl
  · cases becomes
    rfl

theorem owners_reshape (shelf : Shelf) (name : Name) (change : Entries → Entries) :
    ((shelf.reshape name change).map Slot.owner).Sublist (shelf.map Slot.owner) :=
  shelf.owners_filterMap fun _ _ becomes => owner_of_reshaped becomes

theorem mem_reshape {shelf : Shelf} {name : Name} {change : Entries → Entries} {slot : Slot}
    (member : slot ∈ shelf.reshape name change) :
    slot ∈ shelf ∨ ∃ before ∈ shelf, slot.owner = before.owner ∧
      slot.entries = change before.entries ∧ slot.entries ≠ [] := by
  obtain ⟨before, present, becomes⟩ := List.mem_filterMap.mp member
  split at becomes
  · unfold keepUnlessEmpty at becomes
    split at becomes
    · cases becomes
    · rename_i filled
      cases becomes
      exact Or.inr ⟨before, present, rfl, rfl, fun empty => filled (List.isEmpty_iff.mpr empty)⟩
  · cases becomes
    exact Or.inl present

/-- Changing entries so that keys stay distinct leaves a tidy shelf. -/
theorem Tidy.reshape {shelf : Shelf} (tidy : shelf.Tidy) (name : Name) (change : Entries → Entries)
    (distinct : ∀ entries : Entries, entries.Distinct → (change entries).Distinct) :
    (shelf.reshape name change).Tidy where
  owners := by
    unfold Shelf.reshape
    rw [List.pairwise_filterMap]
    refine tidy.owners.imp fun {first second} differ firstAfter firstKept secondAfter
      secondKept => ?_
    rw [owner_of_reshaped firstKept, owner_of_reshaped secondKept]
    exact differ
  keys := by
    intro slot member
    rcases mem_reshape member with same | ⟨before, present, _, entries, _⟩
    · exact tidy.keys slot same
    · exact entries ▸ distinct _ (tidy.keys before present)
  filled := by
    intro slot member
    rcases mem_reshape member with same | ⟨_, _, _, _, filled⟩
    · exact tidy.filled slot same
    · exact filled

theorem entriesOf_eraseEntry {shelf : Shelf} (tidy : shelf.Tidy) (name other : Name)
    (key : EntryKey) :
    (shelf.eraseEntry name key).entriesOf other =
      if name ≈ other then (shelf.entriesOf other).erase key else shelf.entriesOf other :=
  entriesOf_reshape tidy name other _ rfl

theorem Tidy.eraseEntry {shelf : Shelf} (tidy : shelf.Tidy) (name : Name) (key : EntryKey) :
    (shelf.eraseEntry name key).Tidy :=
  tidy.reshape name _ fun _ distinct => distinct.erase key

/-! ### Using names and installing entries -/

theorem not_owner_of_mem_eraseName {shelf : Shelf} {name : Name} {slot : Slot}
    (member : slot ∈ shelf.eraseName name) : ¬ slot.owner ≈ name := by
  simpa using (List.mem_filter.mp member).2

/-- A slot for a name, put in front of those of all other names. -/
theorem Tidy.moveToFront {shelf : Shelf} (tidy : shelf.Tidy) {name : Name} (slot : Slot)
    (owner : slot.owner ≈ name) (keys : slot.entries.Distinct) (filled : slot.entries ≠ []) :
    Tidy (slot :: shelf.eraseName name) := by
  refine (tidy.eraseName name).cons slot (fun other member same => ?_) keys filled
  exact not_owner_of_mem_eraseName member (Setoid.trans (Setoid.symm same) owner)

theorem Tidy.promote {shelf : Shelf} (tidy : shelf.Tidy) (name : Name) :
    (shelf.promote name).Tidy := by
  unfold Shelf.promote
  split
  · rename_i slot found
    have member := mem_of_slot? found
    exact tidy.moveToFront slot (owner_of_slot? found) (tidy.keys slot member)
      (tidy.filled slot member)
  · exact tidy

/-- The shelf with an entry installed, before names have to make room. -/
def installed (shelf : Shelf) (name : Name) (key : EntryKey) (entry : Entry) : Shelf :=
  match shelf.slot? name with
  | some slot => ⟨slot.owner, slot.entries.put key entry⟩ :: shelf.eraseName name
  | none => ⟨name, [(key, entry)]⟩ :: shelf

theorem entriesOf_installed (shelf : Shelf) (name other : Name) (key : EntryKey) (entry : Entry) :
    (shelf.installed name key entry).entriesOf other =
      if name ≈ other then (shelf.entriesOf other).put key entry else shelf.entriesOf other := by
  unfold installed
  split
  · rename_i slot found
    have owner := owner_of_slot? found
    rw [entriesOf_cons, entriesOf_eraseName]
    by_cases sought : name ≈ other
    · rw [if_pos (Setoid.trans owner sought), if_pos sought, ← entriesOf_congr shelf sought,
        entriesOf_of_slot? found]
    · rw [if_neg sought, if_neg sought,
        if_neg fun same => sought (Setoid.trans (Setoid.symm owner) same)]
  · rename_i absent
    rw [entriesOf_cons]
    by_cases sought : name ≈ other
    · rw [if_pos sought, if_pos sought, ← entriesOf_congr shelf sought,
        entriesOf_of_slot?_none absent]
      rfl
    · rw [if_neg sought, if_neg sought]

theorem Tidy.installed {shelf : Shelf} (tidy : shelf.Tidy) (name : Name) (key : EntryKey)
    (entry : Entry) : (shelf.installed name key entry).Tidy := by
  unfold Shelf.installed
  split
  · rename_i slot found
    have owner := owner_of_slot? found
    have keys := (tidy.keys slot (mem_of_slot? found)).put key entry
    exact tidy.moveToFront ⟨slot.owner, _⟩ owner keys (List.cons_ne_nil _ _)
  · rename_i absent
    refine tidy.cons _ (fun other member same => ?_) ?_ (List.cons_ne_nil _ _)
    · exact List.find?_eq_none.mp absent other member (decide_eq_true (Setoid.symm same))
    · exact List.nodup_cons.mpr ⟨List.not_mem_nil, List.nodup_nil⟩

/-- Room has to be made only when the name is new. -/
theorem install_eq (shelf : Shelf) (capacity : Nat) (name : Name) (key : EntryKey)
    (entry : Entry) :
    shelf.install capacity name key entry =
      match shelf.slot? name with
      | some _ => shelf.installed name key entry
      | none => (shelf.installed name key entry).fit capacity := by
  unfold install installed
  cases shelf.slot? name <;> rfl

/-- Installing into a cache with room for all names makes no room. -/
theorem install_unbounded (shelf : Shelf) (name : Name) (key : EntryKey) (entry : Entry) :
    shelf.install 0 name key entry = shelf.installed name key entry := by
  rw [install_eq]
  split <;> rfl

/-- What is installed is there, and it is the only change except that other names may go. -/
theorem entriesOf_install (shelf : Shelf) (capacity : Nat) (name other : Name) (key : EntryKey)
    (entry : Entry) :
    (shelf.install capacity name key entry).entriesOf other =
        (shelf.installed name key entry).entriesOf other ∨
      ¬ name ≈ other ∧ (shelf.install capacity name key entry).entriesOf other = [] := by
  rw [install_eq]
  split
  · exact Or.inl rfl
  · rename_i absent
    by_cases sought : name ≈ other
    · refine Or.inl ?_
      unfold installed fit
      rw [absent]
      split
      · rfl
      · rename_i bounded
        obtain ⟨room, capacityEq⟩ := Nat.exists_eq_succ_of_ne_zero bounded
        rw [capacityEq, List.take_succ_cons, entriesOf_cons, entriesOf_cons, if_pos sought,
          if_pos sought]
    · rcases entriesOf_fit (shelf.installed name key entry) capacity other with same | gone
      · exact Or.inl same
      · exact Or.inr ⟨sought, gone⟩

theorem Tidy.install {shelf : Shelf} (tidy : shelf.Tidy) (capacity : Nat) (name : Name)
    (key : EntryKey) (entry : Entry) : (shelf.install capacity name key entry).Tidy := by
  rw [install_eq]
  split
  · exact tidy.installed name key entry
  · exact (tidy.installed name key entry).fit capacity

end Shelf

end StubResolver.Cache
