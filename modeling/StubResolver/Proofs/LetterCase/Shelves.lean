/-
This file proves that a shelf takes no notice of the case of letters. A name is found whatever its
case, and what is found, changed or pushed out for it is the same but for the case of letters. The
order of names and the numbers of names and of entries do not depend on case at all.
-/

import StubResolver.Proofs.Cache.Shelf
import StubResolver.Proofs.LetterCase.Messages

namespace StubResolver.Cache

/-! ### Entries -/

/-- What an entry says, with the capitals of all names lowered. -/
def EntryData.lowered : EntryData → EntryData
  | positive set => positive set.lowered
  | negative => negative

namespace Entry

/-- An entry with the capitals of all names lowered. -/
def lowered (entry : Entry) : Entry := { entry with data := entry.data.lowered }

variable (entry : Entry)

@[simp] theorem lowered_credibility : entry.lowered.credibility = entry.credibility := rfl

@[simp] theorem isExpired_lowered (now : Nat) :
    entry.lowered.isExpired now = entry.isExpired now := rfl

@[simp] theorem set?_lowered : entry.lowered.set? = entry.set?.map RRset.lowered := by
  obtain ⟨data, credibility, expiresAt⟩ := entry
  cases data <;> rfl

@[simp] theorem ofSet_lowered (set : RRset) (credibility : Credibility) (now : Nat)
    (longest : Option UInt32) :
    ofSet set.lowered credibility now longest = (ofSet set credibility now longest).lowered := by
  unfold ofSet
  rw [RRset.ttl_lowered]
  rfl

@[simp] theorem ofAbsence_lowered (lifetime : UInt32) (credibility : Credibility) (now : Nat)
    (longest : UInt32) :
    (ofAbsence lifetime credibility now longest).lowered =
      ofAbsence lifetime credibility now longest := rfl

end Entry

namespace Entries

/-- The entries of a name, with the capitals of all names lowered. -/
def lowered (entries : Entries) : Entries := entries.map fun slot => (slot.1, slot.2.lowered)

variable (entries : Entries)

@[simp] theorem length_lowered : entries.lowered.length = entries.length := List.length_map _

@[simp] theorem isEmpty_lowered : entries.lowered.isEmpty = entries.isEmpty := List.isEmpty_map

@[simp] theorem get?_lowered (key : EntryKey) :
    entries.lowered.get? key = (entries.get? key).map Entry.lowered := by
  induction entries with
  | nil => rfl
  | cons slot rest inductionHypothesis =>
    show get? ((slot.1, slot.2.lowered) :: lowered rest) key = _
    rw [get?_cons, get?_cons, inductionHypothesis, apply_ite (Option.map Entry.lowered)]
    rfl

@[simp] theorem erase_lowered (key : EntryKey) :
    entries.lowered.erase key = (entries.erase key).lowered := List.filter_map

@[simp] theorem put_lowered (key : EntryKey) (entry : Entry) :
    entries.lowered.put key entry.lowered = (entries.put key entry).lowered := by
  simp [put, lowered, erase, List.filter_map, Function.comp_def]

@[simp] theorem live_lowered (now : Nat) : entries.lowered.live now = (entries.live now).lowered :=
  List.filter_map

@[simp] theorem usable?_lowered (least : Credibility) (key : EntryKey) :
    entries.lowered.usable? least key = (entries.usable? least key).map Entry.lowered := by
  unfold usable?
  rw [get?_lowered, Option.filter_map]
  rfl

@[simp] theorem usableSet?_lowered (least : Credibility) (type : RecordType) :
    entries.lowered.usableSet? least type = (entries.usableSet? least type).map RRset.lowered := by
  unfold usableSet?
  rw [usable?_lowered]
  cases entries.usable? least (.type type) <;> simp

/-- The sets are in the order of their types, which do not depend on case. -/
@[simp] theorem usableSets_lowered (least : Credibility) :
    entries.lowered.usableSets least = (entries.usableSets least).map RRset.lowered := by
  have credible : (entries.lowered.filterMap fun slot =>
        if least ≤ slot.2.credibility then slot.2.set? else none) =
      (entries.filterMap fun slot =>
        if least ≤ slot.2.credibility then slot.2.set? else none).map RRset.lowered := by
    unfold lowered
    rw [List.filterMap_map, List.map_filterMap]
    congr 1
    funext slot
    simp [apply_ite (Option.map RRset.lowered)]
  have sorted (sets : List RRset) :
      (sets.mergeSort fun first second => first.type.code ≤ second.type.code).map RRset.lowered =
        (sets.map RRset.lowered).mergeSort fun first second =>
          first.type.code ≤ second.type.code :=
    List.map_mergeSort fun _ _ _ _ => rfl
  unfold usableSets
  rw [sorted, credible]

end Entries

/-! ### Shelves -/

/-- A name with its entries, with the capitals of all names lowered. -/
def Slot.lowered (slot : Slot) : Slot := ⟨slot.owner.lowered, slot.entries.lowered⟩

@[simp] theorem Slot.lowered_owner (slot : Slot) : slot.lowered.owner = slot.owner.lowered := rfl

@[simp] theorem Slot.lowered_entries (slot : Slot) :
    slot.lowered.entries = slot.entries.lowered := rfl

namespace Shelf

/-- A shelf with the capitals of all names lowered. -/
def lowered (shelf : Shelf) : Shelf := shelf.map Slot.lowered

variable (shelf : Shelf) (name : Name)

@[simp] theorem length_lowered : shelf.lowered.length = shelf.length := List.length_map _

/-- No two names of a tidy shelf differ only in the case of letters. -/
theorem Tidy.lowered {shelf : Shelf} (tidy : shelf.Tidy) : shelf.lowered.Tidy where
  owners := List.pairwise_map.mpr
    (tidy.owners.imp fun apart same => apart (Name.lowered_equiv_lowered.mp same))
  keys := by
    intro slot member
    obtain ⟨original, present, rfl⟩ := List.mem_map.mp member
    have keys : original.lowered.entries.map Prod.fst = original.entries.map Prod.fst := by
      simp [Entries.lowered, Function.comp_def]
    unfold Entries.Distinct
    rw [keys]
    exact tidy.keys original present
  filled := by
    intro slot member
    obtain ⟨original, present, rfl⟩ := List.mem_map.mp member
    exact fun empty => tidy.filled original present (List.map_eq_nil_iff.mp empty)

/-- A name is found whatever the case of its letters. -/
@[simp] theorem slot?_lowered :
    shelf.lowered.slot? name.lowered = (shelf.slot? name).map Slot.lowered := by
  unfold slot? lowered
  rw [List.find?_map]
  congr 2
  funext slot
  exact decide_eq_decide.mpr Name.lowered_equiv_lowered

@[simp] theorem entryAt?_lowered (key : EntryKey) :
    shelf.lowered.entryAt? name.lowered key = (shelf.entryAt? name key).map Entry.lowered := by
  unfold entryAt?
  rw [slot?_lowered]
  cases shelf.slot? name <;> simp

theorem keepUnlessEmpty_lowered (owner : Name) (entries : Entries) :
    keepUnlessEmpty owner.lowered entries.lowered =
      (keepUnlessEmpty owner entries).map Slot.lowered := by
  unfold keepUnlessEmpty
  rw [Entries.isEmpty_lowered, apply_ite (Option.map Slot.lowered)]
  rfl

/-- Changes to the entries of a name that are the same but for the case of letters. -/
theorem reshape_lowered {change other : Entries → Entries}
    (same : ∀ entries : Entries, other entries.lowered = (change entries).lowered) :
    shelf.lowered.reshape name.lowered other = (shelf.reshape name change).lowered := by
  unfold reshape lowered
  rw [List.filterMap_map, List.map_filterMap]
  congr 1
  funext slot
  have owner : slot.lowered.owner ≈ name.lowered ↔ slot.owner ≈ name := Name.lowered_equiv_lowered
  by_cases here : slot.owner ≈ name
  · rw [Function.comp_apply, if_pos here, if_pos (owner.mpr here), Slot.lowered_entries, same,
      ← keepUnlessEmpty_lowered]
    rfl
  · rw [Function.comp_apply, if_neg here, if_neg (mt owner.mp here)]
    rfl

@[simp] theorem eraseEntry_lowered (key : EntryKey) :
    shelf.lowered.eraseEntry name.lowered key = (shelf.eraseEntry name key).lowered :=
  shelf.reshape_lowered name fun entries => entries.erase_lowered key

@[simp] theorem eraseName_lowered :
    shelf.lowered.eraseName name.lowered = (shelf.eraseName name).lowered := by
  unfold eraseName lowered
  rw [List.filter_map]
  congr 2
  funext slot
  exact congrArg (!·) (decide_eq_decide.mpr Name.lowered_equiv_lowered)

@[simp] theorem promote_lowered :
    shelf.lowered.promote name.lowered = (shelf.promote name).lowered := by
  unfold promote
  rw [slot?_lowered, eraseName_lowered]
  cases shelf.slot? name <;> rfl

@[simp] theorem fit_lowered (capacity : Nat) :
    shelf.lowered.fit capacity = (shelf.fit capacity).lowered := by
  unfold fit lowered
  rw [apply_ite (List.map Slot.lowered), List.map_take]

@[simp] theorem install_lowered (capacity : Nat) (key : EntryKey) (entry : Entry) :
    shelf.lowered.install capacity name.lowered key entry.lowered =
      (shelf.install capacity name key entry).lowered := by
  unfold install
  rw [slot?_lowered, eraseName_lowered]
  cases shelf.slot? name with
  | none => exact fit_lowered (⟨name, [(key, entry)]⟩ :: shelf) capacity
  | some slot => simp [lowered, Slot.lowered]

@[simp] theorem pushedOut_lowered (capacity : Nat) :
    shelf.lowered.pushedOut capacity name.lowered = shelf.pushedOut capacity name := by
  unfold pushedOut
  rw [slot?_lowered, length_lowered]
  cases shelf.slot? name <;> rfl

end Shelf

end StubResolver.Cache
