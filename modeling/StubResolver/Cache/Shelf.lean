/-
This file keeps the names of a cache in the order of their last use, the latest first. A name is
found whatever the case of its letters, and no name is kept without entries. When names have to
make room, those used longest ago go first.
-/

import StubResolver.Cache.Entry

namespace StubResolver.Cache

/-- A name with its entries. -/
structure Slot where
  owner : Name
  entries : Entries
deriving DecidableEq

/-- The names of a cache, the latest used first. -/
abbrev Shelf := List Slot

namespace Shelf

/-! ### Looking -/

/-- The slot of a name. -/
def slot? (shelf : Shelf) (name : Name) : Option Slot := shelf.find? fun slot => slot.owner ≈ name

/-- The entry of a name under a key. This is the view that all else is said in. -/
def entryAt? (shelf : Shelf) (name : Name) (key : EntryKey) : Option Entry :=
  (shelf.slot? name).bind fun slot => slot.entries.get? key

/-- The number of entries of all names. -/
def entryCount : Shelf → Nat
  | [] => 0
  | slot :: rest => slot.entries.length + entryCount rest

/-! ### Changing entries in place -/

/-- A slot with other entries, unless none are left. -/
def keepUnlessEmpty (owner : Name) (entries : Entries) : Option Slot :=
  if entries.isEmpty then none else some ⟨owner, entries⟩

/-- The shelf with the entries of one name changed. The name keeps its place, and goes when it is
left without entries. -/
def reshape (shelf : Shelf) (name : Name) (change : Entries → Entries) : Shelf :=
  shelf.filterMap fun slot =>
    if slot.owner ≈ name then keepUnlessEmpty slot.owner (change slot.entries) else some slot

/-- The shelf without the entry of a name under a key. -/
def eraseEntry (shelf : Shelf) (name : Name) (key : EntryKey) : Shelf :=
  shelf.reshape name fun entries => entries.erase key

/-- The shelf without a name. -/
def eraseName (shelf : Shelf) (name : Name) : Shelf :=
  shelf.filter fun slot => !decide (slot.owner ≈ name)

/-! ### Using names -/

/-- The shelf with a name made the latest used, if it is there. -/
def promote (shelf : Shelf) (name : Name) : Shelf :=
  match shelf.slot? name with
  | some slot => slot :: shelf.eraseName name
  | none => shelf

/-- The names that there is room for, where no capacity means that there is room for all. -/
def fit (shelf : Shelf) (capacity : Nat) : Shelf :=
  if capacity = 0 then shelf else shelf.take capacity

/-- The shelf with an entry installed. Its name becomes the latest used, and a name that was not
there may push out another. -/
def install (shelf : Shelf) (capacity : Nat) (name : Name) (key : EntryKey) (entry : Entry) :
    Shelf :=
  match shelf.slot? name with
  | some slot => ⟨slot.owner, slot.entries.put key entry⟩ :: shelf.eraseName name
  | none => fit (⟨name, [(key, entry)]⟩ :: shelf) capacity

/-- The number of names that installing an entry pushes out. -/
def pushedOut (shelf : Shelf) (capacity : Nat) (name : Name) : Nat :=
  match shelf.slot? name with
  | some _ => 0
  | none => if capacity ≠ 0 ∧ capacity ≤ shelf.length then 1 else 0

end Shelf

end StubResolver.Cache
