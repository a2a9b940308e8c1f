/-
This file proves that what is done with names takes no notice of the case of letters. Lowering the
capitals of a name leaves a name that counts for the same, and the program never looks at more than
that: an operation on names that were lowered does what it does on the names themselves, but for
the case of letters in what it returns. So it is with counting labels, with comparing names, and
with cutting and moving them.

Lowering is written on the right of each equation, so that as rules for rewriting they carry it out
of everything that names are put into.
-/

import Mathlib.Data.Setoid.Basic
import StubResolver.Name.Basic

namespace StubResolver

/-! ### Labels -/

/-- The octet of the wildcard has no case. -/
theorem lowerOctet_eq_star_iff (octet : UInt8) : lowerOctet octet = 0x2a ↔ octet = 0x2a := by
  unfold lowerOctet
  split
  · rename_i capital
    simp only [UInt8.le_iff_toNat_le, UInt8.reduceToNat] at capital
    simp only [← UInt8.toNat_inj, UInt8.toNat_add, UInt8.reduceToNat]
    omega
  · exact Iff.rfl

namespace Label

attribute [simp] lowered_lowered

@[simp] theorem lowered_eq_wildcard_iff (label : Label) :
    label.lowered = wildcard ↔ label = wildcard := by
  obtain ⟨octets, nonempty, short⟩ := label
  simp [lowered, wildcard, List.map_eq_singleton_iff, lowerOctet_eq_star_iff]

end Label

namespace Name

@[simp] theorem lowered_lowered (name : Name) : name.lowered.lowered = name.lowered := by
  simp [lowered, Function.comp_def]

/-- Names in lower case are the same if the names are. -/
theorem lowered_equiv_lowered {first second : Name} :
    first.lowered ≈ second.lowered ↔ first ≈ second := by simp

@[simp] theorem root_lowered : root.lowered = root := rfl

@[simp] theorem toAbsolute_lowered (name : Name) :
    name.lowered.toAbsolute = name.toAbsolute.lowered := rfl

@[simp] theorem labelCount_lowered (name : Name) : name.lowered.labelCount = name.labelCount := by
  unfold labelCount
  cases labels : name.labels with
  | nil => simp [labels]
  | cons first rest => simp [labels]

@[simp] theorem isWithin_lowered (name owner : Name) :
    name.lowered.isWithin owner.lowered = name.isWithin owner := by
  simp [isWithin, ← List.map_drop, List.zip_map, List.all_map, Function.comp_def]

@[simp] theorem suffix_lowered (name : Name) (count : Nat) :
    name.lowered.suffix count = (name.suffix count).lowered := by
  unfold suffix
  by_cases none : count = 0
  · simp [none]
  · by_cases all : name.labels.length < count
    · simp [none, all]
    · simp [none, all, lowered]

/-! ### Moving names -/

theorem ofLabels?_lowered (labels : List Label) (absolute : Bool) :
    ofLabels? (labels.map Label.lowered) absolute = (ofLabels? labels absolute).map lowered := by
  unfold ofLabels?
  by_cases fits : wireLength labels ≤ maxNameLength
  · simp [fits, wireLength_map_lowered, lowered]
  · simp [fits, wireLength_map_lowered]

theorem toOption_ofLabels (labels : List Label) (absolute : Bool) :
    (ofLabels labels absolute).toOption = ofLabels? labels absolute := by
  unfold ofLabels
  split
  · rename_i name made
    rw [made]
    rfl
  · rename_i tooLong
    rw [tooLong]
    rfl

/-- A name is moved or cannot be moved, whatever the case of letters. -/
theorem substitute_lowered (name owner target : Name) :
    (name.lowered.substitute owner.lowered target.lowered).toOption =
      (name.substitute owner target).toOption.map lowered := by
  unfold substitute
  rw [isWithin_lowered]
  split
  · rw [toOption_ofLabels, toOption_ofLabels, ← ofLabels?_lowered]
    simp
  · rfl

end Name

end StubResolver
