/-
This file fixes what a domain name is: labels of one to sixty-three octets, at most 255 octets
altogether on the wire, and a mark that says whether the name is absolute. Both bounds are part of
the types, so that no operation can lose them. Names are compared without regard to the case of
ASCII letters, which `≈` says; `=` is kept for names that agree octet by octet.

The operations are the four that resolving needs: completing a relative name by a search suffix,
taking the rightmost labels, asking whether a name lies below another, and moving a name from one
owner to another as a DNAME record asks. One asymmetry runs through all of them: `labelCount` does
not count a leading wildcard label, while the labels themselves do include it.
-/

import StubResolver.Error

namespace StubResolver

/-! ### Octets and labels -/

/-- The lower-case octet of an ASCII capital, and every other octet as it is. -/
def lowerOctet (octet : UInt8) : UInt8 :=
  if 0x41 ≤ octet ∧ octet ≤ 0x5a then octet + 0x20 else octet

theorem lowerOctet_lowerOctet (octet : UInt8) :
    lowerOctet (lowerOctet octet) = lowerOctet octet := by
  unfold lowerOctet
  split
  · rename_i capital
    rw [if_neg]
    rintro ⟨_, bound⟩
    rw [UInt8.le_iff_toNat_le, UInt8.toNat_add] at bound
    simp only [UInt8.le_iff_toNat_le] at capital
    simp only [UInt8.reduceToNat] at bound capital
    omega
  · rfl

/-- One label of a domain name: between one and sixty-three octets of any kind. -/
structure Label where
  octets : List UInt8
  nonempty : octets ≠ []
  short : octets.length ≤ 63
deriving DecidableEq

namespace Label

/-- A label of the given octets, when their number is one a label may have. -/
def ofOctets? (octets : List UInt8) : Option Label :=
  if bounds : octets ≠ [] ∧ octets.length ≤ 63 then some ⟨octets, bounds.1, bounds.2⟩ else none

/-- The label `*`, which stands for any label in a zone and is not counted at the front of a
name. -/
def wildcard : Label := ⟨[0x2a], by decide, by decide⟩

/-- A label with its capitals lowered. Two labels are the same label of a name when these agree. -/
def lowered (label : Label) : Label :=
  ⟨label.octets.map lowerOctet, by simpa using label.nonempty, by simpa using label.short⟩

@[simp] theorem lowered_octets (label : Label) :
    label.lowered.octets = label.octets.map lowerOctet := rfl

theorem lowered_lowered (label : Label) : label.lowered.lowered = label.lowered := by
  simp [lowered, Function.comp_def, lowerOctet_lowerOctet]

end Label

/-! ### Names -/

/-- The greatest number of octets a name may take on the wire. -/
def maxNameLength : Nat := 255

/-- The octets that labels take on the wire: each label follows its length, and a zero octet ends
the name. -/
def wireLength : List Label → Nat
  | [] => 1
  | label :: labels => label.octets.length + 1 + wireLength labels

@[simp] theorem wireLength_nil : wireLength [] = 1 := rfl

theorem wireLength_cons (label : Label) (labels : List Label) :
    wireLength (label :: labels) = label.octets.length + 1 + wireLength labels := rfl

/-- Dropping leading labels never lengthens a name. -/
theorem wireLength_drop_le (count : Nat) (labels : List Label) :
    wireLength (labels.drop count) ≤ wireLength labels := by
  induction labels generalizing count with
  | nil => simp
  | cons label rest inductionHypothesis =>
    cases count with
    | zero => exact Nat.le_refl _
    | succ count =>
      rw [List.drop_succ_cons, wireLength_cons]
      exact Nat.le_trans (inductionHypothesis count) (Nat.le_add_left _ _)

/-- Lowering capitals keeps the length. -/
theorem wireLength_map_lowered (labels : List Label) :
    wireLength (labels.map Label.lowered) = wireLength labels := by
  induction labels with
  | nil => rfl
  | cons label rest inductionHypothesis => simp [wireLength_cons, inductionHypothesis]

/-- A domain name: its labels, leftmost first, and whether it is absolute, that is, whether it
ends at the root and is not to be completed by a search suffix. -/
structure Name where
  labels : List Label
  absolute : Bool
  fits : wireLength labels ≤ maxNameLength
deriving DecidableEq

namespace Name

/-- A name with its capitals lowered. -/
def lowered (name : Name) : Name :=
  ⟨name.labels.map Label.lowered, name.absolute,
    Nat.le_trans (Nat.le_of_eq (wireLength_map_lowered name.labels)) name.fits⟩

@[simp] theorem lowered_labels (name : Name) :
    name.lowered.labels = name.labels.map Label.lowered := rfl

@[simp] theorem lowered_absolute (name : Name) : name.lowered.absolute = name.absolute := rfl

/-- Names are the same when they differ at most in the case of ASCII letters. -/
instance : Setoid Name where
  r first second := first.lowered = second.lowered
  iseqv := ⟨fun _ => rfl, Eq.symm, Eq.trans⟩

theorem equiv_iff_lowered (first second : Name) :
    first ≈ second ↔ first.lowered = second.lowered := Iff.rfl

instance (first second : Name) : Decidable (first ≈ second) :=
  inferInstanceAs (Decidable (first.lowered = second.lowered))

/-- The root of the name space. -/
def root : Name := ⟨[], true, by decide⟩

/-- A name is the root when it is absolute and has no label. -/
def isRoot (name : Name) : Bool := name.absolute && name.labels.isEmpty

/-- The same labels as an absolute name. -/
def toAbsolute (name : Name) : Name := { name with absolute := true }

@[simp] theorem toAbsolute_labels (name : Name) : name.toAbsolute.labels = name.labels := rfl

@[simp] theorem toAbsolute_absolute (name : Name) : name.toAbsolute.absolute = true := rfl

theorem toAbsolute_of_absolute (name : Name) (absolute : name.absolute = true) :
    name.toAbsolute = name := by
  cases name
  cases absolute
  rfl

/-- The number of labels, without a wildcard label at the front. -/
def labelCount (name : Name) : Nat :=
  match name.labels with
  | [] => 0
  | first :: rest => if first = Label.wildcard then rest.length else rest.length + 1

/-! ### Building names -/

/-- Why labels or a pair of names do not make a name. -/
inductive Misfit where
  /-- The labels would take this many octets on the wire. -/
  | tooLong (length : Nat)
  /-- The first name does not lie below the second. -/
  | notBelow (name owner : Name)
deriving DecidableEq

/-- The name of the given labels, if it fits. -/
def ofLabels? (labels : List Label) (absolute : Bool) : Option Name :=
  if fits : wireLength labels ≤ maxNameLength then some ⟨labels, absolute, fits⟩ else none

theorem ofLabels?_eq_some_iff (labels : List Label) (absolute : Bool) (name : Name) :
    ofLabels? labels absolute = some name ↔ name.labels = labels ∧ name.absolute = absolute := by
  obtain ⟨nameLabels, nameAbsolute, nameFits⟩ := name
  unfold ofLabels?
  split
  · constructor
    · intro equal
      cases equal
      exact ⟨rfl, rfl⟩
    · rintro ⟨rfl, rfl⟩
      rfl
  · rename_i tooLong
    constructor
    · intro equal
      cases equal
    · rintro ⟨rfl, rfl⟩
      exact absurd nameFits tooLong

theorem ofLabels?_eq_none_iff (labels : List Label) (absolute : Bool) :
    ofLabels? labels absolute = none ↔ maxNameLength < wireLength labels := by
  unfold ofLabels?
  split <;> simp <;> omega

/-- The name of the given labels, or how long it would be. -/
def ofLabels (labels : List Label) (absolute : Bool) : Except Misfit Name :=
  match ofLabels? labels absolute with
  | some name => .ok name
  | none => .error (.tooLong (wireLength labels))

/-! ### The four operations -/

/-- A relative name completed by a suffix, whose mark it takes. An absolute name needs no
completion and stays as it is. -/
def qualify (name suffix : Name) : Except Misfit Name :=
  if name.absolute then .ok name else ofLabels (name.labels ++ suffix.labels) suffix.absolute

/-- The name of the rightmost labels; none of them is the root. A proper part is absolute, and
asking for more labels than there are gives the name itself. -/
def suffix (name : Name) (count : Nat) : Name :=
  if count = 0 then
    root
  else if name.labels.length < count then
    name
  else
    ⟨name.labels.drop (name.labels.length - count), true,
      Nat.le_trans (wireLength_drop_le _ _) name.fits⟩

/-- Whether a name equals `owner` or lies below it. The labels are aligned by their counts, and
then compared as far as both names have them. -/
def isWithin (name owner : Name) : Bool :=
  owner.labelCount ≤ name.labelCount &&
    ((name.labels.drop (name.labelCount - owner.labelCount)).zip owner.labels).all
      fun pair => pair.1.lowered = pair.2.lowered

/-- A name moved from below `owner` to below `target`: the labels above the owner's are kept and
the target's follow. This is the move that a DNAME record asks for. -/
def substitute (name owner target : Name) : Except Misfit Name :=
  if name.isWithin owner then
    ofLabels (name.labels.take (name.labelCount - owner.labelCount) ++ target.labels)
      target.absolute
  else
    .error (.notBelow name owner)

end Name

end StubResolver
