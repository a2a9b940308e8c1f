/-
This file compares the program's notion of a subdomain with the order of names in the name space. A
name lies within another when it ends in the labels of the other, whatever their case.

The program aligns two names by the numbers of their labels, and does not count a wildcard at the
front. If both names begin with a wildcard, or neither does, that is right. If only one does, its
last label hangs over the end of the other name and is not looked at, and what is compared instead
stands one label too far to the left. So a name with a wildcard is compared without its last label,
and this is all that can go wrong.
-/

import StubResolver.Proofs.Name.Subdomains

namespace StubResolver.Name

/-! ### Names that end in others -/

/-- A name ends in another when the labels of the other stand at its end, in whatever case. -/
def EndsIn (name owner : Name) : Prop :=
  owner.labels.map Label.lowered <:+ name.labels.map Label.lowered

instance (name owner : Name) : Decidable (name.EndsIn owner) :=
  inferInstanceAs (Decidable (_ <:+ _))

/-- Absolute names are the same if their labels are, whatever their case. -/
theorem equiv_iff_labels {name other : Name} (absolute : name.absolute = true)
    (otherAbsolute : other.absolute = true) :
    name ≈ other ↔ name.labels.map Label.lowered = other.labels.map Label.lowered := by
  rw [equiv_iff_lowered]
  refine ⟨fun same => congrArg labels same, fun same => ?_⟩
  rw [lowered, lowered, Name.mk.injEq, absolute, otherAbsolute]
  exact ⟨same, rfl⟩

/-- The rightmost labels of a name. -/
theorem labels_suffix {name : Name} {count : Nat} (bounded : count ≤ name.labels.length) :
    (name.suffix count).labels = name.labels.drop (name.labels.length - count) := by
  unfold suffix
  by_cases none : count = 0
  · rw [if_pos none, none, Nat.sub_zero, List.drop_length]
    rfl
  · rw [if_neg none, if_neg (Nat.not_lt.mpr bounded)]

/-- A name ends in another if its rightmost labels, as many as the other has, are those of the
other. -/
theorem endsIn_iff_drop (name owner : Name) :
    name.EndsIn owner ↔ owner.labels.length ≤ name.labels.length ∧
      (name.labels.drop (name.labels.length - owner.labels.length)).map Label.lowered =
        owner.labels.map Label.lowered := by
  constructor
  · intro ends
    have shorter := ends.length_le
    have rightmost := List.suffix_iff_eq_drop.mp ends
    rw [List.length_map, List.length_map] at shorter
    rw [List.length_map, List.length_map, ← List.map_drop] at rightmost
    exact ⟨shorter, rightmost.symm⟩
  · rintro ⟨_, rightmost⟩
    rw [EndsIn, ← rightmost]
    exact (List.drop_suffix _ _).map _

/-! ### What is compared -/

/-- The labels of a name that are looked at when it is compared with another. -/
def comparedWith (name other : Name) : List Label :=
  if name.startsWild && !other.startsWild then name.labels.dropLast else name.labels

theorem comparedWith_of_alike {name other : Name} (alike : name.startsWild = other.startsWild) :
    name.comparedWith other = name.labels := by
  rw [comparedWith, alike, Bool.and_not_self, if_neg Bool.false_ne_true]

/-- At most one of two names leaves a label out, and then the one that the counts leave out too. So
the numbers of the labels looked at differ as the counts do. -/
theorem length_comparedWith (name other : Name) :
    (name.comparedWith other).length =
      name.labelCount + (name.startsWild && other.startsWild).toNat := by
  have counted := name.labelCount_add
  unfold comparedWith
  cases wild : name.startsWild <;> cases other.startsWild <;> rw [wild] at counted <;>
    simp at counted ⊢ <;> omega

theorem comparedWith_eq_take (name other : Name) :
    name.comparedWith other = name.labels.take (name.comparedWith other).length := by
  unfold comparedWith
  split
  · rw [List.length_dropLast, List.dropLast_eq_take]
  · rw [List.take_length]

/-- A name has as many labels as are looked at, or one more if it leaves one out. -/
theorem length_labels (name other : Name) :
    name.labels.length =
      (name.comparedWith other).length + (name.startsWild && !other.startsWild).toNat := by
  rw [length_comparedWith, ← name.labelCount_add]
  cases name.startsWild <;> cases other.startsWild <;> rfl

/-- What hangs over is not compared. -/
theorem zip_drop_labels {name owner : Name} (fewer : owner.labelCount ≤ name.labelCount) :
    (name.labels.drop (name.labelCount - owner.labelCount)).zip owner.labels =
      ((name.comparedWith owner).drop (name.labelCount - owner.labelCount)).zip
        (owner.comparedWith name) := by
  have looked := length_comparedWith name owner
  have ownerLooked := length_comparedWith owner name
  rw [Bool.and_comm] at ownerLooked
  have length := name.length_labels owner
  have ownerLength := owner.length_labels name
  have shorter : min (name.labels.drop (name.labelCount - owner.labelCount)).length
      owner.labels.length = (owner.comparedWith name).length := by
    rw [List.length_drop]
    cases wild : name.startsWild <;> cases ownerWild : owner.startsWild <;>
      rw [wild, ownerWild] at length ownerLength looked ownerLooked <;> simp at * <;> omega
  have left : (name.comparedWith owner).length - (name.labelCount - owner.labelCount) =
      (owner.comparedWith name).length := by
    omega
  rw [List.zip_eq_zip_take_min, shorter, ← comparedWith_eq_take owner name, ← left,
    ← List.drop_take, ← comparedWith_eq_take name owner]

/-- The labels that are looked at decide: a name is a subdomain of another in the program's sense
if those of the other stand at the end of its own. -/
theorem isWithin_iff_compared (name owner : Name) :
    name.isWithin owner = true ↔
      (owner.comparedWith name).map Label.lowered <:+
        (name.comparedWith owner).map Label.lowered := by
  have looked := length_comparedWith name owner
  have ownerLooked := length_comparedWith owner name
  rw [Bool.and_comm] at ownerLooked
  rw [isWithin_iff]
  by_cases fewer : owner.labelCount ≤ name.labelCount
  · have sameLength : ((name.comparedWith owner).drop
        (name.labelCount - owner.labelCount)).length = (owner.comparedWith name).length := by
      rw [List.length_drop]
      omega
    have number : ((name.comparedWith owner).map Label.lowered).length -
        ((owner.comparedWith name).map Label.lowered).length =
          name.labelCount - owner.labelCount := by
      rw [List.length_map, List.length_map]
      omega
    rw [and_iff_right fewer, zip_drop_labels fewer, all_zip_iff sameLength, List.suffix_iff_eq_drop,
      number, ← List.map_drop]
    exact eq_comm
  · refine iff_of_false (fun both => fewer both.1) fun ends => ?_
    have length := ends.length_le
    rw [List.length_map, List.length_map] at length
    omega

/-- Where both names begin with a wildcard, or neither, a subdomain is a name that ends in the
other. -/
theorem isWithin_iff_endsIn {name owner : Name} (alike : name.startsWild = owner.startsWild) :
    name.isWithin owner = true ↔ name.EndsIn owner := by
  rw [isWithin_iff_compared, comparedWith_of_alike alike, comparedWith_of_alike alike.symm]
  rfl

/-- A name is misjudged with regard to another if only one of the two begins with a wildcard, and
leaving a label out makes a difference: the labels looked at match and the name does not end in the
other, or the other way round. -/
structure Misjudged (name owner : Name) : Prop where
  unlike : name.startsWild ≠ owner.startsWild
  matters : ¬ ((owner.comparedWith name).map Label.lowered <:+
      (name.comparedWith owner).map Label.lowered ↔ name.EndsIn owner)

/-- Subdomains are the names that end in others, except for the pairs that are misjudged. -/
theorem isWithin_iff_endsIn_iff (name owner : Name) :
    (name.isWithin owner = true ↔ name.EndsIn owner) ↔ ¬ name.Misjudged owner := by
  constructor
  · intro agree misjudged
    rw [isWithin_iff_compared] at agree
    exact misjudged.matters agree
  · intro judged
    by_cases alike : name.startsWild = owner.startsWild
    · exact isWithin_iff_endsIn alike
    · rw [isWithin_iff_compared]
      exact Classical.byContradiction fun matters => judged ⟨alike, matters⟩

end StubResolver.Name
