/-
This file compares the program's notion of a subdomain with the plain one, by which a name lies
below another when its labels end in those of the other. The program aligns the labels by their
counts, and the counts leave out a wildcard label at the front. Two names that both begin with a
wildcard, or neither, are aligned as they should be. Otherwise the alignment is off by one label.

The same goes for moving a name from below one owner to below another.
-/

import StubResolver.Name.Basic

namespace StubResolver.Name

/-! ### Lengths on the wire -/

/-- Labels that are put together share the octet that ends a name. -/
theorem wireLength_append (first second : List Label) :
    wireLength (first ++ second) + 1 = wireLength first + wireLength second := by
  induction first with
  | nil => exact Nat.add_comm _ _
  | cons label rest inductionHypothesis =>
    rw [List.cons_append, wireLength_cons, wireLength_cons]
    omega

/-- The case of letters makes no difference to the length. -/
theorem wireLength_eq_of_lowered {first second : List Label}
    (same : first.map Label.lowered = second.map Label.lowered) :
    wireLength first = wireLength second := by
  rw [← wireLength_map_lowered first, same, wireLength_map_lowered]

/-! ### Counting labels -/

/-- Whether a name begins with a wildcard label, which is not counted. -/
def startsWild (name : Name) : Bool :=
  match name.labels with
  | [] => false
  | first :: _ => first = Label.wildcard

theorem labelCount_add (name : Name) :
    name.labelCount + name.startsWild.toNat = name.labels.length := by
  unfold labelCount startsWild
  cases name.labels with
  | nil => rfl
  | cons first rest =>
    dsimp only
    by_cases wild : first = Label.wildcard
    · rw [if_pos wild, decide_eq_true wild]
      rfl
    · rw [if_neg wild, decide_eq_false wild]
      rfl

/-- Lists of labels of one length agree label by label if they are the same in lower case. -/
theorem all_zip_iff {first second : List Label} (sameLength : first.length = second.length) :
    (first.zip second).all (fun pair => pair.1.lowered = pair.2.lowered) = true ↔
      first.map Label.lowered = second.map Label.lowered := by
  induction first generalizing second with
  | nil =>
    cases second with
    | nil => exact ⟨fun _ => rfl, fun _ => rfl⟩
    | cons label rest => cases sameLength
  | cons label rest inductionHypothesis =>
    cases second with
    | nil => cases sameLength
    | cons other others =>
      rw [List.zip_cons_cons, List.all_cons, List.map_cons, List.map_cons, List.cons.injEq,
        Bool.and_eq_true, decide_eq_true_iff, inductionHypothesis (Nat.succ_inj.mp sameLength)]

theorem isWithin_iff (name owner : Name) :
    name.isWithin owner = true ↔ owner.labelCount ≤ name.labelCount ∧
      ((name.labels.drop (name.labelCount - owner.labelCount)).zip owner.labels).all
        (fun pair => pair.1.lowered = pair.2.lowered) = true := by
  unfold isWithin
  rw [Bool.and_eq_true, decide_eq_true_iff]

/-- A move keeps the labels that are counted above the owner. -/
theorem substitute_eq_ok_iff (name owner target next : Name) :
    name.substitute owner target = .ok next ↔ name.isWithin owner = true ∧
      next.labels = name.labels.take (name.labelCount - owner.labelCount) ++ target.labels ∧
      next.absolute = target.absolute := by
  unfold substitute ofLabels
  by_cases within : name.isWithin owner = true
  · rw [if_pos within, ← ofLabels?_eq_some_iff]
    split
    · rename_i made
      rw [made, Except.ok.injEq, Option.some_inj]
      exact ⟨fun same => ⟨within, same⟩, fun both => both.2⟩
    · rename_i tooLong
      rw [tooLong]
      constructor
      · intro made
        cases made
      · rintro ⟨_, made⟩
        cases made
  · rw [if_neg within]
    constructor
    · intro made
      cases made
    · rintro ⟨isWithin, _⟩
      exact absurd isWithin within

/-! ### Lying below another name -/

/-- A name lies below another when it has more labels and ends in all of those of the other. -/
def LiesBelow (name owner : Name) : Prop :=
  name.absolute = owner.absolute ∧ ∃ above below, above ≠ [] ∧ name.labels = above ++ below ∧
    below.map Label.lowered = owner.labels.map Label.lowered

theorem LiesBelow.length_lt {name owner : Name} (below : name.LiesBelow owner) :
    owner.labels.length < name.labels.length := by
  obtain ⟨_, above, under, someAbove, split, same⟩ := below
  have sameLength : under.length = owner.labels.length := by simpa using congrArg List.length same
  rw [split, List.length_append, sameLength]
  have := List.length_pos_iff.mpr someAbove
  omega

/-- What a name becomes when it is moved from below an owner to below a target: the labels above
the owner's stay, and the target's follow. -/
def IsMoved (name owner target next : Name) : Prop :=
  next.absolute = target.absolute ∧ ∃ above below, name.labels = above ++ below ∧
    below.length = owner.labels.length ∧ next.labels = above ++ target.labels

/-- Where neither or both names begin with a wildcard, the labels are aligned. -/
theorem labelCount_sub {name owner : Name} (alike : name.startsWild = owner.startsWild)
    (fewer : owner.labelCount ≤ name.labelCount) :
    name.labels.length = name.labelCount - owner.labelCount + owner.labels.length := by
  have nameCount := name.labelCount_add
  have ownerCount := owner.labelCount_add
  rw [alike] at nameCount
  omega

/-- A subdomain in the program's sense lies below the owner, if neither or both names begin with a
wildcard and they are not the same. -/
theorem liesBelow_of_isWithin {name owner : Name} (alike : name.startsWild = owner.startsWild)
    (absolute : name.absolute = owner.absolute) (differ : ¬ owner ≈ name)
    (within : name.isWithin owner = true) : name.LiesBelow owner := by
  obtain ⟨fewer, agree⟩ := (isWithin_iff name owner).mp within
  have aligned := labelCount_sub alike fewer
  have sameLength : (name.labels.drop (name.labelCount - owner.labelCount)).length =
      owner.labels.length := by
    rw [List.length_drop]
    omega
  have same := (all_zip_iff sameLength).mp agree
  refine ⟨absolute, _, _, ?_, (List.take_append_drop _ name.labels).symm, same⟩
  intro nothingAbove
  refine differ (Setoid.symm ((equiv_iff_lowered name owner).mpr ?_))
  have all := List.take_append_drop (name.labelCount - owner.labelCount) name.labels
  rw [nothingAbove, List.nil_append] at all
  rw [all] at same
  unfold lowered
  simp only [same, absolute]

theorem length_labels_of_equiv {name other : Name} (same : name ≈ other) :
    name.labels.length = other.labels.length := by
  have lowered := congrArg (fun lowered => lowered.labels.length)
    ((equiv_iff_lowered name other).mp same)
  simpa using lowered

theorem absolute_of_equiv {name other : Name} (same : name ≈ other) :
    name.absolute = other.absolute := by
  have lowered := congrArg (fun lowered => lowered.absolute)
    ((equiv_iff_lowered name other).mp same)
  exact lowered

/-- A name does not lie below itself, in whatever case. -/
theorem LiesBelow.not_equiv {name owner : Name} (below : name.LiesBelow owner) :
    ¬ owner ≈ name :=
  fun same => absurd (length_labels_of_equiv same) (Nat.ne_of_lt below.length_lt)

/-- Names that differ in case only lie below the same names. -/
theorem LiesBelow.congr {name other owner : Name} (below : name.LiesBelow owner)
    (same : name ≈ other) : other.LiesBelow owner := by
  obtain ⟨absolute, above, under, someAbove, split, ends⟩ := below
  have labels := congrArg Name.labels ((equiv_iff_lowered name other).mp same)
  have lowered : name.labels.map Label.lowered = other.labels.map Label.lowered := labels
  have sameLength := length_labels_of_equiv same
  rw [split, List.length_append] at sameLength
  rw [split, List.map_append] at lowered
  refine ⟨(absolute_of_equiv same).symm.trans absolute, other.labels.take above.length,
    other.labels.drop above.length, ?_, (List.take_append_drop _ _).symm, ?_⟩
  · intro nothing
    have someLength := List.length_pos_iff.mpr someAbove
    have taken := congrArg List.length nothing
    rw [List.length_take, List.length_nil] at taken
    omega
  · rw [List.map_drop, ← lowered, List.drop_left' (List.length_map _)]
    exact ends

/-- A proper suffix has fewer labels. -/
theorem length_suffix_lt {name : Name} {count : Nat} (fewer : count < name.labelCount) :
    (name.suffix count).labels.length < name.labels.length := by
  have counted := name.labelCount_add
  unfold suffix
  split
  · show 0 < name.labels.length
    omega
  · rw [if_neg (by omega)]
    show (name.labels.drop _).length < _
    rw [List.length_drop]
    omega

/-- A move leads where it should if neither or both names begin with a wildcard. -/
theorem isMoved_of_substitute {name owner target next : Name}
    (alike : name.startsWild = owner.startsWild)
    (moved : name.substitute owner target = .ok next) : name.IsMoved owner target next := by
  obtain ⟨within, labels, absolute⟩ := (substitute_eq_ok_iff _ _ _ _).mp moved
  have aligned := labelCount_sub alike ((isWithin_iff name owner).mp within).1
  refine ⟨absolute, _, _, (List.take_append_drop _ name.labels).symm, ?_, labels⟩
  rw [List.length_drop]
  omega

/-- A move that leads where it should is between names of which neither or both begin with a
wildcard, since otherwise the number of labels comes out wrong. -/
theorem startsWild_eq_of_isMoved {name owner target next other : Name}
    (moved : name.substitute owner target = .ok next) (same : next ≈ other)
    (isMoved : name.IsMoved owner target other) : name.startsWild = owner.startsWild := by
  obtain ⟨within, labels, _⟩ := (substitute_eq_ok_iff _ _ _ _).mp moved
  obtain ⟨fewer, _⟩ := (isWithin_iff name owner).mp within
  obtain ⟨_, above, below, split, belowLength, otherLabels⟩ := isMoved
  have sameLength := length_labels_of_equiv same
  rw [labels, otherLabels, List.length_append, List.length_append, List.length_take] at sameLength
  have total := congrArg List.length split
  rw [List.length_append] at total
  have nameCount := name.labelCount_add
  have ownerCount := owner.labelCount_add
  have nameBound := Bool.toNat_le name.startsWild
  have ownerBound := Bool.toNat_le owner.startsWild
  have sameNumber : name.startsWild.toNat = owner.startsWild.toNat := by omega
  have injective : ∀ first second : Bool, first.toNat = second.toNat → first = second := by decide
  exact injective _ _ sameNumber

end StubResolver.Name
