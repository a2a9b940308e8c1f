/-
This file says exactly when a name can be moved to another owner or completed by a suffix, and what
comes of it. Both operations put labels in front of others, so there is one question of length, and
it is asked of the labels that are put together. A move has to find the owner's labels at the end of
the name first.

What makes the statements exact is that no name begins with a wildcard. A wildcard at the front is a
label that is not counted, so that the owner's labels are looked for in the wrong place. Completion
counts nothing, and its labels are right whatever the names are. But who takes as many labels from
the completed name as the suffix has by count gets one label too few if the suffix begins with a
wildcard.
-/

import StubResolver.Name.Printer
import StubResolver.Proofs.Name.Letters
import StubResolver.Proofs.Name.Suffixes

namespace StubResolver.Name

/-! ### What is reported -/

section

variable {labels : List Label} {absolute : Bool} {name next : Name}

/-- It is reported that an operation does not lead to a name. -/
def IsInvalid (result : Except Misfit Name) : Prop :=
  ∃ detail, result.mapError Misfit.toError = .error (.invalidName detail)

/-- It is reported that an operation leads to a name that is too long. -/
def IsTooLong (result : Except Misfit Name) : Prop :=
  ∃ detail, result.mapError Misfit.toError = .error (.nameTooLong detail)

theorem not_isInvalid_ok : ¬ IsInvalid (.ok name) := by
  rintro ⟨_, reported⟩
  cases reported

theorem not_isTooLong_ok : ¬ IsTooLong (.ok name) := by
  rintro ⟨_, reported⟩
  cases reported

theorem ofLabels_of_fits (fits : wireLength labels ≤ maxNameLength) :
    ofLabels labels absolute = .ok ⟨labels, absolute, fits⟩ := by
  unfold ofLabels ofLabels?
  rw [dif_pos fits]

theorem ofLabels_of_tooLong (tooLong : maxNameLength < wireLength labels) :
    ofLabels labels absolute = .error (.tooLong (wireLength labels)) := by
  unfold ofLabels
  rw [(ofLabels?_eq_none_iff labels absolute).mpr tooLong]

theorem not_isInvalid_ofLabels : ¬ IsInvalid (ofLabels labels absolute) := by
  rintro ⟨_, reported⟩
  by_cases fits : wireLength labels ≤ maxNameLength
  · rw [ofLabels_of_fits fits] at reported
    cases reported
  · rw [ofLabels_of_tooLong (Nat.not_le.mp fits)] at reported
    cases reported

theorem isTooLong_ofLabels_iff :
    IsTooLong (ofLabels labels absolute) ↔ maxNameLength < wireLength labels := by
  refine ⟨fun reported => Nat.not_le.mp fun fits => ?_, fun tooLong => ?_⟩
  · rw [ofLabels_of_fits fits] at reported
    exact not_isTooLong_ok reported
  · rw [ofLabels_of_tooLong tooLong]
    exact ⟨_, rfl⟩

end

/-! ### Moves -/

/-- The labels of a name in front of as many as an owner has. -/
def above (name owner : Name) : List Label :=
  name.labels.take (name.labels.length - owner.labels.length)

/-- The labels of a name are those above an owner and those of the owner, in whatever case. -/
theorem map_lowered_above {name owner : Name} (ends : name.EndsIn owner) :
    (name.above owner ++ owner.labels).map Label.lowered = name.labels.map Label.lowered := by
  obtain ⟨_, rightmost⟩ := (endsIn_iff_drop name owner).mp ends
  rw [List.map_append, ← rightmost, ← List.map_append, above, List.take_append_drop]

theorem above_append {name owner : Name} {labels : List Label}
    (split : name.labels = labels ++ owner.labels) : name.above owner = labels := by
  unfold above
  rw [split, List.length_append, Nat.add_sub_cancel, List.take_left]

theorem startsWild_iff (name : Name) :
    name.startsWild = true ↔ name.labels.head? = some Label.wildcard := by
  unfold startsWild
  cases name.labels with
  | nil => simp
  | cons first rest => simp

/-- A name put together from the front of one name and all of another begins with a wildcard only if
one of the two does. -/
theorem startsWild_of_front {name target next : Name} {front : List Label}
    (plain : name.startsWild = false) (plainTarget : target.startsWild = false)
    (isFront : front <+: name.labels) (labels : next.labels = front ++ target.labels) :
    next.startsWild = false := by
  rw [Bool.eq_false_iff, ne_eq, startsWild_iff] at plain plainTarget ⊢
  rw [labels]
  cases front with
  | nil => exact plainTarget
  | cons first rest =>
    obtain ⟨others, all⟩ := isFront
    intro wild
    rw [← all] at plain
    exact plain wild

section

variable {name owner target : Name}

theorem substitute_of_not_endsIn (plain : name.startsWild = false)
    (plainOwner : owner.startsWild = false) (elsewhere : ¬ name.EndsIn owner) :
    name.substitute owner target = .error (.notBelow name owner) := by
  unfold substitute
  rw [if_neg fun within => elsewhere ((isWithin_iff_endsIn (plain.trans plainOwner.symm)).mp within)]

/-- A move puts the labels above the owner in front of those of the target. -/
theorem substitute_of_endsIn (plain : name.startsWild = false)
    (plainOwner : owner.startsWild = false) (ends : name.EndsIn owner) :
    name.substitute owner target =
      ofLabels (name.above owner ++ target.labels) target.absolute := by
  have alike := plain.trans plainOwner.symm
  have within := (isWithin_iff_endsIn alike).mpr ends
  have aligned := labelCount_sub alike ((isWithin_iff name owner).mp within).1
  unfold substitute above
  rw [if_pos within, aligned, Nat.add_sub_cancel]

/-- Moving back from the target to the owner restores the name. -/
theorem substitute_back {next : Name} (plain : name.startsWild = false)
    (plainTarget : target.startsWild = false) (ends : name.EndsIn owner)
    (labels : next.labels = name.above owner ++ target.labels) :
    ∃ back, next.substitute target owner = .ok back ∧ back.toAbsolute ≈ name.toAbsolute := by
  have endsInTarget : next.EndsIn target := by
    rw [EndsIn, labels, List.map_append]
    exact List.suffix_append _ _
  have restored := map_lowered_above ends
  have fits : wireLength (name.above owner ++ owner.labels) ≤ maxNameLength :=
    Nat.le_trans (Nat.le_of_eq (wireLength_eq_of_lowered restored)) name.fits
  have plainNext := startsWild_of_front plain plainTarget (List.take_prefix _ _) labels
  rw [substitute_of_endsIn plainNext plainTarget endsInTarget, above_append labels,
    ofLabels_of_fits fits]
  exact ⟨_, rfl, (equiv_iff_labels rfl rfl).mpr restored⟩

end

/-- What there is to say of moving a name from below an owner to below a target. -/
structure MovesExactly (name owner target : Name) : Prop where
  /-- It is refused exactly if the owner's labels do not stand at the end of the name. -/
  invalid_iff : IsInvalid (name.substitute owner target) ↔ ¬ name.EndsIn owner
  /-- Otherwise it leads to a name that is too long exactly if the labels above the owner and those
  of the target do not fit into one. -/
  tooLong_iff : name.EndsIn owner →
    (IsTooLong (name.substitute owner target) ↔
      maxNameLength < wireLength (name.above owner ++ target.labels))
  /-- Otherwise it leads to the name of these labels, and the way back leads to the name. -/
  moves : name.EndsIn owner → wireLength (name.above owner ++ target.labels) ≤ maxNameLength →
    ∃ next, name.substitute owner target = .ok next ∧
      next.labels = name.above owner ++ target.labels ∧ next.absolute = target.absolute ∧
      ∃ back, next.substitute target owner = .ok back ∧ back.toAbsolute ≈ name.toAbsolute

theorem movesExactly {name owner target : Name} (plain : name.startsWild = false)
    (plainOwner : owner.startsWild = false) (plainTarget : target.startsWild = false) :
    name.MovesExactly owner target where
  invalid_iff := by
    by_cases ends : name.EndsIn owner
    · rw [substitute_of_endsIn plain plainOwner ends]
      exact iff_of_false not_isInvalid_ofLabels (not_not_intro ends)
    · rw [substitute_of_not_endsIn plain plainOwner ends]
      exact iff_of_true ⟨_, rfl⟩ ends
  tooLong_iff ends := by
    rw [substitute_of_endsIn plain plainOwner ends]
    exact isTooLong_ofLabels_iff
  moves ends fits := by
    rw [substitute_of_endsIn plain plainOwner ends, ofLabels_of_fits fits]
    exact ⟨_, rfl, rfl, rfl, substitute_back plain plainTarget ends rfl⟩

/-- Whatever names are moved, counts are only subtracted if that is possible. -/
theorem labelCount_le_of_valid {name owner target : Name}
    (valid : ¬ IsInvalid (name.substitute owner target)) : owner.labelCount ≤ name.labelCount := by
  by_cases within : name.isWithin owner = true
  · exact ((isWithin_iff name owner).mp within).1
  · unfold substitute at valid
    rw [if_neg within] at valid
    exact absurd ⟨_, rfl⟩ valid

/-! ### Completions -/

/-- What there is to say of completing a relative name by a suffix. -/
structure CompletesExactly (name suffix : Name) : Prop where
  /-- It leads to a name that is too long exactly if the labels do not fit into one. -/
  tooLong_iff : IsTooLong (name.qualify suffix) ↔
    maxNameLength < wireLength (name.labels ++ suffix.labels)
  /-- Otherwise it leads to the name of these labels, which lies below the suffix. That is how the
  program sees it as well, unless there are wildcards at the front. The rightmost labels of it, as
  many as the suffix has, are the suffix. To take as many as the suffix has by count is to take the
  suffix exactly if that does not begin with a wildcard. -/
  completes : wireLength (name.labels ++ suffix.labels) ≤ maxNameLength →
    ∃ joined, name.qualify suffix = .ok joined ∧ joined.labels = name.labels ++ suffix.labels ∧
      joined.absolute = suffix.absolute ∧ joined.EndsIn suffix ∧
      (name.startsWild = false → suffix.startsWild = false → joined.isWithin suffix = true) ∧
      (joined.suffix suffix.labels.length).toAbsolute = suffix.toAbsolute ∧
      ((joined.suffix suffix.labelCount).toAbsolute ≈ suffix.toAbsolute ↔
        suffix.startsWild = false)

theorem labels_suffix_append {joined suffix : Name} {labels : List Label}
    (split : joined.labels = labels ++ suffix.labels) :
    (joined.suffix suffix.labels.length).labels = suffix.labels := by
  rw [labels_suffix (by rw [split, List.length_append]; exact Nat.le_add_left _ _), split,
    List.length_append, Nat.add_sub_cancel, List.drop_left]

/-- The count leaves out a wildcard, and with it the label that the suffix begins with. -/
theorem suffix_labelCount_equiv_iff {joined suffix : Name} {labels : List Label}
    (split : joined.labels = labels ++ suffix.labels) :
    (joined.suffix suffix.labelCount).toAbsolute ≈ suffix.toAbsolute ↔
      suffix.startsWild = false := by
  have counted := suffix.labelCount_add
  have total : joined.labels.length = labels.length + suffix.labels.length := by
    rw [split, List.length_append]
  rw [equiv_iff_labels rfl rfl, toAbsolute_labels, toAbsolute_labels]
  cases wild : suffix.startsWild with
  | false =>
    rw [wild, Bool.toNat_false, Nat.add_zero] at counted
    rw [counted, labels_suffix_append split]
    exact iff_of_true rfl rfl
  | true =>
    rw [wild, Bool.toNat_true] at counted
    refine iff_of_false (fun same => ?_) Bool.noConfusion
    have sameLength := congrArg List.length same
    rw [List.length_map, List.length_map, labels_suffix (by omega), List.length_drop] at sameLength
    omega

theorem completesExactly {name : Name} (suffix : Name) (relative : name.absolute = false) :
    name.CompletesExactly suffix := by
  have qualified : name.qualify suffix =
      ofLabels (name.labels ++ suffix.labels) suffix.absolute := by
    unfold qualify
    rw [relative, if_neg Bool.false_ne_true]
  refine ⟨by rw [qualified]; exact isTooLong_ofLabels_iff, fun fits => ?_⟩
  rw [qualified, ofLabels_of_fits fits]
  have ends : EndsIn ⟨name.labels ++ suffix.labels, suffix.absolute, fits⟩ suffix := by
    rw [EndsIn, List.map_append]
    exact List.suffix_append _ _
  refine ⟨_, rfl, rfl, rfl, ends, fun plain plainSuffix => ?_, ?_,
    suffix_labelCount_equiv_iff rfl⟩
  · refine (isWithin_iff_endsIn (Eq.trans ?_ plainSuffix.symm)).mpr ends
    exact startsWild_of_front plain plainSuffix (List.prefix_refl _) rfl
  · rw [toAbsolute, toAbsolute, Name.mk.injEq]
    exact ⟨labels_suffix_append rfl, rfl⟩

/-! ### Both together -/

/-- Among names that do not begin with a wildcard, moves are exact. Completions are exact among all
names, where the labels of the suffix are counted with the wildcard. Neither leads to a name that is
too long, and a move that finds the owner never subtracts a count from a smaller one. -/
theorem moves_completions_exact (name owner target suffix : Name) :
    (name.startsWild = false → owner.startsWild = false → target.startsWild = false →
      name.MovesExactly owner target) ∧
    (name.absolute = false → name.CompletesExactly suffix) ∧
    (¬ IsInvalid (name.substitute owner target) → owner.labelCount ≤ name.labelCount) ∧
    ∀ next, name.substitute owner target = .ok next ∨ name.qualify suffix = .ok next →
      wireLength next.labels ≤ maxNameLength :=
  ⟨movesExactly, completesExactly suffix, labelCount_le_of_valid, fun next _ => next.fits⟩

/-- The name `W.E.` is moved from below `e.` to below the root and becomes `W.`, the way back leads
to `W.e.`, and the relative name `w` is completed by `*.c.`. -/
theorem redirected_completed_exactly :
    let name := Name.ofOctets [0x57, 0x45]
    let owner := Name.ofOctets [0x65]
    let relative : Name := { Name.ofOctets [0x77] with absolute := false }
    let suffix := Name.ofOctets [0x2a, 0x63]
    (name.startsWild = false ∧ owner.startsWild = false ∧ Name.root.startsWild = false ∧
      relative.absolute = false ∧ ¬ IsInvalid (name.substitute owner Name.root)) ∧
    name.MovesExactly owner Name.root ∧ relative.CompletesExactly suffix ∧
    owner.labelCount ≤ name.labelCount ∧
    name.substitute owner Name.root = .ok (Name.ofOctets [0x57]) := by
  intro name owner relative suffix
  obtain ⟨moves, _, counts, _⟩ := moves_completions_exact name owner Name.root suffix
  obtain ⟨_, completes, _, _⟩ := moves_completions_exact relative owner Name.root suffix
  have moved : name.substitute owner Name.root = .ok (Name.ofOctets [0x57]) := rfl
  have valid : ¬ IsInvalid (name.substitute owner Name.root) := moved ▸ not_isInvalid_ok
  have plain : name.startsWild = false := by decide +kernel
  have plainOwner : owner.startsWild = false := by decide +kernel
  exact ⟨⟨plain, plainOwner, rfl, rfl, valid⟩, moves plain plainOwner rfl, completes rfl,
    counts valid, moved⟩

/-- Completed by `*.c.`, the relative name `w` becomes `w.*.c.`. The suffix has one label by count,
and the last label of the completed name is `c.`. -/
theorem completed_by_wildcard :
    let relative : Name := { Name.ofOctets [0x77] with absolute := false }
    let suffix := Name.ofOctets [0x2a, 0x63]
    let joined := Name.ofOctets [0x77, 0x2a, 0x63]
    relative.absolute = false ∧ relative.qualify suffix = .ok joined ∧
      suffix.labelCount = 1 ∧ joined.suffix suffix.labelCount = Name.ofOctets [0x63] ∧
      ¬ (joined.suffix suffix.labelCount).toAbsolute ≈ suffix.toAbsolute :=
  ⟨rfl, rfl, rfl, rfl, by decide +kernel⟩

end StubResolver.Name
