/-
This file says when aliases are followed. A resolution counts them, and wherever it has come, the
names it has passed and the one it has come to all differ. It follows an alias exactly if this stays
so and there are not too many, whatever else it remembers. A response that crosses several aliases
is held to the same rule.
-/

import StubResolver.Proofs.Resolver.Aliases

namespace StubResolver

/-! ### Names that differ -/

/-- Names that differ by more than the case of their letters. -/
def Name.AllDiffer (names : List Name) : Prop := (names.map Name.lowered).Nodup

theorem Name.allDiffer_snoc {names : List Name} {name : Name} :
    AllDiffer (names ++ [name]) ↔
      AllDiffer names ∧ ¬ names.any (fun other => decide (other ≈ name)) = true := by
  have present : (names.any fun other => decide (other ≈ name)) = true ↔
      name.lowered ∈ names.map Name.lowered := by
    simp only [List.any_eq_true, decide_eq_true_eq, List.mem_map, equiv_iff_lowered]
  unfold AllDiffer
  rw [present, List.map_append, List.perm_append_comm.nodup_iff]
  exact List.nodup_cons.trans And.comm

namespace Name.AllDiffer

theorem congr {first second : List Name} (same : first.map lowered = second.map lowered)
    (differ : AllDiffer first) : AllDiffer second := by
  unfold AllDiffer at *
  rw [← same]
  exact differ

theorem of_append {first : List Name} (second : List Name) (differ : AllDiffer (first ++ second)) :
    AllDiffer first := by
  unfold AllDiffer at *
  rw [List.map_append] at differ
  exact (List.nodup_append.mp differ).1

/-- Names that are still to be passed on a chain differ from those that have been passed, and the
next one is the start of what remains of the chain. -/
theorem step {step : Link → Name → Prop} {passed : List Name} {current next last : Name}
    {link : Link} {rest : List Link} (starts : current ≈ link.crossed)
    (others : Chain step next rest last)
    (differ : AllDiffer (passed ++ (link :: rest).map Link.crossed ++ [last])) :
    AllDiffer (passed ++ [current] ++ rest.map Link.crossed ++ [last]) ∧
      AllDiffer (passed ++ [current] ++ [next]) := by
  have isCrossed : current.lowered = link.crossed.lowered := starts
  have remaining : AllDiffer (passed ++ [current] ++ rest.map Link.crossed ++ [last]) :=
    differ.congr (by simp [isCrossed])
  refine ⟨remaining, ?_⟩
  cases rest with
  | nil =>
    have isLast : next.lowered = last.lowered := others
    exact remaining.congr (by simp [isLast])
  | cons link rest =>
    have isNext : next.lowered = link.crossed.lowered := others.1
    refine of_append (rest.map Link.crossed ++ [last]) (remaining.congr ?_)
    simp [isNext]

end Name.AllDiffer

namespace Progress

/-! ### Where a resolution has come -/

/-- A progress that has counted the aliases crossed, not too many, and has come to a name that
differs from the names crossed, as they do from each other. -/
structure HasComeTo (progress : Progress) (current : Name) : Prop where
  counted : progress.aliasCount = progress.aliases.length
  few : progress.aliases.length < maxAliases
  differ : Name.AllDiffer (progress.aliases ++ [current])

theorem start_hasComeTo (name : Name) : start.HasComeTo name :=
  ⟨rfl, by decide, List.pairwise_singleton _ _⟩

variable {progress later : Progress} {current target next : Name}

/-- Only the names crossed and how many were counted matter for where a resolution has come. -/
theorem HasComeTo.congr (come : progress.HasComeTo current)
    (aliases : later.aliases = progress.aliases) (count : later.aliasCount = progress.aliasCount) :
    later.HasComeTo current := by
  refine ⟨?_, ?_, ?_⟩
  · rw [count, aliases]
    exact come.counted
  · rw [aliases]
    exact come.few
  · rw [aliases]
    exact come.differ

/-- The name a resolution has come to is looked at apart from those it has crossed before. -/
theorem passed_iff {aliases : List Name} :
    (target ≈ current ∨ aliases.any (fun other => decide (other ≈ target)) = true) ↔
      (aliases ++ [current]).any (fun other => decide (other ≈ target)) = true := by
  have last : ([current].any fun other => decide (other ≈ target)) = true ↔ target ≈ current := by
    rw [List.any_cons, List.any_nil, Bool.or_false, decide_eq_true_eq]
    exact ⟨Setoid.symm, Setoid.symm⟩
  rw [List.any_append, Bool.or_eq_true, last, or_comm]

/-- What the program looks at before it follows an alias comes to this: there are not too many, and
the name it leads to differs from all before. -/
theorem not_stopped_iff (counted : progress.aliasCount = progress.aliases.length)
    (differ : Name.AllDiffer (progress.aliases ++ [current])) :
    ¬ (maxAliases ≤ progress.aliasCount + 1 ∨ target ≈ current ∨
        progress.aliases.any (fun other => decide (other ≈ target)) = true) ↔
      progress.aliases.length + 1 < maxAliases ∧
        Name.AllDiffer (progress.aliases ++ [current] ++ [target]) := by
  rw [passed_iff, counted, not_or, Nat.not_le, Name.allDiffer_snoc]
  exact and_congr_right fun _ => (and_iff_right differ).symm

/-- An alias is followed if the name it leads to differs from all before, and there are not too many
aliases. -/
theorem followAlias_of_differ (counted : progress.aliasCount = progress.aliases.length)
    (few : progress.aliases.length + 1 < maxAliases)
    (differ : Name.AllDiffer (progress.aliases ++ [current] ++ [target])) :
    ∃ later, progress.followAlias target current = (later, .follow target) ∧
      later.aliases = progress.aliases ++ [current] ∧
      later.aliasCount = later.aliases.length ∧ later.verdict = progress.verdict := by
  have goesOn := (not_stopped_iff counted (Name.allDiffer_snoc.mp differ).1).mpr ⟨few, differ⟩
  unfold followAlias
  dsimp only
  rw [if_neg goesOn]
  refine ⟨_, rfl, rfl, ?_, rfl⟩
  show progress.aliasCount + 1 = (progress.aliases ++ [current]).length
  rw [counted, List.length_append]
  rfl

/-- Only then it is followed. -/
theorem HasComeTo.followAlias (come : progress.HasComeTo current)
    (followed : progress.followAlias target current = (later, .follow next)) :
    later.HasComeTo next := by
  unfold Progress.followAlias at followed
  dsimp only at followed
  split at followed
  · cases followed
  · rename_i goesOn
    obtain ⟨few, differ⟩ := (not_stopped_iff come.counted come.differ).mp goesOn
    cases followed
    refine ⟨?_, ?_, differ⟩
    · show progress.aliasCount + 1 = (progress.aliases ++ [current]).length
      rw [come.counted, List.length_append]
      rfl
    · show (progress.aliases ++ [current]).length < maxAliases
      rw [List.length_append]
      exact few

/-- Aliases that are in order are not too many, and differ. -/
theorem recordChain_differ (progress : Progress) (chain : List Name)
    (counted : progress.aliasCount = progress.aliases.length)
    (few : progress.aliases.length < maxAliases) (differ : Name.AllDiffer progress.aliases)
    (inOrder : (progress.recordChain chain).2 = true) :
    (progress.aliases ++ chain).length < maxAliases ∧
      Name.AllDiffer (progress.aliases ++ chain) := by
  induction chain generalizing progress with
  | nil =>
    rw [List.append_nil]
    exact ⟨few, differ⟩
  | cons name rest inductionHypothesis =>
    unfold recordChain at inOrder
    dsimp only at inOrder
    split at inOrder
    · cases inOrder
    · rename_i goesOn
      obtain ⟨fewer, fresh⟩ := not_or.mp goesOn
      rw [counted] at fewer
      have others := inductionHypothesis _ ?_ ?_ ?_ inOrder
      · rwa [List.append_assoc] at others
      · show progress.aliasCount + 1 = (progress.aliases ++ [name]).length
        rw [counted, List.length_append]
        rfl
      · show (progress.aliases ++ [name]).length < maxAliases
        rw [List.length_append]
        exact Nat.not_le.mp fewer
      · exact Name.allDiffer_snoc.mpr ⟨differ, fresh⟩

/-- What records found behind aliases make of a resolution that has come to a name: unless the
aliases are out of order, it is successful without any more reason. -/
theorem HasComeTo.succeed (come : progress.HasComeTo current) {sets : List RRset}
    {chain : List Name} (succeeded : (progress.succeed sets chain).Succeeded) :
    (progress.aliases ++ chain).length < maxAliases ∧
      Name.AllDiffer (progress.aliases ++ chain) ∧
      (progress.succeed sets chain).verdict = some ⟨.successful, none⟩ := by
  have inOrder := recordChain_differ progress chain come.counted come.few
    (Name.allDiffer_snoc.mp come.differ).1
  have outOfOrder := recordChain_failed progress chain
  unfold Progress.succeed at succeeded ⊢
  split
  · rename_i recorded isRecorded
    rw [isRecorded] at inOrder
    obtain ⟨few, differ⟩ := inOrder rfl
    exact ⟨few, differ, rfl⟩
  · rename_i recorded isRecorded
    rw [isRecorded] at outOfOrder succeeded
    exact absurd succeeded (outOfOrder rfl)

/-! ### Outcomes that lead nowhere -/

theorem not_succeeded_of_undecided (undecided : progress.verdict = none) :
    ¬ progress.Succeeded := by
  unfold Succeeded
  rw [undecided]
  exact nofun

/-- An outcome that leads nowhere does not make a resolution successful, and nothing is followed. -/
theorem respond_leadsNowhere (current : Name) (undecided : progress.verdict = none)
    {outcome : Outcome} (nowhere : outcome.LeadsNowhere) (chain : List Name) :
    ¬ (progress.respond current outcome chain).1.Succeeded ∧
      ∀ next, (progress.respond current outcome chain).2 ≠ .follow next := by
  cases outcome with
  | successful sets => exact nowhere.elim
  | cname set => exact nowhere.elim
  | dname set => exact nowhere.elim
  | nxDomain =>
    refine ⟨?_, nofun⟩
    unfold respond missName
    dsimp only
    split
    · exact nofun
    · exact not_succeeded_of_undecided undecided
  | nxRRset => exact ⟨nofun, nofun⟩
  | delegation servers => exact ⟨not_succeeded_of_undecided undecided, nofun⟩
  | unknown => exact ⟨not_succeeded_of_undecided undecided, nofun⟩

/-- An outcome after which the network has to be asked leaves a resolution where it is. -/
theorem respond_query_hasComeTo (come : progress.HasComeTo current) {outcome : Outcome}
    {chain : List Name} (asked : progress.respond current outcome chain = (later, .query)) :
    later.HasComeTo current := by
  obtain ⟨aliases, _⟩ := respond_query_keeps asked
  exact come.congr aliases (respond_query _ _ _ _ _ asked)

end Progress

end StubResolver
