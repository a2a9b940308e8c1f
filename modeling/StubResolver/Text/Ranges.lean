/-
This file says how a property of characters is kept: as the list of the ranges of code points that
have it. Membership is a search through the list, which is short for the properties that names
need.
-/

namespace StubResolver

/-- Whether a character lies in one of the ranges, whose ends both belong to them. -/
def inRanges (ranges : List (Nat × Nat)) (char : Char) : Bool :=
  ranges.any fun range => range.1 ≤ char.toNat && char.toNat ≤ range.2

theorem inRanges_iff (ranges : List (Nat × Nat)) (char : Char) :
    inRanges ranges char = true ↔
      ∃ range ∈ ranges, range.1 ≤ char.toNat ∧ char.toNat ≤ range.2 := by
  simp [inRanges]

end StubResolver
