/-!
# Ranges of code points

Sets of characters are given as inclusive ranges of code points.
-/

namespace PageCache.Text

/-- Whether a character lies in one of the ranges. -/
def covers (ranges : List (Nat × Nat)) (char : Char) : Bool :=
  ranges.any fun range => range.1 ≤ char.toNat && char.toNat ≤ range.2

theorem covers_iff {ranges : List (Nat × Nat)} {char : Char} :
    covers ranges char ↔ ∃ range ∈ ranges, range.1 ≤ char.toNat ∧ char.toNat ≤ range.2 := by
  simp [covers]

end PageCache.Text
