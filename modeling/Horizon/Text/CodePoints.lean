/-
  Horizon.Text.CodePoints
  ───────────────────────
  **PROPERTIES OF CHARACTERS AS RANGES OF CODE POINTS.**
-/
namespace Horizon.Text

/-- The code point lies in one of the closed ranges. -/
def inRanges (ranges : List (Nat × Nat)) (code : Nat) : Bool :=
  ranges.any fun range => range.1 ≤ code && code ≤ range.2

end Horizon.Text
