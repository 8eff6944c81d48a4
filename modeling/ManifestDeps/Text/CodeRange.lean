/-
ManifestDeps.Text.CodeRange — sets of characters given by ranges of code
points, both ends included.
-/
namespace ManifestDeps.Text

/-- The code point lies in one of the ranges. -/
def inRanges (ranges : List (Nat × Nat)) (n : Nat) : Bool :=
  ranges.any fun r => r.1 ≤ n && n ≤ r.2

end ManifestDeps.Text
