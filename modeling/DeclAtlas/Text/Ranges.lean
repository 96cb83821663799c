/-! Ranges of code points, the shape in which properties of characters are tabled. -/

namespace DeclAtlas.Text

def inRanges (ranges : List (Nat × Nat)) (n : Nat) : Bool :=
  ranges.any (fun r => decide (r.1 ≤ n) && decide (n ≤ r.2))

end DeclAtlas.Text
