/-!
# Character sets given by ranges

A character property of the Unicode standard is kept as its list of closed code point ranges, in
ascending order. `inRanges` looks a character up.
-/

namespace TableQuery.Text

/-- Some range of the list holds the character. -/
def inRanges (ranges : List (Nat × Nat)) (c : Char) : Bool :=
  ranges.any fun range => range.1 ≤ c.toNat && c.toNat ≤ range.2

end TableQuery.Text
