import TableQuery.Text.Ranges

/-!
# Blank text

Text is blank when it holds nothing but white space in the sense of the Unicode property
`White_Space`. Core's `Char.isWhitespace` knows four of these characters.
-/

namespace TableQuery.Text

/-- The code points with the property `White_Space`. -/
def whiteSpaceRanges : List (Nat × Nat) := [
  (0x9, 0xD), (0x20, 0x20), (0x85, 0x85), (0xA0, 0xA0), (0x1680, 0x1680), (0x2000, 0x200A),
  (0x2028, 0x2029), (0x202F, 0x202F), (0x205F, 0x205F), (0x3000, 0x3000)]

/-- A character with the Unicode property `White_Space`. -/
def isWhiteSpace (c : Char) : Bool := inRanges whiteSpaceRanges c

/-- Text without any character but white space; the empty text is blank too. -/
def isBlank (text : String) : Bool := text.toList.all isWhiteSpace

theorem isBlank_append (first second : String) :
    isBlank (first ++ second) = (isBlank first && isBlank second) := by
  simp [isBlank]

theorem isBlank_eq_false_iff {text : String} :
    isBlank text = false ↔ ∃ c ∈ text.toList, isWhiteSpace c = false := by
  simp [isBlank]

end TableQuery.Text
