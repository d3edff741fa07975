import TableQuery.Text.Ranges

/-!
# Characters that are ignored in display

The property `Default_Ignorable_Code_Point` (Unicode 17.0): code points that leave nothing visible
where they are not supported. Most of them are format marks or unassigned, but the Hangul fillers
are letters, and the variation selectors are marks.
-/

namespace TableQuery.Text

/-- The code points with the property `Default_Ignorable_Code_Point`. -/
def defaultIgnorableRanges : List (Nat × Nat) := [
  (0xAD, 0xAD), (0x34F, 0x34F), (0x61C, 0x61C), (0x115F, 0x1160), (0x17B4, 0x17B5),
  (0x180B, 0x180F), (0x200B, 0x200F), (0x202A, 0x202E), (0x2060, 0x206F), (0x3164, 0x3164),
  (0xFE00, 0xFE0F), (0xFEFF, 0xFEFF), (0xFFA0, 0xFFA0), (0xFFF0, 0xFFF8), (0x1BCA0, 0x1BCA3),
  (0x1D173, 0x1D17A), (0xE0000, 0xE0FFF)]

/-- A character with the property `Default_Ignorable_Code_Point`. -/
def isDefaultIgnorable (c : Char) : Bool := inRanges defaultIgnorableRanges c

example : isDefaultIgnorable '\u3164' = true ∧ isDefaultIgnorable '\u3163' = false := by
  decide +kernel

end TableQuery.Text
