import TableQuery.Decimal.Layout
import TableQuery.Decimal.Whole
import TableQuery.Error

/-!
# Literals of formulas

The constants that a formula compares columns with: the blank, the truth values, numbers and texts.
A number is kept as its text. A text stands between single quotes; quotes of both kinds and the
backslash are escaped by a backslash, so the first single quote that is not escaped ends the
literal.
-/

namespace TableQuery.Formula

/-- Numbers in formulas never have a power of ten, and whole ones no point. -/
def numberLayout : Decimal.Layout :=
  { plain := none, pointOnWhole := false, plusSign := false, tie := .up }

/-- A constant of a formula. -/
inductive Literal where
  | blank
  | bool (b : Bool)
  | number (digits : String)
  | text (s : String)
  deriving DecidableEq, Repr

/-- A character that is escaped between quotes. -/
def isEscaped (c : Char) : Bool := c = '\'' || c = '"' || c = '\\'

/-- A backslash before every character that needs one. -/
def escape : List Char → List Char
  | [] => []
  | c :: rest => if isEscaped c then '\\' :: c :: escape rest else c :: escape rest

theorem escape_append (s t : List Char) : escape (s ++ t) = escape s ++ escape t := by
  induction s with
  | nil => rfl
  | cons c rest ih =>
    simp only [List.cons_append, escape, ih]
    split <;> rfl

/-- Text as it stands between the quotes of a literal. -/
def escapeText (text : String) : String := String.ofList (escape text.toList)

namespace Literal

/-- The literal of a value. A list and a number that is not finite have none. -/
def ofValue : Value → Except FieldFault Literal
  | .null => .ok .blank
  | .bool b => .ok (.bool b)
  | .int n => .ok (.number (Decimal.writeInt n.toInt))
  | .float x =>
    if x.isFinite then .ok (.number (numberLayout.write x))
    else .error (.notFinite (Decimal.nonFiniteName x))
  | .text s => .ok (.text s)
  | .list _ => .error .listCompared

def render : Literal → String
  | .blank => "BLANK()"
  | .bool true => "TRUE()"
  | .bool false => "FALSE()"
  | .number digits => digits
  | .text s => "'" ++ escapeText s ++ "'"

end Literal

/-- The literal of a value that the named attribute is compared with. -/
def literal (field : String) (value : Value) : Except Error Literal :=
  (Literal.ofValue value).mapError (.invalidField (some field))

end TableQuery.Formula
