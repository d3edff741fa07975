import TableQuery.Decimal.Layout
import TableQuery.Decimal.Whole
import TableQuery.Json.Basic

/-!
# JSON text

Documents are written without any space. Strings escape the double quote, the backslash and the
control characters below the space; everything else stands for itself. Doubles are written in plain
notation while the exponent of their first digit is between `-5` and `15`, whole ones with `.0`, and
with an explicitly signed power of ten otherwise.
-/

namespace TableQuery.Json

/-- Doubles keep a decimal point in plain notation, and their power of ten a sign. -/
def doubleLayout : Decimal.Layout :=
  { plain := some (-5, 15), pointOnWhole := true, plusSign := true, tie := .even }

/-- The hexadecimal digit of a number below sixteen. -/
def hexDigit (n : Nat) : Char := (Nat.toDigits 16 n).headD '0'

/-- A character between double quotes. -/
def escapeChar (c : Char) : List Char :=
  match c with
  | '"' => ['\\', '"']
  | '\\' => ['\\', '\\']
  | '\x08' => ['\\', 'b']
  | '\x0c' => ['\\', 'f']
  | '\n' => ['\\', 'n']
  | '\r' => ['\\', 'r']
  | '\t' => ['\\', 't']
  | c =>
    if c.toNat < 0x20 then ['\\', 'u', '0', '0', hexDigit (c.toNat / 16), hexDigit (c.toNat % 16)]
    else [c]

/-- A string between double quotes. -/
def quote (text : String) : String :=
  String.ofList ('"' :: text.toList.flatMap escapeChar ++ ['"'])

/-- Written items between square brackets. -/
def bracketed (items : List String) : String := "[" ++ ",".intercalate items ++ "]"

/-- Written members between braces, in the order given. -/
def braced (members : List (String × String)) : String :=
  "\x7b" ++ ",".intercalate (members.map fun (key, value) => quote key ++ ":" ++ value) ++ "\x7d"

def Number.render : Number → String
  | .whole n _ => Decimal.writeInt n
  | .real x _ => doubleLayout.write x

mutual

/-- The text of a document. -/
def render : Json → String
  | .null => "null"
  | .bool true => "true"
  | .bool false => "false"
  | .num n => n.render
  | .str s => quote s
  | .arr items => bracketed (renderItems items)
  | .obj members => braced (renderMembers members)

def renderItems : List Json → List String
  | [] => []
  | item :: rest => render item :: renderItems rest

def renderMembers : List (String × Json) → List (String × String)
  | [] => []
  | (key, value) :: rest => (key, render value) :: renderMembers rest

end

end TableQuery.Json
