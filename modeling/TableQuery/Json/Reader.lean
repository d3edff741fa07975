import TableQuery.Json.Raw

/-!
# Reading JSON text

A recursive reader over the characters of the text. Each function takes the characters that are
left and returns what it read with the characters behind it. `Raw.read?` reads a whole text, and
`Json.read?` also requires that it makes a document.
-/

namespace TableQuery.Json

/-- The white space between the parts of a document. -/
def isSpace (c : Char) : Bool := c = ' ' || c = '\t' || c = '\n' || c = '\r'

/-- The text less its leading white space. -/
def skipSpaces (cs : List Char) : List Char := cs.dropWhile isSpace

/-! ## Numbers -/

/-- The value of a decimal digit. -/
def digit? (c : Char) : Option (Fin 10) :=
  if c.isDigit then some (Fin.ofNat 10 (c.toNat - 48)) else none

/-- The digits at the front of the text. -/
def readDigits : List Char → List (Fin 10) × List Char
  | [] => ([], [])
  | c :: rest => match digit? c with
    | some d =>
      let (digits, rest) := readDigits rest
      (d :: digits, rest)
    | none => ([], c :: rest)

/-- Digits at the front of the text, at least one. -/
def readDigits1? (cs : List Char) : Option (List (Fin 10) × List Char) :=
  match readDigits cs with
  | ([], _) => none
  | read => some read

/-- The point and the digits behind it, if the text goes on with a point. -/
def readFraction? : List Char → Option (Option (List (Fin 10)) × List Char)
  | '.' :: rest => (readDigits1? rest).map fun (digits, rest) => (some digits, rest)
  | cs => some (none, cs)

/-- The sign and the digits of a power of ten. -/
def readPower? : List Char → Option ((Bool × List (Fin 10)) × List Char)
  | '-' :: rest => (readDigits1? rest).map fun (digits, rest) => ((true, digits), rest)
  | '+' :: rest => (readDigits1? rest).map fun (digits, rest) => ((false, digits), rest)
  | cs => (readDigits1? cs).map fun (digits, rest) => ((false, digits), rest)

/-- The power of ten, if the text goes on with one. -/
def readExponent? : List Char → Option (Option (Bool × List (Fin 10)) × List Char)
  | 'e' :: rest => (readPower? rest).map fun (power, rest) => (some power, rest)
  | 'E' :: rest => (readPower? rest).map fun (power, rest) => (some power, rest)
  | cs => some (none, cs)

/-- A number behind its sign. The digits before the point do not begin with a zero unless it is the
only one. -/
def readUnsigned? (negative : Bool) (cs : List Char) : Option (Numeral × List Char) := do
  let (whole, rest) ← readDigits1? cs
  if whole.head? = some 0 ∧ whole.length ≠ 1 then none
  else
    let (fraction, rest) ← readFraction? rest
    let (exponent, rest) ← readExponent? rest
    some (⟨negative, whole, fraction, exponent⟩, rest)

/-- A number. -/
def readNumeral? : List Char → Option (Numeral × List Char)
  | '-' :: rest => readUnsigned? true rest
  | cs => readUnsigned? false cs

/-! ## Strings -/

/-- The value of a hexadecimal digit. -/
def hexValue? (c : Char) : Option Nat :=
  if c.isDigit then some (c.toNat - 48)
  else if 'a' ≤ c ∧ c ≤ 'f' then some (c.toNat - 87)
  else if 'A' ≤ c ∧ c ≤ 'F' then some (c.toNat - 55)
  else none

/-- The unit with four hexadecimal digits. -/
def unit? (a b c d : Char) : Option Nat := do
  some ((((← hexValue? a) * 16 + (← hexValue? b)) * 16 + (← hexValue? c)) * 16 + (← hexValue? d))

/-- The character that a letter behind a backslash stands for. -/
def unescape? : Char → Option Char
  | '"' => some '"'
  | '\\' => some '\\'
  | '/' => some '/'
  | 'b' => some '\x08'
  | 'f' => some '\x0c'
  | 'n' => some '\n'
  | 'r' => some '\r'
  | 't' => some '\t'
  | _ => none

/-- A string behind its opening quote. A control character must be escaped. -/
def readPieces? : List Char → Option (List Piece × List Char)
  | [] => none
  | '"' :: rest => some ([], rest)
  | '\\' :: 'u' :: a :: b :: c :: d :: rest => do
    let u ← unit? a b c d
    let (pieces, rest) ← readPieces? rest
    some (.unit u :: pieces, rest)
  | '\\' :: letter :: rest => do
    let c ← unescape? letter
    let (pieces, rest) ← readPieces? rest
    some (.char c :: pieces, rest)
  | c :: rest =>
    if c = '\\' ∨ c.toNat < 0x20 then none
    else do
      let (pieces, rest) ← readPieces? rest
      some (.char c :: pieces, rest)

/-! ## Documents -/

namespace Raw

mutual

/-- A document; the fuel bounds the number of nested calls. -/
def readValue? : Nat → List Char → Option (Raw × List Char)
  | 0, _ => none
  | fuel + 1, cs => match skipSpaces cs with
    | 'n' :: 'u' :: 'l' :: 'l' :: rest => some (.null, rest)
    | 't' :: 'r' :: 'u' :: 'e' :: rest => some (.bool true, rest)
    | 'f' :: 'a' :: 'l' :: 's' :: 'e' :: rest => some (.bool false, rest)
    | '"' :: rest => (readPieces? rest).map fun (pieces, rest) => (.str pieces, rest)
    | '[' :: rest => match skipSpaces rest with
      | ']' :: rest => some (.arr [], rest)
      | rest => (readItems? fuel rest).map fun (items, rest) => (.arr items, rest)
    | '\x7b' :: rest => match skipSpaces rest with
      | '\x7d' :: rest => some (.obj [], rest)
      | rest => (readMembers? fuel rest).map fun (members, rest) => (.obj members, rest)
    | cs => (readNumeral? cs).map fun (numeral, rest) => (.num numeral, rest)

/-- The items of an array up to its closing bracket, at least one. -/
def readItems? : Nat → List Char → Option (List Raw × List Char)
  | 0, _ => none
  | fuel + 1, cs => do
    let (item, rest) ← readValue? fuel cs
    match skipSpaces rest with
    | ']' :: rest => some ([item], rest)
    | ',' :: rest => do
      let (items, rest) ← readItems? fuel rest
      some (item :: items, rest)
    | _ => none

/-- The members of an object up to its closing brace, at least one. -/
def readMembers? : Nat → List Char → Option (List (List Piece × Raw) × List Char)
  | 0, _ => none
  | fuel + 1, cs => match skipSpaces cs with
    | '"' :: rest => do
      let (key, rest) ← readPieces? rest
      match skipSpaces rest with
      | ':' :: rest => do
        let (value, rest) ← readValue? fuel rest
        match skipSpaces rest with
        | '\x7d' :: rest => some ([(key, value)], rest)
        | ',' :: rest => do
          let (members, rest) ← readMembers? fuel rest
          some ((key, value) :: members, rest)
        | _ => none
      | _ => none
    | _ => none

end

/-- The document that makes up the whole text. Two nested calls take at least one character, so the
fuel is enough for every text. -/
def read? (text : String) : Option Raw :=
  let cs := text.toList
  match readValue? (2 * cs.length + 2) cs with
  | some (document, rest) => if (skipSpaces rest).isEmpty then some document else none
  | none => none

end Raw

/-- The document that a text stands for. -/
def read? (text : String) : Option Json := (Raw.read? text).bind (·.toJson? maxDepth)

end TableQuery.Json
