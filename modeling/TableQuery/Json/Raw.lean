import TableQuery.Decimal.Scaled
import TableQuery.Json.Basic

/-!
# JSON documents as their text has them

A raw document keeps what the text says: numbers as their digits, strings with their `\u` units
apart, objects with every member in its place. Whether it makes a `Json` document is a second
question: a unit of a surrogate pair may stand alone, a number may be too large, and the nesting may
be too deep. `toJson?` answers it. Parts of a raw document that nobody asks for are never checked.
-/

namespace TableQuery.Json

/-- A number as written. -/
structure Numeral where
  negative : Bool
  /-- The digits before the point. -/
  whole : List (Fin 10)
  /-- The digits behind the point, if there is one. -/
  fraction : Option (List (Fin 10))
  /-- The digits of the power of ten, if there is one, and whether it is negative. -/
  exponent : Option (Bool × List (Fin 10))

/-- A piece of a string as written. -/
inductive Piece where
  /-- A character, escaped or not. -/
  | char (c : Char)
  /-- A `\u` escape: one unit of UTF-16. -/
  | unit (u : Nat)

/-- A document as written. -/
inductive Raw where
  | null
  | bool (b : Bool)
  | num (n : Numeral)
  | str (s : List Piece)
  | arr (items : List Raw)
  | obj (members : List (List Piece × Raw))

/-! ## Numbers -/

namespace Numeral

/-- Appends digits to a significand as long as it stays below `2 ^ 64`; the rest is left over. -/
def gather : Nat → List (Fin 10) → Nat × List (Fin 10)
  | significand, [] => (significand, [])
  | significand, d :: rest =>
    let next := significand * 10 + d
    if next < Nat.pow 2 64 then gather next rest else (significand, d :: rest)

/-- The number with the given digits. -/
def ofDigits (digits : List (Fin 10)) : Nat := digits.foldl (fun n d => n * 10 + d.val) 0

/-- The double of a numeral with a point or a power of ten, or with too many digits for an integer.
Digits that do not fit the significand are dropped; those before the point count as places. A power
of ten beyond 31 bits leaves zero, or is too large. -/
def magnitude? (numeral : Numeral) : Option Float :=
  let (high, dropped) := gather 0 numeral.whole
  let fraction := numeral.fraction.getD []
  let (significand, rest) := gather high fraction
  let places : Int := (dropped.length : Int) - (fraction.length - rest.length : Nat)
  match numeral.exponent with
  | none => Decimal.scaled? significand places
  | some (negative, digits) =>
    let power := ofDigits digits
    if Nat.pow 2 31 ≤ power then if significand = 0 || negative then some 0 else none
    else Decimal.scaled? significand (if negative then places - power else places + power)

/-- The exact value of a numeral without point and power of ten. Zero with a minus sign has none:
it is a double. -/
def integer? (numeral : Numeral) : Option Int :=
  if numeral.fraction.isSome || numeral.exponent.isSome then none
  else
    let n := ofDigits numeral.whole
    if numeral.negative then if n = 0 then none else some (-n) else some n

/-- The number that a numeral stands for: an integer as long as there is no point and no power of
ten and the value is in range, else a double; none if that is too large. -/
def number? (numeral : Numeral) : Option Number :=
  match numeral.integer?.bind Number.ofInt? with
  | some n => some n
  | none => do
    let x ← numeral.magnitude?
    Number.ofFloat? (if numeral.negative then -x else x)

end Numeral

/-! ## Strings -/

/-- The first unit of a surrogate pair. -/
def isHighSurrogate (u : Nat) : Bool := 0xD800 ≤ u && u < 0xDC00

/-- The second unit of a surrogate pair. -/
def isLowSurrogate (u : Nat) : Bool := 0xDC00 ≤ u && u < 0xE000

/-- The characters of a string; none if a surrogate is not part of a pair. -/
def decodePieces? : List Piece → Option (List Char)
  | [] => some []
  | .char c :: rest => (decodePieces? rest).map (c :: ·)
  | .unit u :: .unit v :: rest =>
    if isHighSurrogate u then
      if isLowSurrogate v then
        (decodePieces? rest).map (Char.ofNat (0x10000 + (u - 0xD800) * 0x400 + (v - 0xDC00)) :: ·)
      else none
    else if isLowSurrogate u then none
    else (decodePieces? (.unit v :: rest)).map (Char.ofNat u :: ·)
  | .unit u :: rest =>
    if isHighSurrogate u || isLowSurrogate u then none
    else (decodePieces? rest).map (Char.ofNat u :: ·)

/-- The text of a string as written. -/
def text? (pieces : List Piece) : Option String := (decodePieces? pieces).map String.ofList

/-! ## Documents -/

/-- How many arrays and objects may stand inside one another. -/
def maxDepth : Nat := 127

namespace Raw

mutual

/-- The document, if its arrays and objects fit the given depth, every number is in range and every
surrogate is paired. -/
def toJson? : Raw → Nat → Option Json
  | .null, _ => some .null
  | .bool b, _ => some (.bool b)
  | .num n, _ => n.number?.map .num
  | .str s, _ => (text? s).map .str
  | .arr _, 0 => none
  | .arr items, depth + 1 => (itemsToJson? items depth).map .arr
  | .obj _, 0 => none
  | .obj members, depth + 1 => (membersToJson? members depth).map object

def itemsToJson? : List Raw → Nat → Option (List Json)
  | [], _ => some []
  | item :: rest, depth => do
    let first ← item.toJson? depth
    let others ← itemsToJson? rest depth
    some (first :: others)

def membersToJson? : List (List Piece × Raw) → Nat → Option (List (String × Json))
  | [], _ => some []
  | (key, value) :: rest, depth => do
    let name ← text? key
    let first ← value.toJson? depth
    let others ← membersToJson? rest depth
    some ((name, first) :: others)

end

end Raw

end TableQuery.Json
