import TableQuery.Decimal.Shortest

/-!
# Written numbers

How the shortest decimal of a double is laid out: with the point in its place, or with a power of
ten behind it. The formats that the library writes differ in a few decisions, which a `Layout`
holds.
-/

namespace TableQuery.Decimal

/-- The decisions of one number format. -/
structure Layout where
  /-- The first and last decimal exponent of the leading digit that is written without a power of
  ten; none means all of them. -/
  plain : Option (Int × Int)
  /-- Whole numbers are written with a point and a zero behind it. -/
  pointOnWhole : Bool
  /-- A positive power of ten carries a sign. -/
  plusSign : Bool
  /-- The choice between two equally near shortest decimals. -/
  tie : Tie

namespace Layout

/-- The exponent is written without a power of ten. -/
def isPlain (layout : Layout) (leading : Int) : Bool :=
  match layout.plain with
  | none => true
  | some (first, last) => first ≤ leading && leading ≤ last

/-- Digits with the point in its place; `exponent` is that of the last digit. -/
def writePlain (layout : Layout) (digits : List Char) (exponent : Int) : List Char :=
  if 0 ≤ exponent then
    digits ++ List.replicate exponent.toNat '0' ++ if layout.pointOnWhole then ['.', '0'] else []
  else
    let whole := digits.length - (-exponent).toNat
    if 0 < whole then
      digits.take whole ++ '.' :: digits.drop whole
    else
      '0' :: '.' :: List.replicate ((-exponent).toNat - digits.length) '0' ++ digits

/-- Digits with the point behind the first one, then the power of ten. -/
def writeScientific (layout : Layout) (digits : List Char) (leading : Int) : List Char :=
  let mantissa := match digits with
    | [] => []
    | [d] => [d]
    | d :: rest => d :: '.' :: rest
  let sign := if leading < 0 then ['-'] else if layout.plusSign then ['+'] else []
  mantissa ++ 'e' :: sign ++ Nat.toDigits 10 leading.natAbs

/-- A positive decimal. -/
def writeDigits (layout : Layout) (number : Digits) : List Char :=
  let digits := Nat.toDigits 10 number.coefficient
  let leading := number.exponent + digits.length - 1
  if layout.isPlain leading then layout.writePlain digits number.exponent
  else layout.writeScientific digits leading

/-- The text of a finite double from its bits. Zero keeps its sign. -/
def writeBits (layout : Layout) (bits : UInt64) : String :=
  let sign := if bits >>> 63 = 0 then [] else ['-']
  let magnitude := Binary.ofBits bits
  let text :=
    if magnitude.significand = 0 then layout.writePlain ['0'] 0
    else layout.writeDigits (shortest layout.tie magnitude)
  String.ofList (sign ++ text)

/-- The text of a finite double. -/
def write (layout : Layout) (x : Float) : String := layout.writeBits x.toBits

end Layout

/-- The name of a number that is not finite, as messages and inspected values show it. -/
def nonFiniteName (x : Float) : String :=
  if x.isNaN then "NaN" else if x < 0 then "-inf" else "inf"

end TableQuery.Decimal
