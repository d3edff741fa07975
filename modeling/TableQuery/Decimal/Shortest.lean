/-!
# The shortest decimal that reads back

A binary floating-point number stands for every real number that rounds to it: an interval around
it, whose ends belong to it when its significand is even. `shortest` finds the decimal with the
fewest digits in that interval and, of those, the one nearest to the number. All arithmetic is
exact.

The search walks the grids of multiples of `10 ^ g`, from the coarsest one with a positive point at
or below the number to finer ones. On each grid only the two neighbours of the number can be
nearest to it, so these are the only candidates. The first grid with a candidate in the interval
has the fewest digits.
-/

namespace TableQuery.Decimal

/-- Where a number goes that lies exactly half way between two candidates. -/
inductive Tie where
  /-- To the greater one. -/
  | up
  /-- To the one with an even last digit. -/
  | even
  deriving DecidableEq, Repr

/-- A positive binary number `significand * 2 ^ exponent`. The next smaller one of the same format
is as far away as the next greater one, except below a power of two, where it is half as far. -/
structure Binary where
  significand : Nat
  exponent : Int
  halfGapBelow : Bool
  deriving DecidableEq, Repr

/-- The magnitude of a finite double from its bits: 52 bits of fraction below 11 bits of exponent.
-/
def Binary.ofBits (bits : UInt64) : Binary :=
  let fraction := (bits &&& 0xFFFFFFFFFFFFF).toNat
  let biased := ((bits >>> 52) &&& 0x7FF).toNat
  if biased = 0 then
    { significand := fraction, exponent := -1074, halfGapBelow := false }
  else
    { significand := Nat.pow 2 52 + fraction
      exponent := (biased : Int) - 1075
      halfGapBelow := fraction = 0 && biased ≠ 1 }

/-- The positive decimal `coefficient * 10 ^ exponent`. -/
structure Digits where
  coefficient : Nat
  exponent : Int
  deriving DecidableEq, Repr

namespace Binary

/-- Four times the significand, so that the ends of the interval are whole numbers too. -/
def center (x : Binary) : Nat := 4 * x.significand

/-- The lower end of the interval, on the scale of `center`. -/
def lower (x : Binary) : Nat := x.center - if x.halfGapBelow then 1 else 2

/-- The upper end of the interval, on the scale of `center`. -/
def upper (x : Binary) : Nat := x.center + 2

/-- The factor that brings a number on the scale of `center` to the common scale of grid `g`. -/
def unit (x : Binary) (g : Int) : Nat :=
  Nat.pow 2 (x.exponent - 2).toNat * Nat.pow 10 (-g).toNat

/-- One step of grid `g` on the common scale. -/
def step (x : Binary) (g : Int) : Nat :=
  Nat.pow 2 (2 - x.exponent).toNat * Nat.pow 10 g.toNat

/-- The point `t * 10 ^ g` lies in the interval; the ends count when the significand is even. -/
def holds (x : Binary) (g : Int) (t : Nat) : Bool :=
  let point := t * x.step g
  let low := x.lower * x.unit g
  let high := x.upper * x.unit g
  if x.significand % 2 = 0 then low ≤ point && point ≤ high else low < point && point < high

/-- The greatest grid point at or below the number. -/
def below (x : Binary) (g : Int) : Nat := x.center * x.unit g / x.step g

/-- Whichever neighbour on grid `g` is in the interval, and of two the nearer one. -/
def candidate? (x : Binary) (tie : Tie) (g : Int) : Option Nat :=
  let t := x.below g
  match x.holds g t, x.holds g (t + 1) with
  | false, false => none
  | true, false => some t
  | false, true => some (t + 1)
  | true, true =>
    let down := x.center * x.unit g - t * x.step g
    let rise := (t + 1) * x.step g - x.center * x.unit g
    if down < rise then some t
    else if rise < down then some (t + 1)
    else match tie with
      | .up => some (t + 1)
      | .even => some (if t % 2 = 0 then t else t + 1)

/-- The first grid, from `g` downwards, that has a positive point at or below the number and a
candidate. A candidate that ends in a zero is written on the next coarser grid. -/
def search (x : Binary) (tie : Tie) : Nat → Int → Digits
  | 0, g => ⟨x.below g, g⟩
  | fuel + 1, g =>
    if x.below g = 0 then x.search tie fuel (g - 1)
    else match x.candidate? tie g with
      | none => x.search tie fuel (g - 1)
      | some t => if t % 10 = 0 then ⟨t / 10, g + 1⟩ else ⟨t, g⟩

/-- A grid above the leading digit: `30103 / 100000` exceeds the logarithm of two by less than one
part in ten million. -/
def topGrid (x : Binary) : Int :=
  (x.exponent + Nat.log2 x.significand + 1) * 30103 / 100000 + 1

end Binary

/-- The shortest decimal that reads back as the number. Seventeen digits tell any two doubles
apart, and the search starts at most two grids above the first digit. -/
def shortest (tie : Tie) (x : Binary) : Digits := x.search tie 20 x.topGrid

example : shortest .even (.ofBits 0x3FF8000000000000) = ⟨15, -1⟩ := by decide +kernel
example : shortest .even (.ofBits 0x0000000000000001) = ⟨5, -324⟩ := by decide +kernel
example : shortest .even (.ofBits 0x44B52D02C7E14AF6) = ⟨1, 23⟩ := by decide +kernel
example : shortest .even (.ofBits 0x3E60000000000000) = ⟨29802322387695312, -24⟩ := by
  decide +kernel
example : shortest .up (.ofBits 0x3E60000000000000) = ⟨29802322387695313, -24⟩ := by
  decide +kernel

end TableQuery.Decimal
