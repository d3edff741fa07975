import TableQuery.Double

/-!
# Doubles from a scaled significand

A decimal significand below `2 ^ 64` and a power of ten become a double in two steps: the
significand is rounded to a double, and the result is multiplied or divided by the double nearest to
the power of ten. Up to fifteen digits and powers up to 22 both steps are exact, so the result is
the double nearest to the decimal; beyond that the last bits may differ from the nearest one.
-/

namespace TableQuery.Decimal

/-- The double nearest to a power of ten; from `10 ^ 309` on there is none. -/
def powerOfTen (exponent : Nat) : Float := Float.ofScientific 1 false exponent

/-- The double for `significand * 10 ^ exponent`; none if it is too large. A power below `-308` is
divided out in two parts, and one below `-616` leaves nothing of a significand below `2 ^ 64`. -/
def scaled? (significand : Nat) (exponent : Int) : Option Float :=
  let start := doubleOfNat significand
  if 0 ≤ exponent then
    if exponent ≤ 308 then
      let product := start * powerOfTen exponent.toNat
      if product.isInf then none else some product
    else if significand = 0 then some 0 else none
  else
    let places := (-exponent).toNat
    if places ≤ 308 then some (start / powerOfTen places)
    else some (start / powerOfTen 308 / powerOfTen (min (places - 308) 308))

end TableQuery.Decimal
