/-!
# Doubles from integers

An integer whose magnitude is below `2 ^ 64` becomes the double nearest to it; of two equally near
ones the one with an even significand. Integers up to `2 ^ 53` are kept exactly.
-/

namespace TableQuery

/-- The double nearest to a natural number below `2 ^ 64`. -/
def doubleOfNat (n : Nat) : Float := (UInt64.ofNat n).toFloat

/-- The double nearest to an integer of magnitude below `2 ^ 64`. -/
def doubleOfInt (n : Int) : Float :=
  if n < 0 then -doubleOfNat n.natAbs else doubleOfNat n.natAbs

example : (doubleOfInt (-9007199254740993)).toBits = 0xC340000000000000 := by decide +kernel
example : (doubleOfInt (2 ^ 64 - 1)).toBits = 0x43F0000000000000 := by decide +kernel

end TableQuery
