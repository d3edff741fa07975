/-!
# Whole numbers in decimal

An integer is written as its digits behind a minus sign if it is negative, without leading zeros.
-/

namespace TableQuery.Decimal

/-- The digits of an integer behind its sign. -/
def writeInt (n : Int) : String :=
  String.ofList ((if n < 0 then ['-'] else []) ++ Nat.toDigits 10 n.natAbs)

theorem isDigit_toDigits (n : Nat) : ∀ c ∈ Nat.toDigits 10 n, c.isDigit = true :=
  fun _ member => Nat.isDigit_of_mem_toDigits (by decide) (by decide) member

theorem toList_writeInt_natCast (n : Nat) : (writeInt n).toList = Nat.toDigits 10 n := by
  have positive : ¬(n : Int) < 0 := by omega
  rw [writeInt, String.toList_ofList, if_neg positive, Int.natAbs_natCast, List.nil_append]

end TableQuery.Decimal
