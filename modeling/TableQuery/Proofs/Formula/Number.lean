import TableQuery.Proofs.Formula.Reader

/-!
# The numbers of formulas

Whatever number is written into a formula, an integer or a finite double, its text is a decimal
number in the sense of the reader. So every literal of a value is legible.
-/

namespace TableQuery.Formula

open Decimal (Layout isDigit_toDigits)

/-- Digits stay a decimal number wherever the point is put. -/
theorem isDecimal_writePlain {digits : List Char} (nonempty : digits ≠ [])
    (all : ∀ c ∈ digits, c.isDigit) (exponent : Int) :
    IsDecimal (numberLayout.writePlain digits exponent) := by
  have zeros : ∀ n, ∀ c ∈ List.replicate n '0', c.isDigit := by
    intro n c member
    rw [List.eq_of_mem_replicate member]
    rfl
  unfold Layout.writePlain
  split
  · -- A whole number: zeros behind the digits, no point.
    have digitsOnly : ∀ c ∈ digits ++ List.replicate exponent.toNat '0', c.isDigit := by
      intro c member
      rcases List.mem_append.1 member with inside | padding
      · exact all c inside
      · exact zeros _ c padding
    have whole := IsDecimal.whole (List.append_ne_nil_of_left_ne_nil nonempty _) digitsOnly
    simpa [numberLayout] using whole
  · rename_i negative
    dsimp only
    split
    · rename_i inside
      have before : digits.take (digits.length - (-exponent).toNat) ≠ [] := by
        simp only [ne_eq, List.take_eq_nil_iff, not_or]
        exact ⟨by omega, nonempty⟩
      have behind : digits.drop (digits.length - (-exponent).toNat) ≠ [] := by
        simp only [ne_eq, List.drop_eq_nil_iff]
        omega
      exact .pointed before (fun c member => all c (List.mem_of_mem_take member)) behind
        (fun c member => all c (List.mem_of_mem_drop member))
    · have zero : ∀ c ∈ ['0'], c.isDigit := zeros 1
      have fraction : ∀ c ∈ List.replicate ((-exponent).toNat - digits.length) '0' ++ digits,
          c.isDigit := by
        intro c member
        rcases List.mem_append.1 member with padding | inside
        · exact zeros _ c padding
        · exact all c inside
      exact .pointed (List.cons_ne_nil _ _) zero (List.append_ne_nil_of_right_ne_nil _ nonempty)
        fraction

theorem isNumber_of_sign {negative : Prop} [Decidable negative] {digits : List Char}
    (decimal : IsDecimal digits) : IsNumber ((if negative then ['-'] else []) ++ digits) := by
  split
  · exact Or.inr ⟨digits, decimal, rfl⟩
  · exact Or.inl decimal

theorem isNumber_writeInt (n : Int) : IsNumber (Decimal.writeInt n).toList := by
  rw [Decimal.writeInt, String.toList_ofList]
  exact isNumber_of_sign (.whole Nat.toDigits_ne_nil (isDigit_toDigits _))

theorem isNumber_write (x : Float) : IsNumber (numberLayout.write x).toList := by
  have decimal (number : Decimal.Digits) : IsDecimal (numberLayout.writeDigits number) := by
    have plain := isDecimal_writePlain Nat.toDigits_ne_nil (isDigit_toDigits number.coefficient)
      number.exponent
    rwa [Layout.writeDigits, if_pos (show numberLayout.isPlain _ = true from rfl)]
  rw [Layout.write, Layout.writeBits, String.toList_ofList, ← ite_not]
  refine isNumber_of_sign ?_
  split
  · exact isDecimal_writePlain (List.cons_ne_nil _ _) (List.forall_mem_singleton.2 rfl) 0
  · exact decimal _

/-- The literal of a value is always legible. -/
theorem Literal.isLegible_of_ofValue {value : Value} {literal : Literal}
    (constant : Literal.ofValue value = .ok literal) : literal.IsLegible := by
  cases value with
  | null => cases constant; trivial
  | bool b => cases constant; trivial
  | int n => cases constant; exact isNumber_writeInt _
  | float x =>
    rw [Literal.ofValue] at constant
    split at constant
    · cases constant
      exact isNumber_write x
    · cases constant
  | text s => cases constant; trivial
  | list items => cases constant

end TableQuery.Formula
