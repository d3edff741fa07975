import Mathlib
import TableQuery.Double

/-!
# Finite doubles

A double is finite just if it is a number and not infinite. Every integer of a document becomes a
finite double: `isFinite_doubleOfInt`. Rounding to a double only ever shortens the significand, by
as many places as the exponent rises, so a bound on the length of an integer bounds the exponent of
its double. The greatest exponent of a finite double is 971.
-/

namespace TableQuery.Double

open Float.Model Float.Model.UnpackedFloat

theorem isFinite_iff {x : Float} : x.isFinite = true ↔ x.isNaN = false ∧ x.isInf = false := by
  change x.toModel.unpack.isFinite = true ↔
    x.toModel.unpack.isNaN = false ∧ x.toModel.unpack.isInf = false
  cases x.toModel.unpack <;>
    simp [UnpackedFloat.isFinite, UnpackedFloat.isNaN, UnpackedFloat.isInf]

theorem beq_self {x : Float} (finite : x.isFinite = true) : (x == x) = true := by
  refine Float.beq_self_iff.2 ?_
  rintro rfl
  cases finite

/-! ## Exponents of finite doubles -/

/-- The bits of a double are those of a finite one unless all bits of the exponent are set. -/
theorem isFinite_of_unpackExponent {bits : BitVec Format.binary64.numBits}
    (below : unpackExponent bits ≠ -1#_) :
    (UnpackedFloat.unpack Format.binary64 bits).isFinite = true := by
  unfold UnpackedFloat.unpack
  dsimp only
  rw [if_neg below]
  split
  · split <;> rfl
  · rfl

theorem isFinite_pack {u : UnpackedFloat} (finite : u.isFinite = true)
    (room : ∀ sign m e positive, u = .finite sign m e positive → e ≤ 971) :
    (Float.Model.pack u).isFinite = true := by
  refine isFinite_of_unpackExponent ?_
  change unpackExponent (UnpackedFloat.pack Format.binary64 u) ≠ _
  cases u with
  | infinity | notANumber => cases finite
  | zero sign => simp [UnpackedFloat.pack, packedZero]
  | finite sign m e positive =>
    have small : e ≤ 971 := room sign m e positive rfl
    have biased : (e + (Format.binary64.exponentBias : Nat) +
        (Format.binary64.mantissaBitsWithoutImplicit : Nat)).toNat = (e + 1075).toNat := by
      change (e + 1023 + 52).toNat = _
      omega
    simp only [UnpackedFloat.pack, biased]
    rw [if_neg (show ¬2 ^ 11 ≤ (e + 1075).toNat + 1 by omega)]
    split
    · rw [unpackExponent_packComponents]
      intro top
      have equal := congrArg BitVec.toNat top
      rw [BitVec.toNat_ofNat] at equal
      change (e + 1075).toNat % 2048 = 2047 at equal
      omega
    · simp

theorem exponent_le_of_unpack {bits : BitVec Format.binary64.numBits} {sign : Sign} {m : Nat}
    {e : Int} {positive : 0 < m}
    (same : UnpackedFloat.unpack Format.binary64 bits = .finite sign m e positive) : e ≤ 971 := by
  have bounded : (unpackExponent bits).toNat < 2048 := (unpackExponent bits).isLt
  have bias : (Format.binary64.exponentBias : Int) = 1023 := rfl
  unfold UnpackedFloat.unpack at same
  dsimp only at same
  split at same
  case isTrue => split at same <;> cases same
  case isFalse below =>
    have other : (unpackExponent bits).toNat ≠ 2047 := fun top => below (BitVec.eq_of_toNat_eq top)
    split at same
    case isTrue least =>
      have zero : (unpackExponent bits).toNat = 0 := by simp [least]
      split at same
      · cases same
      · cases same
        omega
    case isFalse =>
      cases same
      omega

theorem isFinite_neg {x : Float} (finite : x.isFinite = true) : (-x).isFinite = true := by
  change x.toModel.unpack.isFinite = true at finite
  change (Float.Model.pack x.toModel.unpack.neg).isFinite = true
  cases same : x.toModel.unpack with
  | infinity | notANumber =>
    rw [same] at finite
    cases finite
  | zero sign => exact isFinite_pack rfl nofun
  | finite sign m e positive =>
    refine isFinite_pack rfl ?_
    rintro _ _ _ _ ⟨⟩
    exact exponent_le_of_unpack same

/-! ## Rounding -/

theorem mantissa_shiftRight_le (m : ExtendedMantissa) (n : Nat) :
    (m >>> n).mantissa ≤ m.mantissa := by
  induction n with
  | zero => exact Nat.le_refl _
  | succ n ih => exact Nat.le_trans (Nat.div_le_self _ 2) ih

theorem mantissa_ofMantissaAndAccuracy (m : Nat) (accuracy : Accuracy) :
    (ExtendedMantissa.ofMantissaAndAccuracy m accuracy).mantissa = m := by
  rcases accuracy with _ | (_ | _ | _) <;> rfl

theorem roundedMantissa_le (m : ExtendedMantissa) : m.roundedMantissa ≤ m.mantissa + 1 := by
  rcases m with ⟨m, _ | _, _ | _⟩ <;>
    simp only [ExtendedMantissa.roundedMantissa, ExtendedMantissa.accuracy,
      Accuracy.roundToNearestEven] <;> omega

/-- A significand of so many bits keeps within them, and its exponent rises by as much at most. -/
theorem shiftToTargetExponent_le {m bits ceiling : Nat} {e : Int} (fits : m < 2 ^ bits)
    (low : e ≤ ceiling) (accuracy : Accuracy) :
    let shifted := shiftToTargetExponent Format.binary64 m e accuracy
    shifted.1.mantissa < 2 ^ bits ∧ shifted.2 ≤ ceiling + bits := by
  constructor
  · refine Nat.lt_of_le_of_lt (mantissa_shiftRight_le _ _) ?_
    rwa [mantissa_ofMantissaAndAccuracy]
  · have length : m.log2 ≤ bits := by
      by_cases zero : m = 0
      · simp [zero]
      · exact Nat.le_of_lt ((Nat.log2_lt zero).2 fits)
    simp only [shiftToTargetExponent, shiftToExponent, Format.targetExponent, totalExponent,
      Format.mantissaBits, Format.minExponent]
    omega

theorem isFinite_roundWithAccuracy {m bits : Nat} {e : Int} (fits : m < 2 ^ bits)
    (short : bits ≤ 400) (low : e ≤ (0 : Nat)) (sign : Sign) (accuracy : Accuracy) :
    (Float.Model.pack (roundWithAccuracy Format.binary64 sign m e accuracy)).isFinite = true := by
  obtain ⟨small, first⟩ := shiftToTargetExponent_le fits low accuracy
  unfold roundWithAccuracy
  rcases shifted : shiftToTargetExponent Format.binary64 m e accuracy with ⟨em, next⟩
  rw [shifted] at small first
  -- Rounding up may take one bit more, which the second shift removes again.
  have carried : em.roundedMantissa < 2 ^ (bits + 1) := by
    have rounded := roundedMantissa_le em
    have positive := Nat.two_pow_pos bits
    rw [Nat.pow_succ]
    dsimp only at small
    omega
  have raised : next ≤ bits := by simpa only [Nat.cast_zero, zero_add] using first
  have second := (shiftToTargetExponent_le carried raised .exact).2
  dsimp only at second ⊢
  refine isFinite_pack ?_ ?_
  · split <;> rfl
  · intro _ _ _ _ same
    split at same
    · cases same
    · cases same
      omega

theorem isFinite_round {n bits : Nat} (fits : n < 2 ^ bits) (short : bits ≤ 300) (sign : Sign) :
    (Float.Model.pack (UnpackedFloat.round Format.binary64 sign n 0)).isFinite = true := by
  have shift : (0 - Format.binary64.targetExponent (totalExponent n 0)).toNat ≤ 52 := by
    simp only [Format.targetExponent, totalExponent, Format.mantissaBits, Format.minExponent]
    omega
  have shifted : n <<< (0 - Format.binary64.targetExponent (totalExponent n 0)).toNat
      < 2 ^ (bits + 52) := by
    rw [Nat.shiftLeft_eq, Nat.pow_add]
    exact Nat.mul_lt_mul_of_lt_of_le fits (Nat.pow_le_pow_right (by decide) shift) (by decide)
  exact isFinite_roundWithAccuracy shifted (by omega) (by omega) sign .exact

theorem isFinite_doubleOfNat (n : Nat) : (doubleOfNat n).isFinite = true := by
  have bounded : (UInt64.ofNat n).toNat < 2 ^ 64 := (UInt64.ofNat n).toNat_lt
  change (Float.Model.pack (UnpackedFloat.normalize Format.binary64
    ((UInt64.ofNat n).toNat : Int) 0 .positive)).isFinite = true
  generalize (UInt64.ofNat n).toNat = k at bounded ⊢
  unfold UnpackedFloat.normalize
  split
  · have small : (-(k : Int)).toNat < 2 ^ 64 := by omega
    exact isFinite_round small (by decide) _
  · exact isFinite_pack rfl nofun
  · have small : (k : Int).toNat < 2 ^ 64 := by omega
    exact isFinite_round small (by decide) _

theorem isFinite_doubleOfInt (n : Int) : (doubleOfInt n).isFinite = true := by
  unfold doubleOfInt
  split
  · exact isFinite_neg (isFinite_doubleOfNat _)
  · exact isFinite_doubleOfNat _

end TableQuery.Double
