import Phrasebook.Number.Decimal.Remainder
import Phrasebook.Proofs.Number.DigitCount
import Phrasebook.Proofs.Number.Value

/-! How large a decimal is. The place of its leading digit puts the size of a decimal that is not
zero between two powers of ten, so a result is refused for its leading digit just when it is too
large a number, however it is written. -/

namespace Phrasebook.Number

theorem ten_zpow_pos (exponent : Int) : (0 : ℚ) < (10 : ℚ) ^ exponent := zpow_pos (by norm_num) _

theorem ten_zpow_lt_iff {a b : Int} : (10 : ℚ) ^ a < 10 ^ b ↔ a < b :=
  zpow_lt_zpow_iff_right₀ (by norm_num)

/-- A scaled number is below a power of ten that exceeds all its digits. -/
theorem scaled_lt {n k : Nat} (h : n < 10 ^ k) (exponent : Int) :
    n * (10 : ℚ) ^ exponent < 10 ^ (k + exponent) := by
  rw [zpow_add₀ (by norm_num), zpow_natCast]
  exact mul_lt_mul_of_pos_right (by exact_mod_cast h) (ten_zpow_pos _)

/-- A scaled number that is not zero is at least the power of ten of its first digit. -/
theorem ten_zpow_le_scaled {n : Nat} (h : 0 < n) (exponent : Int) :
    (10 : ℚ) ^ (digitCount n - 1 + exponent) ≤ n * (10 : ℚ) ^ exponent := by
  have hcount := digitCount_pos n
  have hplaces : (digitCount n : Int) - 1 = (digitCount n - 1 : Nat) := by omega
  rw [hplaces, zpow_add₀ (by norm_num), zpow_natCast]
  exact mul_le_mul_of_nonneg_right (by exact_mod_cast ten_pow_le_of_pos h) (ten_zpow_pos _).le

namespace Decimal

theorem abs_value (negative : Bool) (coefficient : Nat) (exponent : Int) :
    |(finite negative coefficient exponent).value| = coefficient * (10 : ℚ) ^ exponent := by
  have hpow : (0 : ℚ) ≤ (10 : ℚ) ^ exponent := (ten_zpow_pos _).le
  rw [value, abs_mul, abs_of_nonneg hpow, cast_signed]
  cases negative <;> simp

/-- The leading digit stands at a power of ten or above it just when the number is as large. -/
theorem ten_zpow_le_abs_value_iff {coefficient : Nat} (h : 0 < coefficient) (negative : Bool)
    (exponent place : Int) :
    (10 : ℚ) ^ place ≤ |(finite negative coefficient exponent).value| ↔
      place ≤ (finite negative coefficient exponent).adjusted := by
  rw [abs_value, adjusted]
  constructor
  · intro hle
    have := ten_zpow_lt_iff.mp (hle.trans_lt (scaled_lt (lt_ten_pow_digitCount _) exponent))
    omega
  · intro hle
    exact (zpow_le_zpow_right₀ (by norm_num) (by omega)).trans (ten_zpow_le_scaled h exponent)

/-- A number too large for the result of an operation. -/
def Overflows (q : ℚ) : Prop := (10 : ℚ) ^ (greatestLead + 1) ≤ |q|

theorem not_overflows_zero : ¬ Overflows 0 := by
  rw [Overflows, abs_zero]
  exact not_le.mpr (ten_zpow_pos _)

theorem result_of_not_overflows {x : Decimal} (h : ¬ Overflows x.value) : x.result = .ok x := by
  unfold result
  cases x with
  | finite negative coefficient exponent =>
    rcases Nat.eq_zero_or_pos coefficient with rfl | hpos
    · rfl
    · have hlead : ¬ greatestLead < (finite negative coefficient exponent).adjusted :=
        mt (ten_zpow_le_abs_value_iff hpos negative exponent _).mpr h
      rw [if_neg]
      simp [hlead]
  | infinite _ => rfl
  | nan _ _ _ => rfl

theorem result_of_overflows {x : Decimal} (h : Overflows x.value) :
    x.result = .error .decimalOverflow := by
  cases x with
  | finite negative coefficient exponent =>
    have hpos : 0 < coefficient := by
      rcases Nat.eq_zero_or_pos coefficient with rfl | hpos
      · have hzero : (finite negative 0 exponent).value = 0 := by
          cases negative <;> simp [value, signed]
        exact absurd (hzero ▸ h) not_overflows_zero
      · exact hpos
    have hlead : greatestLead < (finite negative coefficient exponent).adjusted :=
      (ten_zpow_le_abs_value_iff hpos negative exponent _).mp h
    rw [result, if_pos]
    simp [isZero, hpos.ne', hlead]
  | infinite _ => exact absurd h not_overflows_zero
  | nan _ _ _ => exact absurd h not_overflows_zero

theorem eq_of_result {x r : Decimal} (h : x.result = .ok r) : r = x := by
  by_cases hlarge : Overflows x.value
  · rw [result_of_overflows hlarge] at h
    cases h
  · rw [result_of_not_overflows hlarge] at h
    exact (Except.ok.inj h).symm

/-- A number of no more digits than are always kept does not overflow. -/
theorem not_overflows_of_abs_le {q : ℚ} {bound : Nat} (hbound : bound ≤ 10 ^ defaultPrecision)
    (h : |q| ≤ bound) : ¬ Overflows q := by
  have hlt : (10 : ℚ) ^ (defaultPrecision : Int) < 10 ^ (greatestLead + 1) :=
    ten_zpow_lt_iff.mpr (by decide)
  have hle : (bound : ℚ) ≤ 10 ^ (defaultPrecision : Int) := by
    rw [zpow_natCast]
    exact_mod_cast hbound
  exact not_le.mpr ((h.trans hle).trans_lt hlt)

end Decimal

end Phrasebook.Number
