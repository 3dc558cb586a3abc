import Phrasebook.Proofs.Number.TrailingZeros
import Mathlib.Tactic.Ring

/-! What rounding to a precision keeps. Rounding drops some of the last digits, and where a digit is
carried beyond the precision the value is that of the digits kept all the same. So the value is kept
exactly when the digits dropped are zeros, and this is when the number can be written with the
precision at all: digits are only dropped when there are too many for it, or when they stand below
the least exponent. -/

namespace Phrasebook.Number

/-! ## Rounding to an integer -/

theorem roundHalfEven_eq_zero {n d : Nat} (h : 2 * n < d) : roundHalfEven n d = 0 := by
  have hdiv : n / d = 0 := Nat.div_eq_of_lt (by omega)
  have hmod : n % d = n := Nat.mod_eq_of_lt (by omega)
  unfold roundHalfEven
  rw [hdiv, hmod, if_neg]
  simp only [Bool.or_eq_true, decide_eq_true_eq, Bool.and_eq_true]
  omega

theorem roundHalfEven_le (n d : Nat) : roundHalfEven n d ≤ n / d + 1 := by
  unfold roundHalfEven
  dsimp only
  split
  · exact Nat.le_refl _
  · exact Nat.le_succ _

/-- Rounding a quotient to an integer keeps it when it is one, and only then. -/
theorem roundHalfEven_mul_eq_iff {n d : Nat} (hd : 0 < d) :
    roundHalfEven n d * d = n ↔ d ∣ n := by
  constructor
  · intro h
    exact ⟨roundHalfEven n d, by rw [Nat.mul_comm, h]⟩
  · rintro ⟨k, rfl⟩
    rw [Nat.mul_comm d k, roundHalfEven_mul k hd]

namespace Decimal

/-! ## Digits that are dropped -/

/-- The least exponent of a decimal of some precision. -/
def leastExponent (precision : Nat) : Int := leastNormal - (precision - 1 : Nat)

/-- How many digits rounding drops. -/
def dropped (precision coefficient : Nat) (exponent : Int) : Nat :=
  if exponent + digitCount coefficient - 1 < leastNormal then
    (leastExponent precision - exponent).toNat
  else digitCount coefficient - precision

section

variable {precision : Nat} (negative : Bool) (coefficient : Nat) (exponent : Int)

/-- The value after rounding is that of the digits that are kept, at their place. -/
theorem value_round (hprecision : 0 < precision) :
    (round precision negative coefficient exponent).value =
      (finite negative (roundHalfEven coefficient (10 ^ dropped precision coefficient exponent))
        (exponent + dropped precision coefficient exponent)).value := by
  unfold round dropped leastExponent
  dsimp only
  split
  · split
    · rename_i hlow
      have hplace : exponent + ((leastNormal - (precision - 1 : Nat) - exponent).toNat : Int) =
          leastNormal - (precision - 1 : Nat) := by omega
      rw [hplace]
      generalize (leastNormal - (precision - 1 : Nat) - exponent).toNat = places
      rcases Nat.le_total places (digitCount coefficient + 1) with hle | hle
      · rw [Nat.min_eq_left hle]
      · -- beyond the first digit there is nothing to keep, however many places are dropped
        have hsmall : 2 * coefficient < 10 ^ (digitCount coefficient + 1) := by
          have := lt_ten_pow_digitCount coefficient
          rw [Nat.pow_succ]
          omega
        have hlarge := Nat.lt_of_lt_of_le hsmall (Nat.pow_le_pow_right (by decide) hle)
        rw [Nat.min_eq_right hle, roundHalfEven_eq_zero hsmall, roundHalfEven_eq_zero hlarge]
    · rename_i hlow
      have hnone : (leastNormal - (precision - 1 : Nat) - exponent).toNat = 0 := by omega
      rw [hnone, Nat.pow_zero, roundHalfEven_one]
      simp
  · split
    · split
      · rename_i hcarry
        have hpow : 10 ^ precision = 10 ^ (precision - 1) * 10 ^ 1 := by
          rw [← Nat.pow_add, Nat.sub_add_cancel hprecision]
        rw [hcarry, hpow, ← value_trailing negative _ _ 1]
        congr 2
        push_cast
        omega
      · rfl
    · rename_i hfits
      have hnone : digitCount coefficient - precision = 0 := by omega
      rw [hnone, Nat.pow_zero, roundHalfEven_one]
      simp

theorem value_round_eq_iff (hprecision : 0 < precision) :
    (round precision negative coefficient exponent).value =
        (finite negative coefficient exponent).value ↔
      10 ^ dropped precision coefficient exponent ∣ coefficient := by
  have hscale := value_trailing negative
    (roundHalfEven coefficient (10 ^ dropped precision coefficient exponent))
    (exponent + dropped precision coefficient exponent) (dropped precision coefficient exponent)
  rw [add_sub_cancel_right] at hscale
  rw [value_round _ _ _ hprecision, ← hscale, ← roundHalfEven_mul_eq_iff (Nat.pow_pos (by decide))]
  constructor
  · intro h
    have habs := congrArg abs h
    rw [abs_value, abs_value] at habs
    exact_mod_cast mul_right_cancel₀ (zpow_ne_zero _ (by norm_num)) habs
  · intro h
    rw [h]

end

/-! ## Numbers that can be written with a precision -/

/-- A number that has a coefficient of no more digits than the precision and an exponent that is
not below the least. -/
def Fits (precision : Nat) (q : ℚ) : Prop :=
  ∃ (coefficient : Nat) (exponent : Int), coefficient < 10 ^ precision ∧
    leastExponent precision ≤ exponent ∧ |q| = coefficient * (10 : ℚ) ^ exponent

section

variable {precision : Nat} {negative : Bool} {coefficient : Nat} {exponent : Int}

theorem fits_of_dvd (hprecision : 0 < precision)
    (h : 10 ^ dropped precision coefficient exponent ∣ coefficient) :
    Fits precision (finite negative coefficient exponent).value := by
  obtain ⟨k, hk⟩ := h
  have hscale : coefficient * (10 : ℚ) ^ exponent =
      k * (10 : ℚ) ^ (exponent + dropped precision coefficient exponent) := by
    conv_lhs => rw [hk]
    rw [zpow_add₀ (by norm_num), zpow_natCast]
    push_cast
    ring
  refine ⟨k, _, ?_, ?_, (abs_value negative coefficient exponent).trans hscale⟩
  · have hlt := scaled_lt (lt_ten_pow_digitCount coefficient) exponent
    rw [hscale] at hlt
    have hplaces : (digitCount coefficient : Int) + exponent ≤
        precision + (exponent + dropped precision coefficient exponent) := by
      unfold dropped leastExponent
      split <;> omega
    by_contra hlarge
    have hle : (10 : ℚ) ^ (precision + (exponent + dropped precision coefficient exponent) : Int) ≤
        k * 10 ^ (exponent + dropped precision coefficient exponent : Int) := by
      rw [zpow_add₀ (by norm_num), zpow_natCast]
      exact mul_le_mul_of_nonneg_right (by exact_mod_cast not_lt.mp hlarge) (ten_zpow_pos _).le
    have := ten_zpow_lt_iff.mp (hle.trans_lt hlt)
    omega
  · unfold dropped leastExponent
    have := digitCount_pos coefficient
    split <;> omega

theorem dvd_of_fits (h : Fits precision (finite negative coefficient exponent).value) :
    10 ^ dropped precision coefficient exponent ∣ coefficient := by
  rcases Nat.eq_zero_or_pos coefficient with rfl | hpos
  · exact Nat.dvd_zero _
  obtain ⟨k, place, hk, hplace, heq⟩ := h
  rw [abs_value] at heq
  -- the digits written otherwise stand no lower than those that are kept
  have hkept : exponent + dropped precision coefficient exponent ≤ place ∨
      dropped precision coefficient exponent = 0 := by
    unfold dropped
    split
    · omega
    · have hlow := ten_zpow_le_scaled hpos exponent
      rw [heq] at hlow
      have := ten_zpow_lt_iff.mp (hlow.trans_lt (scaled_lt hk place))
      omega
  rcases hkept with hkept | hnone
  · obtain ⟨more, rfl⟩ : ∃ more : Nat,
        place = exponent + dropped precision coefficient exponent + more :=
      ⟨(place - (exponent + dropped precision coefficient exponent)).toNat, by omega⟩
    refine ⟨k * 10 ^ more, ?_⟩
    have hcancel : (coefficient : ℚ) =
        10 ^ dropped precision coefficient exponent * (k * 10 ^ more) := by
      apply mul_right_cancel₀ (ten_zpow_pos exponent).ne'
      rw [heq, zpow_add₀ (by norm_num), zpow_add₀ (by norm_num), zpow_natCast, zpow_natCast]
      ring
    exact_mod_cast hcancel
  · rw [hnone, Nat.pow_zero]
    exact Nat.one_dvd _

/-- Rounding keeps a number that can be written with the precision, and no other. -/
theorem value_round_eq_iff_fits (hprecision : 0 < precision) :
    (round precision negative coefficient exponent).value =
        (finite negative coefficient exponent).value ↔
      Fits precision (finite negative coefficient exponent).value :=
  (value_round_eq_iff negative coefficient exponent hprecision).trans
    ⟨fits_of_dvd hprecision, dvd_of_fits⟩

/-- The sign bit tells on which side of zero a decimal is. -/
theorem value_nonneg (coefficient : Nat) (exponent : Int) :
    0 ≤ (finite false coefficient exponent).value ∧
      (finite true coefficient exponent).value ≤ 0 := by
  rw [value, value, cast_signed, cast_signed]
  constructor
  · exact mul_nonneg (by simp) (ten_zpow_pos _).le
  · exact mul_nonpos_of_nonpos_of_nonneg (by simp) (ten_zpow_pos _).le

theorem value_round_nonneg (hprecision : 0 < precision) :
    0 ≤ (round precision false coefficient exponent).value ∧
      (round precision true coefficient exponent).value ≤ 0 := by
  rw [value_round _ _ _ hprecision, value_round _ _ _ hprecision]
  exact ⟨(value_nonneg _ _).1, (value_nonneg _ _).2⟩

/-- A number below an integer is not rounded beyond it when only places are dropped. -/
theorem abs_value_round_le (hprecision : 0 < precision) {bound : Nat}
    (hplaces : exponent + dropped precision coefficient exponent ≤ 0)
    (h : |(finite negative coefficient exponent).value| < bound) :
    |(round precision negative coefficient exponent).value| ≤ bound := by
  rw [abs_value] at h
  rw [value_round _ _ _ hprecision, abs_value]
  generalize hd : dropped precision coefficient exponent = d at hplaces ⊢
  obtain ⟨places, hplaces⟩ : ∃ places : Nat, exponent + d = -(places : Int) :=
    ⟨(-(exponent + d)).toNat, by omega⟩
  have hexponent : exponent = -(places : Int) + -(d : Int) := by omega
  have hten : (0 : ℚ) < 10 ^ places := by positivity
  have hten' : (0 : ℚ) < 10 ^ d := by positivity
  -- the bound, counted in units of the last place that is kept
  have hlt : coefficient < bound * 10 ^ places * 10 ^ d := by
    rw [hexponent, zpow_add₀ (by norm_num), zpow_neg, zpow_neg, zpow_natCast, zpow_natCast,
      ← mul_assoc, ← div_eq_mul_inv, ← div_eq_mul_inv, div_lt_iff₀ hten', div_lt_iff₀ hten] at h
    have hcast : (coefficient : ℚ) < bound * 10 ^ places * 10 ^ d := by linarith
    exact_mod_cast hcast
  have hquotient : coefficient / 10 ^ d < bound * 10 ^ places :=
    Nat.div_lt_of_lt_mul (by rwa [Nat.mul_comm] at hlt)
  have hkept : roundHalfEven coefficient (10 ^ d) ≤ bound * 10 ^ places :=
    (roundHalfEven_le _ _).trans hquotient
  rw [hplaces, zpow_neg, zpow_natCast, ← div_eq_mul_inv, div_le_iff₀ hten]
  exact_mod_cast hkept

end

end Decimal

end Phrasebook.Number
