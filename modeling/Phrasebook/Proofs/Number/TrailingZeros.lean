import Phrasebook.Proofs.Fault.Outcome
import Phrasebook.Proofs.Number.Magnitude

/-! Decimals that differ in their trailing zeros only. They have the same value, and remainders by
the same number are again such decimals. Rounding drops digits of a coefficient by its size, which
the zeros raise by their number, so they are the first to be dropped, and the value that is left
does not depend on them. -/

namespace Phrasebook.Number

/-! ## Rounding -/

theorem roundHalfEven_scale (n d : Nat) {c : Nat} (hc : 0 < c) :
    roundHalfEven (n * c) (d * c) = roundHalfEven n d := by
  have hdouble : 2 * (n % d * c) = 2 * (n % d) * c := (Nat.mul_assoc 2 _ c).symm
  have hlt : d * c < 2 * (n % d) * c ↔ d < 2 * (n % d) := Nat.mul_lt_mul_right hc
  have heq : 2 * (n % d) * c = d * c ↔ 2 * (n % d) = d := Nat.mul_left_inj (by omega)
  unfold roundHalfEven
  simp only [Nat.mul_div_mul_right _ _ hc, Nat.mul_mod_mul_right, hdouble, hlt, heq]

theorem roundHalfEven_mul (n : Nat) {d : Nat} (hd : 0 < d) : roundHalfEven (n * d) d = n := by
  have h := roundHalfEven_scale n 1 hd
  rwa [Nat.one_mul, roundHalfEven_one] at h

/-- Dropping no more digits than there are trailing zeros drops nothing else. -/
theorem roundHalfEven_trailing (n : Nat) {j k : Nat} (h : j ≤ k) :
    roundHalfEven (n * 10 ^ k) (10 ^ j) = n * 10 ^ (k - j) := by
  have hsplit : n * 10 ^ k = n * 10 ^ (k - j) * 10 ^ j := by
    rw [Nat.mul_assoc, ← Nat.pow_add, Nat.sub_add_cancel h]
  rw [hsplit, roundHalfEven_mul _ (Nat.pow_pos (by decide))]

namespace Decimal

theorem value_trailing (negative : Bool) (coefficient : Nat) (exponent : Int) (k : Nat) :
    (finite negative (coefficient * 10 ^ k) (exponent - k)).value =
      (finite negative coefficient exponent).value := by
  have hpow : (10 : ℚ) ^ k * 10 ^ (exponent - k) = 10 ^ exponent := by
    rw [← zpow_natCast, ← zpow_add₀ (by norm_num)]
    congr 1
    omega
  simp only [value, cast_signed, Nat.cast_mul, Nat.cast_pow, Nat.cast_ofNat]
  rw [← hpow]
  cases negative <;> simp [mul_assoc]

/-- Trailing zeros do not change what a decimal is rounded to. -/
theorem value_round_trailing (precision : Nat) (negative : Bool) {coefficient : Nat}
    (hcoefficient : 0 < coefficient) (exponent : Int) (k : Nat) :
    (round precision negative (coefficient * 10 ^ k) (exponent - k)).value =
      (round precision negative coefficient exponent).value := by
  have hsize := digitCount_mul_ten_pow hcoefficient k
  have hlead : exponent - k + digitCount (coefficient * 10 ^ k) - 1 =
      exponent + digitCount coefficient - 1 := by
    omega
  unfold round
  simp only [hlead]
  by_cases hsmall : exponent + digitCount coefficient - 1 < leastNormal
  · rw [if_pos hsmall, if_pos hsmall]
    generalize leastNormal - (precision - 1 : Nat) = least
    by_cases hexponent : exponent < least
    · -- the zeros are among the dropped digits
      have hdropped : min (least - (exponent - k)).toNat (digitCount coefficient + k + 1) =
          min (least - exponent).toNat (digitCount coefficient + 1) + k := by omega
      rw [if_pos hexponent, if_pos (by omega), hsize, hdropped, Nat.pow_add,
        roundHalfEven_scale _ _ (Nat.pow_pos (by decide))]
    · rw [if_neg hexponent]
      by_cases hlower : exponent - k < least
      · -- the dropped digits are among the zeros
        obtain ⟨j, hj, rfl⟩ : ∃ j ≤ k, least = exponent - (k - j : Nat) :=
          ⟨(least - (exponent - k)).toNat, by omega, by omega⟩
        have hdropped : min (exponent - (k - j : Nat) - (exponent - k)).toNat
            (digitCount coefficient + k + 1) = j := by omega
        rw [if_pos hlower, hsize, hdropped, roundHalfEven_trailing _ hj, value_trailing]
      · rw [if_neg hlower, value_trailing]
  · rw [if_neg hsmall, if_neg hsmall, hsize]
    by_cases hfirst : precision < digitCount coefficient
    · have hdropped : digitCount coefficient + k - precision =
          digitCount coefficient - precision + k := by omega
      have hplace : exponent - k + (digitCount coefficient - precision + k : Nat) =
          exponent + (digitCount coefficient - precision : Nat) := by omega
      rw [if_pos hfirst, if_pos (by omega), hdropped, Nat.pow_add,
        roundHalfEven_scale _ _ (Nat.pow_pos (by decide)), hplace]
    · rw [if_neg hfirst]
      by_cases hsecond : precision < digitCount coefficient + k
      · -- the dropped digits are among the zeros, so nothing is carried
        obtain ⟨j, hj, hprecision⟩ : ∃ j ≤ k, precision = digitCount coefficient + (k - j) :=
          ⟨digitCount coefficient + k - precision, by omega, by omega⟩
        have hdropped : digitCount coefficient + k - precision = j := by omega
        have hplace : exponent - k + (j : Int) = exponent - (k - j : Nat) := by omega
        have hcarry : coefficient * 10 ^ (k - j) < 10 ^ precision := by
          rw [hprecision, Nat.pow_add]
          exact Nat.mul_lt_mul_of_pos_right (lt_ten_pow_digitCount _) (Nat.pow_pos (by decide))
        rw [if_pos hsecond, hdropped, roundHalfEven_trailing _ hj, if_neg hcarry.ne, hplace,
          value_trailing]
      · rw [if_neg hsecond, value_trailing]

/-! ## Remainders -/

theorem remainderParts_trailing (coefficient : Nat) (exponent : Int) {divisor : Nat}
    (hdivisor : 0 < divisor) (k : Nat) :
    ∃ j : Nat, remainderParts (coefficient * 10 ^ k) (exponent - k) divisor =
      ((remainderParts coefficient exponent divisor).1 * 10 ^ j,
        (remainderParts coefficient exponent divisor).2 - j) := by
  cases exponent with
  | ofNat e =>
    rcases Nat.lt_or_ge e k with hlt | hle
    · obtain ⟨i, rfl⟩ := Nat.exists_eq_add_of_lt hlt
      refine ⟨i + 1, ?_⟩
      have hexponent : Int.ofNat e - (e + i + 1 : Nat) = Int.negSucc i := by
        rw [Int.ofNat_eq_natCast]
        omega
      have hpow : coefficient * 10 ^ (e + i + 1) = coefficient * 10 ^ e * 10 ^ (i + 1) := by
        rw [Nat.mul_assoc, ← Nat.pow_add, Nat.add_assoc]
      rw [hexponent, remainderParts_ofNat, remainderParts_negSucc _ _ hdivisor, hpow,
        Nat.mul_mod_mul_right]
      simp [Int.negSucc_eq]
    · refine ⟨0, ?_⟩
      have hexponent : Int.ofNat e - k = Int.ofNat (e - k) := (Int.ofNat_sub hle).symm
      rw [hexponent, remainderParts_ofNat, remainderParts_ofNat, Nat.mul_assoc, ← Nat.pow_add,
        Nat.add_sub_cancel' hle]
      simp
  | negSucc e =>
    refine ⟨k, ?_⟩
    have hexponent : Int.negSucc e - k = Int.negSucc (e + k) := by omega
    have hpow : divisor * 10 ^ (e + k + 1) = divisor * 10 ^ (e + 1) * 10 ^ k := by
      rw [Nat.mul_assoc, ← Nat.pow_add, Nat.add_right_comm]
    rw [hexponent, remainderParts_negSucc _ _ hdivisor, remainderParts_negSucc _ _ hdivisor, hpow,
      Nat.mul_mod_mul_right, ← hexponent]

theorem value_round_zero {precision : Nat} (hprecision : 0 < precision) (negative : Bool)
    (exponent : Int) : (round precision negative 0 exponent).value = 0 := by
  have hzero (e : Int) : (finite negative 0 e).value = 0 := by
    cases negative <;> simp [value, signed]
  have hround (d : Nat) : roundHalfEven 0 d = 0 := by simp [roundHalfEven]
  have hsize : digitCount 0 = 1 := by decide
  unfold round
  simp only [hround, hsize]
  split
  · split
    · exact hzero _
    · exact hzero _
  · rw [if_neg (by omega), hzero]

/-- Finite decimals of the same value. -/
def SameNumber (x y : Decimal) : Prop :=
  x.isFinite = true ∧ y.isFinite = true ∧ x.value = y.value

theorem SameNumber.symm {x y : Decimal} (h : x.SameNumber y) : y.SameNumber x :=
  ⟨h.2.1, h.1, h.2.2.symm⟩

/-- Equal decimals are refused as results alike. -/
theorem agree_result {x y : Decimal} (h : x.SameNumber y) : Agree SameNumber x.result y.result := by
  by_cases hlarge : Overflows x.value
  · rw [result_of_overflows hlarge, result_of_overflows (h.2.2 ▸ hlarge)]
    exact rfl
  · rw [result_of_not_overflows hlarge, result_of_not_overflows (h.2.2 ▸ hlarge)]
    exact h

theorem isFinite_round (precision : Nat) (negative : Bool) (coefficient : Nat) (exponent : Int) :
    (round precision negative coefficient exponent).isFinite = true := by
  unfold round
  dsimp only
  split
  · split <;> rfl
  · split
    · split <;> rfl
    · rfl

theorem workingPrecision_pos (x : Decimal) : 0 < x.workingPrecision :=
  Nat.lt_of_lt_of_le (by decide) (Nat.le_max_left _ _)

theorem remainder_finite (negative : Bool) (coefficient : Nat) (exponent : Int) (divisor : Nat) :
    (finite negative coefficient exponent).remainder divisor =
      if maxExponent < (finite negative coefficient exponent).workingPrecision then
        .error .precisionRange
      else (round (finite negative coefficient exponent).workingPrecision negative
        (remainderParts coefficient exponent divisor).1
        (remainderParts coefficient exponent divisor).2).result := rfl

theorem adjusted_trailing (negative : Bool) {coefficient : Nat} (hcoefficient : 0 < coefficient)
    (exponent : Int) (k : Nat) :
    (finite negative (coefficient * 10 ^ k) (exponent - k)).adjusted =
      (finite negative coefficient exponent).adjusted := by
  rw [adjusted, adjusted, digitCount_mul_ten_pow hcoefficient]
  omega

theorem remainder_trailing (negative : Bool) {coefficient : Nat} (hcoefficient : 0 < coefficient)
    (exponent : Int) (k : Nat) {divisor : Nat} (hdivisor : 0 < divisor) :
    Agree SameNumber ((finite negative coefficient exponent).remainder divisor)
      ((finite negative (coefficient * 10 ^ k) (exponent - k)).remainder divisor) := by
  have hprecision : (finite negative (coefficient * 10 ^ k) (exponent - k)).workingPrecision =
      (finite negative coefficient exponent).workingPrecision := by
    rw [workingPrecision, workingPrecision, adjusted_trailing negative hcoefficient]
  obtain ⟨j, hparts⟩ := remainderParts_trailing coefficient exponent hdivisor k
  rw [remainder_finite, remainder_finite, hprecision, hparts]
  split
  · exact rfl
  · refine agree_result ⟨isFinite_round _ _ _ _, isFinite_round _ _ _ _, ?_⟩
    rcases Nat.eq_zero_or_pos (remainderParts coefficient exponent divisor).1 with hzero | hpos
    · rw [hzero, Nat.zero_mul, value_round_zero (workingPrecision_pos _),
        value_round_zero (workingPrecision_pos _)]
    · exact (value_round_trailing _ negative hpos _ j).symm

theorem signed_injective {negative negative' : Bool} {size size' : Nat} (hsize : 0 < size)
    (h : signed negative size = signed negative' size') : negative = negative' ∧ size = size' := by
  cases negative <;> cases negative' <;> simp [signed] at h ⊢ <;> omega

/-- Of two decimals of the same value, the one with the lower exponent has trailing zeros more. -/
theorem exists_trailing {negative negative' : Bool} {coefficient coefficient' : Nat}
    {exponent exponent' : Int} (hcoefficient : 0 < coefficient) (hle : exponent' ≤ exponent)
    (h : (finite negative coefficient exponent).value =
      (finite negative' coefficient' exponent').value) :
    ∃ k : Nat, finite negative' coefficient' exponent' =
      finite negative (coefficient * 10 ^ k) (exponent - k) := by
  obtain ⟨k, rfl⟩ : ∃ k : Nat, exponent' = exponent - k := ⟨(exponent - exponent').toNat, by omega⟩
  rw [← value_trailing negative coefficient exponent k] at h
  have hpow : (10 : ℚ) ^ (exponent - k) ≠ 0 := zpow_ne_zero _ (by norm_num)
  have hsigned := Int.cast_injective (mul_right_cancel₀ hpow h)
  have hpos : 0 < coefficient * 10 ^ k := Nat.mul_pos hcoefficient (Nat.pow_pos (by decide))
  obtain ⟨rfl, rfl⟩ := signed_injective hpos hsigned
  exact ⟨k, rfl⟩

theorem value_eq_zero_iff (negative : Bool) (coefficient : Nat) (exponent : Int) :
    (finite negative coefficient exponent).value = 0 ↔ coefficient = 0 := by
  have hpow : (10 : ℚ) ^ exponent ≠ 0 := zpow_ne_zero _ (by norm_num)
  rw [value, mul_eq_zero, or_iff_left hpow, cast_signed]
  cases negative <;> simp

/-- Equal decimals have equal remainders. Only zeros may differ in whether the remainder is
admitted, as the precision is taken from the exponent. -/
theorem remainder_sameNumber {x y : Decimal} (h : x.SameNumber y) (hvalue : x.value ≠ 0)
    {divisor : Nat} (hdivisor : 0 < divisor) :
    Agree SameNumber (x.remainder divisor) (y.remainder divisor) := by
  obtain ⟨hx, hy, heq⟩ := h
  obtain ⟨negative, coefficient, exponent, rfl⟩ := exists_of_isFinite hx
  obtain ⟨negative', coefficient', exponent', rfl⟩ := exists_of_isFinite hy
  have hpos := Nat.pos_of_ne_zero (mt (value_eq_zero_iff negative _ exponent).mpr hvalue)
  have hpos' := Nat.pos_of_ne_zero
    (mt (value_eq_zero_iff negative' _ exponent').mpr (heq ▸ hvalue))
  rcases le_total exponent' exponent with hle | hle
  · obtain ⟨k, hk⟩ := exists_trailing hpos hle heq
    rw [hk]
    exact remainder_trailing negative hpos exponent k hdivisor
  · obtain ⟨k, hk⟩ := exists_trailing hpos' hle heq.symm
    rw [hk]
    exact (remainder_trailing negative' hpos' exponent' k hdivisor).symm fun _ _ => SameNumber.symm

end Decimal

end Phrasebook.Number
