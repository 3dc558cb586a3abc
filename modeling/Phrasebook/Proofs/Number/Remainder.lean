import Phrasebook.Proofs.Number.Rounding

/-! Remainders of decimals. A remainder is rounded in its places only, so it does not go beyond the
divisor, and by a divisor of few digits it is never too large for a result. The remainder of a
decimal that equals an integer is that of the integer: without places no digit is dropped, and
places are trailing zeros of another decimal of the same value. A zero is apart, since its exponent
may be anything. -/

namespace Phrasebook.Number.Decimal

/-- An integer of no more digits than the precision is not rounded. -/
theorem round_integer {precision size : Nat} (negative : Bool) (h : digitCount size ≤ precision) :
    round precision negative size 0 = finite negative size 0 := by
  have hlead : ¬ (0 + digitCount size - 1 : Int) < leastNormal := by
    have := digitCount_pos size
    rw [leastNormal]
    omega
  unfold round
  dsimp only
  rw [if_neg hlead, if_neg (by omega)]

theorem signed_natAbs (n : Int) : signed (decide (n < 0)) n.natAbs = n := by
  unfold signed
  split <;> rename_i h <;> simp only [decide_eq_true_eq] at h <;> omega

theorem signed_mod (n : Int) (divisor : Nat) :
    signed (decide (n < 0)) (n.natAbs % divisor) = n.tmod divisor := by
  cases n with
  | ofNat a =>
    have hsign : ¬ (Int.ofNat a < 0) := Int.not_lt.mpr (Int.natCast_nonneg a)
    rw [decide_eq_false hsign]
    rfl
  | negSucc a =>
    rw [decide_eq_true (Int.negSucc_lt_zero a)]
    rfl

/-- The digits of a remainder before the point are covered by the working precision. -/
theorem dropped_le {negative : Bool} {coefficient : Nat} {exponent : Int} {divisor : Nat}
    (hdivisor : 0 < divisor) :
    (remainderParts coefficient exponent divisor).2 +
        dropped (finite negative coefficient exponent).workingPrecision
          (remainderParts coefficient exponent divisor).1
          (remainderParts coefficient exponent divisor).2 ≤ 0 := by
  have hprecision : (finite negative coefficient exponent).adjusted + 2 ≤
      (finite negative coefficient exponent).workingPrecision := by
    unfold workingPrecision
    omega
  have hcount := digitCount_pos coefficient
  rw [adjusted] at hprecision
  generalize (finite negative coefficient exponent).workingPrecision = precision at hprecision ⊢
  cases exponent with
  | ofNat e =>
    rw [remainderParts_ofNat]
    have hlt : coefficient * 10 ^ e % divisor < 10 ^ (digitCount coefficient + e) := by
      refine Nat.lt_of_le_of_lt (Nat.mod_le _ _) ?_
      rw [Nat.pow_add]
      exact Nat.mul_lt_mul_of_pos_right (lt_ten_pow_digitCount _) (Nat.pow_pos (by decide))
    have hsize := digitCount_le (by omega) hlt
    have hpos := digitCount_pos (coefficient * 10 ^ e % divisor)
    rw [Int.ofNat_eq_natCast] at hprecision
    unfold dropped leastNormal
    dsimp only
    split <;> omega
  | negSucc e =>
    rw [remainderParts_negSucc _ _ hdivisor]
    have hlt : coefficient % (divisor * 10 ^ (e + 1)) < 10 ^ digitCount coefficient :=
      Nat.lt_of_le_of_lt (Nat.mod_le _ _) (lt_ten_pow_digitCount _)
    have hsize := digitCount_le hcount hlt
    unfold dropped leastExponent leastNormal
    dsimp only
    split <;> omega

theorem abs_value_remainderParts_lt (negative : Bool) (coefficient : Nat) (exponent : Int)
    {divisor : Nat} (hdivisor : 0 < divisor) :
    |(finite negative (remainderParts coefficient exponent divisor).1
      (remainderParts coefficient exponent divisor).2).value| < divisor := by
  rw [abs_value]
  cases exponent with
  | ofNat e =>
    rw [remainderParts_ofNat, zpow_zero, mul_one]
    exact_mod_cast Nat.mod_lt _ hdivisor
  | negSucc e =>
    rw [remainderParts_negSucc _ _ hdivisor, zpow_negSucc, ← div_eq_mul_inv,
      div_lt_iff₀ (by positivity)]
    exact_mod_cast Nat.mod_lt _ (Nat.mul_pos hdivisor (Nat.pow_pos (by decide)))

/-- A remainder that was rounded does not go beyond the divisor. -/
theorem abs_value_round_remainder_le (negative : Bool) (coefficient : Nat) (exponent : Int)
    {divisor : Nat} (hdivisor : 0 < divisor) :
    |(round (finite negative coefficient exponent).workingPrecision negative
      (remainderParts coefficient exponent divisor).1
      (remainderParts coefficient exponent divisor).2).value| ≤ divisor :=
  abs_value_round_le (workingPrecision_pos _) (dropped_le hdivisor)
    (abs_value_remainderParts_lt negative coefficient exponent hdivisor)

section

variable {negative : Bool} {coefficient : Nat} {exponent : Int} {divisor : Nat}

theorem remainder_of_workingPrecision
    (h : (finite negative coefficient exponent).workingPrecision ≤ maxExponent) :
    (finite negative coefficient exponent).remainder divisor =
      (round (finite negative coefficient exponent).workingPrecision negative
        (remainderParts coefficient exponent divisor).1
        (remainderParts coefficient exponent divisor).2).result := by
  rw [remainder_finite, if_neg (not_lt.mpr h)]

/-- A divisor of no more digits than are always kept leaves no remainder that is too large. -/
theorem remainder_of_small
    (h : (finite negative coefficient exponent).workingPrecision ≤ maxExponent)
    (hdivisor : 0 < divisor) (hsmall : divisor ≤ 10 ^ defaultPrecision) :
    (finite negative coefficient exponent).remainder divisor =
      .ok (round (finite negative coefficient exponent).workingPrecision negative
        (remainderParts coefficient exponent divisor).1
        (remainderParts coefficient exponent divisor).2) := by
  rw [remainder_of_workingPrecision h]
  exact result_of_not_overflows (not_overflows_of_abs_le hsmall
    (abs_value_round_remainder_le negative coefficient exponent hdivisor))

end

theorem remainder_zero {x : Decimal} (hx : x.isFinite = true) (hvalue : x.value = 0)
    (hprecision : x.workingPrecision ≤ maxExponent) (divisor : Nat) :
    ∃ r, x.remainder divisor = .ok r ∧ r.isFinite = true ∧ r.value = 0 := by
  obtain ⟨negative, coefficient, exponent, rfl⟩ := exists_of_isFinite hx
  obtain rfl := (value_eq_zero_iff negative coefficient exponent).mp hvalue
  have hparts : (remainderParts 0 exponent divisor).1 = 0 := by
    cases exponent <;> simp [remainderParts]
  have hzero := value_round_zero (workingPrecision_pos (finite negative 0 exponent)) negative
    (remainderParts 0 exponent divisor).2
  rw [remainder_of_workingPrecision hprecision, hparts,
    result_of_not_overflows (hzero.symm ▸ not_overflows_zero)]
  exact ⟨_, rfl, isFinite_round _ _ _ _, hzero⟩

/-- The remainder of an integer written without an exponent. -/
theorem remainder_written_integer (n : Int) {divisor : Nat} (hdivisor : 0 < divisor)
    (hsmall : divisor ≤ 10 ^ defaultPrecision) {r : Decimal}
    (hr : (finite (decide (n < 0)) n.natAbs 0).remainder divisor = .ok r) :
    r.value = (n.tmod divisor : Int) := by
  have hparts : remainderParts n.natAbs 0 divisor = (n.natAbs % divisor, 0) := by
    have h := remainderParts_ofNat n.natAbs 0 divisor
    rwa [Nat.pow_zero, Nat.mul_one] at h
  have hlt : n.natAbs % divisor < 10 ^ defaultPrecision :=
    Nat.lt_of_lt_of_le (Nat.mod_lt _ hdivisor) hsmall
  have hsize : digitCount (n.natAbs % divisor) ≤
      (finite (decide (n < 0)) n.natAbs 0).workingPrecision :=
    Nat.le_trans (digitCount_le (by decide) hlt) (Nat.le_max_left _ _)
  rw [remainder_finite, hparts, round_integer _ hsize] at hr
  split at hr
  · cases hr
  · obtain rfl := eq_of_result hr
    rw [value, signed_mod, zpow_zero, mul_one]

/-- The remainder of a decimal that equals an integer is the remainder of the integer, so long as
the divisor has no more digits than are always kept. -/
theorem remainder_integer {x : Decimal} (hx : x.isFinite = true) {n : Int} (hn : x.value = n)
    (hprecision : x.workingPrecision ≤ maxExponent) {divisor : Nat} (hdivisor : 0 < divisor)
    (hsmall : divisor ≤ 10 ^ defaultPrecision) :
    ∃ r, x.remainder divisor = .ok r ∧ r.isFinite = true ∧ r.value = (n.tmod divisor : Int) := by
  rcases eq_or_ne n 0 with rfl | hzero
  · simpa using remainder_zero hx (by simpa using hn) hprecision divisor
  · have hwritten : (finite (decide (n < 0)) n.natAbs 0).value = n := by
      rw [value, signed_natAbs, zpow_zero, mul_one]
    have hagree := remainder_sameNumber ⟨hx, rfl, hn.trans hwritten.symm⟩
      (by rw [hn]; exact_mod_cast hzero) hdivisor
    obtain ⟨negative, coefficient, exponent, rfl⟩ := exists_of_isFinite hx
    rw [remainder_of_small hprecision hdivisor hsmall] at hagree ⊢
    cases hr : (finite (decide (n < 0)) n.natAbs 0).remainder divisor with
    | error fault =>
      rw [hr] at hagree
      exact hagree.elim
    | ok r =>
      rw [hr] at hagree
      refine ⟨_, rfl, hagree.1, ?_⟩
      rw [hagree.2.2, remainder_written_integer n hdivisor hsmall hr]

end Phrasebook.Number.Decimal
