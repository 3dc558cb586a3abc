import Phrasebook.Number.Digits
import Mathlib.Algebra.Order.Group.Nat

/-! How many digits a number has. The count places a number that is not zero between two powers of
ten, and is the only one that does, so a factor of ten raises it by one. -/

namespace Phrasebook.Number

/-- The digits of a number that is not zero begin with a digit that is not. -/
theorem exists_digits_eq_cons {n : Nat} (h : 0 < n) : ∃ d ds, digits n = d :: ds ∧ 0 < d := by
  unfold digits
  split
  · rename_i hnil
    have hvalue := ofDigits_dropWhile_zero (lowDigits (digitDepth n) n)
    rw [hnil, ofDigits_lowDigits, Nat.mod_eq_of_lt (lt_ten_pow_digitDepth n)] at hvalue
    exact absurd hvalue h.ne
  · rename_i d ds hcons
    refine ⟨d, ds, rfl, ?_⟩
    have hhead := List.head?_dropWhile_not (· == 0) (lowDigits (digitDepth n) n)
    rw [hcons] at hhead
    simpa [Nat.pos_iff_ne_zero] using hhead

theorem ten_pow_le_of_pos {n : Nat} (h : 0 < n) : 10 ^ (digitCount n - 1) ≤ n := by
  obtain ⟨d, ds, hdigits, hd⟩ := exists_digits_eq_cons h
  have hvalue := ofDigits_append [d] ds
  rw [List.singleton_append, ← hdigits, ofDigits_digits] at hvalue
  have hhead : ofDigits [d] = d := by simp [ofDigits]
  rw [digitCount, hdigits, List.length_cons, Nat.add_sub_cancel]
  calc 10 ^ ds.length ≤ d * 10 ^ ds.length := Nat.le_mul_of_pos_left _ hd
    _ ≤ n := by
      rw [hvalue, hhead]
      exact Nat.le_add_right _ _

theorem digitCount_of_bounds {n k : Nat} (hlow : 10 ^ k ≤ n) (hhigh : n < 10 ^ (k + 1)) :
    digitCount n = k + 1 := by
  have hpos : 0 < n := Nat.lt_of_lt_of_le (Nat.pow_pos (by decide)) hlow
  have hle : 10 ^ (digitCount n - 1) < 10 ^ (k + 1) :=
    Nat.lt_of_le_of_lt (ten_pow_le_of_pos hpos) hhigh
  have hge : 10 ^ k < 10 ^ digitCount n := Nat.lt_of_le_of_lt hlow (lt_ten_pow_digitCount n)
  have hle' := (Nat.pow_lt_pow_iff_right (by decide)).mp hle
  have hge' := (Nat.pow_lt_pow_iff_right (by decide)).mp hge
  omega

theorem digitCount_pos (n : Nat) : 0 < digitCount n := by
  rcases Nat.eq_zero_or_pos n with rfl | h
  · decide
  · have hlt := lt_ten_pow_digitCount n
    rcases Nat.eq_zero_or_pos (digitCount n) with hzero | hpos
    · rw [hzero, Nat.pow_zero] at hlt
      omega
    · exact hpos

theorem digitCount_mul_ten_pow {n : Nat} (h : 0 < n) (k : Nat) :
    digitCount (n * 10 ^ k) = digitCount n + k := by
  have hcount := digitCount_pos n
  have hlow := Nat.mul_le_mul_right (10 ^ k) (ten_pow_le_of_pos h)
  have hpow : 0 < 10 ^ k := Nat.pow_pos (by decide)
  have hhigh := Nat.mul_lt_mul_of_pos_right (lt_ten_pow_digitCount n) hpow
  rw [← Nat.pow_add] at hlow hhigh
  have hplaces : digitCount n - 1 + k = digitCount n + k - 1 := by omega
  have hplaces' : digitCount n + k = digitCount n + k - 1 + 1 := by omega
  rw [hplaces] at hlow
  rw [hplaces'] at hhigh ⊢
  exact digitCount_of_bounds hlow hhigh

theorem digitCount_le {n k : Nat} (hk : 0 < k) (h : n < 10 ^ k) : digitCount n ≤ k := by
  rcases Nat.eq_zero_or_pos n with rfl | hn
  · exact hk
  · have hpow := Nat.lt_of_le_of_lt (ten_pow_le_of_pos hn) h
    have := (Nat.pow_lt_pow_iff_right (by decide)).mp hpow
    omega

end Phrasebook.Number
