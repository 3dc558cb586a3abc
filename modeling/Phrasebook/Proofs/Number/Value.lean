import Phrasebook.Condition
import Mathlib.Data.Rat.Cast.Order
import Mathlib.Tactic.FieldSimp
import Mathlib.Tactic.Linarith
import Mathlib.Tactic.NormNum
import Mathlib.Tactic.Positivity

/-! The numbers that counts denote. A finite count of any kind is a rational number, and comparing
it with an integer or a bound is comparing that number: nothing is rounded, and no kind of count is
told from another. Infinities and NaNs are given zero, which no statement here depends on. -/

namespace Phrasebook

open Number

namespace Number

def Decimal.value : Decimal → ℚ
  | .finite negative coefficient exponent => signed negative coefficient * 10 ^ exponent
  | _ => 0

def Binary64.value : Binary64 → ℚ
  | .finite negative units => signed negative units / unitsPerOne
  | _ => 0

theorem Decimal.exists_of_isFinite {x : Decimal} (h : x.isFinite = true) :
    ∃ negative coefficient exponent, x = .finite negative coefficient exponent := by
  cases x with
  | finite negative coefficient exponent => exact ⟨negative, coefficient, exponent, rfl⟩
  | infinite _ => cases h
  | nan _ _ _ => cases h

theorem Binary64.exists_of_isFinite {x : Binary64} (h : x.isFinite = true) :
    ∃ negative units, x = .finite negative units := by
  cases x with
  | finite negative units => exact ⟨negative, units, rfl⟩
  | infinite _ => cases h
  | nan => cases h

theorem Binary64.unitsPerOne_pos : 0 < unitsPerOne := by
  apply Nat.pow_pos
  exact Nat.succ_pos 1

theorem cast_signed (negative : Bool) (size : Nat) :
    ((signed negative size : Int) : ℚ) = if negative then -(size : ℚ) else size := by
  cases negative <;> simp [signed]

end Number

namespace Count

def value : Count → ℚ
  | int n => n
  | float x => x.value
  | decimal x => x.value

end Count

/-! ## Comparing -/

/-- Comparisons with the same answer to "less" and to "greater". -/
theorem compare_congr {α β : Type} [LinearOrder α] [LinearOrder β] {a b : α} {c d : β}
    (hlt : a < b ↔ c < d) (hgt : b < a ↔ d < c) : compare a b = compare c d := by
  rcases lt_trichotomy a b with h | rfl | h
  · rw [compare_lt_iff_lt.mpr h, compare_lt_iff_lt.mpr (hlt.mp h)]
  · have heq : c = d := le_antisymm (not_lt.mp fun h => lt_irrefl a (hgt.mpr h))
      (not_lt.mp fun h => lt_irrefl a (hlt.mpr h))
    rw [compare_eq_iff_eq.mpr rfl, compare_eq_iff_eq.mpr heq]
  · rw [compare_gt_iff_gt.mpr h, compare_gt_iff_gt.mpr (hgt.mp h)]

theorem compare_intCast (a b : Int) : compare a b = compare (a : ℚ) (b : ℚ) :=
  compare_congr Int.cast_lt.symm Int.cast_lt.symm

/-- Multiplying one side by a positive number is dividing the other one by it. -/
theorem compare_mul_eq_compare_div {a b c : ℚ} (hc : 0 < c) :
    compare a (b * c) = compare (a / c) b :=
  compare_congr (div_lt_iff₀ hc).symm (lt_div_iff₀ hc).symm

namespace Number

theorem Decimal.compareScaled_eq (coefficient exponent bound : Int) :
    Decimal.compareScaled coefficient exponent bound =
      compare ((coefficient : ℚ) * 10 ^ exponent) bound := by
  cases exponent with
  | ofNat e =>
    rw [Decimal.compareScaled_ofNat, compare_intCast]
    push_cast
    rfl
  | negSucc e =>
    rw [Decimal.compareScaled_negSucc, compare_intCast]
    push_cast
    rw [compare_mul_eq_compare_div (by positivity), zpow_negSucc, div_eq_mul_inv]

theorem Decimal.compareInt_eq {x : Decimal} (h : x.isFinite = true) (n : Int) :
    x.compareInt n = some (compare x.value n) := by
  obtain ⟨negative, coefficient, exponent, rfl⟩ := exists_of_isFinite h
  exact congrArg some (compareScaled_eq (signed negative coefficient) exponent n)

theorem Binary64.compareInt_eq {x : Binary64} (h : x.isFinite = true) (n : Int) :
    x.compareInt n = some (compare x.value n) := by
  obtain ⟨negative, units, rfl⟩ := exists_of_isFinite h
  rw [compareInt, compare_intCast]
  push_cast
  rw [compare_mul_eq_compare_div (Nat.cast_pos.mpr unitsPerOne_pos)]
  rfl

end Number

namespace Count

theorem compareInt_eq {count : Count} (h : count.isFinite = true) (n : Int) :
    count.compareInt n = some (compare count.value n) := by
  cases count with
  | int m => exact congrArg some (compare_intCast m n)
  | float x => exact Binary64.compareInt_eq h n
  | decimal x => exact Decimal.compareInt_eq h n

/-- Every finite count lies between the infinities. -/
theorem compareInfinite_eq {count : Count} (h : count.isFinite = true) (positive : Bool) :
    count.compareInfinite positive = some (if positive then .lt else .gt) := by
  cases count with
  | int m => rfl
  | float x =>
    obtain ⟨_, _, rfl⟩ := Binary64.exists_of_isFinite h
    rfl
  | decimal x =>
    obtain ⟨_, _, _, rfl⟩ := Decimal.exists_of_isFinite h
    rfl

theorem not_refusesOrder {count : Count} (h : count.isFinite = true) :
    count.refusesOrder = false := by
  cases count with
  | int _ => rfl
  | float _ => rfl
  | decimal x =>
    obtain ⟨_, _, _, rfl⟩ := Decimal.exists_of_isFinite h
    rfl

theorem not_isSignaling {count : Count} (h : count.isFinite = true) :
    count.isSignaling = false := by
  cases count with
  | int _ => rfl
  | float _ => rfl
  | decimal x =>
    obtain ⟨_, _, _, rfl⟩ := Decimal.exists_of_isFinite h
    rfl

theorem equals_eq {count : Count} (h : count.isFinite = true) (n : Int) :
    count.equals n = .ok (decide (count.value = n)) := by
  unfold equals
  rw [not_isSignaling h, compareInt_eq h]
  by_cases heq : count.value = n
  · simp [heq]
  · have hne : compare count.value (n : ℚ) ≠ .eq := fun hc => heq (compare_eq_iff_eq.mp hc)
    simp [heq, hne]

theorem ordered_at {count : Count} (h : count.isFinite = true) (n : Int)
    (accept : Ordering → Bool) :
    count.ordered (.at n) accept = .ok (accept (compare count.value n)) := by
  unfold ordered
  rw [not_refusesOrder h, compareBound, compareInt_eq h]
  rfl

theorem ordered_negativeInfinity {count : Count} (h : count.isFinite = true)
    (accept : Ordering → Bool) :
    count.ordered .negativeInfinity accept = .ok (accept .gt) := by
  unfold ordered
  rw [not_refusesOrder h, compareBound, compareInfinite_eq h]
  rfl

theorem ordered_positiveInfinity {count : Count} (h : count.isFinite = true)
    (accept : Ordering → Bool) :
    count.ordered .positiveInfinity accept = .ok (accept .lt) := by
  unfold ordered
  rw [not_refusesOrder h, compareBound, compareInfinite_eq h]
  rfl

theorem isAtLeast_eq {count : Count} (h : count.isFinite = true) (n : Int) :
    count.isAtLeast n = .ok (decide ((n : ℚ) ≤ count.value)) := by
  rw [isAtLeast, ordered_at h, Except.ok.injEq, Bool.eq_iff_iff, decide_eq_true_eq,
    Ordering.isGE_iff_ne_lt, compare_lt_iff_lt, not_lt]

theorem isAbove_eq {count : Count} (h : count.isFinite = true) (n : Int) :
    count.isAbove n = .ok (decide ((n : ℚ) < count.value)) := by
  rw [isAbove, ordered_at h, Except.ok.injEq, Bool.eq_iff_iff, decide_eq_true_eq,
    Ordering.isGT_iff_eq_gt, compare_gt_iff_gt]

theorem isAtMost_eq {count : Count} (h : count.isFinite = true) (n : Int) :
    count.isAtMost n = .ok (decide (count.value ≤ n)) := by
  rw [isAtMost, ordered_at h, Except.ok.injEq, Bool.eq_iff_iff, decide_eq_true_eq,
    Ordering.isLE_iff_ne_gt, compare_gt_iff_gt, not_lt]

theorem isBelow_eq {count : Count} (h : count.isFinite = true) (n : Int) :
    count.isBelow n = .ok (decide (count.value < n)) := by
  rw [isBelow, ordered_at h, Except.ok.injEq, Bool.eq_iff_iff, decide_eq_true_eq,
    Ordering.isLT_iff_eq_lt, compare_lt_iff_lt]

end Count

end Phrasebook
