import Phrasebook.Proofs.Number.Value
import Mathlib.Data.Set.Basic

/-! The numbers that a condition admits: the members of a set, or the points of an interval, whose
ends may be infinite. A finite count meets a condition exactly when its number is admitted, and
asking never fails; so a condition does not tell two counts of the same number apart. -/

namespace Phrasebook

namespace Bound

/-- Whether a number lies on the inner side of a left end, on the end itself if it is closed. -/
def IsBelow (q : ℚ) : Bool → Bound Int → Prop
  | _, negativeInfinity => True
  | true, .at n => (n : ℚ) ≤ q
  | false, .at n => (n : ℚ) < q
  | _, positiveInfinity => False

/-- Whether a number lies on the inner side of a right end, on the end itself if it is closed. -/
def IsAbove (q : ℚ) : Bool → Bound Int → Prop
  | _, negativeInfinity => False
  | true, .at n => q ≤ n
  | false, .at n => q < n
  | _, positiveInfinity => True

instance decidableIsBelow (q : ℚ) : (closed : Bool) → (b : Bound Int) →
    Decidable (b.IsBelow q closed)
  | true, negativeInfinity | false, negativeInfinity => .isTrue trivial
  | true, .at n => inferInstanceAs (Decidable ((n : ℚ) ≤ q))
  | false, .at n => inferInstanceAs (Decidable ((n : ℚ) < q))
  | true, positiveInfinity | false, positiveInfinity => .isFalse id

instance decidableIsAbove (q : ℚ) : (closed : Bool) → (b : Bound Int) →
    Decidable (b.IsAbove q closed)
  | true, negativeInfinity | false, negativeInfinity => .isFalse id
  | true, .at n => inferInstanceAs (Decidable (q ≤ n))
  | false, .at n => inferInstanceAs (Decidable (q < n))
  | true, positiveInfinity | false, positiveInfinity => .isTrue trivial

end Bound

/-- The numbers that a condition admits. -/
def ConditionShape.points : ConditionShape Int → Set ℚ
  | set members => {q | ∃ n ∈ members, q = n}
  | interval left leftClosed right rightClosed =>
    {q | left.IsBelow q leftClosed ∧ right.IsAbove q rightClosed}

instance ConditionShape.decidableMemPoints (q : ℚ) : (shape : ConditionShape Int) →
    Decidable (q ∈ shape.points)
  | set members => inferInstanceAs (Decidable (∃ n ∈ members, q = n))
  | interval left leftClosed right rightClosed =>
    inferInstanceAs (Decidable (left.IsBelow q leftClosed ∧ right.IsAbove q rightClosed))

namespace Condition

variable {count : Count}

/-- A left end is compared as its bracket says. -/
theorem ordered_left (h : count.isFinite = true) (left : Bound Int) (closed : Bool) :
    count.ordered left (if closed then Ordering.isGE else Ordering.isGT) =
      .ok (decide (left.IsBelow count.value closed)) := by
  cases left with
  | negativeInfinity =>
    rw [Count.ordered_negativeInfinity h]
    cases closed <;> rfl
  | positiveInfinity =>
    rw [Count.ordered_positiveInfinity h]
    cases closed <;> rfl
  | «at» n =>
    cases closed with
    | true => exact Count.isAtLeast_eq h n
    | false => exact Count.isAbove_eq h n

/-- A right end is compared as its bracket says. -/
theorem ordered_right (h : count.isFinite = true) (right : Bound Int) (closed : Bool) :
    count.ordered right (if closed then Ordering.isLE else Ordering.isLT) =
      .ok (decide (right.IsAbove count.value closed)) := by
  cases right with
  | negativeInfinity =>
    rw [Count.ordered_negativeInfinity h]
    cases closed <;> rfl
  | positiveInfinity =>
    rw [Count.ordered_positiveInfinity h]
    cases closed <;> rfl
  | «at» n =>
    cases closed with
    | true => exact Count.isAtMost_eq h n
    | false => exact Count.isBelow_eq h n

theorem equalsAny_eq (h : count.isFinite = true) (members : List Int) :
    equalsAny count members = .ok (decide (∃ n ∈ members, count.value = n)) := by
  induction members with
  | nil => rfl
  | cons n rest ih =>
    rw [equalsAny, Count.either, Count.equals_eq h, ih]
    by_cases heq : count.value = n
    · simp [heq, bind, Except.bind, pure, Except.pure]
    · simp [heq, bind, Except.bind]

/-- Whether a condition admits the number of a count. -/
def admits (c : Condition) (count : Count) : Bool := decide (count.value ∈ c.shape.points)

/-- A finite count meets a condition exactly when its number is admitted. -/
theorem holds_eq_admits {c : Condition} (h : count.isFinite = true) :
    c.holds count = .ok (c.admits count) := by
  unfold holds
  split
  · rename_i members hshape
    rw [equalsAny_eq h, admits, hshape]
    rfl
  · rename_i left leftClosed right rightClosed hshape
    rw [ordered_left h, ordered_right h, admits, hshape]
    simp only [bind, Except.bind, pure, Except.pure, Except.ok.injEq]
    exact (Bool.decide_and _ _).symm

theorem holds_true_or_false (c : Condition) (h : count.isFinite = true) :
    c.holds count = .ok true ∨ c.holds count = .ok false := by
  rw [holds_eq_admits h]
  cases c.admits count with
  | true => exact .inl rfl
  | false => exact .inr rfl

end Condition

end Phrasebook
