import Phrasebook.Count

/-! Explicit conditions on a count: a set of integers, or an interval between two bounds. A bound
is part of its interval where its bracket opens towards it. -/

namespace Phrasebook

/-- The form of a condition over integers or, while it is read, over numerals. -/
inductive ConditionShape (α : Type) where
  | set (members : List α)
  | interval (left : Bound α) (leftClosed : Bool) (right : Bound α) (rightClosed : Bool)
  deriving DecidableEq, Repr

/-- A condition with the text it was read from, white space in front of it included. -/
structure Condition where
  source : String
  shape : ConditionShape Int
  deriving DecidableEq, Repr

namespace Condition

/-- Whether the left bound lies below the right one. -/
def isBelow : Bound Int → Bound Int → Bool
  | .at n, .at m => n < m
  | .negativeInfinity, .negativeInfinity => false
  | .negativeInfinity, _ => true
  | .at _, .positiveInfinity => true
  | _, _ => false

/-- Whether a condition leaves no room between its bounds. -/
def isEmpty (c : Condition) : Bool :=
  match c.shape with
  | .set members => members.isEmpty
  | .interval left leftClosed right rightClosed =>
    !isBelow left right && !(left == right && leftClosed && rightClosed)

/-- Whether a count equals one of several integers, tried in order. -/
def equalsAny (count : Count) : List Int → Except Fault Bool
  | [] => .ok false
  | n :: rest => Count.either (count.equals n) (equalsAny count rest)

/-- Whether a count meets a condition. -/
def holds (c : Condition) (count : Count) : Except Fault Bool :=
  match c.shape with
  | .set members => equalsAny count members
  | .interval left leftClosed right rightClosed => do
    let above ← count.ordered left (if leftClosed then Ordering.isGE else Ordering.isGT)
    let below ← count.ordered right (if rightClosed then Ordering.isLE else Ordering.isLT)
    return above && below

end Condition

end Phrasebook
