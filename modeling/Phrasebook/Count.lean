import Phrasebook.Number.Binary64

/-! Counts, the numbers that plural variants are chosen by. A count keeps the kind it was given in;
comparing it with an integer or a bound is exact for every kind. Decimals that are not numbers
refuse to be ordered, floats that are not numbers are ordered with nothing. -/

namespace Phrasebook

open Number

inductive Count where
  | int (n : Int)
  | float (x : Binary64)
  | decimal (x : Decimal)
  deriving DecidableEq, Repr

/-- An end of a range: open to one side, or a number. -/
inductive Bound (α : Type) where
  | negativeInfinity
  | at (value : α)
  | positiveInfinity
  deriving DecidableEq, Repr

namespace Count

def isFinite : Count → Bool
  | int _ => true
  | float x => x.isFinite
  | decimal x => x.isFinite

/-- The order of a count and an integer, none when there is no order. -/
def compareInt : Count → Int → Option Ordering
  | int n, m => some (compare n m)
  | float x, m => x.compareInt m
  | decimal x, m => x.compareInt m

/-- The order of a count and the positive or negative infinity. -/
def compareInfinite (positive : Bool) : Count → Option Ordering
  | int _ => some beyond
  | float .nan | decimal (.nan ..) => none
  | float (.infinite negative) | decimal (.infinite negative) =>
    if negative ≠ positive then some .eq else some beyond
  | float (.finite ..) | decimal (.finite ..) => some beyond
where
  /-- Every other count lies on the near side. -/
  beyond : Ordering := if positive then .lt else .gt

def compareBound (count : Count) : Bound Int → Option Ordering
  | .negativeInfinity => count.compareInfinite false
  | .at n => count.compareInt n
  | .positiveInfinity => count.compareInfinite true

def isSignaling : Count → Bool
  | decimal x => x.isSignaling
  | _ => false

def refusesOrder : Count → Bool
  | decimal x => x.isNaN
  | _ => false

/-- Whether a count equals an integer. -/
def equals (count : Count) (n : Int) : Except Fault Bool :=
  if count.isSignaling then .error .invalidOperation
  else .ok (count.compareInt n == some .eq)

/-- Whether the order of a count and a bound is as asked. -/
def ordered (count : Count) (bound : Bound Int) (accept : Ordering → Bool) : Except Fault Bool :=
  if count.refusesOrder then .error .invalidOperation
  else .ok ((count.compareBound bound).any accept)

def isAtLeast (count : Count) (n : Int) : Except Fault Bool := count.ordered (.at n) Ordering.isGE

def isAbove (count : Count) (n : Int) : Except Fault Bool := count.ordered (.at n) Ordering.isGT

def isAtMost (count : Count) (n : Int) : Except Fault Bool := count.ordered (.at n) Ordering.isLE

def isBelow (count : Count) (n : Int) : Except Fault Bool := count.ordered (.at n) Ordering.isLT

/-- The remainder by a positive integer, with the sign of the count. -/
def remainder (count : Count) (divisor : Nat) : Except Fault Count :=
  match count with
  | int n => .ok (int (n.tmod divisor))
  | float x => (x.remainder divisor).map float
  | decimal x => (x.remainder divisor).map decimal

/-- Both hold; the second is not looked at when the first does not. -/
def both (first second : Except Fault Bool) : Except Fault Bool := do
  if ← first then second else return false

/-- Either holds; the second is not looked at when the first does. -/
def either (first second : Except Fault Bool) : Except Fault Bool := do
  if ← first then return true else second

/-- Whether a count lies between two integers, both included. -/
def isWithin (count : Count) (low high : Int) : Except Fault Bool :=
  both (count.isAtLeast low) (count.isAtMost high)

/-- Whether a count equals one of two integers. -/
def equalsEither (count : Count) (n m : Int) : Except Fault Bool :=
  either (count.equals n) (count.equals m)

theorem equals_int (n m : Int) : (int n).equals m = .ok (n == m) := by
  have h : (compare n m == .eq) = (n == m) := by
    rw [Bool.eq_iff_iff]
    simp
  simp only [equals, isSignaling, Bool.false_eq_true, if_false, compareInt]
  rw [← h]
  rfl

end Count

end Phrasebook
