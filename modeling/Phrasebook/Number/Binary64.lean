import Phrasebook.Fault
import Phrasebook.Number.Decimal.Remainder

/-! Binary floating-point numbers of 64 bits, by value: a finite number is a count of units of
`2 ^ -1074`, the smallest positive number, with a sign that zero keeps too. Comparing with an
integer and taking a remainder are then operations on natural numbers, and exact. -/

namespace Phrasebook.Number

-- powers of numbers are the core library's, whatever else is in scope
attribute [local instance (high)] instPowNat

inductive Binary64 where
  | finite (negative : Bool) (units : Nat)
  | infinite (negative : Bool)
  | nan
  deriving DecidableEq, Repr

namespace Binary64

/-- The units that make up one. -/
def unitsPerOne : Nat := Nat.pow 2 1074

/-- A unit is this many times `10 ^ -1074`. -/
def unitCoefficient : Nat := Nat.pow 5 1074

/-- The first count of units that is too large. -/
def unitsLimit : Nat := Nat.pow 2 2098

/-- Counts of units of this size lie this power of two apart: 53 bits are kept. -/
def spacing (units : Nat) : Nat := 2 ^ (units.log2 - 52)

/-- The representable count of units nearest to a quotient, a tie going to the even neighbour. -/
def nearestUnits (numerator denominator : Nat) : Nat :=
  let step := spacing (numerator / denominator)
  roundHalfEven numerator (denominator * step) * step

def ofUnits (negative : Bool) (units : Nat) : Binary64 :=
  if units < unitsLimit then finite negative units else infinite negative

/-- The float nearest to a literal. Beyond ten to the 310th or below its inverse to the 330th the
answer is known without computing the power. -/
def ofLiteral (l : Literal) : Binary64 :=
  let lead := l.exponent + digitCount l.coefficient
  if l.coefficient = 0 then finite l.negative 0
  else if 310 < lead then infinite l.negative
  else if lead < -330 then finite l.negative 0
  else match l.exponent with
    | .ofNat e => ofUnits l.negative (nearestUnits (l.coefficient * 10 ^ e * unitsPerOne) 1)
    | .negSucc e => ofUnits l.negative (nearestUnits (l.coefficient * unitsPerOne) (10 ^ (e + 1)))

/-- Reads a number or one of the names `inf`, `infinity` and `nan`. -/
def read? (cs : List Char) : Option Binary64 :=
  match Decimal.read? cs with
  | some (.infinite negative) => some (infinite negative)
  | some (.nan ..) => some nan
  | _ => (Literal.read? (cs.filter (· ≠ '_'))).map ofLiteral

def isFinite : Binary64 → Bool
  | finite .. => true
  | _ => false

def isZero : Binary64 → Bool
  | finite _ units => units = 0
  | _ => false

/-- The order of a float and an integer, none for NaN. -/
def compareInt (x : Binary64) (bound : Int) : Option Ordering :=
  match x with
  | finite negative units =>
    some (compare (signed negative units) (bound * unitsPerOne))
  | infinite negative => some (if negative then .lt else .gt)
  | nan => none

/-- The remainder of a float by a positive integer taken as a float, with the sign of the float. -/
def remainder (x : Binary64) (divisor : Nat) : Except Fault Binary64 :=
  let modulus := nearestUnits (divisor * unitsPerOne) 1
  if unitsLimit ≤ modulus then .error .overflow
  else match x with
    | finite negative units => .ok (finite negative (units % modulus))
    | infinite _ => .error .outsideDomain
    | nan => .ok nan

end Binary64

end Phrasebook.Number
