import Phrasebook.Number.Literal
import Phrasebook.Text.Blank

/-! Decimal numbers: a sign, a coefficient and a power of ten, with signed zeros, infinities and
NaNs. Trailing zeros are kept, so `1.50` and `1.5` are different decimals of the same value.
Reading is exact or fails; the limits on the exponent are wide but real. -/

namespace Phrasebook.Number

-- powers of numbers are the core library's, whatever else is in scope
attribute [local instance (high)] instPowNat

inductive Decimal where
  | finite (negative : Bool) (coefficient : Nat) (exponent : Int)
  | infinite (negative : Bool)
  /-- A NaN carries the number written after its name, zero without one. -/
  | nan (negative signaling : Bool) (payload : Nat)
  deriving DecidableEq, Repr

namespace Decimal

/-- Greatest power of ten of a leading digit, and greatest precision of an operation. -/
def maxExponent : Nat := 999999999999999999

/-- Least exponent of a coefficient. -/
def minExponent : Int := -1999999999999999997

def isFinite : Decimal → Bool
  | finite .. => true
  | _ => false

def isNaN : Decimal → Bool
  | nan .. => true
  | _ => false

def isSignaling : Decimal → Bool
  | nan _ signaling _ => signaling
  | _ => false

def isZero : Decimal → Bool
  | finite _ coefficient _ => coefficient = 0
  | _ => false

/-- The power of ten of the leading digit. Infinities and NaNs have none and count as zero. -/
def adjusted : Decimal → Int
  | finite _ coefficient exponent => exponent + digitCount coefficient - 1
  | _ => 0

/-- The integer that a decimal equals, if it equals one. -/
def toInt? : Decimal → Option Int
  | finite negative coefficient exponent =>
    if coefficient = 0 then some 0
    else match exponent with
      | .ofNat e => some (signed negative (coefficient * 10 ^ e))
      | .negSucc e =>
        -- a power of ten above the coefficient cannot divide it
        let scale := 10 ^ min (e + 1) (digitCount coefficient)
        if coefficient % scale = 0 then some (signed negative (coefficient / scale)) else none
  | _ => none

theorem toInt?_negSucc (negative : Bool) {coefficient : Nat} (e : Nat) (h : coefficient ≠ 0) :
    toInt? (finite negative coefficient (.negSucc e)) =
      if coefficient % 10 ^ (e + 1) = 0 then
        some (signed negative (coefficient / 10 ^ (e + 1)))
      else none := by
  rcases Nat.le_total (e + 1) (digitCount coefficient) with hle | hle
  · simp only [toInt?, h, if_false, Nat.min_eq_left hle]
  · have hcount := lt_ten_pow_digitCount coefficient
    have hpow := Nat.lt_of_lt_of_le hcount (Nat.pow_le_pow_right (by decide) hle)
    simp only [toInt?, h, if_false, Nat.min_eq_right hle, Nat.mod_eq_of_lt hcount,
      Nat.mod_eq_of_lt hpow]

/-- The order of `coefficient * 10 ^ exponent` and an integer. An exponent beyond the digits of
the other side decides no more than one that equals them, which bounds the power computed. -/
def compareScaled (coefficient exponent bound : Int) : Ordering :=
  match exponent with
  | .ofNat e => compare (coefficient * 10 ^ min e (digitCount bound.natAbs)) bound
  | .negSucc e => compare coefficient (bound * 10 ^ min (e + 1) (digitCount coefficient.natAbs))

/-- A power of ten that exceeds the bound in size may be raised: the order stays the same. -/
theorem compare_mul_pow (coefficient : Int) {bound : Int} {small large : Nat}
    (hbound : bound.natAbs < 10 ^ small) (hle : small ≤ large) :
    compare (coefficient * 10 ^ small) bound = compare (coefficient * 10 ^ large) bound := by
  have hpow : (10 : Int) ^ small ≤ 10 ^ large := by
    exact_mod_cast Nat.pow_le_pow_right (by decide : 0 < 10) hle
  have hsmall : bound < 10 ^ small ∧ -(10 ^ small) < bound := by
    have : (bound.natAbs : Int) < 10 ^ small := by exact_mod_cast hbound
    omega
  rcases Int.lt_trichotomy coefficient 0 with hneg | rfl | hpos
  · have h1 : coefficient * 10 ^ small ≤ -1 * 10 ^ small :=
      Int.mul_le_mul_of_nonneg_right (by omega) (by omega)
    have h2 : coefficient * 10 ^ large ≤ -1 * 10 ^ large :=
      Int.mul_le_mul_of_nonneg_right (by omega) (by omega)
    rw [Int.compare_eq_lt.mpr (by omega), Int.compare_eq_lt.mpr (by omega)]
  · simp
  · have h1 : 1 * 10 ^ small ≤ coefficient * 10 ^ small :=
      Int.mul_le_mul_of_nonneg_right (by omega) (by omega)
    have h2 : 1 * 10 ^ large ≤ coefficient * 10 ^ large :=
      Int.mul_le_mul_of_nonneg_right (by omega) (by omega)
    rw [Int.compare_eq_gt.mpr (by omega), Int.compare_eq_gt.mpr (by omega)]

theorem compareScaled_ofNat (coefficient bound : Int) (e : Nat) :
    compareScaled coefficient (.ofNat e) bound = compare (coefficient * 10 ^ e) bound := by
  rcases Nat.le_total e (digitCount bound.natAbs) with h | h
  · simp only [compareScaled, Nat.min_eq_left h]
  · simp only [compareScaled, Nat.min_eq_right h]
    exact compare_mul_pow _ (lt_ten_pow_digitCount _) h

theorem compareScaled_negSucc (coefficient bound : Int) (e : Nat) :
    compareScaled coefficient (.negSucc e) bound =
      compare coefficient (bound * 10 ^ (e + 1)) := by
  rcases Nat.le_total (e + 1) (digitCount coefficient.natAbs) with h | h
  · simp only [compareScaled, Nat.min_eq_left h]
  · simp only [compareScaled, Nat.min_eq_right h]
    have hraise := compare_mul_pow bound (lt_ten_pow_digitCount _) h
    rw [← Int.compare_swap (bound * _) coefficient, hraise, Int.compare_swap]

/-- The order of a decimal and an integer, none for a NaN. -/
def compareInt (x : Decimal) (bound : Int) : Option Ordering :=
  match x with
  | finite negative coefficient exponent =>
    some (compareScaled (signed negative coefficient) exponent bound)
  | infinite negative => some (if negative then .lt else .gt)
  | nan .. => none

/-! ## Reading -/

/-- A finite decimal within the limits. -/
def ofLiteral? (l : Literal) : Option Decimal :=
  let x := finite l.negative l.coefficient l.exponent
  if x.adjusted ≤ maxExponent && minExponent ≤ l.exponent then some x else none

/-- A NaN with the payload written by digits. -/
def nanOf? (negative signaling : Bool) (payload : List Char) : Option Decimal :=
  if payload.all isPlainDigit then some (nan negative signaling (ofPlainDigits payload)) else none

/-- Reads the part after the sign. Names are told apart in any case. -/
def readUnsigned? (negative : Bool) (cs : List Char) : Option Decimal :=
  match cs.map Char.toLower with
  | ['i', 'n', 'f'] | ['i', 'n', 'f', 'i', 'n', 'i', 't', 'y'] => some (infinite negative)
  | 'n' :: 'a' :: 'n' :: payload => nanOf? negative false payload
  | 's' :: 'n' :: 'a' :: 'n' :: payload => nanOf? negative true payload
  | _ => (Literal.readUnsigned? negative cs).bind ofLiteral?

/-- Reads a text: white space around it and underscores anywhere are ignored, and digits may be
of any script. -/
def read? (cs : List Char) : Option Decimal :=
  let (negative, rest) := readSign (plainDigits ((Text.trim cs).filter (· ≠ '_')))
  readUnsigned? negative rest

/-! ## Writing -/

/-- The text of a finite decimal after its sign: positional while the exponent is not positive and
the leading digit is at most six places behind the point, otherwise with an exponent. -/
def magnitudeText (coefficient : Nat) (exponent : Int) : List Char :=
  let ds := Number.text coefficient
  let lead := exponent + ds.length - 1
  if exponent ≤ 0 && -6 ≤ lead then
    let places := (-exponent).toNat
    if places = 0 then ds
    else if places < ds.length then
      ds.take (ds.length - places) ++ '.' :: ds.drop (ds.length - places)
    else '0' :: '.' :: (List.replicate (places - ds.length) '0' ++ ds)
  else
    let mantissa := match ds with
      | d :: e :: es => d :: '.' :: e :: es
      | ds => ds
    mantissa ++ 'E' :: (if lead < 0 then '-' else '+') :: Number.text lead.natAbs

def signText (negative : Bool) : List Char := if negative then ['-'] else []

def toText : Decimal → List Char
  | finite negative coefficient exponent => signText negative ++ magnitudeText coefficient exponent
  | infinite negative => signText negative ++ "Infinity".toList
  | nan negative signaling payload =>
    signText negative ++ (if signaling then "sNaN".toList else "NaN".toList) ++
      (if payload = 0 then [] else Number.text payload)

end Decimal

end Phrasebook.Number
