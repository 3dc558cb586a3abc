import Phrasebook.Fault
import Phrasebook.Number.Decimal

/-! Remainder of a decimal by a positive integer. The remainder has the sign of the dividend, as
truncating division leaves it, and the least of both exponents; it is then rounded half to even to
a working precision that covers the integer quotient and never falls below 28 digits. A result whose
leading digit stands beyond the greatest power of ten is refused. -/

namespace Phrasebook.Number

-- powers of numbers are the core library's, whatever else is in scope
attribute [local instance (high)] instPowNat

/-- A power modulo a number, by repeated squaring over the bits of the exponent. -/
def powMod (base modulus : Nat) : (bits exponent : Nat) → Nat
  | 0, _ => 1 % modulus
  | bits + 1, exponent =>
    let half := powMod (base * base % modulus) modulus bits (exponent / 2)
    if exponent % 2 = 1 then base * half % modulus else half

theorem powMod_eq (base modulus bits exponent : Nat) (h : exponent < 2 ^ bits) :
    powMod base modulus bits exponent = base ^ exponent % modulus := by
  induction bits generalizing base exponent with
  | zero => simp_all [powMod]
  | succ bits ih =>
    have hhalf : exponent / 2 < 2 ^ bits := by
      rw [Nat.pow_succ] at h
      omega
    have hsquare : (base * base % modulus) ^ (exponent / 2) % modulus =
        base ^ (2 * (exponent / 2)) % modulus := by
      rw [← Nat.pow_mod, Nat.pow_mul, Nat.pow_two]
    rw [powMod]
    simp only [ih _ _ hhalf, hsquare]
    split
    · rename_i hodd
      have he : exponent = 2 * (exponent / 2) + 1 := by omega
      rw [Nat.mul_mod_mod]
      conv => rhs; rw [he, Nat.pow_succ, Nat.mul_comm]
    · rename_i heven
      have he : exponent = 2 * (exponent / 2) := by omega
      conv => rhs; rw [he]

/-- Half to even: the integer nearest to a quotient, of two nearest ones the even. -/
def roundHalfEven (numerator denominator : Nat) : Nat :=
  let quotient := numerator / denominator
  let double := 2 * (numerator % denominator)
  if denominator < double || (double = denominator && quotient % 2 = 1) then quotient + 1
  else quotient

theorem roundHalfEven_one (n : Nat) : roundHalfEven n 1 = n := by
  simp [roundHalfEven, Nat.mod_one]

namespace Decimal

/-- Working precision never falls below this. -/
def defaultPrecision : Nat := 28

/-- Least power of ten of a leading digit that is kept at full precision. -/
def leastNormal : Int := -999999

/-- Rounds a finite decimal to a precision. Below the least normal power of ten the number of
kept digits shrinks, because the exponent itself has a least value. -/
def round (precision : Nat) (negative : Bool) (coefficient : Nat) (exponent : Int) : Decimal :=
  let size := digitCount coefficient
  let lead := exponent + size - 1
  let least := leastNormal - (precision - 1 : Nat)
  if lead < leastNormal then
    if exponent < least then
      let dropped := (least - exponent).toNat
      -- dropping more digits than there are leaves zero
      finite negative (roundHalfEven coefficient (10 ^ min dropped (size + 1))) least
    else finite negative coefficient exponent
  else if precision < size then
    let dropped := size - precision
    let kept := roundHalfEven coefficient (10 ^ dropped)
    if kept = 10 ^ precision then finite negative (10 ^ (precision - 1)) (exponent + dropped + 1)
    else finite negative kept (exponent + dropped)
  else finite negative coefficient exponent

/-- The exact remainder: its coefficient and exponent. -/
def remainderParts (coefficient : Nat) (exponent : Int) (divisor : Nat) : Nat × Int :=
  match exponent with
  | .ofNat e => (coefficient % divisor * powMod 10 divisor (e.log2 + 1) e % divisor, 0)
  | .negSucc e =>
    -- a divisor scaled beyond the coefficient leaves it as it is
    (coefficient % (divisor * 10 ^ min (e + 1) (digitCount coefficient)), exponent)

theorem remainderParts_ofNat (coefficient e divisor : Nat) :
    remainderParts coefficient (.ofNat e) divisor = (coefficient * 10 ^ e % divisor, 0) := by
  simp only [remainderParts, powMod_eq 10 divisor _ e Nat.lt_log2_self]
  rw [← Nat.mul_mod]

theorem remainderParts_negSucc (coefficient e : Nat) {divisor : Nat} (h : 0 < divisor) :
    remainderParts coefficient (.negSucc e) divisor =
      (coefficient % (divisor * 10 ^ (e + 1)), .negSucc e) := by
  rcases Nat.le_total (e + 1) (digitCount coefficient) with hle | hle
  · simp only [remainderParts, Nat.min_eq_left hle]
  · have hcount := lt_ten_pow_digitCount coefficient
    have hpow := Nat.lt_of_lt_of_le hcount (Nat.pow_le_pow_right (by decide) hle)
    simp only [remainderParts, Nat.min_eq_right hle]
    rw [Nat.mod_eq_of_lt (Nat.lt_of_lt_of_le hcount (Nat.le_mul_of_pos_left _ h)),
      Nat.mod_eq_of_lt (Nat.lt_of_lt_of_le hpow (Nat.le_mul_of_pos_left _ h))]

/-- Greatest power of ten of a leading digit of a result. -/
def greatestLead : Int := 999999

/-- A result, a fault where its leading digit stands too high. -/
def result (x : Decimal) : Except Fault Decimal :=
  if !x.isZero && greatestLead < x.adjusted then .error .decimalOverflow else .ok x

/-- The working precision of a remainder. -/
def workingPrecision (x : Decimal) : Nat := max defaultPrecision (x.adjusted + 2).toNat

/-- The remainder of a decimal by a positive integer, with the sign of the decimal. -/
def remainder (x : Decimal) (divisor : Nat) : Except Fault Decimal :=
  let precision := x.workingPrecision
  if maxExponent < precision then .error .precisionRange
  else match x with
    | finite negative coefficient exponent =>
      let (rest, scale) := remainderParts coefficient exponent divisor
      (round precision negative rest scale).result
    | infinite _ => .error .invalidOperation
    | nan negative signaling payload =>
      if signaling then .error .invalidOperation
      else .ok (nan negative false (payload % 10 ^ precision))

end Decimal

end Phrasebook.Number
