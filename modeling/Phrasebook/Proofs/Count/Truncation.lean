import Phrasebook.Proofs.Number.Rounding
import Phrasebook.Proofs.Plural.Position
import Mathlib.Data.Rat.Floor
import Mathlib.Data.Sign.Basic

/-! Remainders as truncating division leaves them. A count that is an integer has the exact
remainder. That of a decimal is rounded to the working precision, which covers every digit before
the point, so it is exact just when its places fit as well: an integer never loses anything, and a
long fraction may be rounded, at worst up to the divisor itself. A remainder that is too large for a
decimal result is refused, which takes a divisor as large. -/

namespace Phrasebook

open Number

namespace Number

/-- The integer part of a number, toward zero. -/
def truncate (q : ℚ) : Int := if 0 ≤ q then ⌊q⌋ else ⌈q⌉

/-- What truncating division leaves of a number. -/
def truncatedRemainder (q : ℚ) (divisor : Nat) : ℚ := q - divisor * truncate (q / divisor)

/-- A number on the side of another one has its sign, unless it is zero. -/
theorem sign_of_side {a b : ℚ} (hnonneg : 0 ≤ b → 0 ≤ a) (hnonpos : b ≤ 0 → a ≤ 0) :
    a = 0 ∨ SignType.sign a = SignType.sign b := by
  rcases eq_or_ne a 0 with hzero | hne
  · exact .inl hzero
  right
  rcases lt_trichotomy b 0 with hb | rfl | hb
  · rw [sign_neg hb, sign_neg (lt_of_le_of_ne (hnonpos hb.le) hne)]
  · exact absurd (le_antisymm (hnonpos le_rfl) (hnonneg le_rfl)) hne
  · rw [sign_pos hb, sign_pos (lt_of_le_of_ne (hnonneg hb.le) hne.symm)]

/-! ## Exact remainders -/

theorem truncate_neg (q : ℚ) : truncate (-q) = -truncate q := by
  unfold truncate
  rcases lt_trichotomy q 0 with h | rfl | h
  · rw [if_pos (by linarith), if_neg (by linarith), Int.floor_neg]
  · simp
  · rw [if_neg (by linarith), if_pos h.le, Int.ceil_neg]

theorem truncatedRemainder_neg (q : ℚ) (divisor : Nat) :
    truncatedRemainder (-q) divisor = -truncatedRemainder q divisor := by
  unfold truncatedRemainder
  rw [neg_div, truncate_neg]
  push_cast
  ring

section

variable {divisor : Nat}

theorem truncatedRemainder_of_nonneg {q : ℚ} (hq : 0 ≤ q) :
    truncatedRemainder q divisor = q - divisor * ⌊q / divisor⌋ := by
  rw [truncatedRemainder, truncate, if_pos (div_nonneg hq (Nat.cast_nonneg _))]

theorem truncatedRemainder_bounds {q : ℚ} (hdivisor : 0 < divisor) (hq : 0 ≤ q) :
    0 ≤ truncatedRemainder q divisor ∧ truncatedRemainder q divisor < divisor ∧
      truncatedRemainder q divisor ≤ q := by
  have hpos : (0 : ℚ) < divisor := Nat.cast_pos.mpr hdivisor
  have hlow : (⌊q / divisor⌋ : ℚ) * divisor ≤ q := (le_div_iff₀ hpos).mp (Int.floor_le _)
  have hhigh : q < (⌊q / divisor⌋ + 1) * divisor := (div_lt_iff₀ hpos).mp (Int.lt_floor_add_one _)
  have hfloor : (0 : ℚ) ≤ ⌊q / divisor⌋ * divisor :=
    mul_nonneg (by exact_mod_cast Int.floor_nonneg.mpr (div_nonneg hq hpos.le)) hpos.le
  rw [truncatedRemainder_of_nonneg hq]
  refine ⟨by linarith, by linarith, by linarith⟩

/-- A remainder is smaller than the divisor and no larger than the number itself. -/
theorem abs_truncatedRemainder (hdivisor : 0 < divisor) (q : ℚ) :
    |truncatedRemainder q divisor| < divisor ∧ |truncatedRemainder q divisor| ≤ |q| := by
  rcases le_total 0 q with hq | hq
  · obtain ⟨hlow, hlt, hle⟩ := truncatedRemainder_bounds hdivisor hq
    rw [abs_of_nonneg hlow, abs_of_nonneg hq]
    exact ⟨hlt, hle⟩
  · obtain ⟨hlow, hlt, hle⟩ := truncatedRemainder_bounds hdivisor (neg_nonneg.mpr hq)
    rw [truncatedRemainder_neg] at hlow hlt hle
    rw [abs_of_nonpos (neg_nonneg.mp hlow), abs_of_nonpos hq]
    exact ⟨hlt, hle⟩

theorem sign_truncatedRemainder (hdivisor : 0 < divisor) (q : ℚ) :
    truncatedRemainder q divisor = 0 ∨
      SignType.sign (truncatedRemainder q divisor) = SignType.sign q := by
  refine sign_of_side (fun hq => (truncatedRemainder_bounds hdivisor hq).1) fun hq => ?_
  have hneg := (truncatedRemainder_bounds hdivisor (neg_nonneg.mpr hq)).1
  rw [truncatedRemainder_neg] at hneg
  exact neg_nonneg.mp hneg

/-- A remainder is an integer exactly when the number is. -/
theorem truncatedRemainder_eq_intCast_iff (q : ℚ) (divisor : Nat) :
    (∃ k : Int, truncatedRemainder q divisor = k) ↔ ∃ k : Int, q = k := by
  unfold truncatedRemainder
  constructor
  · rintro ⟨k, hk⟩
    refine ⟨k + divisor * truncate (q / divisor), ?_⟩
    push_cast
    linarith
  · rintro ⟨k, rfl⟩
    refine ⟨k - divisor * truncate (k / divisor), ?_⟩
    push_cast
    rfl

theorem truncatedRemainder_natCast (n divisor : Nat) :
    truncatedRemainder n divisor = (n % divisor : Nat) := by
  have hdiv := Nat.mod_add_div n divisor
  have hcast : (n : ℚ) = (n % divisor : Nat) + divisor * (n / divisor : Nat) := by
    exact_mod_cast hdiv.symm
  rw [truncatedRemainder_of_nonneg (Nat.cast_nonneg _), Rat.floor_natCast_div_natCast,
    ← Int.natCast_div, Int.cast_natCast]
  linarith

/-- Scaling a number and the divisor alike scales the remainder. -/
theorem truncatedRemainder_div {scale : Nat} (hscale : 0 < scale) (q : ℚ) :
    truncatedRemainder (q / scale) divisor =
      truncatedRemainder q (divisor * scale) / scale := by
  have hne : (scale : ℚ) ≠ 0 := Nat.cast_ne_zero.mpr hscale.ne'
  unfold truncatedRemainder
  push_cast
  rw [div_div, mul_comm (scale : ℚ) divisor]
  field_simp

end

namespace Decimal

/-- The parts of a remainder are those of the exact one. -/
theorem value_remainderParts (negative : Bool) (coefficient : Nat) (exponent : Int)
    {divisor : Nat} (hdivisor : 0 < divisor) :
    (finite negative (remainderParts coefficient exponent divisor).1
        (remainderParts coefficient exponent divisor).2).value =
      truncatedRemainder (finite negative coefficient exponent).value divisor := by
  have hsize : ((remainderParts coefficient exponent divisor).1 : ℚ) *
      10 ^ (remainderParts coefficient exponent divisor).2 =
        truncatedRemainder (coefficient * 10 ^ exponent) divisor := by
    cases exponent with
    | ofNat e =>
      have hwhole : (coefficient : ℚ) * 10 ^ Int.ofNat e = (coefficient * 10 ^ e : Nat) := by
        push_cast
        rfl
      rw [remainderParts_ofNat, hwhole, truncatedRemainder_natCast, zpow_zero, mul_one]
    | negSucc e =>
      have hscale : (10 : ℚ) ^ (e + 1) = (10 ^ (e + 1) : Nat) := by push_cast; rfl
      rw [remainderParts_negSucc _ _ hdivisor, zpow_negSucc, hscale, ← div_eq_mul_inv,
        ← div_eq_mul_inv, truncatedRemainder_div (Nat.pow_pos (by decide)),
        truncatedRemainder_natCast]
  rw [value, value, cast_signed, cast_signed]
  cases negative with
  | false => exact hsize
  | true =>
    simp only [if_true, neg_mul]
    rw [hsize, truncatedRemainder_neg]

/-- An integer that is no larger than a decimal can be written with its working precision. -/
theorem fits_intCast {x : Decimal} (hx : x.isFinite = true) {k : Int} (h : |(k : ℚ)| ≤ |x.value|) :
    Fits x.workingPrecision k := by
  obtain ⟨negative, coefficient, exponent, rfl⟩ := exists_of_isFinite hx
  have hprecision : (finite negative coefficient exponent).adjusted + 2 ≤
      (finite negative coefficient exponent).workingPrecision := by
    unfold workingPrecision
    omega
  have hpos := workingPrecision_pos (finite negative coefficient exponent)
  refine ⟨k.natAbs, 0, ?_, ?_, ?_⟩
  · rw [abs_value] at h
    have hlt := h.trans_lt (scaled_lt (lt_ten_pow_digitCount coefficient) exponent)
    have hle : (10 : ℚ) ^ (digitCount coefficient + exponent : Int) ≤
        10 ^ ((finite negative coefficient exponent).workingPrecision : Int) := by
      rw [adjusted] at hprecision
      exact zpow_le_zpow_right₀ (by norm_num) (by omega)
    have hcast : (k.natAbs : ℚ) = |(k : ℚ)| := by
      rw [Nat.cast_natAbs, Int.cast_abs]
    have hsmall : (k.natAbs : ℚ) <
        (10 : ℚ) ^ ((finite negative coefficient exponent).workingPrecision : Int) := by
      rw [hcast]
      exact hlt.trans_le hle
    rw [zpow_natCast] at hsmall
    exact_mod_cast hsmall
  · unfold leastExponent leastNormal
    omega
  · rw [zpow_zero, mul_one, Nat.cast_natAbs, Int.cast_abs]

/-- A rounded remainder is on the side of the decimal. -/
theorem sign_remainder (negative : Bool) (coefficient : Nat) (exponent : Int) (divisor : Nat)
    {precision : Nat} (hprecision : 0 < precision) :
    let r := (round precision negative (remainderParts coefficient exponent divisor).1
      (remainderParts coefficient exponent divisor).2).value
    r = 0 ∨ SignType.sign r = SignType.sign (finite negative coefficient exponent).value := by
  intro r
  have hzero (h : (finite negative coefficient exponent).value = 0) : r = 0 := by
    obtain rfl := (value_eq_zero_iff negative coefficient exponent).mp h
    have hparts : (remainderParts 0 exponent divisor).1 = 0 := by
      cases exponent <;> simp [remainderParts]
    change (round _ _ _ _).value = 0
    rw [hparts, value_round_zero hprecision]
  cases negative with
  | false =>
    refine sign_of_side (fun _ => (value_round_nonneg hprecision).1) fun hle => ?_
    exact (hzero (le_antisymm hle (value_nonneg coefficient exponent).1)).le
  | true =>
    refine sign_of_side (fun hle => ?_) fun _ => (value_round_nonneg hprecision).2
    exact (hzero (le_antisymm (value_nonneg coefficient exponent).2 hle)).ge

end Decimal

end Number

namespace Count

/-- Whether all digits of the exact remainder of a count are kept. -/
def KeepsRemainder (divisor : Nat) : Count → Prop
  | decimal x => Decimal.Fits x.workingPrecision (truncatedRemainder x.value divisor)
  | _ => True

/-- What the remainder of a count is: a number on the side of the count and not beyond the divisor,
which is the exact remainder just when all its digits are kept. -/
structure TruncatesTo (n : Count) (divisor : Nat) (r : Count) : Prop where
  isFinite : r.isFinite = true
  sign : r.value = 0 ∨ SignType.sign r.value = SignType.sign n.value
  le : |r.value| ≤ divisor
  exact_iff : r.value = truncatedRemainder n.value divisor ↔ n.KeepsRemainder divisor

/-- A count that is too large for a decimal result. -/
def Overflows : Count → Prop
  | decimal x => Decimal.Overflows x.value
  | _ => False

/-! ## Integers -/

theorem truncatedRemainder_intCast (n : Int) (divisor : Nat) :
    truncatedRemainder n divisor = (n.tmod divisor : Int) := by
  rw [← Decimal.signed_mod, cast_signed]
  have hcast : (n : ℚ) = if decide (n < 0) = true then -(n.natAbs : ℚ) else n.natAbs := by
    rw [← cast_signed, Decimal.signed_natAbs]
  rw [hcast]
  cases decide (n < 0) with
  | false => exact truncatedRemainder_natCast _ _
  | true =>
    simp only [if_true]
    rw [truncatedRemainder_neg, truncatedRemainder_natCast]

/-- The remainder of an integer is exact. -/
theorem truncatesTo_int (n : Int) {divisor : Nat} (hdivisor : 0 < divisor) :
    TruncatesTo (int n) divisor (int (n.tmod divisor)) := by
  have hexact : (int (n.tmod divisor)).value = truncatedRemainder n divisor :=
    (truncatedRemainder_intCast n divisor).symm
  refine ⟨rfl, ?_, ?_, iff_of_true hexact trivial⟩
  · rw [hexact]
    exact sign_truncatedRemainder hdivisor n
  · rw [hexact]
    exact (abs_truncatedRemainder hdivisor n).1.le

/-! ## Decimals -/

/-- The remainder of a decimal within the working precision is the exact one, rounded to it. -/
theorem truncatesTo_decimal {x : Decimal} (hx : x.isFinite = true)
    (hprecision : x.workingPrecision ≤ Decimal.maxExponent) {divisor : Nat}
    (hdivisor : 0 < divisor) :
    ∃ r, x.remainder divisor = r.result ∧ TruncatesTo (decimal x) divisor (decimal r) := by
  obtain ⟨negative, coefficient, exponent, rfl⟩ := Decimal.exists_of_isFinite hx
  have hpos := Decimal.workingPrecision_pos (.finite negative coefficient exponent)
  have hexact := Decimal.value_remainderParts negative coefficient exponent hdivisor
  refine ⟨_, Decimal.remainder_of_workingPrecision hprecision, ?_, ?_, ?_, ?_⟩
  · exact Decimal.isFinite_round _ _ _ _
  · exact Decimal.sign_remainder negative coefficient exponent divisor hpos
  · exact Decimal.abs_value_round_remainder_le negative coefficient exponent hdivisor
  · rw [value, value, KeepsRemainder, ← hexact]
    exact Decimal.value_round_eq_iff_fits hpos

/-- Of a count that equals an integer all digits of the remainder are kept. -/
theorem keepsRemainder_of_integer {n : Count} (hn : n.isFinite = true) {k : Int}
    (hk : n.value = k) {divisor : Nat} (hdivisor : 0 < divisor) : n.KeepsRemainder divisor := by
  cases n with
  | int _ => trivial
  | float _ => trivial
  | decimal x =>
    obtain ⟨k', hk'⟩ := (truncatedRemainder_eq_intCast_iff x.value divisor).mpr ⟨k, hk⟩
    have hle := (abs_truncatedRemainder hdivisor x.value).2
    rw [KeepsRemainder, hk']
    rw [hk'] at hle
    exact Decimal.fits_intCast hn hle

/-! ## Counts -/

section

variable {n r : Count} {divisor : Nat}

/-- What the remainder is before it is looked at whether it is too large. -/
theorem exists_truncatesTo (hfinite : n.isFinite = true) (hkind : ∀ x, n ≠ .float x)
    (hadmits : n.admitsRemainder = true) (hdivisor : 0 < divisor) :
    ∃ r, n.TruncatesTo divisor r ∧
      (¬ r.Overflows ∧ n.remainder divisor = .ok r ∨
        r.Overflows ∧ n.remainder divisor = .error .decimalOverflow) := by
  cases n with
  | int n => exact ⟨_, truncatesTo_int n hdivisor, .inl ⟨id, rfl⟩⟩
  | float x => exact absurd rfl (hkind x)
  | decimal x =>
    obtain ⟨r, hr, htruncates⟩ :=
      truncatesTo_decimal hfinite (of_decide_eq_true hadmits) hdivisor
    refine ⟨decimal r, htruncates, ?_⟩
    rw [remainder, hr]
    by_cases hlarge : Decimal.Overflows r.value
    · exact .inr ⟨hlarge, by rw [Decimal.result_of_overflows hlarge]; rfl⟩
    · exact .inl ⟨hlarge, by rw [Decimal.result_of_not_overflows hlarge]; rfl⟩

/-- By a divisor of no more digits than are always kept no remainder is too large. -/
theorem TruncatesTo.not_overflows (h : n.TruncatesTo divisor r)
    (hsmall : divisor ≤ 10 ^ Decimal.defaultPrecision) : ¬ r.Overflows := by
  cases r with
  | int _ => exact id
  | float _ => exact id
  | decimal _ => exact Decimal.not_overflows_of_abs_le hsmall h.le

/-- A decimal that would need a precision beyond the greatest has no remainder. -/
theorem remainder_of_not_admits (hadmits : n.admitsRemainder = false) :
    n.remainder divisor = .error .precisionRange := by
  cases n with
  | int _ => cases hadmits
  | float _ => cases hadmits
  | decimal x =>
    rw [remainder, Decimal.remainder.eq_def, if_pos (Nat.lt_of_not_le (of_decide_eq_false hadmits))]
    rfl

/-- What follows of an exact remainder. -/
theorem TruncatesTo.of_keeps (h : n.TruncatesTo divisor r) (hdivisor : 0 < divisor)
    (hkeeps : n.KeepsRemainder divisor) :
    |r.value| < divisor ∧ ((∃ k : Int, r.value = k) ↔ ∃ k : Int, n.value = k) := by
  rw [h.exact_iff.mpr hkeeps]
  exact ⟨(abs_truncatedRemainder hdivisor _).1, truncatedRemainder_eq_intCast_iff _ _⟩

end

/-- The remainder of an integer or of a finite decimal has the sign of the count and does not go
beyond the divisor. It is the exact one of truncating division, hence below the divisor and an
integer exactly when the count is, just when all its digits fit the working precision, as they do
for every count that equals an integer. A decimal too long for any precision has none, and one that
is too large for a result is refused. -/
theorem remainder_truncates {n : Count} (hfinite : n.isFinite = true)
    (hkind : ∀ x, n ≠ .float x) {divisor : Nat} (hdivisor : 0 < divisor) :
    (n.admitsRemainder = false ∧ n.remainder divisor = .error .precisionRange) ∨
    n.admitsRemainder = true ∧ ∃ r, n.TruncatesTo divisor r ∧
      (¬ r.Overflows ∧ n.remainder divisor = .ok r ∨
        r.Overflows ∧ n.remainder divisor = .error .decimalOverflow) ∧
      (n.KeepsRemainder divisor →
        |r.value| < divisor ∧ ((∃ k : Int, r.value = k) ↔ ∃ k : Int, n.value = k)) ∧
      ((∃ k : Int, n.value = k) → n.KeepsRemainder divisor) := by
  cases hadmits : n.admitsRemainder with
  | false => exact .inl ⟨rfl, remainder_of_not_admits hadmits⟩
  | true =>
    obtain ⟨r, htruncates, hr⟩ := exists_truncatesTo hfinite hkind hadmits hdivisor
    refine .inr ⟨rfl, r, htruncates, hr, fun hkeeps => htruncates.of_keeps hdivisor hkeeps, ?_⟩
    rintro ⟨k, hk⟩
    exact keepsRemainder_of_integer hfinite hk hdivisor

/-- A negative fraction of few digits. -/
theorem remainder_truncates_fraction :
    (decimal (.finite true 215 (-1))).isFinite = true ∧ 0 < 10 ∧
      ∃ r, (decimal (.finite true 215 (-1))).remainder 10 = .ok r ∧
        (decimal (.finite true 215 (-1))).TruncatesTo 10 r := by
  have hkind : ∀ x, decimal (.finite true 215 (-1)) ≠ .float x := fun x h => nomatch h
  rcases remainder_truncates (n := decimal (.finite true 215 (-1))) rfl hkind
    (by decide : 0 < 10) with ⟨hadmits, -⟩ | ⟨-, r, htruncates, hr, -⟩
  · exact absurd hadmits (by decide +kernel)
  · rcases hr with ⟨-, hr⟩ | ⟨hlarge, -⟩
    · exact ⟨rfl, by decide, r, hr, htruncates⟩
    · exact absurd hlarge (htruncates.not_overflows (by decide))

/-- A fraction just below the divisor is rounded to the divisor itself. -/
theorem long_fraction_rounded_to_divisor :
    ∃ r, (decimal (.finite false (10 ^ 31 - 1) (-30))).remainder 10 = .ok r ∧ r.value = 10 ∧
      r.value ≠ truncatedRemainder (decimal (.finite false (10 ^ 31 - 1) (-30))).value 10 := by
  have hvalue : (decimal (.finite false (10 ^ 27) (-26))).value = 10 := by
    rw [value, Decimal.value, cast_signed]
    norm_num
  refine ⟨decimal (.finite false (10 ^ 27) (-26)), by decide +kernel, hvalue, fun h => ?_⟩
  have hlt := (abs_truncatedRemainder (by decide : 0 < 10)
    (decimal (.finite false (10 ^ 31 - 1) (-30))).value).1
  rw [← h, hvalue] at hlt
  norm_num at hlt

end Count

end Phrasebook
