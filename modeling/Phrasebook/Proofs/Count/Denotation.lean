import Phrasebook.Proofs.Count.Given
import Phrasebook.Proofs.Count.SameNumber
import Phrasebook.Proofs.Number.Written

/-! The numbers that given counts denote: integers, finite decimals and written numbers. Each of
them is taken as a count of exactly that number, and a written number that is an integer as an
integer, so counts that denote the same number are interchangeable. -/

namespace Phrasebook

open Number

namespace Number

/-- The decimal that a literal denotes, whatever its exponent. -/
def Literal.toDecimal (l : Literal) : Decimal := .finite l.negative l.coefficient l.exponent

/-- A literal that a decimal can hold. -/
def Literal.InRange (l : Literal) : Prop :=
  l.toDecimal.adjusted ≤ Decimal.maxExponent ∧ Decimal.minExponent ≤ l.exponent

instance (l : Literal) : Decidable l.InRange := inferInstanceAs (Decidable (_ ∧ _))

theorem Decimal.ofLiteral?_of_inRange {l : Literal} (h : l.InRange) :
    ofLiteral? l = some l.toDecimal := by
  have hlimits : (decide (l.toDecimal.adjusted ≤ maxExponent) &&
      decide (minExponent ≤ l.exponent)) = true := by
    rw [decide_eq_true h.1, decide_eq_true h.2]
    rfl
  exact if_pos hlimits

namespace Decimal

theorem value_of_exponent_zero (negative : Bool) (size : Nat) :
    (finite negative size 0).value = (signed negative size : Int) := by
  rw [value, zpow_zero, mul_one]

theorem value_ofNat (negative : Bool) (coefficient e : Nat) :
    (finite negative coefficient (.ofNat e)).value =
      (signed negative (coefficient * 10 ^ e) : Int) := by
  have h := value_trailing negative coefficient (.ofNat e) e
  rw [← h, Int.ofNat_eq_natCast, Int.sub_self, value_of_exponent_zero]

theorem value_negSucc (negative : Bool) (size e : Nat) :
    (finite negative (size * 10 ^ (e + 1)) (.negSucc e)).value = (signed negative size : Int) := by
  have h := value_trailing negative size 0 (e + 1)
  have hexponent : (0 : Int) - (e + 1 : Nat) = .negSucc e := by omega
  rw [← value_of_exponent_zero, ← h, hexponent]

/-- A decimal with places equals an integer only if they are all zeros. -/
theorem mod_eq_zero_of_value {negative : Bool} {coefficient e : Nat} (hzero : coefficient ≠ 0)
    {n : Int} (h : (finite negative coefficient (.negSucc e)).value = n) :
    coefficient % 10 ^ (e + 1) = 0 := by
  have hn : 0 < n.natAbs := by
    rw [Int.natAbs_pos]
    rintro rfl
    exact hzero ((value_eq_zero_iff negative coefficient (.negSucc e)).mp (by simpa using h))
  have hwritten : (finite (decide (n < 0)) n.natAbs 0).value = n := by
    rw [value_of_exponent_zero, signed_natAbs]
  obtain ⟨k, hk⟩ := exists_trailing hn (by omega) (hwritten.trans h.symm)
  obtain ⟨-, rfl, hexponent⟩ := Decimal.finite.inj hk
  have hplaces : k = e + 1 := by omega
  rw [hplaces, Nat.mul_mod_left]

/-- A finite decimal is read as the integer that it equals, if it equals one. -/
theorem toInt?_eq_some_iff {x : Decimal} (hx : x.isFinite = true) {n : Int} :
    x.toInt? = some n ↔ x.value = n := by
  obtain ⟨negative, coefficient, exponent, rfl⟩ := exists_of_isFinite hx
  by_cases hzero : coefficient = 0
  · have hvalue := (value_eq_zero_iff negative coefficient exponent).mpr hzero
    have hread : (finite negative coefficient exponent).toInt? = some 0 := by
      simp [toInt?, hzero]
    rw [hread, hvalue, Option.some.injEq]
    exact_mod_cast Iff.rfl
  cases exponent with
  | ofNat e =>
    have hread : (finite negative coefficient (.ofNat e)).toInt? =
        some (signed negative (coefficient * 10 ^ e)) := by
      simp [toInt?, hzero]
    rw [hread, value_ofNat, Int.cast_inj, Option.some.injEq]
  | negSucc e =>
    rw [toInt?_negSucc negative e hzero]
    by_cases hmod : coefficient % 10 ^ (e + 1) = 0
    · obtain ⟨size, rfl⟩ := Nat.dvd_of_mod_eq_zero hmod
      rw [if_pos hmod, Nat.mul_div_cancel_left _ (Nat.pow_pos (by decide)), Nat.mul_comm,
        value_negSucc, Int.cast_inj, Option.some.injEq]
    · rw [if_neg hmod]
      constructor
      · intro h
        cases h
      · intro h
        exact absurd (mod_eq_zero_of_value hzero h) hmod

end Decimal

end Number

namespace Count

/-- A value that is a number or writes one, with the number that it denotes. Of the decimals, those
are meant that a remainder admits. -/
inductive Denotes : Value → ℚ → Prop
  | int (n : Int) : Denotes (.int n) n
  | decimal {x : Decimal} (mark : Mark) (hfinite : x.isFinite = true)
      (hprecision : x.workingPrecision ≤ Decimal.maxExponent) : Denotes (.decimal x mark) x.value
  | text {s : String} {l : Literal} (hwritten : l.WrittenIn s.toList) (hrange : l.InRange) :
      Denotes (.text s) l.toDecimal.value

/-- The count of a decimal that was read. -/
def ofDecimal (x : Decimal) : Count :=
  match x.toInt? with
  | some n => int n
  | none => decimal x

section

variable {s : String} {x : Decimal}

theorem ofText?_of_read? (hread : Decimal.read? s.toList = some x) (hx : x.isFinite = true) :
    ofText? s = some (ofDecimal x) := by
  rw [ofText?, hread]
  exact if_pos hx

theorem ofDecimal_of_integer (hx : x.isFinite = true) {n : Int} (hn : x.value = n) :
    ofDecimal x = int n := by
  rw [ofDecimal, (Decimal.toInt?_eq_some_iff hx).mpr hn]

theorem ofDecimal_of_not_integer (hx : x.isFinite = true) (h : ∀ n : Int, x.value ≠ n) :
    ofDecimal x = decimal x := by
  unfold ofDecimal
  split
  · rename_i n hn
    exact absurd ((Decimal.toInt?_eq_some_iff hx).mp hn) (h n)
  · rfl

theorem value_ofDecimal (hx : x.isFinite = true) : (ofDecimal x).value = x.value := by
  by_cases h : ∃ n : Int, x.value = n
  · obtain ⟨n, hn⟩ := h
    rw [ofDecimal_of_integer hx hn, hn]
    rfl
  · rw [ofDecimal_of_not_integer hx (not_exists.mp h)]
    rfl

theorem isRegular_ofDecimal (hx : x.isFinite = true) : (ofDecimal x).IsRegular := by
  by_cases h : ∃ n : Int, x.value = n
  · obtain ⟨n, hn⟩ := h
    rw [ofDecimal_of_integer hx hn]
    trivial
  · rw [ofDecimal_of_not_integer hx (not_exists.mp h)]
    exact ⟨hx, fun hinteger => absurd hinteger h⟩

end

/-- A decimal that is no integer is kept as it is, any other as the integer. -/
theorem exists_ofText? {s : String} {x : Decimal} (hread : Decimal.read? s.toList = some x)
    (hx : x.isFinite = true) :
    ∃ count, ofText? s = some count ∧ count.value = x.value ∧ count.IsRegular :=
  ⟨ofDecimal x, ofText?_of_read? hread hx, value_ofDecimal hx, isRegular_ofDecimal hx⟩

/-- What denotes a number is taken as a count of exactly that number. -/
theorem Denotes.exists_ofValue [Stack] {v : Value} {q : ℚ} (h : Denotes v q) :
    ∃ count, ofValue v = .ok count ∧ count.value = q ∧ count.IsRegular := by
  cases h with
  | int n => exact ⟨Count.int n, rfl, rfl, trivial⟩
  | @decimal x mark hfinite hprecision =>
    refine ⟨Count.decimal x, ?_, rfl, hfinite, fun _ => hprecision⟩
    rw [ofValue, ofValue?, if_pos hfinite]
  | @text s l hwritten hrange =>
    have hread := (Decimal.read?_writtenIn hwritten).trans (Decimal.ofLiteral?_of_inRange hrange)
    obtain ⟨count, hcount, hvalue, hregular⟩ := exists_ofText? hread rfl
    refine ⟨count, ?_, hvalue, hregular⟩
    rw [ofValue, ofValue?, hcount]

end Count

end Phrasebook
