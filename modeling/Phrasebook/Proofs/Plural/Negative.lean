import Phrasebook.Proofs.Count.Truncation

/-! Plural positions of negative counts. The last digits of a negative number are negative or zero,
also where a long fraction is rounded, since a remainder has the sign of its count. Every test of a
rule asks for a number that is not below zero, or an ending that is above it, so a negative count
comes through all tests of its family to the last position, the general form. -/

namespace Phrasebook

open Number

namespace Count

/-- A test that does not hold, and does not fail either. -/
abbrev Refused (test : Except Fault Bool) : Prop := test = .ok false

namespace Refused

variable {test other : Except Fault Bool}

theorem both (h : Refused test) : Refused (Count.both test other) := by
  rw [Refused, Count.both, h]
  rfl

theorem either (h : Refused test) (h' : Refused other) : Refused (Count.either test other) := by
  rw [Refused, Count.either, h, h']
  rfl

/-- What comes after a test that does not hold. -/
theorem pass (h : Refused test) {k l : Nat} {rest : Except Fault Nat} (hrest : rest = .ok l) :
    (do if ← test then return k else rest) = .ok l :=
  bind_eq_ok_iff.mpr ⟨false, h, hrest⟩

end Refused

/-! ## Numbers that are not above zero -/

/-- A finite count that is negative or zero: a negative one, and every ending of it. -/
structure NonPositive (n : Count) : Prop where
  isFinite : n.isFinite = true
  le_zero : n.value ≤ 0

namespace NonPositive

variable {n : Count} {low high : Int}

theorem lt (h : n.NonPositive) (hlow : 0 < low) : n.value < low :=
  lt_of_le_of_lt h.le_zero (Int.cast_pos.mpr hlow)

theorem equals (h : n.NonPositive) (hlow : 0 < low := by decide) : Refused (n.equals low) := by
  rw [Refused, equals_eq h.isFinite, decide_eq_false (h.lt hlow).ne]

theorem isAtLeast (h : n.NonPositive) (hlow : 0 < low := by decide) :
    Refused (n.isAtLeast low) := by
  rw [Refused, isAtLeast_eq h.isFinite, decide_eq_false (h.lt hlow).not_ge]

theorem isAbove (h : n.NonPositive) (hlow : 0 ≤ low := by decide) : Refused (n.isAbove low) := by
  have hle : n.value ≤ low := h.le_zero.trans (Int.cast_nonneg hlow)
  rw [Refused, isAbove_eq h.isFinite, decide_eq_false hle.not_gt]

theorem isWithin (h : n.NonPositive) (hlow : 0 < low := by decide) :
    Refused (n.isWithin low high) :=
  (h.isAtLeast hlow).both

theorem equalsEither (h : n.NonPositive) (hlow : 0 < low := by decide)
    (hhigh : 0 < high := by decide) : Refused (n.equalsEither low high) :=
  (h.equals hlow).either (h.equals hhigh)

end NonPositive

/-- A negative count is no zero. -/
theorem refused_equals_zero {n : Count} (hfinite : n.isFinite = true) (hnegative : n.value < 0) :
    Refused (n.equals 0) := by
  rw [Refused, equals_eq hfinite, decide_eq_false (by simpa using hnegative.ne)]

/-! ## Endings -/

theorem TruncatesTo.nonPositive {n r : Count} {divisor : Nat} (h : n.TruncatesTo divisor r)
    (hnegative : n.value < 0) : r.NonPositive := by
  refine ⟨h.isFinite, ?_⟩
  rcases h.sign with hzero | hsign
  · exact hzero.le
  · rw [sign_neg hnegative, sign_eq_neg_one_iff] at hsign
    exact hsign.le

/-- The remainder of a negative float is taken of its size alone. -/
theorem exists_remainder_float {x : Binary64} (hfinite : x.isFinite = true)
    (hnegative : x.value < 0) {divisor : Nat} (hdivisor : divisor = 10 ∨ divisor = 100) :
    ∃ r, (float x).remainder divisor = .ok r ∧ r.NonPositive := by
  obtain ⟨negative, units, rfl⟩ := Binary64.exists_of_isFinite hfinite
  have hunits : (0 : ℚ) < Binary64.unitsPerOne := Nat.cast_pos.mpr Binary64.unitsPerOne_pos
  rw [Binary64.value, cast_signed] at hnegative
  cases negative with
  | false => exact absurd hnegative (not_lt.mpr (div_nonneg (Nat.cast_nonneg _) hunits.le))
  | true =>
    rw [remainder, Binary64.remainder.eq_def, if_neg (modulus_lt hdivisor).not_ge]
    refine ⟨_, rfl, rfl, ?_⟩
    rw [value, Binary64.value, cast_signed]
    exact div_nonpos_of_nonpos_of_nonneg (neg_nonpos.mpr (Nat.cast_nonneg _)) hunits.le

/-- No ending of a negative count is above zero. -/
theorem exists_ending {n : Count} (hfinite : n.isFinite = true) (hnegative : n.value < 0)
    (hadmits : n.admitsRemainder = true) {divisor : Nat}
    (hdivisor : divisor = 10 ∨ divisor = 100) :
    ∃ r, n.remainder divisor = .ok r ∧ r.NonPositive := by
  have hpos := modulus_pos hdivisor
  cases n with
  | float x => exact exists_remainder_float hfinite hnegative hdivisor
  | int n =>
    exact ⟨_, rfl, (truncatesTo_int n hpos).nonPositive hnegative⟩
  | decimal x =>
    obtain ⟨r, htruncates, ⟨-, hr⟩ | ⟨hlarge, -⟩⟩ :=
      exists_truncatesTo hfinite (fun _ h => nomatch h) hadmits hpos
    · exact ⟨r, hr, htruncates.nonPositive hnegative⟩
    · exact absurd hlarge (htruncates.not_overflows (modulus_small hdivisor))

end Count

/-! ## Families -/

namespace PluralFamily

open Phrasebook.Count

/-- A negative count has the last position of every family. -/
theorem position_of_neg {n : Count} (hfinite : n.isFinite = true) (hnegative : n.value < 0)
    (hadmits : n.admitsRemainder = true) (family : PluralFamily) :
    family.position n = .ok (family.formCount - 1) := by
  have hn : n.NonPositive := ⟨hfinite, hnegative.le⟩
  have hzero := refused_equals_zero hfinite hnegative
  obtain ⟨last, hten, hlast⟩ := exists_ending hfinite hnegative hadmits (.inl rfl)
  obtain ⟨lastTwo, hhundred, hlastTwo⟩ := exists_ending hfinite hnegative hadmits (.inr rfl)
  -- the tests are passed in the order of the rule, and what is left is its last position
  cases family with
  | invariable => rfl
  | oneOther => exact hn.equals.pass rfl
  | zeroOneOther => exact (hzero.either hn.equals).pass rfl
  | slavic =>
    refine bind_eq_ok_iff.mpr ⟨last, hten, bind_eq_ok_iff.mpr ⟨lastTwo, hhundred, ?_⟩⟩
    refine hlast.equals.both.pass ?_
    exact hlast.isWithin.both.pass rfl
  | czech =>
    refine hn.equals.pass ?_
    exact hn.isWithin.pass rfl
  | irish =>
    refine hn.equals.pass ?_
    exact hn.equals.pass rfl
  | lithuanian =>
    refine bind_eq_ok_iff.mpr ⟨last, hten, bind_eq_ok_iff.mpr ⟨lastTwo, hhundred, ?_⟩⟩
    refine hlast.equals.both.pass ?_
    exact hlast.isAtLeast.both.pass rfl
  | slovenian =>
    refine bind_eq_ok_iff.mpr ⟨lastTwo, hhundred, ?_⟩
    refine hlastTwo.equals.pass ?_
    refine hlastTwo.equals.pass ?_
    exact hlastTwo.equalsEither.pass rfl
  | macedonian =>
    refine bind_eq_ok_iff.mpr ⟨last, hten, ?_⟩
    exact hlast.equals.pass rfl
  | maltese =>
    refine bind_eq_ok_iff.mpr ⟨lastTwo, hhundred, ?_⟩
    refine hn.equals.pass ?_
    refine (hzero.either hlastTwo.isAbove.both).pass ?_
    exact hlastTwo.isAbove.both.pass rfl
  | latvian =>
    refine hzero.pass (bind_eq_ok_iff.mpr ⟨last, hten, bind_eq_ok_iff.mpr ⟨lastTwo, hhundred, ?_⟩⟩)
    exact hlast.equals.both.pass rfl
  | polish =>
    refine bind_eq_ok_iff.mpr ⟨last, hten, bind_eq_ok_iff.mpr ⟨lastTwo, hhundred, ?_⟩⟩
    refine hn.equals.pass ?_
    exact hlast.isWithin.both.pass rfl
  | welsh =>
    refine hn.equals.pass ?_
    refine hn.equals.pass ?_
    exact hn.equalsEither.pass rfl
  | romanian =>
    refine hn.equals.pass (bind_eq_ok_iff.mpr ⟨lastTwo, hhundred, ?_⟩)
    exact (hzero.either hlastTwo.isAbove.both).pass rfl
  | arabic =>
    refine hzero.pass ?_
    refine hn.equals.pass ?_
    refine hn.equals.pass ?_
    refine hn.isWithin.pass ?_
    exact hn.isWithin.pass rfl

theorem formCount_pos (family : PluralFamily) : 0 < family.formCount := by
  cases family <;> decide

end PluralFamily

/-- In every locale a negative count has the last position, that of the general form, so long as its
remainders can be taken; no family takes an ending of it for any other form. -/
theorem negative_takes_general_form {count : Count} (hfinite : count.isFinite = true)
    (hnegative : count.value < 0) (hremainder : count.admitsRemainder = true) :
    (∀ code, pluralPosition count code = .ok (pluralFormCount code - 1)) ∧
      ∀ family : PluralFamily, ∃ p, family.position count = .ok p ∧ p + 1 = family.formCount := by
  have hposition := PluralFamily.position_of_neg hfinite hnegative hremainder
  refine ⟨fun code => hposition (PluralFamily.ofLocale code), fun family => ?_⟩
  exact ⟨_, hposition family, Nat.sub_add_cancel family.formCount_pos⟩

/-- A fraction so long that its last digit before the point is rounded away. -/
theorem negative_takes_general_form_of_long_fraction :
    (Count.decimal (.finite true (10 ^ 31 - 1) (-30))).isFinite = true ∧
      (Count.decimal (.finite true (10 ^ 31 - 1) (-30))).value < 0 ∧
      (Count.decimal (.finite true (10 ^ 31 - 1) (-30))).admitsRemainder = true ∧
      pluralPosition (.decimal (.finite true (10 ^ 31 - 1) (-30))) "ru_RU" = .ok 2 := by
  have hnegative : (Count.decimal (.finite true (10 ^ 31 - 1) (-30))).value < 0 := by
    rw [Count.value, Decimal.value, cast_signed]
    norm_num
  have hremainder : (Count.decimal (.finite true (10 ^ 31 - 1) (-30))).admitsRemainder = true := by
    decide +kernel
  have hcount : pluralFormCount "ru_RU" = 3 := by decide +kernel
  have hposition := (negative_takes_general_form rfl hnegative hremainder).1 "ru_RU"
  rw [hcount] at hposition
  exact ⟨rfl, hnegative, hremainder, hposition⟩

end Phrasebook
