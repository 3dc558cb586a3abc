import Phrasebook.Plural.Family
import Phrasebook.Proofs.Number.Remainder

/-! Counts that stand for the same number. They compare alike with everything, and when their
remainders agree as well, they take the same position in every plural family. A decimal agrees so
with an integer or another decimal unless it is a zero with an exponent beyond what a remainder
admits. -/

namespace Phrasebook

open Number

namespace Count

/-- Finite counts of the same number. -/
structure SameNumber (a b : Count) : Prop where
  isFinite : a.isFinite = true
  isFinite_other : b.isFinite = true
  value : a.value = b.value

namespace SameNumber

variable {a b : Count}

theorem symm (h : SameNumber a b) : SameNumber b a := ⟨h.isFinite_other, h.isFinite, h.value.symm⟩

theorem equals (h : SameNumber a b) (n : Int) : a.equals n = b.equals n := by
  rw [equals_eq h.isFinite, equals_eq h.isFinite_other, h.value]

theorem ordered (h : SameNumber a b) (bound : Bound Int) (accept : Ordering → Bool) :
    a.ordered bound accept = b.ordered bound accept := by
  cases bound with
  | negativeInfinity =>
    rw [ordered_negativeInfinity h.isFinite, ordered_negativeInfinity h.isFinite_other]
  | «at» n => rw [ordered_at h.isFinite, ordered_at h.isFinite_other, h.value]
  | positiveInfinity =>
    rw [ordered_positiveInfinity h.isFinite, ordered_positiveInfinity h.isFinite_other]

theorem isAtLeast (h : SameNumber a b) (n : Int) : a.isAtLeast n = b.isAtLeast n := h.ordered _ _

theorem isAbove (h : SameNumber a b) (n : Int) : a.isAbove n = b.isAbove n := h.ordered _ _

theorem isBelow (h : SameNumber a b) (n : Int) : a.isBelow n = b.isBelow n := h.ordered _ _

theorem isAtMost (h : SameNumber a b) (n : Int) : a.isAtMost n = b.isAtMost n := h.ordered _ _

theorem isWithin (h : SameNumber a b) (low high : Int) :
    a.isWithin low high = b.isWithin low high := by
  rw [Count.isWithin, Count.isWithin, h.isAtLeast, h.isAtMost]

theorem equalsEither (h : SameNumber a b) (n m : Int) :
    a.equalsEither n m = b.equalsEither n m := by
  rw [Count.equalsEither, Count.equalsEither, h.equals, h.equals]

end SameNumber

/-- Finite counts of the same number whose remainders agree, by divisors of no more digits than a
remainder always keeps. -/
structure Interchangeable (a b : Count) : Prop extends SameNumber a b where
  remainder : ∀ divisor : Nat, 0 < divisor → divisor ≤ 10 ^ Decimal.defaultPrecision →
    Agree SameNumber (a.remainder divisor) (b.remainder divisor)

/-- Integers, and finite decimals that admit a remainder if they equal one. -/
def IsRegular : Count → Prop
  | int _ => True
  | float _ => False
  | decimal x => x.isFinite = true ∧
      ((∃ n : Int, x.value = n) → x.workingPrecision ≤ Decimal.maxExponent)

theorem remainder_int_decimal {n : Int} {x : Decimal} (hx : IsRegular (decimal x))
    (hvalue : x.value = n) {divisor : Nat} (hpos : 0 < divisor)
    (hsmall : divisor ≤ 10 ^ Decimal.defaultPrecision) :
    Agree SameNumber ((int n).remainder divisor) ((decimal x).remainder divisor) := by
  obtain ⟨r, hr, hfinite, hrvalue⟩ :=
    Decimal.remainder_integer hx.1 hvalue (hx.2 ⟨n, hvalue⟩) hpos hsmall
  rw [remainder, remainder, hr]
  exact ⟨rfl, hfinite, hrvalue.symm⟩

theorem remainder_decimal_decimal {x y : Decimal} (hx : IsRegular (decimal x))
    (hy : IsRegular (decimal y)) (hvalue : x.value = y.value) {divisor : Nat}
    (hpos : 0 < divisor) :
    Agree SameNumber ((decimal x).remainder divisor) ((decimal y).remainder divisor) := by
  rw [remainder, remainder]
  by_cases hzero : x.value = 0
  · have hzero' : y.value = 0 := hvalue ▸ hzero
    obtain ⟨r, hr, hfinite, hrvalue⟩ :=
      Decimal.remainder_zero hx.1 hzero (hx.2 ⟨0, by simpa using hzero⟩) divisor
    obtain ⟨r', hr', hfinite', hrvalue'⟩ :=
      Decimal.remainder_zero hy.1 hzero' (hy.2 ⟨0, by simpa using hzero'⟩) divisor
    rw [hr, hr']
    exact ⟨hfinite, hfinite', hrvalue.trans hrvalue'.symm⟩
  · exact (Decimal.remainder_sameNumber ⟨hx.1, hy.1, hvalue⟩ hzero hpos).map
      fun r r' h => ⟨h.1, h.2.1, h.2.2⟩

/-- Regular counts of the same number are interchangeable, however they are kept. -/
theorem IsRegular.interchangeable {a b : Count} (ha : a.IsRegular) (hb : b.IsRegular)
    (h : a.value = b.value) : Interchangeable a b := by
  cases a with
  | float x => exact ha.elim
  | int n =>
    cases b with
    | float y => exact hb.elim
    | int m =>
      obtain rfl := Int.cast_injective h
      exact ⟨⟨rfl, rfl, rfl⟩, fun divisor _ _ => ⟨rfl, rfl, rfl⟩⟩
    | decimal y =>
      exact ⟨⟨rfl, hb.1, h⟩, fun _ hpos hsmall => remainder_int_decimal hb h.symm hpos hsmall⟩
  | decimal x =>
    cases b with
    | float y => exact hb.elim
    | int m =>
      exact ⟨⟨ha.1, rfl, h⟩, fun _ hpos hsmall =>
        (remainder_int_decimal ha h hpos hsmall).symm fun _ _ => SameNumber.symm⟩
    | decimal y =>
      exact ⟨⟨ha.1, hb.1, h⟩, fun _ hpos _ => remainder_decimal_decimal ha hb h hpos⟩

end Count

namespace PluralFamily

open Phrasebook.Count

/-- Interchangeable counts take the same position in every family. -/
theorem position_congr {a b : Count} (h : Interchangeable a b) (family : PluralFamily) :
    family.position a = family.position b := by
  have hten := h.remainder 10 (by decide) (by decide)
  have hhundred := h.remainder 100 (by decide) (by decide)
  cases family with
  | invariable => rfl
  | oneOther | zeroOneOther | czech | irish | welsh | arabic =>
    simp only [position, h.equals, h.equalsEither, h.isWithin]
  | slavic | lithuanian =>
    refine hten.bind fun last last' hlast => hhundred.bind fun lastTwo lastTwo' hlastTwo => ?_
    simp only [hlast.equals, hlast.isWithin, hlast.isAtLeast, hlastTwo.equals, hlastTwo.isBelow,
      hlastTwo.isAtLeast]
  | slovenian =>
    refine hhundred.bind fun lastTwo lastTwo' hlastTwo => ?_
    simp only [hlastTwo.equals, hlastTwo.equalsEither]
  | macedonian =>
    refine hten.bind fun last last' hlast => ?_
    simp only [hlast.equals]
  | maltese =>
    refine hhundred.bind fun lastTwo lastTwo' hlastTwo => ?_
    simp only [h.equals, hlastTwo.isAbove, hlastTwo.isBelow]
  | latvian =>
    simp only [position, h.equals]
    refine bind_congr fun zero => ?_
    split
    · rfl
    · refine hten.bind fun last last' hlast => hhundred.bind fun lastTwo lastTwo' hlastTwo => ?_
      simp only [hlast.equals, hlastTwo.equals]
  | polish =>
    refine hten.bind fun last last' hlast => hhundred.bind fun lastTwo lastTwo' hlastTwo => ?_
    simp only [h.equals, hlast.isWithin, hlastTwo.isBelow, hlastTwo.isAbove]
  | romanian =>
    simp only [position, h.equals]
    refine bind_congr fun one => ?_
    split
    · rfl
    · refine hhundred.bind fun lastTwo lastTwo' hlastTwo => ?_
      simp only [hlastTwo.isAbove, hlastTwo.isBelow]

end PluralFamily

end Phrasebook
