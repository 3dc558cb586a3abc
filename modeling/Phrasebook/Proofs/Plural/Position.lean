import Phrasebook.Proofs.Number.Remainder
import Phrasebook.Proofs.Template.Resolution

/-! Plural positions are within the form count of their family, which is looked up by the same key.
A finite count always has a position, but for one reason: a family that looks at endings takes
remainders, and a decimal too long for the working precision has none. A message with all the
variants that its locale needs is therefore resolved to the one at the position itself. -/

namespace Phrasebook

open Number

namespace Count

/-- Whether remainders of a count can be taken, which the working precision of a decimal may not
allow. -/
def admitsRemainder : Count → Bool
  | decimal x => x.workingPrecision ≤ Decimal.maxExponent
  | _ => true

/-- The fault of a count without remainders. -/
def OutOfRange (count : Count) (fault : Fault) : Prop :=
  fault = .precisionRange ∧ count.admitsRemainder = false

/-! ## Remainders -/

/-- The divisors that plural families use are finite as floats. -/
theorem modulus_lt {divisor : Nat} (h : divisor = 10 ∨ divisor = 100) :
    Binary64.nearestUnits (divisor * Binary64.unitsPerOne) 1 < Binary64.unitsLimit := by
  rcases h with rfl | rfl <;> decide +kernel

theorem modulus_pos {divisor : Nat} (h : divisor = 10 ∨ divisor = 100) : 0 < divisor := by
  omega

theorem modulus_small {divisor : Nat} (h : divisor = 10 ∨ divisor = 100) :
    divisor ≤ 10 ^ Decimal.defaultPrecision := by
  rcases h with rfl | rfl <;> decide

theorem ends_remainder {count : Count} (h : count.isFinite = true) {divisor : Nat}
    (hdivisor : divisor = 10 ∨ divisor = 100) :
    Ends (fun r => r.isFinite = true) (OutOfRange count) (count.remainder divisor) := by
  cases count with
  | int n => exact .ok rfl
  | float x =>
    cases x with
    | finite negative units =>
      rw [remainder, Binary64.remainder.eq_def, if_neg (modulus_lt hdivisor).not_ge]
      exact .ok rfl
    | infinite negative => cases h
    | nan => cases h
  | decimal x =>
    by_cases hprecision : x.workingPrecision ≤ Decimal.maxExponent
    · cases x with
      | finite negative coefficient exponent =>
        rw [remainder, Decimal.remainder_of_small hprecision (modulus_pos hdivisor)
          (modulus_small hdivisor)]
        exact .ok (Decimal.isFinite_round _ _ _ _)
      | infinite negative => cases h
      | nan negative signaling payload => cases h
    · rw [remainder, Decimal.remainder.eq_def, if_pos (Nat.lt_of_not_le hprecision)]
      exact .error ⟨rfl, decide_eq_false hprecision⟩

/-! ## Tests -/

section

variable {count : Count} {Q : Fault → Prop}

theorem ends_equals (h : count.isFinite = true) (n : Int) :
    Ends (fun _ => True) Q (count.equals n) := by
  rw [equals_eq h]
  exact .ok trivial

theorem ends_ordered (h : count.isFinite = true) (n : Int) (accept : Ordering → Bool) :
    Ends (fun _ => True) Q (count.ordered (.at n) accept) := by
  rw [ordered_at h]
  exact .ok trivial

variable {first second : Except Fault Bool}

theorem ends_not (h : Ends (fun _ => True) Q first) : Ends (fun _ => True) Q (first.map not) :=
  h.map fun _ _ => trivial

theorem ends_both (h : Ends (fun _ => True) Q first) (h' : Ends (fun _ => True) Q second) :
    Ends (fun _ => True) Q (both first second) := by
  refine h.bind fun holds _ => ?_
  split
  · exact h'
  · exact .ok trivial

theorem ends_either (h : Ends (fun _ => True) Q first) (h' : Ends (fun _ => True) Q second) :
    Ends (fun _ => True) Q (either first second) :=
  h.test trivial h'

theorem ends_isWithin (h : count.isFinite = true) (low high : Int) :
    Ends (fun _ => True) Q (count.isWithin low high) :=
  ends_both (ends_ordered h low _) (ends_ordered h high _)

theorem ends_equalsEither (h : count.isFinite = true) (n m : Int) :
    Ends (fun _ => True) Q (count.equalsEither n m) :=
  ends_either (ends_equals h n) (ends_equals h m)

end

end Count

/-! ## Positions -/

namespace PluralFamily

open Phrasebook.Count

/-- The position of a finite count is within the form count, unless the count has no remainders. -/
theorem ends_position {n : Count} (h : n.isFinite = true) (family : PluralFamily) :
    Ends (fun p => p < family.formCount) (OutOfRange n) (family.position n) := by
  have hten : Ends (fun r => r.isFinite = true) (OutOfRange n) (n.remainder 10) :=
    ends_remainder h (.inl rfl)
  have hhundred : Ends (fun r => r.isFinite = true) (OutOfRange n) (n.remainder 100) :=
    ends_remainder h (.inr rfl)
  cases family with
  | invariable => exact .ok (by decide)
  | oneOther => exact .test (ends_equals h 1) (by decide) (.ok (by decide))
  | zeroOneOther => exact .test (ends_equalsEither h 0 1) (by decide) (.ok (by decide))
  | slavic =>
    refine hten.bind fun last hlast => hhundred.bind fun lastTwo hlastTwo => ?_
    refine .test (ends_both (ends_equals hlast 1) (ends_not (ends_equals hlastTwo 11)))
      (by decide) ?_
    exact .test (ends_both (ends_isWithin hlast 2 4) (ends_either (ends_ordered hlastTwo 10 _)
      (ends_ordered hlastTwo 20 _))) (by decide) (.ok (by decide))
  | czech =>
    refine .test (ends_equals h 1) (by decide) ?_
    exact .test (ends_isWithin h 2 4) (by decide) (.ok (by decide))
  | irish =>
    refine .test (ends_equals h 1) (by decide) ?_
    exact .test (ends_equals h 2) (by decide) (.ok (by decide))
  | lithuanian =>
    refine hten.bind fun last hlast => hhundred.bind fun lastTwo hlastTwo => ?_
    refine .test (ends_both (ends_equals hlast 1) (ends_not (ends_equals hlastTwo 11)))
      (by decide) ?_
    exact .test (ends_both (ends_ordered hlast 2 _) (ends_either (ends_ordered hlastTwo 10 _)
      (ends_ordered hlastTwo 20 _))) (by decide) (.ok (by decide))
  | slovenian =>
    refine hhundred.bind fun lastTwo hlastTwo => ?_
    refine .test (ends_equals hlastTwo 1) (by decide) ?_
    refine .test (ends_equals hlastTwo 2) (by decide) ?_
    exact .test (ends_equalsEither hlastTwo 3 4) (by decide) (.ok (by decide))
  | macedonian =>
    refine hten.bind fun last hlast => ?_
    exact .test (ends_equals hlast 1) (by decide) (.ok (by decide))
  | maltese =>
    refine hhundred.bind fun lastTwo hlastTwo => ?_
    refine .test (ends_equals h 1) (by decide) ?_
    refine .test (ends_either (ends_equals h 0) (ends_both (ends_ordered hlastTwo 1 _)
      (ends_ordered hlastTwo 11 _))) (by decide) ?_
    exact .test (ends_both (ends_ordered hlastTwo 10 _) (ends_ordered hlastTwo 20 _))
      (by decide) (.ok (by decide))
  | latvian =>
    refine .test (ends_equals h 0) (by decide) ?_
    refine hten.bind fun last hlast => hhundred.bind fun lastTwo hlastTwo => ?_
    exact .test (ends_both (ends_equals hlast 1) (ends_not (ends_equals hlastTwo 11)))
      (by decide) (.ok (by decide))
  | polish =>
    refine hten.bind fun last hlast => hhundred.bind fun lastTwo hlastTwo => ?_
    refine .test (ends_equals h 1) (by decide) ?_
    exact .test (ends_both (ends_isWithin hlast 2 4) (ends_either (ends_ordered hlastTwo 12 _)
      (ends_ordered hlastTwo 14 _))) (by decide) (.ok (by decide))
  | welsh =>
    refine .test (ends_equals h 1) (by decide) ?_
    refine .test (ends_equals h 2) (by decide) ?_
    exact .test (ends_equalsEither h 8 11) (by decide) (.ok (by decide))
  | romanian =>
    refine .test (ends_equals h 1) (by decide) ?_
    refine hhundred.bind fun lastTwo hlastTwo => ?_
    exact .test (ends_either (ends_equals h 0) (ends_both (ends_ordered hlastTwo 0 _)
      (ends_ordered hlastTwo 20 _))) (by decide) (.ok (by decide))
  | arabic =>
    refine .test (ends_equals h 0) (by decide) ?_
    refine .test (ends_equals h 1) (by decide) ?_
    refine .test (ends_equals h 2) (by decide) ?_
    refine .test (ends_isWithin h 3 10) (by decide) ?_
    exact .test (ends_isWithin h 11 99) (by decide) (.ok (by decide))

end PluralFamily

theorem ends_pluralPosition {count : Count} (h : count.isFinite = true) (code : String) :
    Ends (fun p => p < pluralFormCount code) count.OutOfRange (pluralPosition count code) := by
  unfold pluralPosition pluralFormCount
  exact PluralFamily.ends_position h (PluralFamily.ofLocale code)

theorem exists_position {count : Count} (hfinite : count.isFinite = true)
    (hremainder : count.admitsRemainder = true) (code : String) :
    ∃ p, pluralPosition count code = .ok p ∧ p < pluralFormCount code := by
  refine (ends_pluralPosition hfinite code).exists_ok ?_
  rintro fault ⟨-, hnot⟩
  rw [hremainder] at hnot
  cases hnot

/-! ## Choosing by position -/

namespace Template

theorem ruleFor_of_not_holds {count : Count} {rules : List ExplicitRule}
    (h : ∀ r ∈ rules, r.condition.holds count = .ok false) :
    ruleFor count rules = .ok none := by
  induction rules with
  | nil => rfl
  | cons r rest ih =>
    rw [ruleFor, h r List.mem_cons_self]
    exact ih fun other hother => h other (List.mem_cons_of_mem r hother)

/-- Without a rule that holds, a position within the standard variants decides. -/
theorem select_eq_getElem {t : Template} {count : Count} {code : String} {p : Nat}
    (hrules : ∀ r ∈ t.rules, r.condition.holds count = .ok false)
    (hposition : pluralPosition count code = .ok p) (hp : p < t.standard.length) :
    t.select count code = .ok (some t.standard[p]) := by
  have hne : t.standard.isEmpty = false := by
    rw [List.isEmpty_eq_false_iff, ← List.length_pos_iff]
    omega
  rw [select, variant, ruleFor_of_not_holds hrules, hposition]
  simp only [bind, Except.bind, hne, Bool.false_eq_true, if_false, pure, Except.pure, standardAt,
    List.getElem?_eq_getElem hp]

end Template

/-- In every locale a finite count has a position below the form count, so long as its remainders
can be taken, and a message with that many standard variants and no rule for the count is resolved
to the variant at the position. -/
theorem position_within_form_count {count : Count} (hfinite : count.isFinite = true)
    (hremainder : count.admitsRemainder = true) (code : String) :
    ∃ p, pluralPosition count code = .ok p ∧ p < pluralFormCount code ∧
      ∀ t : Template, pluralFormCount code ≤ t.standard.length →
        (∀ r ∈ t.rules, r.condition.holds count = .ok false) →
        ∃ h : p < t.standard.length, t.select count code = .ok (some t.standard[p]) := by
  obtain ⟨p, hposition, hp⟩ := exists_position hfinite hremainder code
  refine ⟨p, hposition, hp, fun t hlength hrules => ?_⟩
  have hwithin := Nat.lt_of_lt_of_le hp hlength
  exact ⟨hwithin, Template.select_eq_getElem hrules hposition hwithin⟩

/-- A message in Polish, with a text for no file at all. -/
def filesInPolish : Template where
  rules := [⟨{ source := "{0}", shape := .set [0] }, "brak plików"⟩]
  standard := ["plik", "pliki", "plików"]
  segmentCount := 4

/-- A decimal of more digits than the least working precision, whose last two are looked at. -/
def manyFiles : Count := .decimal (.finite false (10 ^ 40 + 22) 0)

/-- So many files take the second of three forms. -/
theorem position_within_form_count_of_large_decimal :
    manyFiles.isFinite = true ∧ manyFiles.admitsRemainder = true ∧
      pluralFormCount "pl_PL" ≤ filesInPolish.standard.length ∧
      (∀ r ∈ filesInPolish.rules, r.condition.holds manyFiles = .ok false) ∧
      ∃ p, pluralPosition manyFiles "pl_PL" = .ok p ∧ p < pluralFormCount "pl_PL" ∧
        ∃ h : p < filesInPolish.standard.length,
          filesInPolish.select manyFiles "pl_PL" = .ok (some filesInPolish.standard[p]) ∧
          filesInPolish.standard[p] = "pliki" := by
  have hfinite : manyFiles.isFinite = true := rfl
  have hremainder : manyFiles.admitsRemainder = true := by decide +kernel
  have hforms : pluralFormCount "pl_PL" ≤ filesInPolish.standard.length := by decide +kernel
  have hrules : ∀ r ∈ filesInPolish.rules, r.condition.holds manyFiles = .ok false := by
    decide +kernel
  obtain ⟨p, hposition, hp, hselect⟩ := position_within_form_count hfinite hremainder "pl_PL"
  obtain ⟨hwithin, hchosen⟩ := hselect filesInPolish hforms hrules
  have hsecond : pluralPosition manyFiles "pl_PL" = .ok 1 := by decide +kernel
  obtain rfl := Except.ok.inj (hposition.symm.trans hsecond)
  exact ⟨hfinite, hremainder, hforms, hrules, 1, hposition, hp, hwithin, hchosen, rfl⟩

end Phrasebook
