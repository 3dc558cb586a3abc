import Phrasebook.Plural.Family
import Phrasebook.Proofs.Number.Value

/-! The table of plural rules for integers. A row holds the keys of its languages and the position
of an integer, stated on the integer and on its remainders by ten and a hundred, which have its
sign. Where the table excludes a range of endings, a rule tests for what lies outside a range, not
always the same one. Both come to the same, since the last two digits of a number end in its last
one. -/

namespace Phrasebook

/-- A row: the keys of its languages, and the position of the variant for an integer. -/
structure PluralRow where
  keys : List String
  position : Int → Nat

namespace PluralFamily

/-- The row of a family. -/
def row : PluralFamily → PluralRow
  | invariable =>
    { keys := ["bo", "dz", "id", "ja", "jv", "ka", "km", "kn", "ko", "ms", "th", "tr", "vi", "zh"]
      position := fun _ => 0 }
  | oneOther =>
    { keys := [
        "af", "az", "bn", "bg", "ca", "da", "de", "el", "en", "eo", "es", "et", "eu", "fa", "fi",
        "fo", "fur", "fy", "gl", "gu", "ha", "he", "hu", "is", "it", "ku", "lb", "ml", "mn", "mr",
        "nah", "nb", "ne", "nl", "nn", "no", "om", "or", "pa", "pap", "ps", "pt", "so", "sq", "sv",
        "sw", "ta", "te", "tk", "ur", "zu"]
      position := fun n => if n = 1 then 0 else 1 }
  | zeroOneOther =>
    { keys := ["am", "bh", "fil", "fr", "gun", "hi", "ln", "mg", "nso", "xbr", "ti", "wa"]
      position := fun n => if n = 0 ∨ n = 1 then 0 else 1 }
  | slavic =>
    { keys := ["be", "bs", "hr", "ru", "sr", "uk"]
      position := fun n =>
        if n.tmod 10 = 1 ∧ n.tmod 100 ≠ 11 then 0
        else if 2 ≤ n.tmod 10 ∧ n.tmod 10 ≤ 4 ∧ ¬ (12 ≤ n.tmod 100 ∧ n.tmod 100 ≤ 14) then 1
        else 2 }
  | czech =>
    { keys := ["cs", "sk"]
      position := fun n => if n = 1 then 0 else if 2 ≤ n ∧ n ≤ 4 then 1 else 2 }
  | irish =>
    { keys := ["ga"]
      position := fun n => if n = 1 then 0 else if n = 2 then 1 else 2 }
  | lithuanian =>
    { keys := ["lt"]
      position := fun n =>
        if n.tmod 10 = 1 ∧ n.tmod 100 ≠ 11 then 0
        else if 2 ≤ n.tmod 10 ∧ ¬ (10 ≤ n.tmod 100 ∧ n.tmod 100 ≤ 19) then 1
        else 2 }
  | slovenian =>
    { keys := ["sl"]
      position := fun n =>
        if n.tmod 100 = 1 then 0
        else if n.tmod 100 = 2 then 1
        else if 3 ≤ n.tmod 100 ∧ n.tmod 100 ≤ 4 then 2
        else 3 }
  | macedonian =>
    { keys := ["mk"]
      position := fun n => if n.tmod 10 = 1 then 0 else 1 }
  | maltese =>
    { keys := ["mt"]
      position := fun n =>
        if n = 1 then 0
        else if n = 0 ∨ 1 < n.tmod 100 ∧ n.tmod 100 < 11 then 1
        else if 10 < n.tmod 100 ∧ n.tmod 100 < 20 then 2
        else 3 }
  | latvian =>
    { keys := ["lv"]
      position := fun n =>
        if n = 0 then 0 else if n.tmod 10 = 1 ∧ n.tmod 100 ≠ 11 then 1 else 2 }
  | polish =>
    { keys := ["pl"]
      position := fun n =>
        if n = 1 then 0
        else if 2 ≤ n.tmod 10 ∧ n.tmod 10 ≤ 4 ∧ ¬ (12 ≤ n.tmod 100 ∧ n.tmod 100 ≤ 14) then 1
        else 2 }
  | welsh =>
    { keys := ["cy"]
      position := fun n =>
        if n = 1 then 0 else if n = 2 then 1 else if n = 8 ∨ n = 11 then 2 else 3 }
  | romanian =>
    { keys := ["ro"]
      position := fun n =>
        if n = 1 then 0 else if n = 0 ∨ 0 < n.tmod 100 ∧ n.tmod 100 < 20 then 1 else 2 }
  | arabic =>
    { keys := ["ar"]
      position := fun n =>
        if n = 0 then 0
        else if n = 1 then 1
        else if n = 2 then 2
        else if 3 ≤ n ∧ n ≤ 10 then 3
        else if 11 ≤ n ∧ n ≤ 99 then 4
        else 5 }

end PluralFamily

/-- The rows, one for each family. -/
def pluralTable : List PluralRow := PluralFamily.all.map PluralFamily.row

/-- The position that the row of a key gives an integer; the first one where no row has the key. -/
def tabledPosition (key : String) (n : Int) : Nat :=
  ((pluralTable.find? fun row => row.keys.contains key).map fun row => row.position n).getD 0

/-! ## Tests of integers -/

namespace Count

/-- A test that ends by telling whether a statement holds. -/
def Decides (test : Except Fault Bool) (p : Prop) : Prop := ∃ b, test = .ok b ∧ (b = true ↔ p)

namespace Decides

variable {test other : Except Fault Bool} {p q : Prop}

theorem congr (h : Decides test p) (hpq : p ↔ q) : Decides test q := by
  obtain ⟨b, htest, hb⟩ := h
  exact ⟨b, htest, hb.trans hpq⟩

theorem not (h : Decides test p) : Decides (test.map Bool.not) (¬ p) := by
  obtain ⟨b, rfl, hb⟩ := h
  exact ⟨!b, rfl, by rw [← hb, Bool.not_eq_true', Bool.not_eq_true]⟩

theorem both (h : Decides test p) (h' : Decides other q) :
    Decides (Count.both test other) (p ∧ q) := by
  obtain ⟨b, rfl, hb⟩ := h
  obtain ⟨b', rfl, hb'⟩ := h'
  refine ⟨b && b', by cases b <;> rfl, ?_⟩
  rw [Bool.and_eq_true, hb, hb']

theorem either (h : Decides test p) (h' : Decides other q) :
    Decides (Count.either test other) (p ∨ q) := by
  obtain ⟨b, rfl, hb⟩ := h
  obtain ⟨b', rfl, hb'⟩ := h'
  refine ⟨b || b', by cases b <;> rfl, ?_⟩
  rw [Bool.or_eq_true, hb, hb']

/-- A test with a result of its own, or what comes after it. -/
theorem choose [Decidable q] (h : Decides test p) (hpq : p ↔ q) {k l : Nat}
    {rest : Except Fault Nat} (hrest : rest = .ok l) :
    (do if ← test then return k else rest) = .ok (if q then k else l) := by
  obtain ⟨b, rfl, hb⟩ := h.congr hpq
  show (if b = true then .ok k else rest) = _
  by_cases hq : q
  · rw [if_pos hq, if_pos (hb.mpr hq)]
  · rw [if_neg hq, if_neg (mt hb.mp hq), hrest]

variable (n m low high : Int)

theorem equals : Decides ((int n).equals m) (n = m) :=
  ⟨_, equals_int n m, beq_iff_eq⟩

theorem isAtLeast : Decides ((int n).isAtLeast m) (m ≤ n) :=
  ⟨_, isAtLeast_eq rfl m, by rw [decide_eq_true_eq]; exact Int.cast_le⟩

theorem isAbove : Decides ((int n).isAbove m) (m < n) :=
  ⟨_, isAbove_eq rfl m, by rw [decide_eq_true_eq]; exact Int.cast_lt⟩

theorem isAtMost : Decides ((int n).isAtMost m) (n ≤ m) :=
  ⟨_, isAtMost_eq rfl m, by rw [decide_eq_true_eq]; exact Int.cast_le⟩

theorem isBelow : Decides ((int n).isBelow m) (n < m) :=
  ⟨_, isBelow_eq rfl m, by rw [decide_eq_true_eq]; exact Int.cast_lt⟩

theorem isWithin : Decides ((int n).isWithin low high) (low ≤ n ∧ n ≤ high) :=
  (isAtLeast n low).both (isAtMost n high)

theorem equalsEither : Decides ((int n).equalsEither low high) (n = low ∨ n = high) :=
  (equals n low).either (equals n high)

end Decides

end Count

/-! ## Rows and rules -/

/-- Both endings have the sign of the number, and the shorter one is the ending of the longer. -/
theorem endings (n : Int) :
    (n.tmod 10 = n.tmod 100 % 10 ∧ 0 ≤ n.tmod 100) ∨ (n.tmod 10 ≤ 0 ∧ n.tmod 100 ≤ 0) := by
  rcases le_total 0 n with h | h
  · rw [Int.tmod_eq_emod_of_nonneg h, Int.tmod_eq_emod_of_nonneg h]
    omega
  · have hneg (m : Int) (hm : 0 < m) : n.tmod m ≤ 0 := by
      have := Int.tmod_nonneg m (Int.neg_nonneg_of_nonpos h)
      rw [Int.neg_tmod] at this
      omega
    exact .inr ⟨hneg 10 (by decide), hneg 100 (by decide)⟩

namespace PluralFamily

open Phrasebook.Count

/-- Of the endings from ten to nineteen, those with a last digit from two to four are the ones from
twelve to fourteen. -/
theorem few_iff (n : Int) :
    (2 ≤ n.tmod 10 ∧ n.tmod 10 ≤ 4) ∧ (n.tmod 100 < 10 ∨ 20 ≤ n.tmod 100) ↔
      2 ≤ n.tmod 10 ∧ n.tmod 10 ≤ 4 ∧ ¬ (12 ≤ n.tmod 100 ∧ n.tmod 100 ≤ 14) := by
  rcases endings n with h | h <;> omega

/-- The rule of a family gives an integer the position in its row. -/
theorem position_int (family : PluralFamily) (n : Int) :
    family.position (.int n) = .ok (family.row.position n) := by
  cases family with
  | invariable => rfl
  | oneOther => exact (Decides.equals n 1).choose Iff.rfl rfl
  | zeroOneOther => exact (Decides.equalsEither n 0 1).choose Iff.rfl rfl
  | slavic =>
    refine ((Decides.equals (n.tmod 10) 1).both (Decides.equals (n.tmod 100) 11).not).choose
      Iff.rfl ?_
    refine ((Decides.isWithin (n.tmod 10) 2 4).both
      ((Decides.isBelow (n.tmod 100) 10).either (Decides.isAtLeast (n.tmod 100) 20))).choose ?_ rfl
    exact few_iff n
  | czech =>
    refine (Decides.equals n 1).choose Iff.rfl ?_
    exact (Decides.isWithin n 2 4).choose Iff.rfl rfl
  | irish =>
    refine (Decides.equals n 1).choose Iff.rfl ?_
    exact (Decides.equals n 2).choose Iff.rfl rfl
  | lithuanian =>
    refine ((Decides.equals (n.tmod 10) 1).both (Decides.equals (n.tmod 100) 11).not).choose
      Iff.rfl ?_
    refine ((Decides.isAtLeast (n.tmod 10) 2).both
      ((Decides.isBelow (n.tmod 100) 10).either (Decides.isAtLeast (n.tmod 100) 20))).choose ?_ rfl
    omega
  | slovenian =>
    refine (Decides.equals (n.tmod 100) 1).choose Iff.rfl ?_
    refine (Decides.equals (n.tmod 100) 2).choose Iff.rfl ?_
    refine (Decides.equalsEither (n.tmod 100) 3 4).choose ?_ rfl
    omega
  | macedonian => exact (Decides.equals (n.tmod 10) 1).choose Iff.rfl rfl
  | maltese =>
    refine (Decides.equals n 1).choose Iff.rfl ?_
    refine ((Decides.equals n 0).either
      ((Decides.isAbove (n.tmod 100) 1).both (Decides.isBelow (n.tmod 100) 11))).choose Iff.rfl ?_
    exact ((Decides.isAbove (n.tmod 100) 10).both
      (Decides.isBelow (n.tmod 100) 20)).choose Iff.rfl rfl
  | latvian =>
    refine (Decides.equals n 0).choose Iff.rfl ?_
    exact ((Decides.equals (n.tmod 10) 1).both (Decides.equals (n.tmod 100) 11).not).choose
      Iff.rfl rfl
  | polish =>
    refine (Decides.equals n 1).choose Iff.rfl ?_
    refine ((Decides.isWithin (n.tmod 10) 2 4).both
      ((Decides.isBelow (n.tmod 100) 12).either (Decides.isAbove (n.tmod 100) 14))).choose ?_ rfl
    omega
  | welsh =>
    refine (Decides.equals n 1).choose Iff.rfl ?_
    refine (Decides.equals n 2).choose Iff.rfl ?_
    exact (Decides.equalsEither n 8 11).choose Iff.rfl rfl
  | romanian =>
    refine (Decides.equals n 1).choose Iff.rfl ?_
    exact ((Decides.equals n 0).either
      ((Decides.isAbove (n.tmod 100) 0).both (Decides.isBelow (n.tmod 100) 20))).choose Iff.rfl rfl
  | arabic =>
    refine (Decides.equals n 0).choose Iff.rfl ?_
    refine (Decides.equals n 1).choose Iff.rfl ?_
    refine (Decides.equals n 2).choose Iff.rfl ?_
    refine (Decides.isWithin n 3 10).choose Iff.rfl ?_
    exact (Decides.isWithin n 11 99).choose Iff.rfl rfl

theorem keys_row (family : PluralFamily) : family.row.keys = family.languages := by
  cases family <;> rfl

/-- A key in no row belongs to no family, and its rule is that of a single form. -/
theorem position_ofKey (key : String) (n : Int) :
    (ofKey key).row.position n = tabledPosition key n := by
  have hrow : pluralTable.find? (fun row => row.keys.contains key) =
      (all.find? fun family => family.languages.contains key).map row := by
    rw [pluralTable, List.find?_map]
    refine congrArg (fun p => (all.find? p).map row) (funext fun family => ?_)
    rw [Function.comp_apply, keys_row]
  rw [tabledPosition, hrow, ofKey]
  cases all.find? fun family => family.languages.contains key <;> rfl

end PluralFamily

/-- In every locale every integer has the position that the table gives it under the key of the
locale. -/
theorem integer_position_is_tabled (code : String) (n : Int) :
    pluralPosition (.int n) code =
      .ok (tabledPosition (Locale.pluralKey PluralFamily.knownKeys code) n) := by
  rw [pluralPosition, PluralFamily.position_int, PluralFamily.ofLocale,
    PluralFamily.position_ofKey]

end Phrasebook
