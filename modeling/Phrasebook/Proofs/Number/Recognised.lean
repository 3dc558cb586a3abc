import Phrasebook.Proofs.Number.Written

/-! What is read as a finite decimal was written as one. A reader splits its text into parts of the
grammar, in plain digits; and a text whose plain form is a part of the grammar is itself that part,
since bringing it into plain form changes digits only and keeps their values. -/

namespace Phrasebook.Number

open Text

/-! ## Plain form -/

theorem digitValue?_of_isPlainDigit {c : Char} (h : isPlainDigit c = true) :
    digitValue? c = some (c.toNat - 48) := by
  simp only [isPlainDigit, Bool.and_eq_true, decide_eq_true_eq, Char.le_def,
    UInt32.le_iff_toNat_le] at h
  have hlow : 48 ≤ c.toNat := h.1
  have hhigh : c.toNat ≤ 57 := h.2
  have hfirst : zeroDigits = 48 :: zeroDigits.tail := rfl
  rw [digitValue?, hfirst, List.find?_cons_of_pos, Option.map_some]
  simp only [Bool.and_eq_true, decide_eq_true_eq]
  omega

/-- Plain digits have the values that the reader gives them. -/
theorem digitsOf_plain {run : List Char} (h : ∀ c ∈ run, isPlainDigit c = true) :
    DigitsOf run (run.map fun c => c.toNat - 48) := by
  rw [DigitsOf, List.map_map]
  exact List.map_congr_left fun c hc => digitValue?_of_isPlainDigit (h c hc)

theorem digitValue?_digitChar {d : Nat} (h : d < 10) : digitValue? (digitChar d) = some d := by
  have hall : ∀ d < 10, digitValue? (digitChar d) = some d := by decide
  exact hall d h

/-- The plain form of digits has their values. -/
theorem digitsOf_plainDigits {cs : List Char} {ds : List Nat} :
    DigitsOf (plainDigits cs) ds ↔ DigitsOf cs ds := by
  rw [DigitsOf, DigitsOf, plainDigits, List.map_map]
  suffices h : cs.map (digitValue? ∘ _) = cs.map digitValue? by rw [h]
  refine List.map_congr_left fun c _ => ?_
  dsimp only [Function.comp_apply]
  cases hc : digitValue? c with
  | some d => exact digitValue?_digitChar (digitValue?_lt hc)
  | none => exact hc

theorem plainDigits_eq_nil {cs : List Char} (h : plainDigits cs = []) : cs = [] :=
  List.map_eq_nil_iff.mp h

/-- A character of the plain form that is no digit stands in the text itself. -/
theorem exists_of_plainDigits_eq_cons {cs rest : List Char} {c : Char}
    (h : plainDigits cs = c :: rest) (hc : isPlainDigit c = false) :
    ∃ cs', cs = c :: cs' ∧ plainDigits cs' = rest := by
  obtain ⟨c', cs', rfl, hplain, hrest⟩ := List.map_eq_cons_iff.mp h
  refine ⟨cs', ?_, hrest⟩
  split at hplain
  · rename_i d hd
    rw [← hplain, isPlainDigit_digitChar (digitValue?_lt hd)] at hc
    cases hc
  · rw [hplain]

theorem exists_of_plainDigits_eq_append {cs left right : List Char}
    (h : plainDigits cs = left ++ right) :
    ∃ cs₁ cs₂, cs = cs₁ ++ cs₂ ∧ plainDigits cs₁ = left ∧ plainDigits cs₂ = right :=
  List.map_eq_append_iff.mp h

/-! ## Parts written in any digits -/

theorem SignWritten.of_plainDigits {negative : Bool} {cs : List Char}
    (h : SignWritten negative (plainDigits cs)) : SignWritten negative cs := by
  generalize hsign : plainDigits cs = sign at h
  cases h with
  | absent =>
    obtain rfl := plainDigits_eq_nil hsign
    exact .absent
  | plus =>
    obtain ⟨cs', rfl, hnil⟩ := exists_of_plainDigits_eq_cons hsign (by decide)
    obtain rfl := plainDigits_eq_nil hnil
    exact .plus
  | minus =>
    obtain ⟨cs', rfl, hnil⟩ := exists_of_plainDigits_eq_cons hsign (by decide)
    obtain rfl := plainDigits_eq_nil hnil
    exact .minus

theorem MantissaWritten.of_plainDigits {ds fs : List Nat} {cs : List Char}
    (h : MantissaWritten ds fs (plainDigits cs)) : MantissaWritten ds fs cs := by
  generalize hmantissa : plainDigits cs = mantissa at h
  cases h with
  | whole hdigits hne =>
    rw [← hmantissa] at hdigits
    exact .whole (digitsOf_plainDigits.mp hdigits) hne
  | pointed hdigits hfraction hne =>
    obtain ⟨cs₁, cs₂, rfl, rfl, hrest⟩ := exists_of_plainDigits_eq_append hmantissa
    obtain ⟨cs₃, rfl, rfl⟩ := exists_of_plainDigits_eq_cons hrest (by decide)
    exact .pointed (digitsOf_plainDigits.mp hdigits) (digitsOf_plainDigits.mp hfraction) hne

theorem ExponentWritten.of_plainDigits {e : Int} {cs : List Char}
    (h : ExponentWritten e (plainDigits cs)) : ExponentWritten e cs := by
  generalize hexponent : plainDigits cs = exponent at h
  cases h with
  | absent =>
    obtain rfl := plainDigits_eq_nil hexponent
    exact .absent
  | @marked mark _ _ _ _ hmark hsign hdigits hne =>
    have hletter : isPlainDigit mark = false := by rcases hmark with rfl | rfl <;> decide
    obtain ⟨cs₁, rfl, hrest⟩ := exists_of_plainDigits_eq_cons hexponent hletter
    obtain ⟨cs₂, cs₃, rfl, rfl, rfl⟩ := exists_of_plainDigits_eq_append hrest
    exact .marked hmark hsign.of_plainDigits (digitsOf_plainDigits.mp hdigits) hne

theorem Literal.Written.of_plainDigits {l : Literal} {cs : List Char}
    (h : l.Written (plainDigits cs)) : l.Written cs := by
  generalize hliteral : plainDigits cs = text at h
  cases h with
  | parts hsign hmantissa hexponent =>
    obtain ⟨cs₁, cs₂, rfl, rfl, hrest⟩ := exists_of_plainDigits_eq_append hliteral
    obtain ⟨cs₃, cs₄, rfl, rfl, rfl⟩ := exists_of_plainDigits_eq_append hrest
    exact .parts hsign.of_plainDigits hmantissa.of_plainDigits hexponent.of_plainDigits

/-! ## What a reader takes -/

theorem exists_of_readSign {negative : Bool} {cs rest : List Char}
    (h : readSign cs = (negative, rest)) :
    ∃ sign, cs = sign ++ rest ∧ SignWritten negative sign := by
  unfold readSign at h
  split at h
  · cases h
    exact ⟨['-'], rfl, .minus⟩
  · cases h
    exact ⟨['+'], rfl, .plus⟩
  · cases h
    exact ⟨[], rfl, .absent⟩

theorem exponentWritten_of_readExponent {e : Int} {cs : List Char} (h : readExponent cs = some e) :
    ExponentWritten e cs := by
  cases cs with
  | nil =>
    obtain rfl := Option.some.inj h
    exact .absent
  | cons mark rest =>
    rcases hread : readSign rest with ⟨negative, digits⟩
    obtain ⟨sign, rfl, hsign⟩ := exists_of_readSign hread
    rw [readExponent, hread] at h
    dsimp only at h
    split at h
    · rename_i hform
      obtain rfl := Option.some.inj h
      simp only [Bool.and_eq_true, Bool.or_eq_true, decide_eq_true_eq, List.all_eq_true,
        Bool.not_eq_true', List.isEmpty_eq_false_iff] at hform
      obtain ⟨⟨hmark, hne⟩, hdigits⟩ := hform
      exact .marked hmark hsign (digitsOf_plain hdigits) (by simpa using hne)
    · cases h

theorem isPlainDigit_of_mem_takeWhile (cs : List Char) :
    ∀ c ∈ cs.takeWhile isPlainDigit, isPlainDigit c = true :=
  List.all_eq_true.mp List.all_takeWhile

/-- The digits that are taken make up a mantissa, if there are any. -/
theorem exists_of_readMantissa {cs whole fraction rest : List Char}
    (h : readMantissa cs = (whole, fraction, rest)) (hne : whole ++ fraction ≠ []) :
    ∃ taken, cs = taken ++ rest ∧ MantissaWritten (whole.map fun c => c.toNat - 48)
      (fraction.map fun c => c.toNat - 48) taken := by
  have hsplit : cs.takeWhile isPlainDigit ++ cs.dropWhile isPlainDigit = cs :=
    List.takeWhile_append_dropWhile
  have hwhole := digitsOf_plain (isPlainDigit_of_mem_takeWhile cs)
  unfold readMantissa at h
  dsimp only at h
  split at h
  · rename_i after hpoint
    cases h
    refine ⟨cs.takeWhile isPlainDigit ++ '.' :: after.takeWhile isPlainDigit, ?_, ?_⟩
    · rw [List.append_assoc, List.cons_append, List.takeWhile_append_dropWhile, ← hpoint, hsplit]
    · refine .pointed hwhole (digitsOf_plain (isPlainDigit_of_mem_takeWhile after)) ?_
      rwa [← List.map_append, Ne, List.map_eq_nil_iff]
  · cases h
    rw [List.append_nil] at hne
    refine ⟨cs.takeWhile isPlainDigit, hsplit.symm, .whole hwhole ?_⟩
    rwa [Ne, List.map_eq_nil_iff]

theorem Literal.written_of_readUnsigned? {negative : Bool} {sign cs : List Char} {l : Literal}
    (hsign : SignWritten negative sign) (h : readUnsigned? negative cs = some l) :
    l.Written (sign ++ cs) := by
  rcases hread : readMantissa cs with ⟨whole, fraction, rest⟩
  rw [readUnsigned?, hread] at h
  dsimp only at h
  split at h
  · cases h
  · rename_i hne
    obtain ⟨e, hexponent, rfl⟩ := Option.map_eq_some_iff.mp h
    obtain ⟨taken, rfl, hmantissa⟩ := exists_of_readMantissa hread (by simpa using hne)
    have hwritten :=
      Literal.Written.parts hsign hmantissa (exponentWritten_of_readExponent hexponent)
    rw [← List.map_append, List.length_map] at hwritten
    exact hwritten

namespace Decimal

/-- A finite decimal has no name. -/
theorem bind_of_readUnsigned? {negative : Bool} {cs : List Char} {x : Decimal}
    (h : readUnsigned? negative cs = some x) (hx : x.isFinite = true) :
    (Literal.readUnsigned? negative cs).bind ofLiteral? = some x := by
  have hnan : ∀ signaling payload, nanOf? negative signaling payload ≠ some x := by
    intro signaling payload hnan
    unfold nanOf? at hnan
    split at hnan
    · obtain rfl := Option.some.inj hnan
      cases hx
    · cases hnan
  unfold readUnsigned? at h
  split at h
  · obtain rfl := Option.some.inj h
    cases hx
  · obtain rfl := Option.some.inj h
    cases hx
  · exact absurd h (hnan _ _)
  · exact absurd h (hnan _ _)
  · exact h

/-- What is read as a finite decimal writes a literal. -/
theorem exists_writtenIn {cs : List Char} {x : Decimal} (h : read? cs = some x)
    (hx : x.isFinite = true) : ∃ l : Literal, l.WrittenIn cs ∧ ofLiteral? l = some x := by
  rcases hsigned : readSign (plainDigits ((Text.trim cs).filter (· ≠ '_'))) with ⟨negative, rest⟩
  rw [read?, hsigned] at h
  obtain ⟨l, hread, hl⟩ := Option.bind_eq_some_iff.mp (bind_of_readUnsigned? h hx)
  obtain ⟨sign, hsplit, hsign⟩ := exists_of_readSign hsigned
  have hwritten := Literal.written_of_readUnsigned? hsign hread
  rw [← hsplit] at hwritten
  obtain ⟨front, back, hfront, hback, hcs⟩ := exists_trim cs
  exact ⟨l, ⟨front, Text.trim cs, back, hcs, hfront, hback, hwritten.of_plainDigits⟩, hl⟩

end Decimal

end Phrasebook.Number
