import Phrasebook.Text.Blank
import Phrasebook.Text.Digit
import Phrasebook.Text.Letter

/-! Runs of characters at the start of a text: white space and decimal digits. A reader takes a run
as far as it goes, so what it takes is known as soon as the text after the run does not go on with
it. White space is never a digit and in no word, so numbers and words end where it begins. -/

namespace Phrasebook.Text

/-- A text that does not begin with a character of a class. -/
def Stops (p : Char → Bool) (cs : List Char) : Prop := ∀ c ∈ cs.head?, p c = false

/-- White space, possibly none. -/
def IsSpace (cs : List Char) : Prop := ∀ c ∈ cs, isBlank c = true

/-- Decimal digits of any script, possibly none, with their values. -/
def DigitsOf (cs : List Char) (ds : List Nat) : Prop := cs.map digitValue? = ds.map some

instance (cs : List Char) : Decidable (IsSpace cs) :=
  List.decidableBAll (fun c => isBlank c = true) cs

instance (cs : List Char) (ds : List Nat) : Decidable (DigitsOf cs ds) :=
  inferInstanceAs (Decidable (cs.map digitValue? = ds.map some))

/-! ## Runs -/

theorem stops_nil (p : Char → Bool) : Stops p [] := by
  intro c hc
  cases hc

theorem stops_cons {p : Char → Bool} {c : Char} {cs : List Char} :
    Stops p (c :: cs) ↔ p c = false := by
  simp [Stops]

/-- A text that starts outside a class, if at all, does so whatever follows. -/
theorem Stops.append {p : Char → Bool} {cs rest : List Char} (h : Stops p cs) (hne : cs ≠ []) :
    Stops p (cs ++ rest) := by
  obtain ⟨c, cs, rfl⟩ := List.exists_cons_of_ne_nil hne
  exact stops_cons.mpr (stops_cons.mp h)

theorem stops_dropWhile (p : Char → Bool) (cs : List Char) : Stops p (cs.dropWhile p) := by
  induction cs with
  | nil => exact stops_nil p
  | cons c cs ih =>
    by_cases hc : p c = true
    · simpa [List.dropWhile_cons, hc] using ih
    · simpa [List.dropWhile_cons, hc] using stops_cons.mpr (Bool.eq_false_iff.mpr hc)

theorem dropWhile_of_stops {p : Char → Bool} {cs : List Char} (h : Stops p cs) :
    cs.dropWhile p = cs := by
  cases cs with
  | nil => rfl
  | cons c cs => simp [stops_cons.mp h]

theorem takeWhile_of_stops {p : Char → Bool} {cs : List Char} (h : Stops p cs) :
    cs.takeWhile p = [] := by
  cases cs with
  | nil => rfl
  | cons c cs => simp [stops_cons.mp h]

theorem takeWhile_run {p : Char → Bool} {run rest : List Char} (hrun : ∀ c ∈ run, p c = true)
    (hrest : Stops p rest) : (run ++ rest).takeWhile p = run := by
  rw [List.takeWhile_append_of_pos hrun, takeWhile_of_stops hrest, List.append_nil]

theorem dropWhile_run {p : Char → Bool} {run rest : List Char} (hrun : ∀ c ∈ run, p c = true)
    (hrest : Stops p rest) : (run ++ rest).dropWhile p = rest := by
  rw [List.dropWhile_append_of_pos hrun, dropWhile_of_stops hrest]

theorem trimStart_space {pad rest : List Char} (hpad : IsSpace pad) (hrest : Stops isBlank rest) :
    trimStart (pad ++ rest) = rest := dropWhile_run hpad hrest

theorem isSpace_takeWhile (cs : List Char) : IsSpace (cs.takeWhile isBlank) := by
  intro c hc
  exact List.all_eq_true.mp List.all_takeWhile c hc

/-- A text is white space and then a text that begins with none. -/
theorem exists_space (cs : List Char) :
    ∃ pad, IsSpace pad ∧ cs = pad ++ trimStart cs ∧ Stops isBlank (trimStart cs) :=
  ⟨cs.takeWhile isBlank, isSpace_takeWhile cs, (takeWhile_append_trimStart cs).symm,
    stops_dropWhile _ _⟩

/-- What is dropped around a text is white space. -/
theorem exists_trim (cs : List Char) :
    ∃ front back, IsSpace front ∧ IsSpace back ∧ cs = front ++ (trim cs ++ back) := by
  obtain ⟨front, hfront, hcs, -⟩ := exists_space cs
  obtain ⟨back, hback, hrest, -⟩ := exists_space (trimStart cs).reverse
  refine ⟨front, back.reverse, hfront, fun c hc => hback c (List.mem_reverse.mp hc), ?_⟩
  rw [trim, trimEnd, ← List.reverse_append, ← hrest, List.reverse_reverse]
  exact hcs

/-! ## Digits -/

theorem DigitsOf.isDecimalDigit {cs : List Char} {ds : List Nat} (h : DigitsOf cs ds) :
    ∀ c ∈ cs, isDecimalDigit c = true := by
  intro c hc
  have hmem : digitValue? c ∈ ds.map some := h ▸ List.mem_map_of_mem hc
  obtain ⟨d, -, hd⟩ := List.mem_map.mp hmem
  simp [Text.isDecimalDigit, ← hd]

theorem DigitsOf.filterMap {cs : List Char} {ds : List Nat} (h : DigitsOf cs ds) :
    cs.filterMap digitValue? = ds := by
  have hid : cs.filterMap digitValue? = (cs.map digitValue?).filterMap id := by
    rw [List.filterMap_map]
    rfl
  rw [hid, h, List.filterMap_map]
  simp

/-- Characters that are all digits have values. -/
theorem digitsOf_filterMap {cs : List Char} (h : ∀ c ∈ cs, isDecimalDigit c = true) :
    DigitsOf cs (cs.filterMap digitValue?) := by
  induction cs with
  | nil => rfl
  | cons c cs ih =>
    obtain ⟨d, hd⟩ := Option.isSome_iff_exists.mp (h c List.mem_cons_self)
    have htail := ih fun e he => h e (List.mem_cons_of_mem c he)
    unfold DigitsOf at htail ⊢
    rw [List.filterMap_cons_some hd, List.map_cons, List.map_cons, hd, htail]

/-! ## White space is no digit -/

/-- The ranges that switch points bound. -/
def ranges : List Nat → List (Nat × Nat)
  | low :: high :: later => (low, high) :: ranges later
  | _ => []

/-- A code point with a property given by an even number of switch points lies in a range. -/
theorem exists_range {points : List Nat} {code : Nat} (heven : points.length % 2 = 0)
    (h : switched points code = true) :
    ∃ range ∈ ranges points, range.1 ≤ code ∧ code < range.2 := by
  induction points using ranges.induct with
  | case1 low high later ih =>
    by_cases hlow : code < low
    · rw [switched_of_lt _ hlow] at h
      cases h
    rw [switched_of_ge _ (Nat.not_lt.mp hlow)] at h
    by_cases hhigh : code < high
    · exact ⟨(low, high), List.mem_cons_self, Nat.not_lt.mp hlow, hhigh⟩
    rw [switched_of_ge _ (Nat.not_lt.mp hhigh), Bool.not_not] at h
    simp only [List.length_cons] at heven
    obtain ⟨range, hmem, hrange⟩ := ih (by omega) h
    exact ⟨range, List.mem_cons_of_mem _ hmem, hrange⟩
  | case2 points hpoints =>
    match points, hpoints with
    | [], _ => cases h
    | [point], _ => simp at heven
    | low :: high :: later, hpoints => exact absurd rfl (hpoints low high later)

/-- No run of ten digits meets a range of white space. -/
theorem digits_apart_from_blanks :
    (ranges blankSwitches).all (fun range => zeroDigits.all fun low =>
      decide (range.2 ≤ low) || decide (low + 10 ≤ range.1)) = true := by decide

theorem not_isDecimalDigit_of_isBlank {c : Char} (h : isBlank c = true) :
    isDecimalDigit c = false := by
  obtain ⟨range, hmem, hlow, hhigh⟩ := exists_range (by decide) h
  have hapart := List.all_eq_true.mp digits_apart_from_blanks range hmem
  have hfind : zeroDigits.find? (fun low => low ≤ c.toNat && c.toNat < low + 10) = none := by
    apply List.find?_eq_none.mpr
    intro low hmemLow
    have := List.all_eq_true.mp hapart low hmemLow
    simp only [Bool.or_eq_true, decide_eq_true_eq, Bool.and_eq_true] at this ⊢
    omega
  simp [isDecimalDigit, digitValue?, hfind]

theorem not_isBlank_of_isDecimalDigit {c : Char} (h : isDecimalDigit c = true) :
    isBlank c = false := by
  cases hb : isBlank c with
  | false => rfl
  | true =>
    rw [not_isDecimalDigit_of_isBlank hb] at h
    cases h

/-- A number ends at white space, or at what follows it. -/
theorem stops_digit_after_space {pad rest : List Char} (hpad : IsSpace pad)
    (hrest : Stops isDecimalDigit rest) : Stops isDecimalDigit (pad ++ rest) := by
  cases pad with
  | nil => exact hrest
  | cons c pad =>
    exact stops_cons.mpr (not_isDecimalDigit_of_isBlank (hpad c List.mem_cons_self))

/-! ## White space is in no word -/

/-- No code point of white space belongs to a letter or a numeral. -/
theorem words_apart_from_blanks :
    (ranges blankSwitches).all (fun range =>
      (List.range' range.1 (range.2 - range.1)).all fun code =>
        !switched letterSwitches code && !switched numeralSwitches code) = true := by decide +kernel

theorem not_isWord_of_isBlank {c : Char} (h : isBlank c = true) : isWord c = false := by
  obtain ⟨range, hmem, hlow, hhigh⟩ := exists_range (by decide) h
  have hrange := List.all_eq_true.mp words_apart_from_blanks range hmem
  have hcode : c.toNat ∈ List.range' range.1 (range.2 - range.1) := by
    rw [List.mem_range'_1]
    omega
  have hword := List.all_eq_true.mp hrange _ hcode
  have hunderscore : c ≠ '_' := by
    rintro rfl
    exact absurd h (by decide)
  simp only [Bool.and_eq_true, Bool.not_eq_true'] at hword
  simp [isWord, isLetter, hunderscore, hword.1, hword.2]

end Phrasebook.Text
