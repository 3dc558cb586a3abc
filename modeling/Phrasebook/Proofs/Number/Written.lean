import Phrasebook.Number.Decimal
import Phrasebook.Proofs.Text.Run

/-! Decimal numbers as they are written: an optional sign, digits with an optional point among
them, and an optional exponent, in digits of any script. White space may stand around a number and
underscores anywhere in it. Every text so written is read as the literal that it writes. -/

namespace Phrasebook.Number

open Text

/-- A sign, which may be left out. -/
inductive SignWritten : Bool → List Char → Prop
  | absent : SignWritten false []
  | plus : SignWritten false ['+']
  | minus : SignWritten true ['-']

/-- At least one digit, with an optional point, by the values before and after the point. -/
inductive MantissaWritten : List Nat → List Nat → List Char → Prop
  | whole {ds : List Nat} {cs : List Char} (hdigits : DigitsOf cs ds) (hne : ds ≠ []) :
      MantissaWritten ds [] cs
  | pointed {ds fs : List Nat} {cs cs' : List Char} (hdigits : DigitsOf cs ds)
      (hfraction : DigitsOf cs' fs) (hne : ds ++ fs ≠ []) :
      MantissaWritten ds fs (cs ++ '.' :: cs')

/-- An exponent, which may be left out. -/
inductive ExponentWritten : Int → List Char → Prop
  | absent : ExponentWritten 0 []
  | marked {mark : Char} {negative : Bool} {ds : List Nat} {sign cs : List Char}
      (hmark : mark = 'e' ∨ mark = 'E') (hsign : SignWritten negative sign)
      (hdigits : DigitsOf cs ds) (hne : ds ≠ []) :
      ExponentWritten (signed negative (ofDigits ds)) (mark :: (sign ++ cs))

inductive Literal.Written : Literal → List Char → Prop
  | parts {negative : Bool} {ds fs : List Nat} {e : Int} {sign cs cs' : List Char}
      (hsign : SignWritten negative sign) (hmantissa : MantissaWritten ds fs cs)
      (hexponent : ExponentWritten e cs') :
      Written { negative, coefficient := ofDigits (ds ++ fs), exponent := e - fs.length }
        (sign ++ (cs ++ cs'))

/-! ## Plain digits -/

theorem digitValue?_lt_of_digitsOf {cs : List Char} {ds : List Nat} (h : DigitsOf cs ds) :
    ∀ d ∈ ds, d < 10 := by
  intro d hd
  have hmem : some d ∈ cs.map digitValue? := h ▸ List.mem_map_of_mem hd
  obtain ⟨c, -, hc⟩ := List.mem_map.mp hmem
  exact digitValue?_lt hc

theorem plainDigits_append (cs cs' : List Char) :
    plainDigits (cs ++ cs') = plainDigits cs ++ plainDigits cs' :=
  List.map_append

theorem plainDigits_digits {cs : List Char} {ds : List Nat} (h : DigitsOf cs ds) :
    plainDigits cs = ds.map digitChar := by
  induction cs generalizing ds with
  | nil =>
    cases ds with
    | nil => rfl
    | cons d ds => cases h
  | cons c cs ih =>
    cases ds with
    | nil => cases h
    | cons d ds =>
      obtain ⟨hc, hcs⟩ := List.cons.inj h
      rw [List.map_cons, ← ih hcs, plainDigits, List.map_cons, hc]
      rfl

theorem plainDigits_sign {negative : Bool} {sign : List Char} (h : SignWritten negative sign) :
    plainDigits sign = sign := by
  cases h <;> decide

theorem isPlainDigit_digitChar {d : Nat} (h : d < 10) : isPlainDigit (digitChar d) = true := by
  have hall : ∀ d < 10, isPlainDigit (digitChar d) = true := by decide
  exact hall d h

theorem ofPlainDigits_digits {ds : List Nat} (h : ∀ d ∈ ds, d < 10) :
    ofPlainDigits (ds.map digitChar) = ofDigits ds := by
  have hall : ∀ d < 10, (digitChar d).toNat - 48 = d := by decide
  have hid : (ds.map digitChar).map (fun c => c.toNat - 48) = ds := by
    rw [List.map_map]
    exact (List.map_congr_left fun d hd => hall d (h d hd)).trans (List.map_id ds)
  rw [ofPlainDigits, hid]

theorem isPlainDigit_of_mem {ds : List Nat} (h : ∀ d ∈ ds, d < 10) :
    ∀ c ∈ ds.map digitChar, isPlainDigit c = true := by
  intro c hc
  obtain ⟨d, hd, rfl⟩ := List.mem_map.mp hc
  exact isPlainDigit_digitChar (h d hd)

/-! ## Reading -/

/-- A character that a number without its sign can begin with: neither a sign nor the first letter
of a name. -/
def Begins (c : Char) : Prop :=
  c ≠ '-' ∧ c ≠ '+' ∧ c.toLower ≠ 'i' ∧ c.toLower ≠ 'n' ∧ c.toLower ≠ 's'

instance (c : Char) : Decidable (Begins c) :=
  inferInstanceAs (Decidable (_ ∧ _ ∧ _ ∧ _ ∧ _))

theorem begins_digitChar {d : Nat} (h : d < 10) : Begins (digitChar d) := by
  have hall : ∀ d < 10, Begins (digitChar d) := by decide
  exact hall d h

theorem readSign_written {negative : Bool} {sign : List Char} (h : SignWritten negative sign)
    {c : Char} (hc : Begins c) (rest : List Char) :
    readSign (sign ++ c :: rest) = (negative, c :: rest) := by
  cases h with
  | absent =>
    obtain ⟨hminus, hplus, -⟩ := hc
    unfold readSign
    split
    · rename_i heq
      exact absurd (List.cons.inj heq).1 hminus
    · rename_i heq
      exact absurd (List.cons.inj heq).1 hplus
    · rfl
  | plus => rfl
  | minus => rfl

theorem exists_begins_digits {ds : List Nat} (hlt : ∀ d ∈ ds, d < 10) (hne : ds ≠ []) :
    ∃ c tail, ds.map digitChar = c :: tail ∧ Begins c := by
  obtain ⟨d, ds, rfl⟩ := List.exists_cons_of_ne_nil hne
  exact ⟨digitChar d, ds.map digitChar, rfl, begins_digitChar (hlt d List.mem_cons_self)⟩

theorem readExponent_written {e : Int} {cs : List Char} (h : ExponentWritten e cs) :
    readExponent (plainDigits cs) = some e := by
  cases h with
  | absent => rfl
  | @marked mark negative ds sign cs hmark hsign hdigits hne =>
    have hlt := digitValue?_lt_of_digitsOf hdigits
    obtain ⟨c, tail, hcons, hbegins⟩ := exists_begins_digits hlt hne
    have hplain : plainDigits (mark :: (sign ++ cs)) = mark :: (sign ++ ds.map digitChar) := by
      have hmarkPlain : plainDigits [mark] = [mark] := by
        rcases hmark with rfl | rfl <;> decide
      rw [← List.singleton_append, plainDigits_append, hmarkPlain, plainDigits_append,
        plainDigits_sign hsign, plainDigits_digits hdigits]
      rfl
    have hsigned : readSign (sign ++ ds.map digitChar) = (negative, ds.map digitChar) := by
      rw [hcons, readSign_written hsign hbegins]
    have hall : (ds.map digitChar).all isPlainDigit = true :=
      List.all_eq_true.mpr (isPlainDigit_of_mem hlt)
    have hnonempty : (ds.map digitChar).isEmpty = false := by rw [hcons]; rfl
    rw [hplain, readExponent, hsigned]
    simp only [hall, hnonempty, ofPlainDigits_digits hlt]
    rcases hmark with rfl | rfl <;> rfl

/-- What follows the mantissa ends it. -/
theorem stops_exponent {e : Int} {cs : List Char} (h : ExponentWritten e cs) :
    Stops isPlainDigit (plainDigits cs) ∧ (plainDigits cs).head? ≠ some '.' := by
  cases h with
  | absent => exact ⟨stops_nil _, by decide⟩
  | @marked mark negative ds sign cs hmark hsign hdigits hne =>
    rcases hmark with rfl | rfl
    · exact ⟨stops_cons.mpr (by decide), by simp [plainDigits]; decide⟩
    · exact ⟨stops_cons.mpr (by decide), by simp [plainDigits]; decide⟩

theorem readMantissa_written {ds fs : List Nat} {cs rest : List Char}
    (h : MantissaWritten ds fs cs) (hrest : Stops isPlainDigit rest)
    (hpoint : rest.head? ≠ some '.') :
    readMantissa (plainDigits cs ++ rest) = (ds.map digitChar, fs.map digitChar, rest) := by
  cases h with
  | whole hdigits hne =>
    have hrun := isPlainDigit_of_mem (digitValue?_lt_of_digitsOf hdigits)
    rw [plainDigits_digits hdigits, readMantissa, takeWhile_run hrun hrest,
      dropWhile_run hrun hrest]
    split
    · exact absurd rfl hpoint
    · rfl
  | @pointed _ cs cs' hdigits hfraction hne =>
    have hrun := isPlainDigit_of_mem (digitValue?_lt_of_digitsOf hdigits)
    have hrun' := isPlainDigit_of_mem (digitValue?_lt_of_digitsOf hfraction)
    have hplain : plainDigits (cs ++ '.' :: cs') ++ rest =
        ds.map digitChar ++ '.' :: (fs.map digitChar ++ rest) := by
      rw [plainDigits_append, plainDigits_digits hdigits, ← plainDigits_digits hfraction,
        List.append_assoc]
      rfl
    have hstop : Stops isPlainDigit ('.' :: (fs.map digitChar ++ rest)) :=
      stops_cons.mpr (by decide)
    rw [hplain, readMantissa, takeWhile_run hrun hstop, dropWhile_run hrun hstop]
    show (ds.map digitChar, (fs.map digitChar ++ rest).takeWhile isPlainDigit,
      (fs.map digitChar ++ rest).dropWhile isPlainDigit) = _
    rw [takeWhile_run hrun' hrest, dropWhile_run hrun' hrest]

theorem exists_begins_mantissa {ds fs : List Nat} {cs : List Char} (h : MantissaWritten ds fs cs) :
    ∃ c tail, plainDigits cs = c :: tail ∧ Begins c := by
  cases h with
  | whole hdigits hne =>
    rw [plainDigits_digits hdigits]
    exact exists_begins_digits (digitValue?_lt_of_digitsOf hdigits) hne
  | @pointed _ cs cs' hdigits hfraction hne =>
    rw [plainDigits_append, plainDigits_digits hdigits]
    cases ds with
    | nil => exact ⟨'.', plainDigits cs', rfl, by decide⟩
    | cons d ds =>
      have hlt := digitValue?_lt_of_digitsOf hdigits d List.mem_cons_self
      exact ⟨digitChar d, _, rfl, begins_digitChar hlt⟩

theorem mantissa_ne_nil {ds fs : List Nat} {cs : List Char} (h : MantissaWritten ds fs cs) :
    ds ++ fs ≠ [] := by
  cases h with
  | whole hdigits hne => rwa [List.append_nil]
  | pointed hdigits hfraction hne => exact hne

theorem mantissa_lt {ds fs : List Nat} {cs : List Char} (h : MantissaWritten ds fs cs) :
    ∀ d ∈ ds ++ fs, d < 10 := by
  intro d hd
  cases h with
  | whole hdigits hne =>
    rw [List.append_nil] at hd
    exact digitValue?_lt_of_digitsOf hdigits d hd
  | pointed hdigits hfraction hne =>
    rcases List.mem_append.mp hd with hd | hd
    · exact digitValue?_lt_of_digitsOf hdigits d hd
    · exact digitValue?_lt_of_digitsOf hfraction d hd

theorem Literal.readUnsigned?_written {ds fs : List Nat} {e : Int} {cs cs' : List Char}
    (hmantissa : MantissaWritten ds fs cs) (hexponent : ExponentWritten e cs') (negative : Bool) :
    readUnsigned? negative (plainDigits (cs ++ cs')) =
      some { negative, coefficient := ofDigits (ds ++ fs), exponent := e - fs.length } := by
  obtain ⟨hstop, hpoint⟩ := stops_exponent hexponent
  have hempty : ((ds.map digitChar).isEmpty && (fs.map digitChar).isEmpty) = false := by
    have hne := mantissa_ne_nil hmantissa
    cases ds <;> cases fs <;> first | rfl | exact absurd rfl hne
  have hcoefficient : ofPlainDigits (ds.map digitChar ++ fs.map digitChar) =
      ofDigits (ds ++ fs) := by
    rw [← List.map_append, ofPlainDigits_digits (mantissa_lt hmantissa)]
  rw [readUnsigned?, plainDigits_append, readMantissa_written hmantissa hstop hpoint]
  dsimp only
  rw [hempty, readExponent_written hexponent, hcoefficient, List.length_map]
  rfl

namespace Decimal

/-- A text that does not begin with the first letter of a name is read as a literal. -/
theorem readUnsigned?_of_begins (negative : Bool) {c : Char} (hc : Begins c) (rest : List Char) :
    readUnsigned? negative (c :: rest) =
      (Literal.readUnsigned? negative (c :: rest)).bind ofLiteral? := by
  obtain ⟨-, -, hi, hn, hs⟩ := hc
  unfold readUnsigned?
  rw [List.map_cons]
  split
  · rename_i heq
    exact absurd (List.cons.inj heq).1 hi
  · rename_i heq
    exact absurd (List.cons.inj heq).1 hi
  · rename_i heq
    exact absurd (List.cons.inj heq).1 hn
  · rename_i heq
    exact absurd (List.cons.inj heq).1 hs
  · rfl

/-- A written number, its padding and its underscores aside, is read as its literal. -/
theorem read?_written {cs body : List Char} {l : Literal} (h : l.Written body)
    (hbody : (Text.trim cs).filter (· ≠ '_') = body) : read? cs = ofLiteral? l := by
  cases h with
  | @parts negative ds fs e sign cs' cs'' hsign hmantissa hexponent =>
    obtain ⟨c, tail, hcons, hbegins⟩ := exists_begins_mantissa hmantissa
    have hread := Literal.readUnsigned?_written hmantissa hexponent negative
    rw [plainDigits_append, hcons, List.cons_append] at hread
    rw [read?, hbody, plainDigits_append, plainDigits_sign hsign, plainDigits_append, hcons,
      List.cons_append, readSign_written hsign hbegins]
    dsimp only
    rw [readUnsigned?_of_begins negative hbegins, hread]
    rfl

end Decimal

/-! ## Padding -/

theorem trim_padded {front body back : List Char} (hfront : IsSpace front) (hback : IsSpace back)
    (hbody : ∀ c ∈ body, isBlank c = false) (hne : body ≠ []) :
    Text.trim (front ++ (body ++ back)) = body := by
  have hstart : Stops isBlank body := fun c hc => hbody c (List.mem_of_mem_head? hc)
  have hend : Stops isBlank body.reverse := fun c hc =>
    hbody c (List.mem_reverse.mp (List.mem_of_mem_head? hc))
  have hback' : IsSpace back.reverse := fun c hc => hback c (List.mem_reverse.mp hc)
  rw [Text.trim, Text.trimEnd, trimStart_space hfront (hstart.append hne), List.reverse_append,
    trimStart_space hback' hend, List.reverse_reverse]

theorem not_isBlank_of_sign {negative : Bool} {sign : List Char} (h : SignWritten negative sign) :
    ∀ c ∈ sign, isBlank c = false := by
  intro c hc
  cases h with
  | absent => cases hc
  | plus =>
    obtain rfl := List.mem_singleton.mp hc
    decide
  | minus =>
    obtain rfl := List.mem_singleton.mp hc
    decide

theorem not_isBlank_of_digits {cs : List Char} {ds : List Nat} (h : DigitsOf cs ds) :
    ∀ c ∈ cs, isBlank c = false :=
  fun c hc => not_isBlank_of_isDecimalDigit (h.isDecimalDigit c hc)

theorem Literal.Written.not_isBlank {l : Literal} {cs : List Char} (h : l.Written cs) :
    ∀ c ∈ cs, isBlank c = false := by
  cases h with
  | @parts negative ds fs e sign cs cs' hsign hmantissa hexponent =>
    intro c hc
    rcases List.mem_append.mp hc with hc | hc
    · exact not_isBlank_of_sign hsign c hc
    rcases List.mem_append.mp hc with hc | hc
    · cases hmantissa with
      | whole hdigits hne => exact not_isBlank_of_digits hdigits c hc
      | pointed hdigits hfraction hne =>
        rcases List.mem_append.mp hc with hc | hc
        · exact not_isBlank_of_digits hdigits c hc
        rcases List.mem_cons.mp hc with rfl | hc
        · decide
        · exact not_isBlank_of_digits hfraction c hc
    · cases hexponent with
      | absent => cases hc
      | marked hmark hsign hdigits hne =>
        rcases List.mem_cons.mp hc with rfl | hc
        · rcases hmark with rfl | rfl <;> decide
        rcases List.mem_append.mp hc with hc | hc
        · exact not_isBlank_of_sign hsign c hc
        · exact not_isBlank_of_digits hdigits c hc

theorem Literal.Written.ne_nil {l : Literal} {cs : List Char} (h : l.Written cs) : cs ≠ [] := by
  cases h with
  | parts hsign hmantissa hexponent =>
    obtain ⟨c, tail, hcons, -⟩ := exists_begins_mantissa hmantissa
    intro hnil
    have hmantissaNil := (List.append_eq_nil_iff.mp (List.append_eq_nil_iff.mp hnil).2).1
    rw [hmantissaNil] at hcons
    cases hcons

/-- A text that writes a literal, with white space around it and underscores anywhere between. -/
def Literal.WrittenIn (l : Literal) (cs : List Char) : Prop :=
  ∃ front body back, cs = front ++ (body ++ back) ∧ IsSpace front ∧ IsSpace back ∧
    l.Written (body.filter (· ≠ '_'))

theorem Literal.WrittenIn.ne_nil {l : Literal} {cs : List Char} (h : l.WrittenIn cs) :
    cs ≠ [] := by
  obtain ⟨front, body, back, rfl, -, -, hwritten⟩ := h
  intro hnil
  have hbody := (List.append_eq_nil_iff.mp (List.append_eq_nil_iff.mp hnil).2).1
  rw [hbody] at hwritten
  exact hwritten.ne_nil rfl

theorem Decimal.read?_writtenIn {l : Literal} {cs : List Char} (h : l.WrittenIn cs) :
    read? cs = ofLiteral? l := by
  obtain ⟨front, body, back, rfl, hfront, hback, hwritten⟩ := h
  have hbody : ∀ c ∈ body, isBlank c = false := by
    intro c hc
    by_cases hunderscore : c = '_'
    · rw [hunderscore]
      decide
    · exact hwritten.not_isBlank c (List.mem_filter.mpr ⟨hc, by simpa using hunderscore⟩)
  have hne : body ≠ [] := by
    rintro rfl
    exact hwritten.ne_nil rfl
  refine read?_written hwritten ?_
  rw [trim_padded hfront hback hbody hne]

end Phrasebook.Number
