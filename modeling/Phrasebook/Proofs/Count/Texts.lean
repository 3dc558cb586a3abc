import Phrasebook.Proofs.Count.Denotation
import Phrasebook.Proofs.Number.Recognised

/-! Counts given as texts. A text is a count exactly when it writes a number that a decimal can
hold, and the count is that number: an integer if the number is one, and otherwise the decimal with
the very digits that were written. Every other text is refused as a count. -/

namespace Phrasebook

open Number Text

namespace Number

/-- The number that a literal denotes. -/
def Literal.value (l : Literal) : ℚ := signed l.negative l.coefficient * 10 ^ l.exponent

theorem Decimal.ofLiteral?_eq_some_iff {l : Literal} {x : Decimal} :
    ofLiteral? l = some x ↔ l.InRange ∧ x = l.toDecimal := by
  by_cases h : l.InRange
  · simp [ofLiteral?_of_inRange h, h, eq_comm]
  · have hnone : ofLiteral? l = none := by
      simp only [Literal.InRange, Literal.toDecimal] at h
      simp [ofLiteral?, h]
    simp [hnone, h]

theorem ofDigits_zeros (ds : List Nat) (k : Nat) :
    ofDigits (ds ++ List.replicate k 0) = ofDigits ds * 10 ^ k := by
  have hzeros : ofDigits (List.replicate k 0) = 0 := by
    induction k with
    | zero => rfl
    | succ k ih =>
      rw [List.replicate_succ, ← List.singleton_append, ofDigits_append, ih]
      simp [ofDigits]
  rw [ofDigits_append, hzeros, List.length_replicate, Nat.add_zero]

theorem length_of_digitsOf {cs : List Char} {ds : List Nat} (h : DigitsOf cs ds) :
    ds.length = cs.length := by
  have hlength := congrArg List.length h
  simpa using hlength.symm

theorem length_le_of_mantissa {ds fs : List Nat} {cs : List Char} (h : MantissaWritten ds fs cs) :
    ds.length + fs.length ≤ cs.length := by
  cases h with
  | whole hdigits hne => simp [length_of_digitsOf hdigits]
  | pointed hdigits hfraction hne =>
    rw [length_of_digitsOf hdigits, length_of_digitsOf hfraction, List.length_append,
      List.length_cons]
    omega

/-- A number of few enough digits is within the limits. -/
theorem Literal.inRange_of_digits (negative : Bool) {ds fs : List Nat} (hne : ds ++ fs ≠ [])
    (hdigits : ∀ d ∈ ds ++ fs, d < 10) {e : Int} (hhigh : e + ds.length ≤ Decimal.maxExponent)
    (hlow : Decimal.minExponent ≤ e - fs.length) :
    InRange { negative, coefficient := ofDigits (ds ++ fs), exponent := e - fs.length } := by
  have hcount := digitCount_le (List.length_pos_of_ne_nil hne) (ofDigits_lt hdigits)
  rw [List.length_append] at hcount
  refine ⟨?_, hlow⟩
  simp only [toDecimal, Decimal.adjusted]
  omega

end Number

namespace Count

theorem exists_of_ofText? {s : String} {count : Count} (h : ofText? s = some count) :
    ∃ x, Decimal.read? s.toList = some x ∧ x.isFinite = true := by
  unfold ofText? at h
  split at h
  · cases h
  · rename_i x hread
    split at h
    · rename_i hx
      exact ⟨x, hread, hx⟩
    · cases h

/-- A text that writes a number within the limits gives the count of its decimal. -/
theorem ofValue_of_writtenIn [Stack] {s : String} {l : Literal} (hwritten : l.WrittenIn s.toList)
    (hrange : l.InRange) : ofValue (.text s) = .ok (ofDecimal l.toDecimal) := by
  have hread := (Decimal.read?_writtenIn hwritten).trans (Decimal.ofLiteral?_of_inRange hrange)
  rw [ofValue, ofValue?, ofText?_of_read? hread rfl]

/-- A text that writes none is refused, whatever it is. -/
theorem ofValue_of_not_writtenIn [Stack] {s : String}
    (h : ∀ l : Literal, l.WrittenIn s.toList → ¬ l.InRange) :
    ofValue (.text s) = .error (.invalidCount (String.ofList (quoted s.toList))) := by
  have hnone : ofText? s = none := by
    cases htext : ofText? s with
    | none => rfl
    | some count =>
      obtain ⟨x, hread, hx⟩ := exists_of_ofText? htext
      obtain ⟨l, hwritten, hl⟩ := Decimal.exists_writtenIn hread hx
      exact absurd (Decimal.ofLiteral?_eq_some_iff.mp hl).1 (h l hwritten)
  rw [ofValue, ofValue?, hnone]
  rfl

/-- The count of a literal within the limits. -/
structure IsCountOf (l : Literal) (count : Count) : Prop where
  value_eq : count.value = l.value
  eq_int_iff : ∀ n : Int, count = int n ↔ l.value = n
  eq_decimal_iff : count = decimal l.toDecimal ↔ ∀ n : Int, l.value ≠ n

theorem isCountOf_ofDecimal (l : Literal) : IsCountOf l (ofDecimal l.toDecimal) where
  value_eq := value_ofDecimal rfl
  eq_int_iff := by
    intro n
    refine ⟨fun h => ?_, fun h => ofDecimal_of_integer rfl h⟩
    have hvalue : (ofDecimal l.toDecimal).value = l.value := value_ofDecimal rfl
    rw [← hvalue, h]
    rfl
  eq_decimal_iff := by
    refine ⟨fun h n hn => ?_, fun h => ofDecimal_of_not_integer rfl h⟩
    have hint : ofDecimal l.toDecimal = int n := ofDecimal_of_integer rfl hn
    rw [hint] at h
    cases h

/-- A mantissa with zeros after its point is the integer before it. -/
theorem value_of_zeros (negative : Bool) (ds : List Nat) (k : Nat) :
    Literal.value {
      negative
      coefficient := ofDigits (ds ++ List.replicate k 0)
      exponent := 0 - (List.replicate k 0).length } = (signed negative (ofDigits ds) : Int) := by
  have htrailing := Decimal.value_trailing negative (ofDigits ds) 0 k
  rw [Decimal.value_of_exponent_zero] at htrailing
  rw [ofDigits_zeros, List.length_replicate]
  exact htrailing

/-- An integer in digits of any script, with leading zeros and zeros after a point. -/
theorem ofValue_of_digits [Stack] {s : String} {negative : Bool} {sign cs : List Char}
    {ds : List Nat} {k : Nat} (hs : s.toList.filter (· ≠ '_') = sign ++ cs)
    (hsign : SignWritten negative sign)
    (hmantissa : MantissaWritten ds (List.replicate k 0) cs)
    (hlength : cs.length ≤ Decimal.maxExponent) :
    ofValue (.text s) = .ok (int (signed negative (ofDigits ds))) := by
  have hwritten := Literal.Written.parts hsign hmantissa .absent
  rw [List.append_nil, ← hs] at hwritten
  have hcount := length_le_of_mantissa hmantissa
  have hhigh : 0 + (ds.length : Int) ≤ Decimal.maxExponent := by omega
  have hlow : Decimal.minExponent ≤ 0 - ((List.replicate k 0).length : Int) := by
    rw [Decimal.minExponent]
    rw [Decimal.maxExponent] at hlength
    omega
  have hrange := Literal.inRange_of_digits negative (mantissa_ne_nil hmantissa)
    (mantissa_lt hmantissa) hhigh hlow
  have hspace : IsSpace [] := by simp [IsSpace]
  rw [ofValue_of_writtenIn ⟨[], s.toList, [], by simp, hspace, hspace, hwritten⟩ hrange]
  exact congrArg Except.ok (ofDecimal_of_integer rfl (value_of_zeros negative ds k))

/-- What is counted of a text, with nothing rounded. A text that writes a number within the limits
of a decimal gives the count of that number: the integer, however it is written, or the decimal as
it is written. Every other text is refused. What was counted gives the same count again; and an
integer in plain digits is itself, unless it is longer than any exponent. -/
theorem texts_read_exactly [Stack] (s : String) :
    (∀ l : Literal, l.WrittenIn s.toList → l.InRange →
      ∃ count, ofValue (.text s) = .ok count ∧ IsCountOf l count) ∧
    ((∀ l : Literal, l.WrittenIn s.toList → ¬ l.InRange) →
      ofValue (.text s) = .error (.invalidCount (String.ofList (quoted s.toList)))) ∧
    (∀ count, ofValue (.text s) = .ok count → ofValue count.toValue = .ok count) ∧
    ∀ negative sign ds k cs, s.toList.filter (· ≠ '_') = sign ++ cs → SignWritten negative sign →
      MantissaWritten ds (List.replicate k 0) cs → cs.length ≤ Decimal.maxExponent →
      ofValue (.text s) = .ok (int (signed negative (ofDigits ds))) := by
  refine ⟨fun l hwritten hrange => ?_, ofValue_of_not_writtenIn, fun count h => ?_, ?_⟩
  · exact ⟨_, ofValue_of_writtenIn hwritten hrange, isCountOf_ofDecimal l⟩
  · exact ofValue_toValue (isFinite_of_ofValue h)
  · intro negative sign ds k cs hs hsign hmantissa hlength
    exact ofValue_of_digits hs hsign hmantissa hlength

section

attribute [local instance] Stack.ample

/-- A sign, an underscore, a point and an exponent in an integer; a word; and leading zeros. -/
theorem texts_read_exactly_of_integer :
    (∃ l : Literal, l.WrittenIn " +1_20.5e1 ".toList ∧ l.InRange ∧
      ∃ count, ofValue (.text " +1_20.5e1 ") = .ok count ∧ IsCountOf l count) ∧
    (∀ l : Literal, l.WrittenIn "one".toList → ¬ l.InRange) ∧
    ofValue (.text "one") = .error (.invalidCount "'one'") ∧
    MantissaWritten [0, 0, 7] (List.replicate 2 0) "007.00".toList ∧
    ofValue (.text "007.00") = .ok (int 7) ∧
    ofValue (toValue (int 7)) = .ok (int 7) := by
  have hdigits : DigitsOf ['1', '2', '0'] [1, 2, 0] := by decide
  have hfraction : DigitsOf ['5'] [5] := by decide
  have hone : DigitsOf ['1'] [1] := by decide
  have hmantissa : MantissaWritten [1, 2, 0] [5] "120.5".toList :=
    .pointed hdigits hfraction (by decide)
  have hexponent : ExponentWritten 1 ['e', '1'] := .marked (.inl rfl) .absent hone (by decide)
  have hwritten : Literal.WrittenIn ⟨false, 1205, 0⟩ " +1_20.5e1 ".toList :=
    ⟨[' '], "+1_20.5e1".toList, [' '], by decide, by decide, by decide,
      .parts .plus hmantissa hexponent⟩
  have hrange : Literal.InRange ⟨false, 1205, 0⟩ := by decide +kernel
  have hword : ∀ l : Literal, l.WrittenIn "one".toList → ¬ l.InRange := by
    intro l hwritten hrange
    have hread := (Decimal.read?_writtenIn hwritten).trans (Decimal.ofLiteral?_of_inRange hrange)
    rw [show Decimal.read? "one".toList = none by decide +kernel] at hread
    cases hread
  have hseven : DigitsOf ['0', '0', '7'] [0, 0, 7] := by decide
  have hnothing : DigitsOf ['0', '0'] [0, 0] := by decide
  have hzeros : MantissaWritten [0, 0, 7] (List.replicate 2 0) "007.00".toList :=
    .pointed hseven hnothing (by decide)
  obtain ⟨hread, -, -, -⟩ := texts_read_exactly " +1_20.5e1 "
  obtain ⟨-, hrefused, -, -⟩ := texts_read_exactly "one"
  obtain ⟨-, -, hagain, hinteger⟩ := texts_read_exactly "007.00"
  have hint : ofValue (.text "007.00") = .ok (int 7) :=
    hinteger false [] [0, 0, 7] 2 _ (by decide) .absent hzeros (by decide)
  exact ⟨⟨_, hwritten, hrange, hread _ hwritten hrange⟩, hword, hrefused hword, hzeros, hint,
    hagain _ hint⟩

end

end Count

end Phrasebook
