import Phrasebook.Proofs.Count.Denotation
import Phrasebook.Proofs.Template.Resolution

/-! The variant of a template depends on the number of the count alone. Whether the count is given
as an integer, as a decimal with any number of trailing zeros, or as a text that writes it, and
under which of the keys, makes no difference. -/

namespace Phrasebook

open Number

/-! ## Carrying a count -/

namespace Count

/-- Parameters with a value under one of the keys of a count, and nothing given under the keys
before it. -/
def Carries (parameters v : Value) : Prop :=
  ∃ entries before key after, parameters = .map entries ∧
    parameterKeys = before ++ key :: after ∧
    OrderedMap.findIn (.text key) entries = some v ∧
    ∀ earlier ∈ before, ∀ w, OrderedMap.findIn (.text earlier) entries = some w →
      isGiven w = false

theorem Carries.exists_givenIn? {parameters v : Value} (h : Carries parameters v)
    (hv : isGiven v = true) :
    ∃ entries, parameters = .map entries ∧ givenIn? entries parameterKeys = some v := by
  obtain ⟨entries, before, key, after, rfl, hkeys, hfound, hbefore⟩ := h
  refine ⟨entries, rfl, List.findSome?_eq_some_iff.mpr ⟨before, key, after, hkeys, ?_, ?_⟩⟩
  · rw [hfound, Option.filter_some, if_pos hv]
  · intro earlier hearlier
    rw [Option.filter_eq_none_iff]
    intro w hw
    rw [hbefore earlier hearlier w hw]
    exact Bool.false_ne_true

/-- A value is the count of the parameters that carry it. -/
theorem Carries.ofParameters [Stack] {parameters v : Value} (h : Carries parameters v)
    (hv : isGiven v = true) : ofParameters parameters = ofValue v := by
  obtain ⟨entries, rfl, hgiven⟩ := h.exists_givenIn? hv
  have hne : entries ≠ [] := by
    rintro rfl
    cases hgiven
  have htruthy : (Value.map entries).isTruthy = true := by simpa [Value.isTruthy] using hne
  rw [Count.ofParameters, htruthy, Bool.not_true, if_neg Bool.false_ne_true, hgiven]

theorem Denotes.isGiven {v : Value} {q : ℚ} (h : Denotes v q) : isGiven v = true := by
  cases h with
  | int n => rfl
  | decimal mark hfinite hprecision => rfl
  | @text s l hwritten hrange =>
    have hne : s ≠ "" := by
      rintro rfl
      exact hwritten.ne_nil rfl
    simpa [Count.isGiven] using hne

end Count

/-! ## Choosing a variant -/

namespace Template

variable {a b : Count}

theorem holds_congr (h : Count.SameNumber a b) (c : Condition) : c.holds a = c.holds b := by
  rw [Condition.holds_eq_admits h.isFinite, Condition.holds_eq_admits h.isFinite_other,
    Condition.admits, Condition.admits, h.value]

theorem ruleFor_congr (h : Count.SameNumber a b) (rules : List ExplicitRule) :
    ruleFor a rules = ruleFor b rules := by
  induction rules with
  | nil => rfl
  | cons r rest ih => rw [ruleFor, ruleFor, holds_congr h, ih]

/-- Interchangeable counts choose the same variant. -/
theorem select_congr (h : Count.Interchangeable a b) (t : Template) (code : String) :
    t.select a code = t.select b code := by
  rw [select, select, variant, variant, ruleFor_congr h.toSameNumber, pluralPosition,
    pluralPosition, PluralFamily.position_congr h]

theorem pluralize_congr [Stack] {parameters parameters' : Value} (h : Count.Interchangeable a b)
    (ha : Count.ofParameters parameters = .ok a) (hb : Count.ofParameters parameters' = .ok b)
    (text code separator : String) :
    pluralize text parameters code separator = pluralize text parameters' code separator := by
  rw [pluralize, pluralize, ha, hb]
  split
  · show (read separator text >>= fun t => t.select a code) =
      read separator text >>= fun t => t.select b code
    exact bind_congr fun t => select_congr h t code
  · rfl

/-- Two counts that denote the same number give the same result for every text, whether a variant,
none or a fault, as every condition and every plural family treats them alike. -/
theorem pluralize_depends_on_number [Stack] (text code separator : String)
    {parameters parameters' v v' : Value} {q : ℚ} (hcarries : Count.Carries parameters v)
    (hcarries' : Count.Carries parameters' v') (hv : Count.Denotes v q)
    (hv' : Count.Denotes v' q) :
    pluralize text parameters code separator = pluralize text parameters' code separator ∧
      ∃ count count', Count.ofParameters parameters = .ok count ∧
        Count.ofParameters parameters' = .ok count' ∧
        (∀ c : Condition, c.holds count = c.holds count') ∧
        ∀ family : PluralFamily, family.position count = family.position count' := by
  obtain ⟨count, hcount, hvalue, hregular⟩ := hv.exists_ofValue
  obtain ⟨count', hcount', hvalue', hregular'⟩ := hv'.exists_ofValue
  have hsame := hregular.interchangeable hregular' (hvalue.trans hvalue'.symm)
  have hgiven := (hcarries.ofParameters hv.isGiven).trans hcount
  have hgiven' := (hcarries'.ofParameters hv'.isGiven).trans hcount'
  exact ⟨pluralize_congr hsame hgiven hgiven' text code separator, count, count', hgiven, hgiven',
    holds_congr hsame.toSameNumber, PluralFamily.position_congr hsame⟩

/-- The literal `+21.00`. -/
def twentyOne : Literal where
  negative := false
  coefficient := ofDigits ([2, 1] ++ [0, 0])
  exponent := 0 - 2

theorem denotes_twentyOne : Count.Denotes (.text " +2_1.00 ") 21 := by
  have hmantissa : MantissaWritten [2, 1] [0, 0] "21.00".toList :=
    @MantissaWritten.pointed _ _ ['2', '1'] ['0', '0'] (by decide) (by decide) (by decide)
  have hwritten : twentyOne.Written "+21.00".toList := .parts .plus hmantissa .absent
  have hpadded : twentyOne.WrittenIn " +2_1.00 ".toList :=
    ⟨[' '], "+2_1.00".toList, [' '], by decide, by decide, by decide, hwritten⟩
  have hvalue : twentyOne.toDecimal.value = 21 := by
    norm_num [twentyOne, Literal.toDecimal, Decimal.value, signed, ofDigits]
  rw [← hvalue]
  exact .text hpadded (by decide +kernel)

section

attribute [local instance] Stack.ample

/-- Under one key as an integer and under the other one as a padded text, a count of twenty-one
chooses the same variant. -/
theorem pluralize_twentyOne :
    Count.Carries (.map [(.text "%count%", .int 21)]) (.int 21) ∧
      Count.Carries (.map [(.text "\x7b\x7b count \x7d\x7d", .text " +2_1.00 ")])
        (.text " +2_1.00 ") ∧
      Count.Denotes (.int 21) 21 ∧ Count.Denotes (.text " +2_1.00 ") 21 ∧
      pluralize "house|houses" (.map [(.text "%count%", .int 21)]) "ru" "|" =
        pluralize "house|houses" (.map [(.text "\x7b\x7b count \x7d\x7d", .text " +2_1.00 ")])
          "ru" "|" := by
  have hcarries : Count.Carries (.map [(.text "%count%", .int 21)]) (.int 21) :=
    ⟨_, [], _, _, rfl, rfl, rfl, by simp⟩
  have hcarries' : Count.Carries (.map [(.text "\x7b\x7b count \x7d\x7d", .text " +2_1.00 ")])
      (.text " +2_1.00 ") :=
    ⟨_, ["%count%"], _, [], rfl, rfl, rfl, by decide⟩
  have hdenotes : Count.Denotes (.int 21) 21 := .int 21
  exact ⟨hcarries, hcarries', hdenotes, denotes_twentyOne,
    (pluralize_depends_on_number "house|houses" "ru" "|" hcarries hcarries' hdenotes
      denotes_twentyOne).1⟩

end

end Template

end Phrasebook
