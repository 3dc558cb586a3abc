import Phrasebook.Catalogue
import Phrasebook.Proofs.OrderedMap.TextKeys

/-! Looking up by texts. What a catalogue answers under texts is said by three lists of keys and a
template: the locales, the domains of a locale, the ids of a domain, and what stands under an id. A
status tells in which of the lists a key is missing first. -/

namespace Phrasebook

namespace Catalogue

/-- The template under texts as keys. -/
def template? (c : Catalogue) (locale domain id : String) : Option String :=
  ((c.levels.find? (.text locale)).bind (·.find? (.text domain))).bind (·.find? (.text id))

/-- The template under texts in a locale that any value may name. -/
def templateAt (c : Catalogue) (locale : Value) (domain id : String) : Option String :=
  ((c.levels.find? locale).bind (·.find? (.text domain))).bind (·.find? (.text id))

theorem templateAt_text (c : Catalogue) (locale domain id : String) :
    c.templateAt (.text locale) domain id = c.template? locale domain id := rfl

theorem templateAt_eq (c : Catalogue) (locale : Value) (domain id : String) :
    c.templateAt locale domain id = (c.messagesOf locale (.text domain)).find? (.text id) := by
  unfold templateAt messagesOf domainsOf
  cases c.levels.find? locale with
  | none => rfl
  | some domains => cases h : domains.find? (.text domain) <;> simp [h]

/-! ## Answers under texts -/

variable (c : Catalogue) (locale domain id : String)

theorem template?_eq : c.template? locale domain id =
    (c.messagesOf (.text locale) (.text domain)).find? (.text id) :=
  c.templateAt_eq (.text locale) domain id

theorem domains_text : c.domains (.text locale) = .ok (c.domainsOf (.text locale)).keys := by
  simp only [domains, domainsOf, Value.asKey_text, bind, Except.bind]
  cases c.levels.find? (.text locale) <;> rfl

theorem messageIds_text :
    c.messageIds (.text locale) (.text domain) =
      .ok (c.messagesOf (.text locale) (.text domain)).keys := by
  simp only [messageIds, messagesOf, domainsOf, Value.asKey_text, bind, Except.bind]
  cases c.levels.find? (.text locale) with
  | none => rfl
  | some domains => cases h : domains.find? (.text domain) <;> simp [h] <;> rfl

/-! ## Statuses -/

/-- A template is found under values that can be keys, level by level. -/
theorem status_eq_found_iff_bind {c : Catalogue} {locale domain id : Value} {template : String} :
    c.status locale domain id = .ok (.found template) ↔
      (locale.isKey = true ∧ domain.isKey = true ∧ id.isKey = true) ∧
        ((c.levels.find? locale).bind (·.find? domain)).bind (·.find? id) = some template := by
  unfold status Value.asKey
  cases hlocale : locale.isKey with
  | false => simp [bind, Except.bind]
  | true =>
    simp only [if_true, bind, Except.bind]
    cases c.levels.find? locale with
    | none => simp [pure, Except.pure]
    | some domains =>
      cases hdomain : domain.isKey with
      | false => simp
      | true =>
        simp only [if_true]
        cases hmessages : domains.find? domain with
        | none => simp [hmessages, pure, Except.pure]
        | some messages =>
          cases hid : id.isKey with
          | false => simp
          | true => cases ht : messages.find? id <;> simp [hmessages, ht, pure, Except.pure]

section

variable {c : Catalogue} {locale domain id : String}

/-- The outermost level that lacks its key gives the status, and the levels below lack theirs. -/
theorem status_cases (c : Catalogue) (locale domain id : String) :
    (c.status (.text locale) (.text domain) (.text id) = .ok .localeMissing ∧
      Value.text locale ∉ c.locales ∧ Value.text domain ∉ (c.domainsOf (.text locale)).keys ∧
      c.template? locale domain id = none) ∨
    (c.status (.text locale) (.text domain) (.text id) = .ok .domainMissing ∧
      Value.text locale ∈ c.locales ∧ Value.text domain ∉ (c.domainsOf (.text locale)).keys ∧
      c.template? locale domain id = none) ∨
    (c.status (.text locale) (.text domain) (.text id) = .ok .messageMissing ∧
      Value.text locale ∈ c.locales ∧ Value.text domain ∈ (c.domainsOf (.text locale)).keys ∧
      c.template? locale domain id = none) ∨
    ∃ template, c.status (.text locale) (.text domain) (.text id) = .ok (.found template) ∧
      Value.text locale ∈ c.locales ∧ Value.text domain ∈ (c.domainsOf (.text locale)).keys ∧
      c.template? locale domain id = some template := by
  simp only [status, Value.asKey_text, bind, Except.bind, pure, Except.pure, locales, template?,
    domainsOf, ← OrderedMap.contains_text, OrderedMap.contains]
  cases hlocale : c.levels.find? (.text locale) with
  | none => exact .inl ⟨rfl, by simp, by simp, rfl⟩
  | some domains =>
    simp only [Option.getD_some, Option.bind_some]
    cases hdomain : domains.find? (.text domain) with
    | none => exact .inr (.inl ⟨rfl, rfl, by simp, rfl⟩)
    | some messages =>
      simp only [Option.bind_some]
      cases hid : messages.find? (.text id) with
      | none => exact .inr (.inr (.inl ⟨rfl, rfl, rfl, rfl⟩))
      | some template => exact .inr (.inr (.inr ⟨template, rfl, rfl, rfl, rfl⟩))

/-- Looking up by texts always succeeds, and says whether there is a template. -/
theorem exists_status (c : Catalogue) (locale domain id : String) :
    ∃ status, c.status (.text locale) (.text domain) (.text id) = .ok status ∧
      status.template? = c.template? locale domain id := by
  rcases status_cases c locale domain id with ⟨h, -, -, ht⟩ | ⟨h, -, -, ht⟩ | ⟨h, -, -, ht⟩ |
    ⟨template, h, -, -, ht⟩
  all_goals exact ⟨_, h, ht.symm⟩

theorem status_eq_found_iff {template : String} :
    c.status (.text locale) (.text domain) (.text id) = .ok (.found template) ↔
      c.template? locale domain id = some template := by
  rw [status_eq_found_iff_bind]
  exact and_iff_right ⟨rfl, rfl, rfl⟩

theorem status_eq_localeMissing_iff :
    c.status (.text locale) (.text domain) (.text id) = .ok .localeMissing ↔
      Value.text locale ∉ c.locales := by
  rcases status_cases c locale domain id with h | h | h | ⟨_, h⟩ <;> simp [h]

theorem status_eq_domainMissing_iff :
    c.status (.text locale) (.text domain) (.text id) = .ok .domainMissing ↔
      Value.text locale ∈ c.locales ∧
        Value.text domain ∉ (c.domainsOf (.text locale)).keys := by
  rcases status_cases c locale domain id with h | h | h | ⟨_, h⟩ <;> simp [h]

/-- An id is among the ids of its domain when there is a template under it. -/
theorem template?_eq_none_iff : c.template? locale domain id = none ↔
    Value.text id ∉ (c.messagesOf (.text locale) (.text domain)).keys := by
  rw [template?_eq, OrderedMap.find?_text_eq_none_iff]

/-- A template stands in a domain that is there, of a locale that is there. -/
theorem mem_of_template? {template : String} (h : c.template? locale domain id = some template) :
    Value.text locale ∈ c.locales ∧ Value.text domain ∈ (c.domainsOf (.text locale)).keys := by
  rcases status_cases c locale domain id with ⟨-, -, -, hnone⟩ | ⟨-, -, -, hnone⟩ |
    ⟨-, -, -, hnone⟩ | ⟨_, -, hlocale, hdomain, -⟩
  · exact absurd (hnone.symm.trans h) (by simp)
  · exact absurd (hnone.symm.trans h) (by simp)
  · exact absurd (hnone.symm.trans h) (by simp)
  · exact ⟨hlocale, hdomain⟩

theorem status_eq_messageMissing_iff :
    c.status (.text locale) (.text domain) (.text id) = .ok .messageMissing ↔
      Value.text domain ∈ (c.domainsOf (.text locale)).keys ∧
        Value.text id ∉ (c.messagesOf (.text locale) (.text domain)).keys := by
  rw [← template?_eq_none_iff]
  rcases status_cases c locale domain id with h | h | h | ⟨_, h⟩ <;> simp [h]

end

end Catalogue

end Phrasebook
