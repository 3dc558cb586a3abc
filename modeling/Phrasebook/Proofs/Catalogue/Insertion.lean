import Phrasebook.Proofs.Catalogue.Lookup
import Phrasebook.Proofs.Value.Shown

/-! Inserting a message. The keys are shown and the template is checked before anything changes, so
an insertion is refused with nothing done, refused at an inner key with the levels on the way to it
made, or done. Runs of insertions are those of which each is done; what one of them does to the
answers under texts is said here once for each answer. -/

namespace Phrasebook

/-- A message and its place, by any values. -/
structure Insertion where
  locale : Value
  domain : Value
  id : Value
  template : Value

/-- The keys of an insertion have a property. -/
def Insertion.Keys (K : Value → Prop) (i : Insertion) : Prop := K i.locale ∧ K i.domain ∧ K i.id

namespace Catalogue

section

variable [Stack]

/-- Inserts messages one after another, as long as none is refused. -/
def setAll (c : Catalogue) : List Insertion → Except Fault Catalogue
  | [] => .ok c
  | i :: rest =>
    match c.set i.locale i.domain i.id i.template with
    | (.ok (), c) => c.setAll rest
    | (.error fault, _) => .error fault

/-- A run begins with its first insertion. -/
theorem setAll_cons {c c' : Catalogue} {i : Insertion} {rest : List Insertion}
    (h : c.setAll (i :: rest) = .ok c') :
    ∃ next, c.set i.locale i.domain i.id i.template = (.ok (), next) ∧
      next.setAll rest = .ok c' := by
  rw [setAll] at h
  rcases hset : c.set i.locale i.domain i.id i.template with ⟨_ | _, next⟩
  · rw [hset] at h
    cases h
  · rw [hset] at h
    exact ⟨next, rfl, h⟩

/-- A run goes on with one more insertion. -/
theorem setAll_concat {c c' c'' : Catalogue} {calls : List Insertion} {i : Insertion}
    (h : c.setAll calls = .ok c')
    (hi : c'.set i.locale i.domain i.id i.template = (.ok (), c'')) :
    c.setAll (calls ++ [i]) = .ok c'' := by
  induction calls generalizing c with
  | nil =>
    obtain rfl := Except.ok.inj h
    simp only [List.nil_append, setAll, hi]
  | cons first rest ih =>
    obtain ⟨next, hset, hrest⟩ := setAll_cons h
    rw [List.cons_append, setAll, hset]
    exact ih hrest

end

/-! ## One insertion -/

theorem checkTemplate_eq_ok_iff {path : String} {v : Value} {s : String} :
    checkTemplate path v = .ok s ↔ v = .text s ∧ s ≠ "" := by
  cases v with
  | text t =>
    by_cases ht : t = ""
    · subst ht
      simp only [checkTemplate, Value.text.injEq]
      constructor
      · intro h
        cases h
      · rintro ⟨rfl, h⟩
        exact absurd rfl h
    · simp only [checkTemplate, String.isEmpty_iff, ht, if_false, Except.ok.injEq,
        Value.text.injEq]
      constructor
      · rintro rfl
        exact ⟨rfl, ht⟩
      · exact And.left
  | _ => simp [checkTemplate]

section

variable [Stack]

/-- An insertion that gets as far as the catalogue: its keys can be shown, its template is a text
that is not empty, and its locale can be looked up by. -/
structure Touches (locale domain id template : Value) : Prop where
  locale_shown : locale.Shown .insertion
  domain_shown : domain.Shown .insertion
  id_shown : id.Shown .insertion
  template_text : ∃ s, template = .text s ∧ s ≠ ""
  locale_isKey : locale.isKey = true

section

variable {c : Catalogue} {locale domain id template : Value}

/-- A message has a path exactly when its keys can be shown. -/
theorem exists_messagePath_iff :
    (∃ path, messagePath locale domain id = .ok path) ↔
      locale.Shown .insertion ∧ domain.Shown .insertion ∧ id.Shown .insertion := by
  constructor
  · rintro ⟨path, h⟩
    obtain ⟨s, hlocale, h⟩ := bind_eq_ok_iff.mp h
    obtain ⟨s', hdomain, h⟩ := bind_eq_ok_iff.mp h
    obtain ⟨s'', hid, -⟩ := bind_eq_ok_iff.mp h
    exact ⟨⟨s, hlocale⟩, ⟨s', hdomain⟩, ⟨s'', hid⟩⟩
  · rintro ⟨⟨s, hlocale⟩, ⟨s', hdomain⟩, ⟨s'', hid⟩⟩
    rw [messagePath, hlocale, hdomain, hid]
    exact ⟨_, rfl⟩

/-- What an insertion comes to. -/
theorem set_cases (c : Catalogue) (locale domain id template : Value) :
    (¬ Touches locale domain id template ∧
      ∃ fault, c.set locale domain id template = (.error fault, c)) ∨
    ∃ s, template = .text s ∧ s ≠ "" ∧ Touches locale domain id template ∧
      ((domain.isKey = false ∧ c.set locale domain id template =
          (.error .wrongType, c.withDomains locale (c.domainsOf locale))) ∨
       (domain.isKey = true ∧ id.isKey = false ∧ c.set locale domain id template =
          (.error .wrongType, c.withMessages locale domain (c.messagesOf locale domain))) ∨
       (domain.isKey = true ∧ id.isKey = true ∧ c.set locale domain id template =
          (.ok (), c.insert locale domain id s))) := by
  unfold set
  cases hpath : messagePath locale domain id with
  | error fault =>
    refine .inl ⟨fun h => ?_, fault, rfl⟩
    obtain ⟨path, hpath'⟩ :=
      exists_messagePath_iff.mpr ⟨h.locale_shown, h.domain_shown, h.id_shown⟩
    cases hpath.symm.trans hpath'
  | ok path =>
    obtain ⟨hlocale, hdomain, hid⟩ := exists_messagePath_iff.mp ⟨path, hpath⟩
    cases hcheck : checkTemplate path template with
    | error fault =>
      refine .inl ⟨fun h => ?_, fault, ?_⟩
      · obtain ⟨s, hs⟩ := h.template_text
        cases hcheck.symm.trans (checkTemplate_eq_ok_iff.mpr hs)
      · simp only [bind, Except.bind, hcheck]
    | ok s =>
      obtain ⟨rfl, hs⟩ := checkTemplate_eq_ok_iff.mp hcheck
      simp only [bind, Except.bind, hcheck]
      cases hkey : locale.isKey with
      | false =>
        refine .inl ⟨fun h => ?_, .wrongType, by simp⟩
        cases hkey.symm.trans h.locale_isKey
      | true =>
        refine .inr ⟨s, rfl, hs, ⟨hlocale, hdomain, hid, ⟨s, rfl, hs⟩, hkey⟩, ?_⟩
        cases hdomain' : domain.isKey with
        | false => exact .inl ⟨rfl, by simp⟩
        | true =>
          cases hid' : id.isKey with
          | false => exact .inr (.inl ⟨rfl, rfl, by simp⟩)
          | true => exact .inr (.inr ⟨rfl, rfl, by simp⟩)

/-- What an insertion that is done was given, and what it did. -/
theorem of_set_eq_ok {c' : Catalogue} (h : c.set locale domain id template = (.ok (), c')) :
    ∃ s, template = .text s ∧ s ≠ "" ∧
      (locale.isKey = true ∧ domain.isKey = true ∧ id.isKey = true) ∧
      c' = c.insert locale domain id s := by
  rcases set_cases c locale domain id template with ⟨-, fault, hset⟩ |
    ⟨s, ht, hs, htouches, hset⟩
  · rw [hset] at h
    cases h
  · rcases hset with ⟨-, hset⟩ | ⟨-, -, hset⟩ | ⟨hdomain, hid, hset⟩
    · rw [hset] at h
      cases h
    · rw [hset] at h
      cases h
    · rw [hset] at h
      exact ⟨s, ht, hs, ⟨htouches.locale_isKey, hdomain, hid⟩, (Prod.mk.inj h).2.symm⟩

/-- Under texts, a template that is not empty is always inserted. -/
theorem set_text (c : Catalogue) (locale domain id : String) {template : String}
    (h : template ≠ "") :
    c.set (.text locale) (.text domain) (.text id) (.text template) =
      (.ok (), c.insert (.text locale) (.text domain) (.text id) template) := by
  simp [set, messagePath, Value.shownAt, Value.shown, checkTemplate, h, bind, Except.bind, pure,
    Except.pure, Value.isKey, Value.key?]

end

end

/-! ## Answers after an insertion -/

section

variable (c : Catalogue) (locale domain id other otherDomain otherId : String) (template : String)

theorem domainsOf_insert :
    (c.insert (.text locale) (.text domain) (.text id) template).domainsOf (.text other) =
      if other = locale then
        (c.domainsOf (.text locale)).insert (.text domain)
          ((c.messagesOf (.text locale) (.text domain)).insert (.text id) template)
      else c.domainsOf (.text other) := by
  simp only [insert, withMessages, withDomains, domainsOf]
  rw [OrderedMap.find?_insert_text]
  split <;> rfl

theorem messagesOf_insert :
    (c.insert (.text locale) (.text domain) (.text id) template).messagesOf (.text other)
        (.text otherDomain) =
      if other = locale ∧ otherDomain = domain then
        (c.messagesOf (.text locale) (.text domain)).insert (.text id) template
      else c.messagesOf (.text other) (.text otherDomain) := by
  rw [messagesOf, domainsOf_insert]
  by_cases hlocale : other = locale
  · subst hlocale
    rw [if_pos rfl, OrderedMap.find?_insert_text]
    by_cases hdomain : otherDomain = domain
    · simp [hdomain]
    · simp [hdomain, messagesOf]
  · simp [hlocale, messagesOf]

theorem template?_insert :
    (c.insert (.text locale) (.text domain) (.text id) template).template? other otherDomain
        otherId =
      if other = locale ∧ otherDomain = domain ∧ otherId = id then some template
      else c.template? other otherDomain otherId := by
  rw [template?_eq, messagesOf_insert]
  by_cases h : other = locale ∧ otherDomain = domain
  · obtain ⟨rfl, rfl⟩ := h
    rw [if_pos ⟨rfl, rfl⟩, OrderedMap.find?_insert_text, ← template?_eq]
    simp
  · rw [if_neg h, ← template?_eq, if_neg]
    exact fun ⟨hlocale, hdomain, _⟩ => h ⟨hlocale, hdomain⟩

end

end Catalogue

end Phrasebook
