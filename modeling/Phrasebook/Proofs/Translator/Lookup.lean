import Phrasebook.Proofs.Translator.Effect
import Phrasebook.Proofs.Catalogue.EqualKeys

/-! What a translator finds for a message. The requested locale comes first, the fallback locale
second, and each is a text that may be left out; the id stands in for a template that is in
neither, and the notifier is then told once. -/

namespace Phrasebook

/-! ## Texts that may be left out -/

namespace Value

/-- Nothing or a text. -/
def IsOptionalText (v : Value) : Prop := v = null ∨ ∃ s, v = text s

/-- A text that is given and not empty, or another one. -/
def orText (v : Value) (fallback : String) : String :=
  match v with
  | text s => if s = "" then fallback else s
  | _ => fallback

theorem orElse_text {v : Value} (h : v.IsOptionalText) (fallback : String) :
    v.orElse (text fallback) = text (v.orText fallback) := by
  obtain rfl | ⟨s, rfl⟩ := h
  · rfl
  · by_cases hs : s = "" <;> simp [orElse, isTruthy, orText, hs]

theorem orText_ne {v : Value} {fallback : String} (h : fallback ≠ "") : v.orText fallback ≠ "" := by
  unfold orText
  split
  · split
    · exact h
    · assumption
  · exact h

theorem IsOptionalText.orElse {v w : Value} (hv : v.IsOptionalText) (hw : w.IsOptionalText) :
    (v.orElse w).IsOptionalText := by
  unfold Value.orElse
  split
  · exact hv
  · exact hw

theorem orElse_of_ne {s : String} (h : s ≠ "") (v : Value) : (text s).orElse v = text s := by
  simp [orElse, isTruthy, h]

theorem orElse_of_not_isTruthy {v w : Value} (h : (v.orElse w).isTruthy = false) :
    v.orElse w = w := by
  cases hv : v.isTruthy with
  | false => rw [Value.orElse, if_neg (by simp [hv])]
  | true =>
    rw [Value.orElse, if_pos hv, hv] at h
    cases h

end Value

/-! ## Looking up -/

namespace Translator

/-- The locales to look in, when the requested one is a text or nothing. -/
def localesFor (requested : Value) (fallback : String) : List String :=
  match requested with
  | .text locale =>
    if locale = "" then [fallback]
    else if locale = fallback then [locale]
    else [locale, fallback]
  | _ => [fallback]

theorem candidates_eq {requested : Value} (h : requested.IsOptionalText) (fallback : String) :
    candidates requested (.text fallback) =
      .ok ((localesFor requested fallback).map Value.text) := by
  obtain rfl | ⟨locale, rfl⟩ := h
  · rfl
  · unfold candidates localesFor
    by_cases hempty : locale = ""
    · simp [Value.isTruthy, hempty]
    · by_cases hfallback : locale = fallback
      · simp [Value.isTruthy, hfallback, Value.beq_text, bind, Except.bind, pure, Except.pure]
      · simp [Value.isTruthy, hempty, hfallback, Value.beq_text, bind, Except.bind, pure,
          Except.pure]

theorem gives_searchIn_of_isKey [Stack] (t : Translator) (c : Catalogue) (domain id : String)
    {locales : List Value} (h : ∀ locale ∈ locales, locale.isKey = true) :
    Gives t (searchIn c (.text domain) (.text id) locales)
      (.ok (locales.findSome? fun locale => c.templateAt locale domain id)) [] := by
  induction locales with
  | nil => exact .pure none
  | cons locale rest ih =>
    obtain ⟨hlocale, hrest⟩ := List.forall_mem_cons.mp h
    obtain ⟨status, hstatus, htemplate⟩ := c.exists_status_of_isKey domain id hlocale
    have hlookup : c.lookup locale (.text domain) (.text id) =
        .ok { locale, domain := .text domain, id := .text id, status } := by
      rw [Catalogue.lookup, hstatus]
      rfl
    rw [List.findSome?_cons, ← htemplate, searchIn, hlookup]
    refine .bind_ok (.lift _) ?_
    cases status with
    | found template => exact .pure (some template)
    | localeMissing => exact .bind_ok (.log _ _ _) (ih hrest)
    | domainMissing => exact .bind_ok (.log _ _ _) (ih hrest)
    | messageMissing => exact .bind_ok (.log _ _ _) (ih hrest)

theorem gives_searchIn [Stack] (t : Translator) (c : Catalogue) (domain id : String)
    (locales : List String) :
    Gives t (searchIn c (.text domain) (.text id) (locales.map Value.text))
      (.ok (locales.findSome? fun locale => c.template? locale domain id)) [] := by
  have hkeys : ∀ locale ∈ locales.map Value.text, locale.isKey = true := by
    intro locale hlocale
    obtain ⟨code, -, rfl⟩ := List.mem_map.mp hlocale
    rfl
  have hsearch := gives_searchIn_of_isKey t c domain id hkeys
  rw [List.findSome?_map] at hsearch
  exact hsearch

/-- The template that a catalogue has for a message, in the requested or the fallback locale. -/
def find? (t : Translator) (c : Catalogue) (id : String) (domain requested : Value) :
    Option String :=
  (localesFor requested t.settings.fallbackLocale).findSome? fun locale =>
    c.template? locale (domain.orText t.settings.defaultDomain) id

/-- The notice of a message that is found nowhere. -/
def missed (t : Translator) (id : String) (domain requested : Value) : Untranslated where
  id := .text id
  domain := .text (domain.orText t.settings.defaultDomain)
  locale := requested

/-- What reaches the notifier of a notice, nothing without a notifier. -/
def heard (t : Translator) (message : Untranslated) : List Untranslated :=
  match t.notifier with
  | none => []
  | some _ => [message]

/-- The template of a message, its id where it is found nowhere. -/
def templateOf (t : Translator) (id : String) (domain locale : Value) : Except Fault String :=
  match t.catalogue with
  | none => .error .uninitialized
  | some c => .ok ((t.find? c id domain (locale.orElse t.currentLocale)).getD id)

/-- What the notifier is told when the template of a message is looked up. -/
def toldOf (t : Translator) (id : String) (domain locale : Value) : List Untranslated :=
  match t.catalogue with
  | none => []
  | some c =>
    let requested := locale.orElse t.currentLocale
    if (t.find? c id domain requested).isSome then [] else t.heard (t.missed id domain requested)

/-- What a look-up that comes to a template, or to none, results in and tells of. -/
def lookedUp [Stack] (t : Translator) (id : String) (domain locale : Value) :
    Option String → Except Fault Value × List Untranslated
  | some template => (.ok (.text template), [])
  | none =>
    let requested := locale.orElse t.currentLocale
    match requested.toTextAt .report with
    | .ok _ => (.ok (.text id), t.heard (t.missed id domain requested))
    | .error fault => (.error fault, [])

section

variable {t : Translator} {domain locale : Value}

theorem gives_notify (message : Untranslated) :
    Gives t (notify message) (.ok ()) (t.heard message) := by
  unfold heard
  refine .current_bind fun u hu => ?_
  rw [hu.notifier]
  cases t.notifier with
  | none => exact .pure ()
  | some notifier =>
    rw [← List.append_nil [message]]
    refine .bind_ok (.emit (.notified message)) ?_
    cases notifier message with
    | none => exact .pure ()
    | some failure => exact .log _ _ _

theorem gives_notify_return {α : Type} (message : Untranslated) (a : α) :
    Gives t (do notify message; return a) (.ok a) (t.heard message) := by
  rw [← List.append_nil (t.heard message)]
  exact .bind_ok (gives_notify message) (.pure a)

theorem gives_requireCatalogue {c : Catalogue} (h : t.catalogue = some c) :
    Gives t requireCatalogue (.ok c) [] := by
  refine .current_bind fun u hu => ?_
  rw [hu.catalogue, h]
  exact .pure c

theorem gives_requireCatalogue_none (h : t.catalogue = none) :
    Gives t requireCatalogue (.error .uninitialized) [] := by
  refine .current_bind fun u hu => ?_
  rw [hu.catalogue, h]
  exact .throw .uninitialized

theorem exists_toTextAt [Stack] {v : Value} (h : v.IsOptionalText) (place : Place) :
    ∃ s, v.toTextAt place = .ok s := by
  obtain rfl | ⟨s, rfl⟩ := h
  · exact ⟨"None", rfl⟩
  · exact ⟨s, rfl⟩

/-- A look-up is told by the locales that it goes through and what is found in them. -/
theorem gives_getMessage_of_searchIn [Stack] {c : Catalogue} {id : String} {locales : List Value}
    {found : Option String} (hcatalogue : t.catalogue = some c) (hdomain : domain.IsOptionalText)
    (hlocales : candidates (locale.orElse t.currentLocale) (.text t.settings.fallbackLocale) =
      .ok locales)
    (hsearch : Gives t (searchIn c (.text (domain.orText t.settings.defaultDomain)) (.text id)
      locales) (.ok found) []) :
    Gives t (getMessage (.text id) domain locale) (t.lookedUp id domain locale found).1
      (t.lookedUp id domain locale found).2 := by
  refine .bind_ok (gives_requireCatalogue hcatalogue) (.current_bind fun u hu => ?_)
  rw [hu.settings, hu.currentLocale, Value.orElse_text hdomain]
  dsimp only
  rw [hlocales]
  refine .bind_ok (.lift _) (.bind_quiet hsearch ?_)
  cases found with
  | some template => exact .pure _
  | none =>
    rw [lookedUp]
    cases hshown : (locale.orElse t.currentLocale).toTextAt .report with
    | error fault =>
      refine .bind_ok (.lift (.ok id)) (.bind_ok (.lift (.ok _)) ?_)
      exact .bind_error _ (.lift (.error fault))
    | ok shown =>
      refine .bind_ok (.lift _) (.bind_ok (.lift _) (.bind_ok (.lift _) (.bind_ok (.log _ _ _) ?_)))
      exact gives_notify_return (t.missed id domain (locale.orElse t.currentLocale)) _

theorem gives_getMessage [Stack] (id : String) (hcurrent : t.currentLocale.IsOptionalText)
    (hdomain : domain.IsOptionalText) (hlocale : locale.IsOptionalText) :
    Gives t (getMessage (.text id) domain locale) ((t.templateOf id domain locale).map .text)
      (t.toldOf id domain locale) := by
  have hrequested := hlocale.orElse hcurrent
  unfold templateOf toldOf
  cases hcatalogue : t.catalogue with
  | none => exact .bind_error _ (gives_requireCatalogue_none hcatalogue)
  | some c =>
    have hgives := gives_getMessage_of_searchIn hcatalogue hdomain (candidates_eq hrequested _)
      (gives_searchIn t c _ id _)
    dsimp only
    cases hfound : t.find? c id domain (locale.orElse t.currentLocale) with
    | some template =>
      rw [find?] at hfound
      rw [hfound] at hgives
      exact hgives
    | none =>
      obtain ⟨shown, hshown⟩ := exists_toTextAt hrequested .report
      rw [find?] at hfound
      rw [hfound, lookedUp, hshown] at hgives
      exact hgives

end

end Translator

end Phrasebook
