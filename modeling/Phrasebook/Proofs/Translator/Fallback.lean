import Phrasebook.Proofs.Translator.Adding
import Phrasebook.Proofs.Translator.Translation

/-! The fallback of a look-up. A message is taken from the requested locale if it is there, else
from the fallback locale if it is there, and else its id stands for it and the notifier is told
once. What is asked of a single locale says which of the three it is. Whether the notifier fails
makes no difference, to this look-up or to a later one. -/

namespace Phrasebook

namespace Translator

section

variable {t : Translator} {c : Catalogue} {domain locale : Value}

/-! ## One locale -/

theorem targetDomain_eq_text (hdomain : domain.IsOptionalText) :
    t.targetDomain domain = .text (domain.orText t.settings.defaultDomain) :=
  Value.orElse_text hdomain _

theorem gives_hasMessage_of_isKey [Stack] (hcatalogue : t.catalogue = some c) (id : String)
    (hdomain : domain.IsOptionalText) (hkey : (t.targetLocale locale).isKey = true) :
    Gives t (hasMessage (.text id) domain locale)
      (.ok (c.templateAt (t.targetLocale locale) (domain.orText t.settings.defaultDomain)
        id).isSome) [] := by
  obtain ⟨status, hstatus, htemplate⟩ :=
    c.exists_status_of_isKey (domain.orText t.settings.defaultDomain) id hkey
  refine .bind_ok (gives_requireCatalogue hcatalogue) (.current_bind fun u hu => ?_)
  rw [hu.settings, hu.locale, ← targetLocale, Value.orElse_text hdomain, Catalogue.lookup, hstatus,
    ← htemplate]
  refine .bind_quiet (.lift _) ?_
  cases status with
  | found template => exact .pure true
  | localeMissing => exact .bind_ok (.log _ _ _) (.pure false)
  | domainMissing => exact .bind_ok (.log _ _ _) (.pure false)
  | messageMissing => exact .bind_ok (.log _ _ _) (.pure false)

theorem gives_hasMessage [Stack] (hcatalogue : t.catalogue = some c) (id : String)
    (hdomain : domain.IsOptionalText) {code : String} (hcode : code ≠ "") :
    Gives t (hasMessage (.text id) domain (.text code))
      (.ok (c.template? code (domain.orText t.settings.defaultDomain) id).isSome) [] := by
  have htarget : t.targetLocale (.text code) = .text code := Value.orElse_of_ne hcode _
  have hkey : (t.targetLocale (.text code)).isKey = true := by rw [htarget]; rfl
  have hgives := gives_hasMessage_of_isKey hcatalogue id hdomain hkey
  rw [htarget] at hgives
  exact hgives

/-- A locale is said to have a message exactly when there is a template in it. -/
theorem hasMessage_iff [Stack] (hcatalogue : t.catalogue = some c) (id : String)
    (hdomain : domain.IsOptionalText) {code : String} (hcode : code ≠ "") :
    (Step.runAction (hasMessage (.text id) domain (.text code)) t).1.result = .ok true ↔
      ∃ template,
        c.template? code (domain.orText t.settings.defaultDomain) id = some template := by
  rw [(gives_hasMessage hcatalogue id hdomain hcode).runAction.1, Except.ok.injEq,
    Option.isSome_iff_exists]

/-! ## Both locales -/

theorem find?_of_requested {code id template : String} (hcode : code ≠ "")
    (h : c.template? code (domain.orText t.settings.defaultDomain) id = some template) :
    t.find? c id domain (.text code) = some template := by
  unfold find? localesFor
  by_cases hfallback : code = t.settings.fallbackLocale
  · simp [hcode, ← hfallback, h]
  · simp [hcode, hfallback, h]

/-- Without the message in the requested locale, the fallback locale decides. -/
theorem find?_of_not_requested {requested : Value} {id : String}
    (h : ∀ code, requested = .text code → code ≠ "" →
      c.template? code (domain.orText t.settings.defaultDomain) id = none) :
    t.find? c id domain requested =
      c.template? t.settings.fallbackLocale (domain.orText t.settings.defaultDomain) id := by
  unfold find? localesFor
  split
  · rename_i code
    by_cases hcode : code = ""
    · simp [hcode]
    · have hnone := h code rfl hcode
      by_cases hfallback : code = t.settings.fallbackLocale
      · rw [hfallback] at hnone
        simp [hfallback, hnone]
      · simp [hcode, hfallback, hnone]
  · simp

/-! ## Results -/

theorem requested_eq_empty {requested : Value} (h : requested = locale.orElse t.currentLocale)
    (hempty : requested = .text "") : t.currentLocale = .text "" := by
  rw [h] at hempty
  unfold Value.orElse at hempty
  split at hempty
  · rename_i htruthy
    rw [hempty] at htruthy
    cases htruthy
  · exact hempty

/-- A look-up that finds a template gives it and tells nothing. -/
theorem getMessage_of_find? [Stack] (hcatalogue : t.catalogue = some c)
    (hcurrent : t.currentLocale.IsOptionalText) {id template : String}
    (hdomain : domain.IsOptionalText) (hlocale : locale.IsOptionalText)
    (h : t.find? c id domain (locale.orElse t.currentLocale) = some template) :
    (Step.runAction (getMessage (.text id) domain locale) t).1.result = .ok (.text template) ∧
      toldIn (Step.runAction (getMessage (.text id) domain locale) t).1.events = [] := by
  obtain ⟨hresult, htold, -⟩ := (gives_getMessage id hcurrent hdomain hlocale).runAction
  rw [hresult, htold, templateOf, toldOf, hcatalogue]
  simp [h, Except.map]

/-- A look-up that finds nothing gives the id and tells of it. -/
theorem getMessage_of_find?_eq_none [Stack] (hcatalogue : t.catalogue = some c)
    (hcurrent : t.currentLocale.IsOptionalText) {id : String}
    (hdomain : domain.IsOptionalText) (hlocale : locale.IsOptionalText)
    (h : t.find? c id domain (locale.orElse t.currentLocale) = none) :
    (Step.runAction (getMessage (.text id) domain locale) t).1.result = .ok (.text id) ∧
      toldIn (Step.runAction (getMessage (.text id) domain locale) t).1.events =
        t.heard (t.missed id domain (locale.orElse t.currentLocale)) := by
  obtain ⟨hresult, htold, -⟩ := (gives_getMessage id hcurrent hdomain hlocale).runAction
  rw [hresult, htold, templateOf, toldOf, hcatalogue]
  simp [h, Except.map]

/-- The notifier has no part in the result, nor in the results after it. -/
theorem getMessage_with_notifier [Stack] (hcurrent : t.currentLocale.IsOptionalText)
    (notifier : Option Notifier) (id later : String) {laterDomain laterLocale : Value}
    (hdomain : domain.IsOptionalText) (hlocale : locale.IsOptionalText)
    (hlaterDomain : laterDomain.IsOptionalText) (hlaterLocale : laterLocale.IsOptionalText) :
    let done := Step.runAction (getMessage (.text id) domain locale) { t with notifier }
    done.1.result = (Step.runAction (getMessage (.text id) domain locale) t).1.result ∧
      (Step.runAction (getMessage (.text later) laterDomain laterLocale) done.2).1.result =
        (Step.runAction (getMessage (.text later) laterDomain laterLocale) t).1.result := by
  intro done
  have hother : ({ t with notifier } : Translator).currentLocale.IsOptionalText := hcurrent
  obtain ⟨hresult, -, hlike⟩ := (gives_getMessage id hother hdomain hlocale).runAction
  refine ⟨hresult.trans (gives_getMessage id hcurrent hdomain hlocale).runAction.1.symm, ?_⟩
  have hlater := (gives_getMessage later hother hlaterDomain hlaterLocale).runAction_of_like hlike
  exact hlater.1.trans
    (gives_getMessage later hcurrent hlaterDomain hlaterLocale).runAction.1.symm

/-- A look-up gives the template of the requested locale if that locale has the message, else the
template of the fallback locale if that one has it, and tells nothing; else it gives the id and
tells of it once, by the requested locale. That is nothing unless a locale was asked for or is the
current one, and an empty text only when this is the current locale. The results are the same with
any notifier, and so are those of later look-ups. -/
theorem lookup_falls_back [Stack] (hcatalogue : t.catalogue = some c)
    (hcurrent : t.currentLocale.IsOptionalText) (id : String) (hdomain : domain.IsOptionalText)
    (hlocale : locale.IsOptionalText) :
    let requested := locale.orElse t.currentLocale
    let fallback := t.settings.fallbackLocale
    let has (code : String) :=
      (Step.runAction (hasMessage (.text id) domain (.text code)) t).1.result
    let stored (code template : String) :=
      c.status (.text code) (t.targetDomain domain) (.text id) = .ok (.found template)
    let done := Step.runAction (getMessage (.text id) domain locale) t
    (∀ code, requested = .text code → code ≠ "" → has code = .ok true →
      ∃ template, stored code template ∧ done.1.result = .ok (.text template) ∧
        toldIn done.1.events = []) ∧
    ((∀ code, requested = .text code → code ≠ "" → has code ≠ .ok true) →
      (has fallback = .ok true → ∃ template, stored fallback template ∧
        done.1.result = .ok (.text template) ∧ toldIn done.1.events = []) ∧
      (has fallback ≠ .ok true → done.1.result = .ok (.text id) ∧
        toldIn done.1.events = t.heard {
          id := .text id
          domain := t.targetDomain domain
          locale := requested })) ∧
    (requested = .text "" → t.currentLocale = .text "") ∧
    ∀ (notifier : Option Notifier) (later : String) (laterDomain laterLocale : Value),
      laterDomain.IsOptionalText → laterLocale.IsOptionalText →
      let other := Step.runAction (getMessage (.text id) domain locale) { t with notifier }
      other.1.result = done.1.result ∧
        (Step.runAction (getMessage (.text later) laterDomain laterLocale) other.2).1.result =
          (Step.runAction (getMessage (.text later) laterDomain laterLocale) t).1.result := by
  intro requested fallback has stored done
  have htarget : t.targetDomain domain = .text (domain.orText t.settings.defaultDomain) :=
    targetDomain_eq_text hdomain
  have hstored {code template : String} : stored code template ↔
      c.template? code (domain.orText t.settings.defaultDomain) id = some template := by
    simp only [stored, htarget]
    exact Catalogue.status_eq_found_iff
  have hhas {code : String} (hcode : code ≠ "") :
      has code = .ok true ↔ ∃ template, stored code template := by
    simp only [hstored]
    exact hasMessage_iff hcatalogue id hdomain hcode
  refine ⟨?_, ?_, requested_eq_empty rfl, ?_⟩
  · intro code hrequested hcode hfound
    obtain ⟨template, htemplate⟩ := (hhas hcode).mp hfound
    have hfind := find?_of_requested hcode (hstored.mp htemplate)
    rw [← hrequested] at hfind
    exact ⟨template, htemplate, getMessage_of_find? hcatalogue hcurrent hdomain hlocale hfind⟩
  · intro hnot
    have hfind : t.find? c id domain requested =
        c.template? fallback (domain.orText t.settings.defaultDomain) id := by
      refine find?_of_not_requested fun code hrequested hcode => ?_
      refine Option.eq_none_iff_forall_ne_some.mpr fun template htemplate => ?_
      exact hnot code hrequested hcode ((hhas hcode).mpr ⟨template, hstored.mpr htemplate⟩)
    refine ⟨fun hfound => ?_, fun hmissing => ?_⟩
    · obtain ⟨template, htemplate⟩ := (hhas t.settings.fallbackLocale_ne).mp hfound
      rw [hstored.mp htemplate] at hfind
      exact ⟨template, htemplate, getMessage_of_find? hcatalogue hcurrent hdomain hlocale hfind⟩
    · have hnone : t.find? c id domain requested = none := by
        rw [hfind]
        refine Option.eq_none_iff_forall_ne_some.mpr fun template htemplate => ?_
        exact hmissing ((hhas t.settings.fallbackLocale_ne).mpr ⟨template, hstored.mpr htemplate⟩)
      rw [htarget]
      exact getMessage_of_find?_eq_none hcatalogue hcurrent hdomain hlocale hnone
  · intro notifier later laterDomain laterLocale hlaterDomain hlaterLocale
    exact getMessage_with_notifier hcurrent notifier id later hdomain hlocale hlaterDomain
      hlaterLocale

section

attribute [local instance] Stack.ample

/-- A message that is nowhere is told of once, to a notifier that fails. -/
theorem lookup_falls_back_to_id :
    greeter.currentLocale.IsOptionalText ∧ Value.null.IsOptionalText ∧
      (Step.runAction (getMessage (.text "bye") .null .null) greeter).1.result =
        .ok (.text "bye") ∧
      toldIn (Step.runAction (getMessage (.text "bye") .null .null) greeter).1.events =
        [{ id := .text "bye", domain := .text "messages", locale := .null }] := by
  have hcurrent : greeter.currentLocale.IsOptionalText := .inl rfl
  have hnull : Value.null.IsOptionalText := .inl rfl
  obtain ⟨-, hmissing, -⟩ := lookup_falls_back (rfl : greeter.catalogue = some _) hcurrent "bye"
    hnull hnull
  have hfallback : (Step.runAction (hasMessage (.text "bye") .null (.text "en")) greeter).1.result ≠
      .ok true := by
    rw [show (Step.runAction (hasMessage (.text "bye") .null (.text "en")) greeter).1.result =
      .ok false from rfl]
    simp
  exact ⟨hcurrent, hnull, (hmissing fun _ h => nomatch h).2 hfallback⟩

/-- With an empty current locale, what is told of a missing message is an empty locale and not that
there is none. -/
theorem empty_current_locale_is_told :
    let t : Translator := { greeter with currentLocale := .text "" }
    toldIn (Step.runAction (getMessage (.text "bye") .null .null) t).1.events =
        [{ id := .text "bye", domain := .text "messages", locale := .text "" }] ∧
      toldIn (Step.runAction (getMessage (.text "bye") .null .null) t).1.events ≠
        [{ id := .text "bye", domain := .text "messages", locale := .null }] := by
  intro t
  have htold : toldIn (Step.runAction (getMessage (.text "bye") .null .null) t).1.events =
      [{ id := .text "bye", domain := .text "messages", locale := .text "" }] := by rfl
  refine ⟨htold, fun h => ?_⟩
  rw [htold] at h
  simp at h

end

end

end Translator

end Phrasebook
