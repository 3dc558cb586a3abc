import Phrasebook.Proofs.Catalogue.Insertion
import Phrasebook.Proofs.Translator.Fallback

/-! What an added message changes of later look-ups. A look-up depends on the catalogue by one
template alone: that of the first locale, or else that of the fallback locale. An added message
therefore shows in the look-ups of its own locale, and as a message of the fallback locale in those
whose first locale does not have it; every other look-up comes to what it came to before. -/

namespace Phrasebook

namespace Value

theorem orElse_orElse (v w u : Value) : (v.orElse w).orElse u = v.orElse (w.orElse u) := by
  cases hv : v.isTruthy <;> simp [orElse, hv]

end Value

namespace Translator

/-- The template that a look-up comes to. -/
def reached (t : Translator) (c : Catalogue) (id : String) (domain locale : Value) :
    Option String :=
  (c.templateAt (t.targetLocale locale) (domain.orText t.settings.defaultDomain) id).or
    (c.template? t.settings.fallbackLocale (domain.orText t.settings.defaultDomain) id)

section

variable {t : Translator} {c : Catalogue} {domain locale : Value}

/-! ## Look-ups in any locale -/

theorem targetLocale_eq (t : Translator) (locale : Value) :
    t.targetLocale locale =
      (locale.orElse t.currentLocale).orElse (.text t.settings.fallbackLocale) := by
  rw [targetLocale, Translator.locale, Value.orElse_orElse]

/-- The first locale is followed by the fallback locale, unless it is equal to it. -/
theorem candidates_cases {requested : Value} {fallback : String}
    (h : (requested.orElse (.text fallback)).isKey = true) :
    candidates requested (.text fallback) =
        .ok [requested.orElse (.text fallback), .text fallback] ∨
      candidates requested (.text fallback) = .ok [requested.orElse (.text fallback)] ∧
        (requested.orElse (.text fallback) == .text fallback) = true := by
  unfold candidates Value.orElse at *
  cases htruthy : requested.isTruthy with
  | false => exact .inr ⟨rfl, (Value.exactKey_text fallback).beq_self⟩
  | true =>
    rw [htruthy, if_pos rfl] at h
    have hkey : requested.asKey = .ok requested := if_pos h
    simp only [if_true, hkey, bind, Except.bind, pure, Except.pure]
    cases hfallback : requested == .text fallback with
    | true => exact .inr ⟨rfl, rfl⟩
    | false => exact .inl rfl

theorem candidates_of_not_isKey {requested : Value} {fallback : String}
    (h : (requested.orElse (.text fallback)).isKey = false) :
    candidates requested (.text fallback) = .error .wrongType := by
  unfold candidates Value.orElse at *
  cases htruthy : requested.isTruthy with
  | false =>
    rw [htruthy] at h
    cases h
  | true =>
    rw [htruthy, if_pos rfl] at h
    have hkey : requested.asKey = .error .wrongType := if_neg (by simp [h])
    simp only [if_true, hkey, bind, Except.bind]

/-- The locales of a look-up are gone through to the template that is reached. -/
theorem exists_gives_searchIn [Stack] (c : Catalogue) (id : String) (domain : Value)
    (hkey : (t.targetLocale locale).isKey = true) :
    ∃ locales,
      candidates (locale.orElse t.currentLocale) (.text t.settings.fallbackLocale) =
        .ok locales ∧
      Gives t (searchIn c (.text (domain.orText t.settings.defaultDomain)) (.text id) locales)
        (.ok (t.reached c id domain locale)) [] := by
  have hfallback : (Value.text t.settings.fallbackLocale).isKey = true := rfl
  unfold reached
  rw [targetLocale_eq] at hkey ⊢
  rcases candidates_cases hkey with hlocales | ⟨hlocales, hbeq⟩
  · refine ⟨_, hlocales, ?_⟩
    have hsearch := gives_searchIn_of_isKey t c (domain.orText t.settings.defaultDomain) id
      (List.forall_mem_cons.mpr ⟨hkey, List.forall_mem_singleton.mpr hfallback⟩)
    rw [List.findSome?_cons, List.findSome?_singleton, Catalogue.templateAt_text] at hsearch
    cases hfirst : c.templateAt
        ((locale.orElse t.currentLocale).orElse (.text t.settings.fallbackLocale))
        (domain.orText t.settings.defaultDomain) id with
    | none =>
      rw [hfirst] at hsearch
      exact hsearch
    | some template =>
      rw [hfirst] at hsearch
      exact hsearch
  · refine ⟨_, hlocales, ?_⟩
    -- the fallback locale is equal to the first one, which therefore has the templates of both
    have hsearch := gives_searchIn_of_isKey t c (domain.orText t.settings.defaultDomain) id
      (List.forall_mem_singleton.mpr hkey)
    rw [List.findSome?_singleton, c.templateAt_congr _ _ hbeq] at hsearch
    rw [c.templateAt_congr _ _ hbeq, Catalogue.templateAt_text, Option.or_self]
    exact hsearch

theorem gives_getMessage_of_isKey [Stack] (hcatalogue : t.catalogue = some c) (id : String)
    (hdomain : domain.IsOptionalText) (hkey : (t.targetLocale locale).isKey = true) :
    Gives t (getMessage (.text id) domain locale)
      (t.lookedUp id domain locale (t.reached c id domain locale)).1
      (t.lookedUp id domain locale (t.reached c id domain locale)).2 := by
  obtain ⟨locales, hlocales, hsearch⟩ := exists_gives_searchIn c id domain hkey
  exact gives_getMessage_of_searchIn hcatalogue hdomain hlocales hsearch

theorem gives_getMessage_of_not_isKey [Stack] (hcatalogue : t.catalogue = some c)
    (id domain : Value) (hkey : (t.targetLocale locale).isKey = false) :
    Gives t (getMessage id domain locale) (.error .wrongType) [] := by
  rw [targetLocale_eq] at hkey
  refine .bind_ok (gives_requireCatalogue hcatalogue) (.current_bind fun u hu => ?_)
  rw [hu.settings, hu.currentLocale]
  dsimp only
  rw [candidates_of_not_isKey hkey]
  exact .bind_error _ (.lift _)

/-- A template of the first locale is found. -/
theorem getMessage_of_templateAt [Stack] {id template : String} (hcatalogue : t.catalogue = some c)
    (hdomain : domain.IsOptionalText) (hkey : (t.targetLocale locale).isKey = true)
    (h : c.templateAt (t.targetLocale locale) (domain.orText t.settings.defaultDomain) id =
      some template) :
    (Step.runAction (getMessage (.text id) domain locale) t).1.result = .ok (.text template) := by
  rw [(gives_getMessage_of_isKey hcatalogue id hdomain hkey).runAction.1, reached, h,
    Option.some_or]
  rfl

/-- Two catalogues in which a look-up reaches the same give it the same outcome. -/
theorem getMessage_congr [Stack] {u : Translator} {c' : Catalogue}
    (hu : u = { t with catalogue := some c' }) (hcatalogue : t.catalogue = some c) (id : String)
    (hdomain : domain.IsOptionalText)
    (h : (t.targetLocale locale).isKey = true →
      t.reached c' id domain locale = t.reached c id domain locale) :
    (Step.runAction (getMessage (.text id) domain locale) u).1.result =
        (Step.runAction (getMessage (.text id) domain locale) t).1.result ∧
      toldIn (Step.runAction (getMessage (.text id) domain locale) u).1.events =
        toldIn (Step.runAction (getMessage (.text id) domain locale) t).1.events := by
  subst hu
  cases hkey : (t.targetLocale locale).isKey with
  | false =>
    have hkey' : (({ t with catalogue := some c' } : Translator).targetLocale locale).isKey =
      false := hkey
    obtain ⟨hresult, htold, -⟩ :=
      (gives_getMessage_of_not_isKey hcatalogue (.text id) domain hkey).runAction
    obtain ⟨hresult', htold', -⟩ :=
      (gives_getMessage_of_not_isKey rfl (.text id) domain hkey').runAction
    exact ⟨hresult'.trans hresult.symm, htold'.trans htold.symm⟩
  | true =>
    have hkey' : (({ t with catalogue := some c' } : Translator).targetLocale locale).isKey =
      true := hkey
    obtain ⟨hresult, htold, -⟩ := (gives_getMessage_of_isKey hcatalogue id hdomain hkey).runAction
    obtain ⟨hresult', htold', -⟩ := (gives_getMessage_of_isKey rfl id hdomain hkey').runAction
    rw [hresult, htold, hresult', htold', ← h hkey]
    exact ⟨rfl, rfl⟩

/-! ## Added messages -/

/-- A look-up of an added message: by its id, in its domain, and in its locale first; or, where it
was added to the fallback locale, in a first locale that does not have it. -/
def Shows [Stack] (t : Translator) (id : String) (domain locale : Value) (other : String)
    (otherDomain otherLocale : Value) : Prop :=
  other = id ∧ t.targetDomain otherDomain = t.targetDomain domain ∧
    (t.targetLocale otherLocale = t.targetLocale locale ∨
      t.targetLocale locale = .text t.settings.fallbackLocale ∧
        (Step.runAction (hasMessage (.text other) otherDomain otherLocale) t).1.result ≠ .ok true)

theorem targetLocale_cases (hlocale : locale.IsOptionalText) :
    t.targetLocale locale = t.locale ∨ ∃ s, t.targetLocale locale = .text s := by
  obtain rfl | ⟨s, rfl⟩ := hlocale
  · exact .inl rfl
  · by_cases hs : s = ""
    · subst hs
      exact .inl rfl
    · exact .inr ⟨s, Value.orElse_of_ne hs t.locale⟩

/-- Locales that come from texts and from the translator are equal as keys only when they are the
same. -/
theorem targetLocale_eq_of_beq {other : Value} (hlocale : locale.IsOptionalText)
    (hother : other.IsOptionalText)
    (h : (t.targetLocale locale == t.targetLocale other) = true) :
    t.targetLocale other = t.targetLocale locale := by
  rcases targetLocale_cases hlocale (t := t) with heq | ⟨s, heq⟩
  · rcases targetLocale_cases hother (t := t) with heq' | ⟨s, heq'⟩
    · rw [heq, heq']
    · rw [heq'] at h ⊢
      exact ((Value.exactKey_text s).eq_of_beq _ h).symm
  · rw [heq] at h ⊢
    exact (Value.exactKey_text s).eq_of_beq _ (BEq.symm h)

theorem targetLocale_eq_text (hcurrent : t.currentLocale.IsOptionalText)
    (hlocale : locale.IsOptionalText) : t.targetLocale locale = .text (t.codeFor locale) := by
  rw [targetLocale, Translator.locale, Value.orElse_text hcurrent, Value.orElse_text hlocale,
    codeFor]

/-- Under texts, a message is always added. -/
theorem result_add_text [Stack] (id : String) {template : String} (htemplate : template ≠ "")
    (hcurrent : t.currentLocale.IsOptionalText) (hdomain : domain.IsOptionalText)
    (hlocale : locale.IsOptionalText) :
    (Step.runAction (add (.text id) (.text template) domain locale) t).1.result = .ok () := by
  rw [result_add, insertion, targetLocale_eq_text hcurrent hlocale, targetDomain_eq_text hdomain,
    Catalogue.set_text _ _ _ _ htemplate]

/-- The catalogue of a translator with a message inserted. -/
def withMessage (t : Translator) (id template : String) (domain locale : Value) : Catalogue :=
  (t.catalogue.getD .empty).insert (t.targetLocale locale)
    (.text (domain.orText t.settings.defaultDomain)) (.text id) template

/-- An addition that is done inserts the message. -/
theorem translator_of_added [Stack] {id template : String} (hdomain : domain.IsOptionalText)
    (h : (Step.runAction (add (.text id) (.text template) domain locale) t).1.result = .ok ()) :
    (t.targetLocale locale).isKey = true ∧
      (Step.runAction (add (.text id) (.text template) domain locale) t).2 =
        { t with catalogue := some (t.withMessage id template domain locale) } := by
  rw [result_add] at h
  rw [translator_add, h]
  obtain ⟨s, htemplate, -, ⟨hkey, -, -⟩, hinsert⟩ := Catalogue.of_set_eq_ok (Prod.ext h rfl)
  obtain rfl := Value.text.inj htemplate
  have hcatalogue : (t.insertion (.text id) (.text template) domain locale).2 = _ := hinsert
  rw [hcatalogue, targetDomain_eq_text hdomain]
  exact ⟨hkey, rfl⟩

theorem templateAt_withMessage (id template : String) (domain : Value)
    (hkey : (t.targetLocale locale).isKey = true) :
    (t.withMessage id template domain locale).templateAt (t.targetLocale locale)
      (domain.orText t.settings.defaultDomain) id = some template := by
  rw [withMessage, Catalogue.templateAt_insert,
    if_pos ⟨Value.beq_self_of_isKey hkey, rfl, rfl⟩]

/-- A look-up that an added message does not show in reaches what it reached before. -/
theorem reached_withMessage [Stack] {id other template : String} {otherDomain otherLocale : Value}
    (hcatalogue : t.catalogue = some c) (hdomain : domain.IsOptionalText)
    (hlocale : locale.IsOptionalText) (hotherDomain : otherDomain.IsOptionalText)
    (hotherLocale : otherLocale.IsOptionalText)
    (hkey : (t.targetLocale otherLocale).isKey = true)
    (h : ¬ t.Shows id domain locale other otherDomain otherLocale) :
    t.reached (t.withMessage id template domain locale) other otherDomain otherLocale =
      t.reached c other otherDomain otherLocale := by
  rw [reached, reached, ← Catalogue.templateAt_text, ← Catalogue.templateAt_text, withMessage,
    hcatalogue, Option.getD_some, Catalogue.templateAt_insert, Catalogue.templateAt_insert]
  by_cases hwritten : otherDomain.orText t.settings.defaultDomain =
      domain.orText t.settings.defaultDomain ∧ other = id
  · obtain ⟨hsame, rfl⟩ := hwritten
    have htarget : t.targetDomain otherDomain = t.targetDomain domain := by
      rw [targetDomain_eq_text hotherDomain, targetDomain_eq_text hdomain, hsame]
    have hfirst : ¬ (t.targetLocale locale == t.targetLocale otherLocale) = true := fun hbeq =>
      h ⟨rfl, htarget, .inl (targetLocale_eq_of_beq hlocale hotherLocale hbeq)⟩
    rw [if_neg fun hbeq => hfirst hbeq.1]
    split
    · rename_i hbeq
      -- written to the fallback locale, so the first locale has a template of its own
      have hfallback := (Value.exactKey_text t.settings.fallbackLocale).eq_of_beq _ hbeq.1
      have hhas := (gives_hasMessage_of_isKey hcatalogue other hotherDomain hkey).runAction.1
      cases hfound : c.templateAt (t.targetLocale otherLocale)
          (otherDomain.orText t.settings.defaultDomain) other with
      | some found => rfl
      | none =>
        rw [hfound] at hhas
        exact absurd ⟨rfl, htarget, .inr ⟨hfallback, by rw [hhas]; simp⟩⟩ h
    · rfl
  · rw [if_neg fun hbeq => hwritten hbeq.2, if_neg fun hbeq => hwritten hbeq.2]

/-- An added message is found where it was added. A look-up by texts that it does not show in comes
to what it came to before, in result and in what is told. -/
theorem added_message_is_found [Stack] (t : Translator) (id : String) {template : String}
    (htemplate : template ≠ "")
    (hdomain : domain.IsOptionalText) (hlocale : locale.IsOptionalText) :
    let done := Step.runAction (add (.text id) (.text template) domain locale) t
    (t.currentLocale.IsOptionalText → done.1.result = .ok ()) ∧
    (done.1.result = .ok () →
      (Step.runAction (getMessage (.text id) domain locale) done.2).1.result =
        .ok (.text template) ∧
      (Step.runAction (hasMessage (.text id) domain locale) done.2).1.result = .ok true ∧
      (t.isInitialized = true → ∀ (other : String) (otherDomain otherLocale : Value),
        otherDomain.IsOptionalText → otherLocale.IsOptionalText →
        ¬ t.Shows id domain locale other otherDomain otherLocale →
        let get (u : Translator) :=
          (Step.runAction (getMessage (.text other) otherDomain otherLocale) u).1
        (get done.2).result = (get t).result ∧
          toldIn (get done.2).events = toldIn (get t).events)) := by
  intro done
  refine ⟨fun hcurrent => result_add_text id htemplate hcurrent hdomain hlocale, fun hdone => ?_⟩
  obtain ⟨hkey, htranslator⟩ := translator_of_added hdomain hdone
  have hfound := templateAt_withMessage id template domain hkey
  let after : Translator := { t with catalogue := some (t.withMessage id template domain locale) }
  have hafter : after.catalogue = some (t.withMessage id template domain locale) := rfl
  rw [htranslator]
  refine ⟨getMessage_of_templateAt hafter hdomain hkey hfound, ?_, ?_⟩
  · have hhas := (gives_hasMessage_of_isKey hafter id hdomain hkey).runAction.1
    exact hhas.trans (congrArg Except.ok (congrArg Option.isSome hfound))
  · intro hinitialized other otherDomain otherLocale hotherDomain hotherLocale h
    obtain ⟨c, hcatalogue⟩ := Option.isSome_iff_exists.mp hinitialized
    refine getMessage_congr rfl hcatalogue other hotherDomain fun hotherKey => ?_
    exact reached_withMessage hcatalogue hdomain hlocale hotherDomain hotherLocale hotherKey h

section

attribute [local instance] Stack.ample

/-- A message added to the current locale is found in it, and not in the fallback locale, which
keeps its own. -/
theorem added_message_is_found_beside_fallback :
    let t : Translator := { greeter with currentLocale := .text "fr" }
    let done := Step.runAction (add (.text "hello") (.text "Bonjour") .null .null) t
    let get (locale : Value) (u : Translator) :=
      (Step.runAction (getMessage (.text "hello") .null locale) u).1
    "Bonjour" ≠ "" ∧ Value.null.IsOptionalText ∧ done.1.result = .ok () ∧
      (get .null done.2).result = .ok (.text "Bonjour") ∧
      (get (.text "en") done.2).result = (get (.text "en") t).result := by
  intro t done get
  have hnull : Value.null.IsOptionalText := .inl rfl
  obtain ⟨hdone, hfound⟩ := added_message_is_found t "hello"
    (show "Bonjour" ≠ "" by decide) hnull hnull
  have hresult : done.1.result = .ok () := hdone (.inr ⟨"fr", rfl⟩)
  obtain ⟨hget, -, hframe⟩ := hfound hresult
  have hother : ¬ t.Shows "hello" .null .null "hello" .null (.text "en") := by
    rintro ⟨-, -, hsame | ⟨hfallback, -⟩⟩
    · exact absurd (Value.text.inj hsame) (by decide)
    · exact absurd (Value.text.inj hfallback) (by decide)
  exact ⟨by decide, hnull, hresult, hget,
    (hframe rfl "hello" .null (.text "en") hnull (.inr ⟨"en", rfl⟩) hother).1⟩

end

end

end Translator

end Phrasebook
