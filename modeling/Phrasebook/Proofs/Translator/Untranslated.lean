import Phrasebook.Proofs.Template.Totality
import Phrasebook.Proofs.Translator.Fallback

/-! Translating a message that is not there. Its id stands in for the template and goes the way of
one: with the separator in it the id is read as variants, of which one is chosen as for any other
template. Without parameters the count is one and nothing is put in, so what is shown is the id, or
a variant in it, which is never the whole id. -/

namespace Phrasebook

/-! ## Texts that are their own templates -/

namespace Template

/-- What is shown of a text that is its own template: its variant for one, and the text where there
is none. -/
def shownOf [Stack] (separator text code : String) : String :=
  (pluralize text .null code separator).toOption.join.getD text

section

variable {separator text : String} {parameters : Value} [Stack] (code : String)

theorem pluralize_of_not_isTruthy (h : parameters.isTruthy = false) :
    pluralize text parameters code separator = pluralize text .null code separator := by
  have hcount : Count.ofParameters parameters = Count.ofParameters .null := by
    have hnull : Value.null.isTruthy = false := rfl
    simp [Count.ofParameters, h, hnull]
  rw [pluralize, pluralize, hcount]

/-- Without parameters, a text with the separator is read and the variant for one is chosen. -/
theorem pluralize_null (hoccurs : Text.occurs separator.toList text.toList = true) :
    pluralize text .null code separator =
      (read separator text >>= fun template => template.select (.int 1) code) := by
  rw [pluralize, hoccurs]
  rfl

omit [Stack] in
/-- The variant for one is always found, or there is none. -/
theorem exists_select_one (template : Template) :
    ∃ variant, template.select (.int 1) code = .ok variant := by
  have hfinite : (Count.int 1).isFinite = true := rfl
  have hremainder : (Count.int 1).admitsRemainder = true := rfl
  obtain ⟨variant, hvariant, -⟩ := (ends_select hfinite template code).exists_ok
    fun fault hfault => Bool.false_ne_true (hfault.2.symm.trans hremainder)
  exact ⟨variant, hvariant⟩

/-- A variant of a text with the separator is not the whole text. -/
theorem ne_of_pluralize {result : String} (hseparator : separator ≠ "")
    (hoccurs : Text.occurs separator.toList text.toList = true)
    (h : pluralize text parameters code separator = .ok (some result)) : result ≠ text := by
  -- a variant is the end of a piece, and the pieces leave the separator out
  obtain ⟨piece, hpiece, hsuffix⟩ := exists_suffix_of_pluralize h
  have hshorter := Text.length_lt_of_mem_split (by simpa using hseparator) hoccurs hpiece
  rintro rfl
  exact absurd (hsuffix.length_le.trans_lt hshorter) (lt_irrefl _)

theorem shownOf_of_not_occurs (h : Text.occurs separator.toList text.toList = false) :
    shownOf separator text code = text := by
  rw [shownOf, pluralize_of_not_occurs h]
  rfl

theorem shownOf_of_not_read (hoccurs : Text.occurs separator.toList text.toList = true)
    (h : ¬ ∃ template, read separator text = .ok template) :
    shownOf separator text code = text := by
  rw [shownOf, pluralize_null code hoccurs]
  cases hread : read separator text with
  | error fault => rfl
  | ok template => exact absurd ⟨template, hread⟩ h

theorem shownOf_of_read {template : Template} (hseparator : separator ≠ "")
    (hoccurs : Text.occurs separator.toList text.toList = true)
    (hread : read separator text = .ok template) :
    (template.select (.int 1) code = .ok none ∧ shownOf separator text code = text) ∨
      ∃ variant, template.select (.int 1) code = .ok (some variant) ∧
        shownOf separator text code = variant ∧ variant ≠ text := by
  obtain ⟨variant, hvariant⟩ := template.exists_select_one code
  have hplural : pluralize text .null code separator = .ok variant := by
    rw [pluralize_null code hoccurs, hread]
    exact hvariant
  rw [shownOf, hplural]
  cases variant with
  | none => exact .inl ⟨hvariant, rfl⟩
  | some variant =>
    exact .inr ⟨variant, hvariant, rfl, ne_of_pluralize code hseparator hoccurs hplural⟩

end

end Template

namespace Translator

section

variable {t : Translator} {c : Catalogue} {id : String} {parameters domain locale : Value}
  [Stack]

theorem filled_of_not_isTruthy (template code : String)
    (hparameters : parameters.isTruthy = false) :
    t.filled template parameters code =
      (Template.pluralize template .null code t.settings.separator).map
        fun variant => variant.getD template := by
  have hreplace (message : String) : Placeholder.replace message parameters = .ok message := by
    simp [Placeholder.replace, hparameters]
  rw [filled, Template.pluralize_of_not_isTruthy code hparameters]
  cases Template.pluralize template .null code t.settings.separator with
  | error fault => rfl
  | ok variant => exact hreplace _

/-! ## Messages that are not there -/

omit [Stack] in
theorem find?_eq_none {code : String}
    (hrequested : ∀ template,
      c.status (.text code) (t.targetDomain domain) (.text id) ≠ .ok (.found template))
    (hfallback : ∀ template, c.status (.text t.settings.fallbackLocale) (t.targetDomain domain)
      (.text id) ≠ .ok (.found template))
    (hdomain : domain.IsOptionalText) : t.find? c id domain (.text code) = none := by
  have hnone {locale : String} (h : ∀ template,
      c.status (.text locale) (t.targetDomain domain) (.text id) ≠ .ok (.found template)) :
      c.template? locale (domain.orText t.settings.defaultDomain) id = none := by
    rw [targetDomain_eq_text hdomain] at h
    exact Option.eq_none_iff_forall_ne_some.mpr fun template htemplate =>
      h template (Catalogue.status_eq_found_iff.mpr htemplate)
  rw [find?_of_not_requested fun other hother _ => Value.text.inj hother ▸ hnone hrequested]
  exact hnone hfallback

theorem answer_of_find?_eq_none (hcatalogue : t.catalogue = some c)
    (hparameters : parameters.isTruthy = false)
    (h : t.find? c id domain (.text (t.codeFor locale)) = none) :
    t.answer id parameters domain locale =
      .ok (Template.shownOf t.settings.separator id (t.codeFor locale)) := by
  have htemplate : t.templateOf id domain (.text (t.codeFor locale)) = .ok id := by
    rw [templateOf, hcatalogue, Value.orElse_of_ne (codeFor_ne t locale)]
    simp only [h, Option.getD_none]
  have hmessage : t.message id parameters domain (t.codeFor locale) =
      t.filled id parameters (t.codeFor locale) := message_of_template htemplate
  rw [filled_of_not_isTruthy id _ hparameters] at hmessage
  rw [Template.shownOf]
  cases hplural : Template.pluralize id .null (t.codeFor locale) t.settings.separator with
  | error fault =>
    rw [hplural] at hmessage
    -- nothing is shown for the count when there are no parameters
    have hfault := (Template.pluralize_byShowing id (t.codeFor locale) t.settings.separator
      (.inl rfl) fault hplural).resolve_right Value.not_holdsUnshown_null
    exact answer_of_recoverable hfault hmessage
  | ok variant =>
    rw [hplural] at hmessage
    exact answer_of_ok hmessage

/-- An id that is nowhere stands in for its template, and is told of once. -/
theorem gives_translate_of_find?_eq_none (hcatalogue : t.catalogue = some c)
    (hcurrent : t.currentLocale.IsOptionalText)
    (hparameters : parameters = .null ∨ parameters = .map [])
    (hdomain : domain.IsOptionalText) (hlocale : locale.IsOptionalText)
    (h : t.find? c id domain (.text (t.codeFor locale)) = none) :
    Gives t (translate (.text id) parameters domain locale)
      (.ok (.text (Template.shownOf t.settings.separator id (t.codeFor locale))))
      (t.heard {
        id := .text id
        domain := t.targetDomain domain
        locale := .text (t.codeFor locale) }) := by
  have hempty : parameters.isTruthy = false := by
    rcases hparameters with rfl | rfl <;> rfl
  have htold : t.toldOf id domain (.text (t.codeFor locale)) = t.heard {
      id := .text id
      domain := t.targetDomain domain
      locale := .text (t.codeFor locale) } := by
    rw [toldOf, hcatalogue, Value.orElse_of_ne (codeFor_ne t locale)]
    simp only [h, Option.isSome_none, Bool.false_eq_true, if_false]
    rw [missed, targetDomain_eq_text hdomain]
  have hgives := gives_translate id parameters hcurrent hdomain hlocale
  rwa [htold, answer_of_find?_eq_none hcatalogue hempty h] at hgives

/-- An id that is nowhere is told of once. Without parameters it is shown as it is, unless it has
the separator in it and can be read as a template with a variant for one, in the locale of the
message: then that variant is shown, which is not the whole id. -/
theorem untranslated_id_is_its_template (hcatalogue : t.catalogue = some c)
    (hcurrent : t.currentLocale.IsOptionalText)
    (hparameters : parameters = .null ∨ parameters = .map [])
    (hdomain : domain.IsOptionalText) (hlocale : locale.IsOptionalText)
    (heffective : ∀ template, c.status (.text (t.codeFor locale)) (t.targetDomain domain)
      (.text id) ≠ .ok (.found template))
    (hfallback : ∀ template, c.status (.text t.settings.fallbackLocale) (t.targetDomain domain)
      (.text id) ≠ .ok (.found template)) :
    let done := Step.runAction (translate (.text id) parameters domain locale) t
    let separator := t.settings.separator
    toldIn done.1.events = t.heard {
        id := .text id
        domain := t.targetDomain domain
        locale := .text (t.codeFor locale) } ∧
      ∃ shown, done.1.result = .ok (.text shown) ∧
        (Text.occurs separator.toList id.toList = false → shown = id) ∧
        (Text.occurs separator.toList id.toList = true →
          ((¬ ∃ template, Template.read separator id = .ok template) → shown = id) ∧
          ∀ template, Template.read separator id = .ok template →
            (template.select (.int 1) (t.codeFor locale) = .ok none ∧ shown = id) ∨
            ∃ variant, template.select (.int 1) (t.codeFor locale) = .ok (some variant) ∧
              shown = variant ∧ variant ≠ id) := by
  intro done separator
  have hfind := find?_eq_none heffective hfallback hdomain
  obtain ⟨hresult, htold, -⟩ := (gives_translate_of_find?_eq_none hcatalogue hcurrent hparameters
    hdomain hlocale hfind).runAction
  refine ⟨htold, _, hresult, Template.shownOf_of_not_occurs _, fun hoccurs => ⟨?_, ?_⟩⟩
  · exact Template.shownOf_of_not_read _ hoccurs
  · exact fun template => Template.shownOf_of_read _ t.settings.separator_ne hoccurs

end

section

attribute [local instance] Stack.ample

/-- Of an id with the separator in it that is not there, the first variant is shown. -/
theorem untranslated_id_is_its_template_first_variant :
    let c := Catalogue.empty.insert (.text "en") (.text "messages") (.text "hello") "Hello %name%"
    let done := Step.runAction (translate (.text "Save|Load") .null .null .null) greeter
    greeter.catalogue = some c ∧ greeter.currentLocale.IsOptionalText ∧
      Value.null.IsOptionalText ∧
      (∀ template, c.status (.text "en") (.text "messages") (.text "Save|Load") ≠
        .ok (.found template)) ∧
      done.1.result = .ok (.text "Save") ∧ (toldIn done.1.events).length = 1 := by
  intro c done
  have hcurrent : greeter.currentLocale.IsOptionalText := .inl rfl
  have hnull : Value.null.IsOptionalText := .inl rfl
  have hmissing (template : String) : c.status (.text "en") (.text "messages")
      (.text "Save|Load") ≠ .ok (.found template) := by
    have hstatus : c.status (.text "en") (.text "messages") (.text "Save|Load") =
        .ok .messageMissing := by rfl
    rw [hstatus]
    simp
  obtain ⟨htold, shown, hshown, -, hvariants⟩ := untranslated_id_is_its_template
    (rfl : greeter.catalogue = some c) hcurrent (.inl rfl) hnull hnull hmissing hmissing
  have hread : Template.read "|" "Save|Load" =
      .ok { standard := ["Save", "Load"], rules := [], segmentCount := 2 } := by decide +kernel
  have hselect : ({ standard := ["Save", "Load"], rules := [], segmentCount := 2 } :
      Template).select (.int 1) "en" = .ok (some "Save") := by decide +kernel
  refine ⟨rfl, hcurrent, hnull, hmissing, ?_, by rw [htold]; rfl⟩
  rcases (hvariants (by decide +kernel)).2 _ hread with ⟨hnone, -⟩ | ⟨variant, hvariant, rfl, -⟩
  · exact absurd (hselect.symm.trans hnone) (by simp)
  · rw [hshown, Option.some.inj (Except.ok.inj (hselect.symm.trans hvariant))]

/-- An id with the separator in it is not shown as it is, though no locale has it. -/
theorem untranslated_id_not_shown_whole :
    greeter.isInitialized = true ∧
      (Step.runAction (hasMessage (.text "Save|Load") .null .null) greeter).1.result =
        .ok false ∧
      (Step.runAction (hasMessage (.text "Save|Load") .null
        (.text greeter.settings.fallbackLocale)) greeter).1.result = .ok false ∧
      (Step.runAction (translate (.text "Save|Load") .null .null .null) greeter).1.result ≠
        .ok (.text "Save|Load") := by
  have hresult := (gives_translate_of_find?_eq_none (rfl : greeter.catalogue = some _) (.inl rfl)
    (.inl rfl) (.inl rfl) (.inl rfl) (rfl : greeter.find? _ "Save|Load" .null
      (.text (greeter.codeFor .null)) = none)).runAction.1
  have hshown : Template.shownOf "|" "Save|Load" "en" = "Save" := by decide +kernel
  refine ⟨rfl, by rfl, by rfl, ?_⟩
  intro hwhole
  have htext : Template.shownOf "|" "Save|Load" "en" = "Save|Load" :=
    Value.text.inj (Except.ok.inj (hresult.symm.trans hwhole))
  exact absurd (hshown.symm.trans htext) (by decide)

end

end Translator

end Phrasebook
