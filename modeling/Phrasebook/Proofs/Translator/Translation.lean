import Phrasebook.Proofs.Fault.Recoverable
import Phrasebook.Proofs.Translator.Lookup

/-! Translating a message. It is looked up, its variant is chosen and the parameters are put in.
Each of these may fail by a fault of what was given, and the answer is then the id. Only a value
among the parameters that cannot be shown may fail by another fault, and that one gets out. -/

namespace Phrasebook

namespace Translator

/-- The code of the locale that a message is translated for. -/
def codeFor (t : Translator) (locale : Value) : String :=
  locale.orText (t.currentLocale.orText t.settings.fallbackLocale)

theorem codeFor_ne (t : Translator) (locale : Value) : t.codeFor locale ≠ "" :=
  Value.orText_ne (Value.orText_ne t.settings.fallbackLocale_ne)

/-- A template with the variant for the count and the values of the parameters. -/
def filled [Stack] (t : Translator) (template : String) (parameters : Value) (code : String) :
    Except Fault String := do
  let variant ← Template.pluralize template parameters code t.settings.separator
  Placeholder.replace (variant.getD template) parameters

/-- The text of a message in a locale, before failures are taken care of. -/
def message [Stack] (t : Translator) (id : String) (parameters domain : Value) (code : String) :
    Except Fault String := do
  let template ← t.templateOf id domain (.text code)
  t.filled template parameters code

section

variable [Stack] {t : Translator} {id : String} {parameters domain locale : Value}

omit [Stack] in
theorem gives_readTemplate (text : String) :
    Gives t (readTemplate text) (Template.read t.settings.separator text) [] := by
  refine .current_bind fun u hu => ?_
  rw [hu.settings]
  refine .lift_bind fun template => ?_
  dsimp only
  split
  · exact .pure template
  · refine .bind_quiet (.update_readBefore _) ?_
    split
    · exact .bind_ok (.log _ _ _) (.pure template)
    · exact .pure template

theorem gives_pluralize (template : String) (parameters : Value) {code : String}
    (hcode : locale.orElse t.locale = Value.text code) :
    Gives t (pluralize (.text template) parameters locale)
      ((Template.pluralize template parameters code t.settings.separator).map
        (Option.map Value.text)) [] := by
  refine .current_bind fun u hu => ?_
  rw [hu.settings, Value.holdsText_text]
  refine .bind_quiet (.lift _) ?_
  unfold Template.pluralize
  cases Text.occurs t.settings.separator.toList template.toList with
  | false => exact .pure (some (Value.text template))
  | true =>
    rw [hu.locale, hcode]
    have hread := gives_readTemplate (t := t) template
    cases Count.ofParameters parameters with
    | error fault => exact .bind_error _ (.lift (.error fault))
    | ok count =>
      refine .bind_quiet (.lift (.ok count)) ?_
      cases hparsed : Template.read t.settings.separator template with
      | error fault =>
        rw [hparsed] at hread
        exact .bind_error _ hread
      | ok parsed =>
        rw [hparsed] at hread
        refine .bind_quiet hread ?_
        show Gives t _ ((parsed.select count code).map _) []
        rw [Template.select, positionIn]
        cases parsed.variant count (pluralPosition count code) with
        | error fault => exact .bind_error _ (.lift (.error fault))
        | ok variant => exact .bind_ok (.lift (.ok variant)) (.pure _)

theorem gives_resolve (id : String) (parameters : Value)
    (hcurrent : t.currentLocale.IsOptionalText)
    (hdomain : domain.IsOptionalText) {code : String} (hcode : code ≠ "") :
    Gives t (resolve (.text id) parameters domain (.text code))
      ((t.message id parameters domain code).map .text) (t.toldOf id domain (.text code)) := by
  have hget := gives_getMessage id hcurrent hdomain (.inr ⟨code, rfl⟩)
  rw [← List.append_nil (t.toldOf _ _ _)]
  unfold resolve message
  cases htemplate : t.templateOf id domain (.text code) with
  | error fault =>
    rw [htemplate] at hget
    rw [List.append_nil]
    exact .bind_error _ hget
  | ok template =>
    rw [htemplate] at hget
    refine .bind_ok hget ?_
    have hvariant := gives_pluralize template parameters (Value.orElse_of_ne hcode t.locale)
    show Gives t _ ((t.filled template parameters code).map _) []
    unfold filled
    cases hv : Template.pluralize template parameters code t.settings.separator with
    | error fault =>
      rw [hv] at hvariant
      exact .bind_error _ hvariant
    | ok variant =>
      rw [hv] at hvariant
      refine .bind_quiet hvariant ?_
      cases variant with
      | none =>
        refine .bind_ok (.lift (.ok id)) (.bind_quiet (.lift (.ok code)) ?_)
        exact .bind_ok (.log _ _ _) (.bind_ok (.pure (Value.text template)) (.lift _))
      | some text => exact .bind_ok (.pure (Value.text text)) (.lift _)

theorem message_of_template {code template : String}
    (h : t.templateOf id domain (.text code) = .ok template) :
    t.message id parameters domain code = t.filled template parameters code := by
  rw [message, h]
  rfl

/-- A message fails by what was given, or by a value among the parameters that cannot be shown. -/
theorem message_byShowing (t : Translator) (id : String) (hparameters : parameters.IsParameters)
    (domain : Value) (code : String) :
    FailsByShowing parameters (t.message id parameters domain code) := by
  refine .bind ?_ fun template => .bind ?_ fun variant => ?_
  · unfold templateOf
    cases t.catalogue with
    | none => exact .error (.inl rfl)
    | some c => exact .ok _
  · exact Template.pluralize_byShowing template code _ hparameters
  · exact Placeholder.replace_byShowing _ hparameters

/-- What a translation answers: the text of the message, or the id where a fault of what was given
leaves none. -/
def answer (t : Translator) (id : String) (parameters domain locale : Value) :
    Except Fault String :=
  match t.message id parameters domain (t.codeFor locale) with
  | .ok message => .ok message
  | .error fault => if fault.isRecoverable then .ok id else .error fault

theorem answer_of_recoverable {fault : Fault} (hfault : fault.isRecoverable = true)
    (h : t.message id parameters domain (t.codeFor locale) = .error fault) :
    t.answer id parameters domain locale = .ok id := by
  rw [answer, h]
  exact if_pos hfault

theorem answer_of_not_recoverable {fault : Fault} (hfault : fault.isRecoverable = false)
    (h : t.message id parameters domain (t.codeFor locale) = .error fault) :
    t.answer id parameters domain locale = .error fault := by
  rw [answer, h]
  exact if_neg (by simp [hfault])

theorem answer_of_ok {message : String}
    (h : t.message id parameters domain (t.codeFor locale) = .ok message) :
    t.answer id parameters domain locale = .ok message := by
  rw [answer, h]

theorem gives_translate (id : String) (parameters : Value)
    (hcurrent : t.currentLocale.IsOptionalText) (hdomain : domain.IsOptionalText)
    (hlocale : locale.IsOptionalText) :
    Gives t (translate (.text id) parameters domain locale)
      ((t.answer id parameters domain locale).map .text)
      (t.toldOf id domain (.text (t.codeFor locale))) := by
  have hcode := codeFor_ne t locale
  have heffective : locale.orElse t.locale = .text (t.codeFor locale) := by
    rw [Translator.locale, Value.orElse_text hcurrent, Value.orElse_text hlocale, codeFor]
  have hresolve := gives_resolve id parameters hcurrent hdomain hcode
  refine .current_bind fun u hu => ?_
  rw [hu.locale, heffective]
  unfold answer
  rw [← List.append_nil (t.toldOf _ _ _)]
  cases hmessage : t.message id parameters domain (t.codeFor locale) with
  | error fault =>
    rw [hmessage] at hresolve
    dsimp only
    cases hfault : fault.isRecoverable with
    | true =>
      have hhandler : Gives t (do
          unless fault.isRecoverable do throw fault
          log .warning do
            return "Translation of '" ++ (← (Value.text id).toTextAt .report) ++ "' failed: " ++
              (fault.message?.getD "")
          return none) (.ok (none : Option Value)) [] := by
        rw [hfault]
        exact .bind_ok (.log _ _ _) (.pure none)
      rw [← List.append_nil (t.toldOf _ _ _)]
      exact .bind_ok (.tryCatch_error (hresolve.bind_error _) hhandler) (.pure _)
    | false =>
      have hhandler : Gives t (do
          unless fault.isRecoverable do throw fault
          log .warning do
            return "Translation of '" ++ (← (Value.text id).toTextAt .report) ++ "' failed: " ++
              (fault.message?.getD "")
          return none) (.error fault : Except Fault (Option Value)) [] := by
        rw [hfault]
        exact .bind_error _ (.throw fault)
      exact .bind_error _ (.tryCatch_error (hresolve.bind_error _) hhandler)
  | ok message =>
    rw [hmessage] at hresolve
    have hbody := hresolve.bind_ok (f := fun message => pure (some message)) (.pure _)
    rw [List.append_nil] at hbody
    refine .bind_ok (.tryCatch_ok _ hbody) ?_
    refine .bind_quiet (.lift _) ?_
    exact .bind_ok (.log _ _ _) (.pure _)

/-- Translating a message by its id leaves the catalogue as it was and answers with a text, unless a
value among the parameters cannot be shown, by a fault that is not one of what was given: then the
translation fails as the resolution in it does. When looking up, choosing a variant or putting the
parameters in fails otherwise, the text is the id. -/
theorem translate_answers_or_cannot_show (t : Translator) (id : String)
    (hcurrent : t.currentLocale.IsOptionalText) (hparameters : parameters.IsParameters)
    (hdomain : domain.IsOptionalText) (hlocale : locale.IsOptionalText) :
    let done := Step.runAction (translate (.text id) parameters domain locale) t
    let resolved := (Step.runAction (resolve (.text id) parameters domain
      (.text (t.codeFor locale))) t).1.result
    done.2.catalogue = t.catalogue ∧
      ((∃ fault, done.1.result = .error fault ∧ resolved = .error fault ∧
          fault.isRecoverable = false ∧ parameters.HoldsUnshown fault) ∨
        ∃ answer : String, done.1.result = .ok (.text answer) ∧
          (∀ fault, resolved = .error fault → fault.isRecoverable = true ∧ answer = id) ∧
          (t.catalogue = none → answer = id) ∧
          ∀ template, t.templateOf id domain (.text (t.codeFor locale)) = .ok template →
            (∀ fault, Template.pluralize template parameters (t.codeFor locale)
              t.settings.separator = .error fault → answer = id) ∧
            ∀ variant, Template.pluralize template parameters (t.codeFor locale)
                t.settings.separator = .ok variant →
              (∀ fault, Placeholder.replace (variant.getD template) parameters = .error fault →
                answer = id) ∧
              ∀ message, Placeholder.replace (variant.getD template) parameters = .ok message →
                answer = message) := by
  intro done resolved
  obtain ⟨hresult, -, hlike⟩ :=
    (gives_translate id parameters hcurrent hdomain hlocale).runAction
  obtain ⟨hresolved, -, -⟩ :=
    (gives_resolve id parameters hcurrent hdomain (codeFor_ne t locale)).runAction
  have hshowing := message_byShowing t id hparameters domain (t.codeFor locale)
  refine ⟨hlike.catalogue, ?_⟩
  cases hmessage : t.message id parameters domain (t.codeFor locale) with
  | error fault =>
    rw [hmessage] at hresolved
    cases hfault : fault.isRecoverable with
    | false =>
      rw [answer_of_not_recoverable hfault hmessage] at hresult
      have hunshown := (hshowing fault hmessage).resolve_left (by simp [hfault])
      exact .inl ⟨fault, hresult, hresolved, hfault, hunshown⟩
    | true =>
      rw [answer_of_recoverable hfault hmessage] at hresult
      refine .inr ⟨id, hresult, fun other hother => ?_, fun _ => rfl, ?_⟩
      · rw [← Except.error.inj (hresolved.symm.trans hother)]
        exact ⟨hfault, rfl⟩
      · intro template htemplate
        refine ⟨fun _ _ => rfl, fun variant hvariant => ?_⟩
        refine ⟨fun _ _ => rfl, fun message hreplace => ?_⟩
        rw [message_of_template htemplate, filled, hvariant] at hmessage
        cases hmessage.symm.trans hreplace
  | ok message =>
    rw [hmessage] at hresolved
    rw [answer_of_ok hmessage] at hresult
    refine .inr ⟨message, hresult, fun fault h => ?_, fun h => ?_, fun template htemplate => ?_⟩
    · cases hresolved.symm.trans h
    · rw [Translator.message, templateOf, h] at hmessage
      cases hmessage
    · rw [message_of_template htemplate, filled] at hmessage
      refine ⟨fun fault h => ?_, fun variant hvariant => ?_⟩
      · rw [h] at hmessage
        cases hmessage
      · rw [hvariant] at hmessage
        refine ⟨fun fault h => ?_, fun other h => Except.ok.inj (hmessage.symm.trans h)⟩
        cases hmessage.symm.trans h

end

section

attribute [local instance] Stack.ample

/-- A translator with one message, whose notifier always fails. -/
def greeter : Translator where
  settings := default
  catalogue := some (Catalogue.empty.insert (.text "en") (.text "messages") (.text "hello")
    "Hello %name%")
  notifier := some fun _ => some "unreachable"

/-- A key that is no text leaves nothing half replaced. -/
theorem translate_with_number_as_key :
    greeter.currentLocale.IsOptionalText ∧
      (Value.map [(.text "%name%", .text "Ada"), (.int 1, .null)]).IsParameters ∧
      Value.null.IsOptionalText ∧
      (Step.runAction (translate (.text "hello")
        (.map [(.text "%name%", .text "Ada"), (.int 1, .null)]) .null .null) greeter).1.result =
          .ok (.text "hello") := by
  have hcurrent : greeter.currentLocale.IsOptionalText := .inl rfl
  have hparameters : (Value.map [(.text "%name%", .text "Ada"), (.int 1, .null)]).IsParameters :=
    .inr ⟨_, rfl⟩
  have hnull : Value.null.IsOptionalText := .inl rfl
  refine ⟨hcurrent, hparameters, hnull, ?_⟩
  have hresolved : (Step.runAction (resolve (.text "hello")
      (.map [(.text "%name%", .text "Ada"), (.int 1, .null)]) .null
      (.text (greeter.codeFor .null))) greeter).1.result = .error .wrongType := by rfl
  rcases (translate_answers_or_cannot_show greeter "hello" hcurrent hparameters hnull hnull).2 with
    ⟨fault, -, hfault, hlost, -⟩ | ⟨answer, hanswer, hid, -⟩
  · obtain rfl := Except.error.inj (hresolved.symm.trans hfault)
    cases hlost
  · rw [hanswer, (hid _ hresolved).2]

/-- A value within more others than there is room for cannot be put in. -/
theorem result_translate_nested {levels : Nat} (h : Stack.room .parameter < levels) :
    (Step.runAction (translate (.text "hello")
      (.map [(.text "%name%", .nested levels (.text "x"))]) .null .null) greeter).1.result =
        .error .nestedTooDeep := by
  obtain ⟨levels, rfl⟩ := Nat.exists_eq_add_one_of_ne_zero (Nat.ne_zero_of_lt h)
  have hshown : (Value.nested (levels + 1) (.text "x")).toTextAt .parameter =
      .error .nestedTooDeep := Value.shown_nested h (.text "x")
  have hreplace : Placeholder.replace "Hello %name%"
      (.map [(.text "%name%", .nested (levels + 1) (.text "x"))]) = .error .nestedTooDeep := by
    show ((Value.nested (levels + 1) (.text "x")).toTextAt .parameter >>= _) = _
    rw [hshown]
    rfl
  have hmessage : greeter.message "hello"
      (.map [(.text "%name%", .nested (levels + 1) (.text "x"))]) .null (greeter.codeFor .null) =
        .error .nestedTooDeep := hreplace
  have hgives := gives_translate "hello" (.map [(.text "%name%", .nested (levels + 1) (.text "x"))])
    (.inl rfl : greeter.currentLocale.IsOptionalText) (.inl rfl : Value.null.IsOptionalText)
    (.inl rfl : Value.null.IsOptionalText)
  rw [answer_of_not_recoverable rfl hmessage] at hgives
  exact hgives.runAction.1

/-- A parameter that is nested too deep gets out of a translation as a fault, which is no answer. -/
theorem translation_of_nested_parameter_fails :
    greeter.currentLocale.IsOptionalText ∧
      (Value.map [(.text "%name%", .nested 1500 (.text "x"))]).IsParameters ∧
      (Step.runAction (translate (.text "hello")
        (.map [(.text "%name%", .nested 1500 (.text "x"))]) .null .null) greeter).1.result =
          .error .nestedTooDeep :=
  ⟨.inl rfl, .inr ⟨_, rfl⟩, result_translate_nested (by decide)⟩

end

end Translator

end Phrasebook
