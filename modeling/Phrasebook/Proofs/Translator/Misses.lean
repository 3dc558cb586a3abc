import Phrasebook.Proofs.Translator.Frame
import Phrasebook.Proofs.Translator.Reading

/-! Which misses a translation tells of. Choosing a variant and putting parameters in tell nothing,
whether they succeed or fail, so a translation tells what its look-up tells. That look-up is made in
the locale of the translation, where the fallback locale already stands for a locale that nobody
gave; a look-up without a locale tells that there was none. -/

namespace Phrasebook

namespace Translator

/-- Whatever translator it meets, and whether it succeeds or fails, the action tells nothing. -/
def Quiet {α : Type} (x : Action α) : Prop :=
  ∀ s : Session, toldIn (x.run.run s).2.events = toldIn s.events

/-- From every state, one action tells what another one tells. -/
def TellsAs {α β : Type} (x : Action α) (y : Action β) : Prop :=
  ∀ s : Session, toldIn (x.run.run s).2.events = toldIn (y.run.run s).2.events

namespace Quiet

variable {α β : Type}

theorem pure (a : α) : Quiet (Pure.pure a : Action α) := fun _ => rfl

theorem throw (fault : Fault) : Quiet (MonadExcept.throw fault : Action α) := fun _ => rfl

theorem lift (e : Except Fault α) : Quiet (liftM e : Action α) := fun _ => rfl

theorem current : Quiet Translator.current := fun _ => rfl

theorem update (change : Translator → Translator) : Quiet (Translator.update change) := fun _ => rfl

theorem log (level : Level) (message : Except Fault String) (channel : Channel) :
    Quiet (Translator.log level message channel) := by
  cases message with
  | error fault => exact pure ()
  | ok message =>
    intro s
    exact (toldIn_append s.events _).trans (List.append_nil _)

theorem bind {x : Action α} {f : α → Action β} (hx : Quiet x) (hf : ∀ a, Quiet (f a)) :
    Quiet (x >>= f) := by
  intro s
  have htold := hx s
  rcases hrun : x.run.run s with ⟨fault | a, s'⟩
  · rw [hrun] at htold
    rw [run_bind_of_error f hrun]
    exact htold
  · rw [hrun] at htold
    rw [run_bind_of_ok f hrun]
    exact (hf a s').trans htold

theorem ite {p : Prop} [Decidable p] {x y : Action α} (hx : Quiet x) (hy : Quiet y) :
    Quiet (if p then x else y) := by
  split
  · exact hx
  · exact hy

end Quiet

namespace TellsAs

variable {α β γ : Type}

theorem refl (x : Action α) : TellsAs x x := fun _ => rfl

/-- What comes after may tell nothing. -/
theorem bind {x : Action α} {y : Action β} {f : α → Action γ} (h : TellsAs x y)
    (hf : ∀ a, Quiet (f a)) : TellsAs (x >>= f) y := by
  intro s
  rw [← h s]
  rcases hrun : x.run.run s with ⟨fault | a, s'⟩
  · rw [run_bind_of_error f hrun]
  · rw [run_bind_of_ok f hrun]
    exact hf a s'

/-- A failure that is taken care of has told what it told. -/
theorem tryCatch {x : Action α} {y : Action β} {handler : Fault → Action α} (h : TellsAs x y)
    (hhandler : ∀ fault, Quiet (handler fault)) :
    TellsAs (MonadExcept.tryCatch x handler) y := by
  intro s
  rw [← h s, ExceptT.run_tryCatch, StateT.run_bind]
  rcases x.run.run s with ⟨fault | a, s'⟩
  · exact hhandler fault s'
  · rfl

end TellsAs

/-! ## After the look-up -/

section

variable (id template parameters domain locale : Value)

theorem quiet_readTemplate (text : String) : Quiet (readTemplate text) := by
  refine .bind .current fun t => .bind (.lift _) fun template => ?_
  dsimp only
  split
  · exact .pure template
  · refine .bind (.update _) fun _ => ?_
    split
    · exact .bind (.log _ _ _) fun _ => .pure template
    · exact .pure template

theorem quiet_pluralize [Stack] : Quiet (pluralize template parameters locale) := by
  refine .bind .current fun t => .bind (.lift _) fun held => ?_
  refine .ite (.bind (.lift _) fun count => ?_) (.pure _)
  split
  · exact .bind (quiet_readTemplate _) fun read => .bind (.lift _) fun variant => .pure _
  · exact .throw _

theorem resolve_tellsAs [Stack] :
    TellsAs (resolve id parameters domain locale) (getMessage id domain locale) := by
  refine .bind (.refl _) fun template => ?_
  refine .bind (quiet_pluralize template parameters locale) fun variant => ?_
  cases variant with
  | some message => exact .bind (.pure message) fun _ => .lift _
  | none =>
    refine .bind (.lift _) fun _ => .bind (.lift _) fun _ => .bind (.log _ _ _) fun _ => ?_
    exact .bind (.pure template) fun _ => .lift _

/-- A translation tells what the look-up in its locale tells, whatever becomes of it then. -/
theorem toldIn_translate [Stack] (s : Session) :
    toldIn ((translate id parameters domain locale).run.run s).2.events =
      toldIn ((getMessage id domain (s.translator.targetLocale locale)).run.run s).2.events := by
  unfold translate
  rw [run_current_bind]
  refine TellsAs.bind (.tryCatch (.bind (resolve_tellsAs _ _ _ _) fun _ => .pure _) fun fault => ?_)
    (fun outcome => ?_) s
  · cases fault.isRecoverable with
    | true => exact .bind (.log _ _ _) fun _ => .pure none
    | false => exact .bind (.throw _) fun _ => .bind (.log _ _ _) fun _ => .pure none
  · cases outcome with
    | none => exact .pure id
    | some message => exact .bind (.lift _) fun _ => .bind (.log _ _ _) fun _ => .pure _

end

/-! ## The locale of the look-up -/

section

variable {t : Translator} {c : Catalogue} {domain locale : Value}

/-- A look-up goes by its locale and the current one together. -/
theorem run_getMessage_congr [Stack] (id domain : Value) {other : Value} {s : Session}
    (h : locale.orElse s.translator.currentLocale = other.orElse s.translator.currentLocale) :
    (getMessage id domain locale).run.run s = (getMessage id domain other).run.run s := by
  have hrequire := run_requireCatalogue s
  unfold getMessage
  cases hcatalogue : s.translator.catalogue with
  | none =>
    rw [hcatalogue] at hrequire
    rw [run_bind_of_error _ hrequire, run_bind_of_error _ hrequire]
  | some c =>
    rw [hcatalogue] at hrequire
    rw [run_bind_of_ok _ hrequire, run_bind_of_ok _ hrequire, run_current_bind, run_current_bind, h]

/-- A locale that is given or current is the one that a translation looks up in. -/
theorem targetLocale_of_isTruthy (h : (locale.orElse t.currentLocale).isTruthy = true) :
    (t.targetLocale locale).orElse t.currentLocale = locale.orElse t.currentLocale := by
  rw [targetLocale_eq, Value.orElse, Value.orElse, if_pos h, if_pos h]

/-- Without one, a translation looks up in the fallback locale. -/
theorem targetLocale_of_not_isTruthy (h : (locale.orElse t.currentLocale).isTruthy = false) :
    t.targetLocale locale = .text t.settings.fallbackLocale := by
  rw [targetLocale_eq, Value.orElse, if_neg (by simp [h])]

/-- The fallback locale has a name, so it is not what stands for no locale. -/
theorem fallback_ne_of_not_isTruthy (h : (locale.orElse t.currentLocale).isTruthy = false) :
    Value.text t.settings.fallbackLocale ≠ t.currentLocale := by
  intro hsame
  rw [Value.orElse_of_not_isTruthy h, ← hsame] at h
  simp [Value.isTruthy, t.settings.fallbackLocale_ne] at h

/-- Different notices are heard as one only if nobody hears them. -/
theorem heard_eq_heard_iff {message other : Untranslated} (h : message ≠ other) :
    t.heard message = t.heard other ↔ t.notifier = none := by
  unfold heard
  cases t.notifier with
  | none => simp
  | some notifier => simp [h]

/-- What is told of a message that is looked up in the fallback locale alone, by the locale that was
requested. -/
def toldInFallback (t : Translator) (c : Catalogue) (id : String) (domain requested : Value) :
    List Untranslated :=
  match c.template? t.settings.fallbackLocale (domain.orText t.settings.defaultDomain) id with
  | some _ => []
  | none => t.heard { id := .text id, domain := t.targetDomain domain, locale := requested }

theorem toldIn_getMessage_of_fallback [Stack] (hcatalogue : t.catalogue = some c) (id : String)
    (hdomain : domain.IsOptionalText)
    (htarget : t.targetLocale locale = .text t.settings.fallbackLocale) {requested : Value}
    (hrequested : locale.orElse t.currentLocale = requested) (htext : requested.IsOptionalText) :
    toldIn (Step.runAction (getMessage (.text id) domain locale) t).1.events =
      t.toldInFallback c id domain requested := by
  have hkey : (t.targetLocale locale).isKey = true := by rw [htarget]; rfl
  obtain ⟨shown, hshown⟩ := exists_toTextAt htext .report
  rw [(gives_getMessage_of_isKey hcatalogue id hdomain hkey).runAction.2.1, reached, htarget,
    Catalogue.templateAt_text, Option.or_self, toldInFallback, targetDomain_eq_text hdomain]
  cases c.template? t.settings.fallbackLocale (domain.orText t.settings.defaultDomain) id with
  | some template => rfl
  | none =>
    rw [lookedUp]
    dsimp only
    rw [hrequested, hshown]
    rfl

theorem toldInFallback_of_hasMessage [Stack] (hcatalogue : t.catalogue = some c) (id : String)
    (hdomain : domain.IsOptionalText) (requested : Value)
    (h : (Step.runAction (hasMessage (.text id) domain
      (.text t.settings.fallbackLocale)) t).1.result = .ok true) :
    t.toldInFallback c id domain requested = [] := by
  obtain ⟨template, hfound⟩ :=
    (hasMessage_iff hcatalogue id hdomain t.settings.fallbackLocale_ne).mp h
  rw [toldInFallback, hfound]

theorem toldInFallback_of_not_hasMessage [Stack] (hcatalogue : t.catalogue = some c) (id : String)
    (hdomain : domain.IsOptionalText) (requested : Value)
    (h : (Step.runAction (hasMessage (.text id) domain
      (.text t.settings.fallbackLocale)) t).1.result ≠ .ok true) :
    t.toldInFallback c id domain requested =
      t.heard { id := .text id, domain := t.targetDomain domain, locale := requested } := by
  rw [Ne, hasMessage_iff hcatalogue id hdomain t.settings.fallbackLocale_ne,
    ← Option.isSome_iff_exists, Option.not_isSome_iff_eq_none] at h
  rw [toldInFallback, h]

/-- A translation tells what a look-up in its locale tells. With a locale that is given or current,
this is what the look-up for the same request tells. Without one, both come to the fallback locale
and tell nothing if it has the message; if not, both tell of the miss once, the look-up by the
current locale, which names none, and the translation by the fallback locale. -/
theorem translate_tells_misses [Stack] (hcatalogue : t.catalogue = some c) (id : String)
    (parameters locale : Value) (hdomain : domain.IsOptionalText) :
    let told (action : Action Value) := toldIn (Step.runAction action t).1.events
    let translated := told (translate (.text id) parameters domain locale)
    let looked := told (getMessage (.text id) domain locale)
    let requested := locale.orElse t.currentLocale
    let fallback := t.settings.fallbackLocale
    let has := (Step.runAction (hasMessage (.text id) domain (.text fallback)) t).1.result
    let notice (locale : Value) : Untranslated :=
      { id := .text id, domain := t.targetDomain domain, locale }
    translated = told (getMessage (.text id) domain (t.targetLocale locale)) ∧
    (requested.isTruthy = true → translated = looked) ∧
    (requested.isTruthy = false → t.currentLocale.IsOptionalText →
      (has = .ok true → translated = [] ∧ looked = []) ∧
      (has ≠ .ok true →
        translated = t.heard (notice (.text fallback)) ∧
        looked = t.heard (notice t.currentLocale) ∧
        (translated = looked ↔ t.notifier = none))) := by
  intro told translated looked requested fallback has notice
  have htranslated : translated = told (getMessage (.text id) domain (t.targetLocale locale)) :=
    toldIn_translate (.text id) parameters domain locale { translator := t }
  refine ⟨htranslated, fun hnamed => ?_, fun hnone hcurrent => ?_⟩
  · have htarget : (t.targetLocale locale).orElse t.currentLocale = locale.orElse t.currentLocale :=
      targetLocale_of_isTruthy hnamed
    have hrun := run_getMessage_congr (.text id) domain (s := { translator := t }) htarget
    exact htranslated.trans (congrArg (fun run => toldIn run.2.events) hrun)
  · have hrequested : locale.orElse t.currentLocale = t.currentLocale :=
      Value.orElse_of_not_isTruthy hnone
    have htarget : t.targetLocale locale = .text fallback := targetLocale_of_not_isTruthy hnone
    have hfallback (v : Value) : (Value.text fallback).orElse v = .text fallback :=
      Value.orElse_of_ne t.settings.fallbackLocale_ne v
    have hlooked : looked = t.toldInFallback c id domain t.currentLocale :=
      toldIn_getMessage_of_fallback hcatalogue id hdomain htarget hrequested hcurrent
    rw [htarget] at htranslated
    have htold : translated = t.toldInFallback c id domain (.text fallback) :=
      htranslated.trans (toldIn_getMessage_of_fallback hcatalogue id hdomain (hfallback _)
        (hfallback _) (.inr ⟨_, rfl⟩))
    refine ⟨fun hhas => ?_, fun hmissing => ?_⟩
    · have hnothing := toldInFallback_of_hasMessage hcatalogue id hdomain
      exact ⟨htold.trans (hnothing _ hhas), hlooked.trans (hnothing _ hhas)⟩
    · have honce := toldInFallback_of_not_hasMessage hcatalogue id hdomain
      rw [honce _ hmissing] at htold hlooked
      refine ⟨htold, hlooked, ?_⟩
      rw [htold, hlooked]
      exact heard_eq_heard_iff fun hsame =>
        fallback_ne_of_not_isTruthy hnone (congrArg Untranslated.locale hsame)

section

attribute [local instance] Stack.ample

/-- The miss of a message in a locale that is named, and the miss of one in none. -/
theorem translate_tells_misses_of_greeter :
    greeter.catalogue.isSome = true ∧ Value.null.IsOptionalText ∧
      greeter.currentLocale.IsOptionalText ∧
      ((Value.text "fr").orElse greeter.currentLocale).isTruthy = true ∧
      toldIn (Step.runAction (translate (.text "bye") .null .null (.text "fr")) greeter).1.events =
        toldIn (Step.runAction (getMessage (.text "bye") .null (.text "fr")) greeter).1.events ∧
      (Value.null.orElse greeter.currentLocale).isTruthy = false ∧
      toldIn (Step.runAction (translate (.text "bye") .null .null .null) greeter).1.events =
        [{ id := .text "bye", domain := .text "messages", locale := .text "en" }] ∧
      toldIn (Step.runAction (translate (.text "hello") .null .null .null) greeter).1.events =
        [] := by
  have hnull : Value.null.IsOptionalText := .inl rfl
  have hcurrent : greeter.currentLocale.IsOptionalText := .inl rfl
  obtain ⟨-, hnamed, -⟩ := translate_tells_misses (rfl : greeter.catalogue = some _) "bye" .null
    (.text "fr") hnull
  obtain ⟨-, -, hnone⟩ := translate_tells_misses (rfl : greeter.catalogue = some _) "bye" .null
    .null hnull
  obtain ⟨-, -, hfound⟩ := translate_tells_misses (rfl : greeter.catalogue = some _) "hello" .null
    .null hnull
  have hmissing : (Step.runAction (hasMessage (.text "bye") .null (.text "en")) greeter).1.result ≠
      .ok true := by
    rw [show (Step.runAction (hasMessage (.text "bye") .null (.text "en")) greeter).1.result =
      .ok false from rfl]
    simp
  have hhas : (Step.runAction (hasMessage (.text "hello") .null (.text "en")) greeter).1.result =
      .ok true := rfl
  exact ⟨rfl, hnull, hcurrent, rfl, hnamed rfl, rfl, ((hnone rfl hcurrent).2 hmissing).1,
    ((hfound rfl hcurrent).1 hhas).1⟩

/-- Without a locale, a look-up tells that there was none, and a translation of the same message
tells of the fallback locale. -/
theorem translation_tells_of_fallback_locale :
    toldIn (Step.runAction (getMessage (.text "bye") .null .null) greeter).1.events =
        [{ id := .text "bye", domain := .text "messages", locale := .null }] ∧
      toldIn (Step.runAction (translate (.text "bye") .null .null .null) greeter).1.events =
        [{ id := .text "bye", domain := .text "messages", locale := .text "en" }] ∧
      toldIn (Step.runAction (translate (.text "bye") .null .null .null) greeter).1.events ≠
        toldIn (Step.runAction (getMessage (.text "bye") .null .null) greeter).1.events := by
  have hlooked : toldIn (Step.runAction (getMessage (.text "bye") .null .null) greeter).1.events =
      [{ id := .text "bye", domain := .text "messages", locale := .null }] := by rfl
  have htranslated :
      toldIn (Step.runAction (translate (.text "bye") .null .null .null) greeter).1.events =
        [{ id := .text "bye", domain := .text "messages", locale := .text "en" }] := by rfl
  refine ⟨hlooked, htranslated, fun h => ?_⟩
  rw [hlooked, htranslated] at h
  simp at h

end

end

end Translator

end Phrasebook
