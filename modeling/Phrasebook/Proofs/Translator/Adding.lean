import Phrasebook.Proofs.Catalogue.Refusal
import Phrasebook.Proofs.Translator.Effect

/-! Adding a message to a translator. The locale and the domain that are not given come from the
translator, and the rest is an insertion into its catalogue. A refusal reaches the translator by
that catalogue alone, and a translator without one stays as it was. -/

namespace Phrasebook

namespace Translator

section

variable [Stack]

/-- The locale that a message is added to. -/
def targetLocale (t : Translator) (locale : Value) : Value := locale.orElse t.locale

def targetDomain (t : Translator) (domain : Value) : Value :=
  domain.orElse (.text t.settings.defaultDomain)

/-- The insertion that adding a message comes to. -/
def insertion (t : Translator) (id template domain locale : Value) :
    Except Fault Unit × Catalogue :=
  (t.catalogue.getD .empty).set (t.targetLocale locale) (t.targetDomain domain) id template

/-! ## Runs -/

omit [Stack] in
/-- An outcome that is passed on, and recorded when it is a success. -/
theorem run_log_after (outcome : Except Fault Unit) (level : Level) (message : Except Fault String)
    (s : Session) :
    ∃ events, (do liftM outcome; log level message : Action Unit).run.run s =
      (outcome, { s with events }) := by
  cases outcome with
  | error fault => exact ⟨s.events, rfl⟩
  | ok _ =>
    cases message with
    | error _ => exact ⟨s.events, rfl⟩
    | ok text => exact ⟨_, rfl⟩

section

variable (t : Translator) (id template domain locale : Value)

theorem exists_run_add :
    ∃ s : Session, (add id template domain locale).run.run { translator := t } =
        ((t.insertion id template domain locale).1, s) ∧
      s.translator =
        if (t.insertion id template domain locale).1.isOk || t.isInitialized then
          { t with catalogue := some (t.insertion id template domain locale).2 }
        else t := by
  unfold add insertion targetLocale targetDomain
  rw [run_bind_of_ok _ (rfl : current.run.run { translator := t } = (.ok t, { translator := t }))]
  dsimp only
  generalize (t.catalogue.getD .empty).set (locale.orElse t.locale)
      (domain.orElse (.text t.settings.defaultDomain)) id template = insertion
  split
  · rw [run_bind_of_ok _
      (rfl : (update fun t => { t with catalogue := some insertion.2 }).run.run _ = _)]
    obtain ⟨events, hrun⟩ := run_log_after insertion.1 .debug _ _
    exact ⟨_, hrun, rfl⟩
  · obtain ⟨events, hrun⟩ := run_log_after insertion.1 .debug _ _
    exact ⟨_, hrun, rfl⟩

theorem result_add : (Step.runAction (add id template domain locale) t).1.result =
    (t.insertion id template domain locale).1 := by
  obtain ⟨s, hrun, -⟩ := t.exists_run_add id template domain locale
  rw [runAction_of_run hrun]

theorem translator_add : (Step.runAction (add id template domain locale) t).2 =
    if (t.insertion id template domain locale).1.isOk || t.isInitialized then
      { t with catalogue := some (t.insertion id template domain locale).2 }
    else t := by
  obtain ⟨s, hrun, hs⟩ := t.exists_run_add id template domain locale
  rw [runAction_of_run hrun, hs]

end

/-! ## Refusals -/

theorem insertion_of_catalogue {t : Translator} {c : Catalogue} (h : t.catalogue = some c)
    (id template domain locale : Value) : t.insertion id template domain locale =
      c.set (t.targetLocale locale) (t.targetDomain domain) id template := by
  rw [insertion, h]
  rfl

/-- What a refused addition leaves of a translator. -/
theorem refused_of_add {t t' : Translator} {id template domain locale : Value} {fault : Fault}
    {events : List Event}
    (h : Step.runAction (add id template domain locale) t = (⟨.error fault, events⟩, t')) :
    (t.catalogue = none ∧ t' = t) ∨
    ∃ c c', t.catalogue = some c ∧ t' = { t with catalogue := some c' } ∧
      c.Refused (t.targetLocale locale) (t.targetDomain domain) id template c' := by
  have hresult := t.result_add id template domain locale
  have htranslator := t.translator_add id template domain locale
  rw [h] at hresult
  rw [h, ← hresult] at htranslator
  cases hcatalogue : t.catalogue with
  | none =>
    refine .inl ⟨rfl, htranslator.trans ?_⟩
    simp [Except.isOk, Except.toBool, isInitialized, hcatalogue]
  | some c =>
    rw [insertion_of_catalogue hcatalogue] at hresult htranslator
    have hrefused := Catalogue.refused_of_set (Prod.ext hresult.symm rfl)
    refine .inr ⟨c, _, rfl, htranslator.trans ?_, hrefused⟩
    simp [isInitialized, hcatalogue]

/-- What an addition that is done makes of a translator. -/
theorem found_of_add {t t' : Translator} {id template domain locale : Value}
    {events : List Event}
    (h : Step.runAction (add id template domain locale) t = (⟨.ok (), events⟩, t')) :
    ∃ c s, t' = { t with catalogue := some c } ∧ template = .text s ∧
      c.status (t.targetLocale locale) (t.targetDomain domain) id = .ok (.found s) := by
  have hresult := t.result_add id template domain locale
  have htranslator := t.translator_add id template domain locale
  rw [h] at hresult
  rw [h, ← hresult] at htranslator
  obtain ⟨s, htemplate, hfound⟩ := Catalogue.found_of_set (Prod.ext hresult.symm rfl)
  exact ⟨_, s, htranslator, htemplate, hfound⟩

/-- An insertion, into a catalogue or by way of a translator, is done or refused. Where it is
refused no template and no key that is there is touched, and the catalogue is as it was, unless a
domain or an id that cannot be looked up by was met below a level that was missing. A translator is
otherwise as it was; it neither gains nor loses a catalogue. -/
theorem refusal_keeps_messages :
    (∀ (c c' : Catalogue) (locale domain id template : Value),
      (∀ fault, c.set locale domain id template = (.error fault, c') →
        c.Refused locale domain id template c') ∧
      (c.set locale domain id template = (.ok (), c') →
        ∃ s, template = .text s ∧ c'.status locale domain id = .ok (.found s))) ∧
    ∀ (t t' : Translator) (id template domain locale : Value) (events : List Event),
      (∀ fault,
        Step.runAction (add id template domain locale) t = (⟨.error fault, events⟩, t') →
          t'.isInitialized = t.isInitialized ∧
          ((t.catalogue = none ∧ t' = t) ∨
            ∃ c c', t.catalogue = some c ∧ t' = { t with catalogue := some c' } ∧
              c.Refused (t.targetLocale locale) (t.targetDomain domain) id template c')) ∧
      (Step.runAction (add id template domain locale) t = (⟨.ok (), events⟩, t') →
        ∃ c s, t' = { t with catalogue := some c } ∧ template = .text s ∧
          c.status (t.targetLocale locale) (t.targetDomain domain) id = .ok (.found s)) := by
  refine ⟨fun c c' locale domain id template =>
    ⟨fun fault => Catalogue.refused_of_set, Catalogue.found_of_set⟩, ?_⟩
  intro t t' id template domain locale events
  refine ⟨fun fault hadd => ?_, found_of_add⟩
  have hrefused := refused_of_add hadd
  refine ⟨?_, hrefused⟩
  rcases hrefused with ⟨-, rfl⟩ | ⟨c, c', hcatalogue, rfl, -⟩
  · rfl
  · rw [isInitialized, isInitialized, hcatalogue]
    rfl

end

section

attribute [local instance] Stack.ample

/-- A list as a domain is refused by an empty catalogue, which then holds no template, and by a
translator without a catalogue, which stays as it was; a message under texts is added to it. -/
theorem refusal_keeps_messages_list_as_domain :
    ((Catalogue.empty.set (.text "en") (.list [.int 1]) (.text "hello") (.text "Hello")).1 =
        .error .wrongType ∧
      ∀ l d m s, (Catalogue.empty.set (.text "en") (.list [.int 1]) (.text "hello")
        (.text "Hello")).2.status l d m ≠ .ok (.found s)) ∧
    (∃ events, Step.runAction (add (.text "hello") (.text "Hello") (.list [.int 1]) .null)
      { settings := default } = (⟨.error .wrongType, events⟩, { settings := default })) ∧
    ∃ c, (Step.runAction (add (.text "hello") (.text "Hello") .null .null)
        { settings := default }).2 = { settings := default, catalogue := some c } ∧
      ∃ s, c.status (.text "en") (.text "messages") (.text "hello") = .ok (.found s) := by
  obtain ⟨hset, hadd⟩ := refusal_keeps_messages
  refine ⟨⟨rfl, fun l d m s h => ?_⟩, ?_, ?_⟩
  · have hrefused := (hset .empty _ (.text "en") (.list [.int 1]) (.text "hello")
      (.text "Hello")).1 .wrongType rfl
    have hempty := (hrefused.found l d m s).mp h
    rw [Catalogue.status_eq_found_iff_bind] at hempty
    cases hempty.2
  · have hkept := (hadd { settings := default } _ (.text "hello") (.text "Hello")
      (.list [.int 1]) .null []).1 .wrongType rfl
    rcases hkept.2 with ⟨-, hsame⟩ | ⟨c, -, hc, -⟩
    · exact ⟨[], Prod.ext rfl hsame⟩
    · cases hc
  · obtain ⟨c, s, ht', -, hfound⟩ := (hadd { settings := default } _ (.text "hello")
      (.text "Hello") .null .null _).2 rfl
    exact ⟨c, ht', s, hfound⟩

/-- A list as the domain of a message for a new locale is refused, and the locale is there. -/
theorem refused_insertion_adds_locale :
    (Catalogue.empty.set (.text "en") (.list []) (.text "hello") (.text "Hello")).1 =
        .error .wrongType ∧
      (Catalogue.empty.set (.text "en") (.list []) (.text "hello") (.text "Hello")).2.locales =
        [.text "en"] ∧
      (Catalogue.empty.set (.text "en") (.list []) (.text "hello") (.text "Hello")).2.locales ≠
        Catalogue.empty.locales :=
  ⟨rfl, rfl, List.cons_ne_nil (Value.text "en") []⟩

end

end Translator

end Phrasebook
