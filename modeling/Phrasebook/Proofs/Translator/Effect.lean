import Phrasebook.Translator.Step

/-! What an action of a translator comes to: its result, and the messages that it tells the
notifier of. Reading leaves a translator as it was but for the templates read before, so what a
reading action comes to depends on the rest of the translator alone. One rule for each way of
putting actions together carries this through an action's text. -/

namespace Phrasebook

/-- The messages that the notifier was told of. -/
def toldIn (events : List Event) : List Untranslated :=
  events.filterMap fun
    | .notified message => some message
    | .logged _ => none

theorem toldIn_append (events later : List Event) :
    toldIn (events ++ later) = toldIn events ++ toldIn later :=
  List.filterMap_append

namespace Translator

/-! ## Runs -/

section

variable {α β : Type} {x : Action α} {s s' : Session}

theorem run_bind_of_ok {a : α} (f : α → Action β) (h : x.run.run s = (.ok a, s')) :
    (x >>= f).run.run s = (f a).run.run s' := by
  rw [ExceptT.run_bind, StateT.run_bind, h]
  rfl

theorem run_bind_of_error {fault : Fault} (f : α → Action β)
    (h : x.run.run s = (.error fault, s')) : (x >>= f).run.run s = (.error fault, s') := by
  rw [ExceptT.run_bind, StateT.run_bind, h]
  rfl

theorem run_current_bind (f : Translator → Action β) (s : Session) :
    (current >>= f).run.run s = (f s.translator).run.run s := rfl

theorem run_lift_bind (a : α) (f : α → Action β) (s : Session) :
    ((liftM (.ok a : Except Fault α) : Action α) >>= f).run.run s = (f a).run.run s := rfl

theorem runAction_of_run {t : Translator} {result : Except Fault α}
    (h : x.run.run { translator := t } = (result, s)) :
    Step.runAction x t = ({ result, events := s.events }, s.translator) := by
  rw [Step.runAction, h]

/-- What is made of a result changes nothing else. -/
theorem runAction_bind_pure (x : Action α) (g : α → β) (t : Translator) :
    Step.runAction (x >>= fun a => pure (g a)) t =
      ({ result := (Step.runAction x t).1.result.map g, events := (Step.runAction x t).1.events },
        (Step.runAction x t).2) := by
  rcases hrun : x.run.run { translator := t } with ⟨fault | a, s⟩
  · rw [runAction_of_run (run_bind_of_error _ hrun), runAction_of_run hrun]
    rfl
  · have hbind : (x >>= fun a => pure (g a)).run.run { translator := t } = (.ok (g a), s) := by
      rw [run_bind_of_ok _ hrun]
      rfl
    rw [runAction_of_run hbind, runAction_of_run hrun]
    rfl

end

/-! ## What reading gives -/

/-- Translators that differ at most in the templates read before. -/
structure Like (u t : Translator) : Prop where
  settings : u.settings = t.settings
  catalogue : u.catalogue = t.catalogue
  currentLocale : u.currentLocale = t.currentLocale
  notifier : u.notifier = t.notifier

theorem Like.refl (t : Translator) : Like t t := ⟨rfl, rfl, rfl, rfl⟩

theorem Like.trans {u t t' : Translator} (h : Like u t) (h' : Like t t') : Like u t' :=
  ⟨h.settings.trans h'.settings, h.catalogue.trans h'.catalogue,
    h.currentLocale.trans h'.currentLocale, h.notifier.trans h'.notifier⟩

theorem Like.locale {u t : Translator} (h : Like u t) : u.locale = t.locale := by
  rw [Translator.locale, Translator.locale, h.currentLocale, h.settings]

/-- On every translator like `t`, the action has this result, tells of these messages, and leaves
the translator like `t`. -/
def Gives {α : Type} (t : Translator) (action : Action α) (result : Except Fault α)
    (told : List Untranslated) : Prop :=
  ∀ s : Session, s.translator.Like t →
    ∃ s' : Session, action.run.run s = (result, s') ∧ s'.translator.Like t ∧
      toldIn s'.events = toldIn s.events ++ told

namespace Gives

variable {α β : Type} {t : Translator}

theorem pure (a : α) : Gives t (Pure.pure a) (.ok a) [] :=
  fun s h => ⟨s, rfl, h, (List.append_nil _).symm⟩

theorem throw (fault : Fault) : Gives t (MonadExcept.throw fault : Action α) (.error fault) [] :=
  fun s h => ⟨s, rfl, h, (List.append_nil _).symm⟩

theorem lift (e : Except Fault α) : Gives t (liftM e : Action α) e [] :=
  fun s h => ⟨s, rfl, h, (List.append_nil _).symm⟩

theorem bind_ok {x : Action α} {f : α → Action β} {a : α} {result : Except Fault β}
    {told later : List Untranslated} (hx : Gives t x (.ok a) told)
    (hf : Gives t (f a) result later) : Gives t (x >>= f) result (told ++ later) := by
  intro s hs
  obtain ⟨s₁, hrun₁, hs₁, htold₁⟩ := hx s hs
  obtain ⟨s₂, hrun₂, hs₂, htold₂⟩ := hf s₁ hs₁
  refine ⟨s₂, (run_bind_of_ok f hrun₁).trans hrun₂, hs₂, ?_⟩
  rw [htold₂, htold₁, List.append_assoc]

/-- An action that tells nothing leaves what is told to the next one. -/
theorem bind_quiet {x : Action α} {f : α → Action β} {a : α} {result : Except Fault β}
    {told : List Untranslated} (hx : Gives t x (.ok a) []) (hf : Gives t (f a) result told) :
    Gives t (x >>= f) result told :=
  hx.bind_ok hf

theorem bind_error {x : Action α} (f : α → Action β) {fault : Fault} {told : List Untranslated}
    (hx : Gives t x (.error fault) told) : Gives t (x >>= f) (.error fault) told := by
  intro s hs
  obtain ⟨s₁, hrun₁, hs₁, htold₁⟩ := hx s hs
  exact ⟨s₁, run_bind_of_error f hrun₁, hs₁, htold₁⟩

theorem current_bind {f : Translator → Action α} {result : Except Fault α}
    {told : List Untranslated} (hf : ∀ u : Translator, u.Like t → Gives t (f u) result told) :
    Gives t (current >>= f) result told :=
  fun s hs => hf s.translator hs s hs

theorem lift_bind {e : Except Fault α} {f : α → Action α}
    (hf : ∀ a, Gives t (f a) (.ok a) []) : Gives t (liftM e >>= f) e [] := by
  cases e with
  | error fault => exact (lift (.error fault)).bind_error f
  | ok a => exact (lift (.ok a)).bind_ok (hf a)

theorem tryCatch_ok {x : Action α} (handler : Fault → Action α) {a : α}
    {told : List Untranslated} (hx : Gives t x (.ok a) told) :
    Gives t (MonadExcept.tryCatch x handler) (.ok a) told := by
  intro s hs
  obtain ⟨s₁, hrun₁, hs₁, htold₁⟩ := hx s hs
  refine ⟨s₁, ?_, hs₁, htold₁⟩
  rw [ExceptT.run_tryCatch, StateT.run_bind, hrun₁]
  rfl

theorem tryCatch_error {x : Action α} {handler : Fault → Action α} {fault : Fault}
    {result : Except Fault α} {told later : List Untranslated} (hx : Gives t x (.error fault) told)
    (hhandler : Gives t (handler fault) result later) :
    Gives t (MonadExcept.tryCatch x handler) result (told ++ later) := by
  intro s hs
  obtain ⟨s₁, hrun₁, hs₁, htold₁⟩ := hx s hs
  obtain ⟨s₂, hrun₂, hs₂, htold₂⟩ := hhandler s₁ hs₁
  refine ⟨s₂, ?_, hs₂, ?_⟩
  · rw [ExceptT.run_tryCatch, StateT.run_bind, hrun₁]
    exact hrun₂
  · rw [htold₂, htold₁, List.append_assoc]

theorem update_readBefore (readBefore : Translator → List (String × String)) :
    Gives t (update fun u => { u with readBefore := readBefore u }) (.ok ()) [] :=
  fun _ h => ⟨_, rfl, ⟨h.settings, h.catalogue, h.currentLocale, h.notifier⟩,
    (List.append_nil _).symm⟩

theorem emit (event : Event) : Gives t (Translator.emit event) (.ok ()) (toldIn [event]) :=
  fun _ h => ⟨_, rfl, h, toldIn_append _ _⟩

theorem log (level : Level) (message : Except Fault String) (channel : Channel) :
    Gives t (Translator.log level message channel) (.ok ()) [] := by
  cases message with
  | error fault => exact pure ()
  | ok message => exact emit (.logged { level, channel, message })

/-- What a run of the action alone comes to, on a translator like `t`. -/
theorem runAction_of_like {u : Translator} {action : Action α} {result : Except Fault α}
    {told : List Untranslated} (h : Gives t action result told) (hu : u.Like t) :
    (Step.runAction action u).1.result = result ∧
      toldIn (Step.runAction action u).1.events = told ∧ (Step.runAction action u).2.Like t := by
  obtain ⟨s, hrun, hs, htold⟩ := h { translator := u } hu
  rw [runAction_of_run hrun]
  exact ⟨rfl, htold, hs⟩

theorem runAction {action : Action α} {result : Except Fault α} {told : List Untranslated}
    (h : Gives t action result told) :
    (Step.runAction action t).1.result = result ∧
      toldIn (Step.runAction action t).1.events = told ∧ (Step.runAction action t).2.Like t :=
  h.runAction_of_like (.refl t)

end Gives

end Translator

end Phrasebook
