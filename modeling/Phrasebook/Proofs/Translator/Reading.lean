import Phrasebook.Proofs.Fault.Recoverable
import Phrasebook.Proofs.Translator.Effect

/-! Reading from a translator, by any values and whether it succeeds or fails. A reading action
leaves the translator as it was but for the templates read before. An action that looks into the
catalogue fails for want of one when there is none; with one it fails by other faults, unless it has
to tell of a value of a caller's own whose text fails by just that fault. -/

namespace Phrasebook

namespace Translator

/-- On every translator like `t`, the action leaves it so, and its faults have a property. -/
def Keeps {α : Type} (t : Translator) (P : Fault → Prop) (action : Action α) : Prop :=
  ∀ s : Session, s.translator.Like t →
    (action.run.run s).2.translator.Like t ∧ FailsBy P (action.run.run s).1

namespace Keeps

variable {α β : Type} {t : Translator} {P Q : Fault → Prop}

theorem pure (a : α) : Keeps t P (Pure.pure a : Action α) := fun _ hs => ⟨hs, .ok a⟩

theorem throw {fault : Fault} (h : P fault) :
    Keeps t P (MonadExcept.throw fault : Action α) := fun _ hs => ⟨hs, .error h⟩

theorem lift {e : Except Fault α} (h : FailsBy P e) : Keeps t P (liftM e : Action α) :=
  fun _ hs => ⟨hs, h⟩

theorem mono {x : Action α} (hx : Keeps t P x) (h : ∀ fault, P fault → Q fault) : Keeps t Q x :=
  fun s hs => ⟨(hx s hs).1, (hx s hs).2.mono h⟩

theorem bind {x : Action α} {f : α → Action β} (hx : Keeps t P x) (hf : ∀ a, Keeps t P (f a)) :
    Keeps t P (x >>= f) := by
  intro s hs
  obtain ⟨hlike, hfails⟩ := hx s hs
  rcases hrun : x.run.run s with ⟨fault | a, s'⟩
  · rw [hrun] at hlike hfails
    rw [run_bind_of_error f hrun]
    exact ⟨hlike, .error (hfails fault rfl)⟩
  · rw [hrun] at hlike
    rw [run_bind_of_ok f hrun]
    exact hf a s' hlike

/-- What comes after an outcome depends on what it is. -/
theorem lift_bind {e : Except Fault α} {f : α → Action β} (he : FailsBy P e)
    (hf : ∀ a, e = .ok a → Keeps t P (f a)) : Keeps t P (liftM e >>= f) := by
  cases e with
  | error fault => exact fun s hs => ⟨hs, .error (he fault rfl)⟩
  | ok a => exact fun s hs => hf a rfl s hs

theorem current_bind {f : Translator → Action α} (hf : ∀ u : Translator, u.Like t →
    Keeps t P (f u)) : Keeps t P (current >>= f) :=
  fun s hs => hf s.translator hs s hs

/-- What the handler takes care of does not get out, whatever it is. -/
theorem tryCatch {x : Action α} {handler : Fault → Action α} (hx : Keeps t Q x)
    (hhandler : ∀ fault, Keeps t P (handler fault)) :
    Keeps t P (MonadExcept.tryCatch x handler) := by
  intro s hs
  obtain ⟨hlike, -⟩ := hx s hs
  rw [ExceptT.run_tryCatch, StateT.run_bind]
  rcases hrun : x.run.run s with ⟨fault | a, s'⟩
  · rw [hrun] at hlike
    exact hhandler fault s' hlike
  · rw [hrun] at hlike
    exact ⟨hlike, .ok a⟩

theorem update_readBefore (readBefore : Translator → List (String × String)) :
    Keeps t P (update fun u => { u with readBefore := readBefore u }) :=
  fun _ h => ⟨⟨h.settings, h.catalogue, h.currentLocale, h.notifier⟩, .ok ()⟩

theorem emit (event : Event) : Keeps t P (Translator.emit event) := fun _ hs => ⟨hs, .ok ()⟩

theorem log (level : Level) (message : Except Fault String) (channel : Channel) :
    Keeps t P (Translator.log level message channel) := by
  cases message with
  | error fault => exact pure ()
  | ok message => exact emit (.logged { level, channel, message })

theorem ite {p : Prop} [Decidable p] {x y : Action α} (hx : Keeps t P x) (hy : Keeps t P y) :
    Keeps t P (if p then x else y) := by
  split
  · exact hx
  · exact hy

end Keeps

theorem run_requireCatalogue (s : Session) : requireCatalogue.run.run s =
    (s.translator.catalogue.elim (.error .uninitialized) .ok, s) := by
  rw [requireCatalogue, run_bind_of_ok _ (rfl : current.run.run s = (.ok s.translator, s))]
  cases s.translator.catalogue <;> rfl

section

variable [Stack]

/-- A fault that is not the want of a catalogue, or that the text of a value fails by which is told
of. -/
def IsOtherFault (told : List Value) (fault : Fault) : Prop :=
  fault ≠ .uninitialized ∨ ∃ v ∈ told, v.toTextAt .report = .error fault

/-- An action that leaves the translator as it was and fails for want of a catalogue when there is
none. With a catalogue it fails by other faults, or as telling of some values does. -/
structure LooksUp {α : Type} (told : Translator → List Value) (action : Action α) : Prop where
  keeps : ∀ t, Keeps t (fun _ => True) action
  uninitialized : ∀ s : Session, s.translator.isInitialized = false →
    (action.run.run s).1 = .error .uninitialized
  initialized : ∀ s : Session, s.translator.isInitialized = true →
    FailsBy (IsOtherFault (told s.translator)) (action.run.run s).1

namespace LooksUp

variable {α β : Type} {told : Translator → List Value}

/-- It is enough that what is done with a catalogue fails by other faults. -/
theorem of_requireCatalogue {f : Catalogue → Action α}
    (hf : ∀ c t, Keeps t (IsOtherFault (told t)) (f c)) :
    LooksUp told (requireCatalogue >>= f) where
  keeps := by
    intro t
    have hrequire : Keeps t (fun _ => True) requireCatalogue := fun s hs => by
      rw [run_requireCatalogue]
      exact ⟨hs, fun _ _ => trivial⟩
    exact .bind hrequire fun c => (hf c t).mono fun _ _ => trivial
  uninitialized := by
    intro s hs
    have hrun := run_requireCatalogue s
    rw [Option.isSome_eq_false_iff.mp hs |> Option.isNone_iff_eq_none.mp] at hrun
    rw [run_bind_of_error f hrun]
  initialized := by
    intro s hs
    obtain ⟨c, hcatalogue⟩ := Option.isSome_iff_exists.mp hs
    have hrun := run_requireCatalogue s
    rw [hcatalogue] at hrun
    rw [run_bind_of_ok f hrun]
    exact (hf c s.translator s (.refl _)).2

/-- What is made of the result does not matter. -/
theorem bind_pure {action : Action α} (h : LooksUp told action) (g : α → β) :
    LooksUp told (action >>= fun a => pure (g a)) where
  keeps := fun t => .bind (h.keeps t) fun a => .pure (g a)
  uninitialized := by
    intro s hs
    have hresult := h.uninitialized s hs
    rcases hrun : action.run.run s with ⟨fault | a, s'⟩
    · rw [hrun] at hresult
      rw [run_bind_of_error _ hrun]
      exact congrArg Except.error (Except.error.inj hresult)
    · rw [hrun] at hresult
      cases hresult
  initialized := by
    intro s hs
    have hresult := h.initialized s hs
    rcases hrun : action.run.run s with ⟨fault | a, s'⟩
    · rw [hrun] at hresult
      rw [run_bind_of_error _ hrun]
      exact .error (hresult fault rfl)
    · rw [run_bind_of_ok _ hrun]
      exact .ok (g a)

/-- Where telling of a value never fails for want of a catalogue, the action fails so exactly when
there is none. -/
theorem uninitialized_iff {action : Action α} (h : LooksUp told action) (s : Session)
    (htold : ∀ v ∈ told s.translator, v.toTextAt .report ≠ .error .uninitialized) :
    (action.run.run s).1 = .error .uninitialized ↔ s.translator.isInitialized = false := by
  refine ⟨fun hresult => ?_, h.uninitialized s⟩
  cases hs : s.translator.isInitialized with
  | false => rfl
  | true =>
    rcases h.initialized s hs .uninitialized hresult with hne | ⟨v, hv, hfails⟩
    · exact absurd rfl hne
    · exact absurd hfails (htold v hv)

end LooksUp

/-! ## Looking up

Looking up fails by a value that is no key or by one that cannot be told of, so a property that
these faults have bounds it. -/

section

variable {P : Fault → Prop} {t : Translator}

omit [Stack] in
theorem failsBy_asKey (htype : P .wrongType) (v : Value) : FailsBy P v.asKey :=
  .ite (.ok v) (.error htype)

omit [Stack] in
theorem failsBy_lookup (htype : P .wrongType) (c : Catalogue) (locale domain id : Value) :
    FailsBy P (c.lookup locale domain id) := by
  refine .bind ?_ fun status => .pure _
  refine .bind (failsBy_asKey htype locale) fun locale => ?_
  split
  · exact .pure _
  · refine .bind (failsBy_asKey htype domain) fun domain => ?_
    split
    · exact .pure _
    · refine .bind (failsBy_asKey htype id) fun id => ?_
      split <;> exact .pure _

omit [Stack] in
theorem failsBy_domains (htype : P .wrongType) (c : Catalogue) (locale : Value) :
    FailsBy P (c.domains locale) := by
  refine .bind (failsBy_asKey htype locale) fun locale => ?_
  split <;> exact .pure _

omit [Stack] in
theorem failsBy_restrictDomains (htype : P .wrongType) (locale : Value)
    (available : OrderedMap Value (OrderedMap Value String)) (domains : List Value)
    (done : OrderedMap Value (OrderedMap Value String) × List Lookup) :
    FailsBy P (Catalogue.restrictDomains locale available domains done) := by
  induction domains generalizing done with
  | nil => exact .ok done
  | cons domain rest ih =>
    obtain ⟨selected, skipped⟩ := done
    refine .bind (failsBy_asKey htype domain) fun domain => ?_
    split <;> exact ih _

omit [Stack] in
theorem failsBy_restrict (htype : P .wrongType) (c : Catalogue) (domains locales : List Value) :
    FailsBy P (c.restrict domains locales) := by
  have hgo (done : Catalogue × List Lookup) :
      FailsBy P (Catalogue.restrict.go c domains locales done) := by
    induction locales generalizing done with
    | nil => exact .ok done
    | cons locale rest ih =>
      obtain ⟨selected, skipped⟩ := done
      refine .bind (failsBy_asKey htype locale) fun locale => ?_
      split
      · exact ih _
      · refine .bind (failsBy_restrictDomains htype _ _ _ _) fun part => ?_
        exact ih _
  exact hgo _

omit [Stack] in
theorem failsBy_candidates (htype : P .wrongType) (requested fallback : Value) :
    FailsBy P (candidates requested fallback) :=
  .ite (.bind (failsBy_asKey htype requested) fun _ => .pure _) (.ok _)

/-- The values that are told of when a part of the catalogue was skipped can be told of. -/
def Tellable (P : Fault → Prop) (miss : Lookup) : Prop :=
  FailsBy P (miss.locale.toTextAt .report) ∧ FailsBy P (miss.domain.toTextAt .report)

theorem failsBy_skippedDiagnostic {miss : Lookup} (h : Tellable P miss) :
    FailsBy P (skippedDiagnostic miss) := by
  unfold skippedDiagnostic
  split
  · exact .bind h.1 fun _ => .pure _
  · exact .bind h.2 fun _ => .bind h.1 fun _ => .pure _

omit [Stack] in
theorem keeps_notify (message : Untranslated) : Keeps t P (notify message) := by
  refine .current_bind fun u _ => ?_
  split
  · exact .pure ()
  · refine .bind (.emit _) fun _ => ?_
    split
    · exact .pure ()
    · exact .log _ _ _

theorem keeps_searchIn (htype : P .wrongType) (c : Catalogue) (domain id : Value)
    (locales : List Value) : Keeps t P (searchIn c domain id locales) := by
  induction locales with
  | nil => exact .pure none
  | cons locale rest ih =>
    refine .bind (.lift (failsBy_lookup htype c _ _ _)) fun found => ?_
    split
    · exact .pure _
    · exact .bind (.log _ _ _) fun _ => ih

theorem keeps_warnSkipped {skipped : List Lookup} (h : ∀ miss ∈ skipped, Tellable P miss) :
    Keeps t P (warnSkipped skipped) := by
  induction skipped with
  | nil => exact .pure ()
  | cons miss rest ih =>
    obtain ⟨hmiss, hrest⟩ := List.forall_mem_cons.mp h
    refine .bind (.lift (failsBy_skippedDiagnostic hmiss)) fun diagnostic => ?_
    exact .bind (.log _ _ _) fun _ => ih hrest

end

/-! ## Skipped parts

What is noted as missing is a locale or a domain of the request. -/

omit [Stack] in
theorem skipped_restrictDomains {locale : Value}
    {available selected : OrderedMap Value (OrderedMap Value String)} {domains : List Value}
    {done : OrderedMap Value (OrderedMap Value String) × List Lookup} {skipped : List Lookup}
    (h : Catalogue.restrictDomains locale available domains done = .ok (selected, skipped)) :
    ∀ miss ∈ skipped, miss ∈ done.2 ∨ miss.locale = locale ∧ miss.domain ∈ domains := by
  induction domains generalizing done with
  | nil =>
    obtain rfl := Except.ok.inj h
    exact fun miss hmiss => .inl hmiss
  | cons domain rest ih =>
    obtain ⟨key, -, h⟩ := bind_eq_ok_iff.mp h
    have hlater {miss : Lookup} (hrest : miss.locale = locale ∧ miss.domain ∈ rest) :
        miss.locale = locale ∧ miss.domain ∈ domain :: rest :=
      hrest.imp_right (List.mem_cons_of_mem domain)
    split at h
    · exact fun miss hmiss => (ih h miss hmiss).imp_right hlater
    · intro miss hmiss
      rcases ih h miss hmiss with hmem | hrest
      · rcases List.mem_append.mp hmem with hdone | hnew
        · exact .inl hdone
        · obtain rfl := List.mem_singleton.mp hnew
          exact .inr ⟨rfl, List.mem_cons_self⟩
      · exact .inr (hlater hrest)

section

variable {c selected : Catalogue} {domains locales : List Value} {skipped : List Lookup}

omit [Stack] in
theorem skipped_restrict_go {done : Catalogue × List Lookup}
    (h : Catalogue.restrict.go c domains locales done = .ok (selected, skipped)) :
    ∀ miss ∈ skipped, miss ∈ done.2 ∨
      miss.locale ∈ locales ∧ (miss.domain = .text "" ∨ miss.domain ∈ domains) := by
  induction locales generalizing done with
  | nil =>
    obtain rfl := Except.ok.inj h
    exact fun miss hmiss => .inl hmiss
  | cons locale rest ih =>
    obtain ⟨key, -, h⟩ := bind_eq_ok_iff.mp h
    intro miss hmiss
    split at h
    · rcases ih h miss hmiss with hmem | hrest
      · rcases List.mem_append.mp hmem with hbefore | hnew
        · exact .inl hbefore
        · obtain rfl := List.mem_singleton.mp hnew
          exact .inr ⟨List.mem_cons_self, .inl rfl⟩
      · exact .inr (hrest.imp_left (List.mem_cons_of_mem locale))
    · obtain ⟨⟨part, missing⟩, hpart, h⟩ := bind_eq_ok_iff.mp h
      rcases ih h miss hmiss with hmem | hrest
      · rcases List.mem_append.mp hmem with hbefore | hnew
        · exact .inl hbefore
        · rcases skipped_restrictDomains hpart miss hnew with hnone | ⟨hlocale, hdomain⟩
          · exact absurd hnone List.not_mem_nil
          · exact .inr ⟨hlocale ▸ List.mem_cons_self, .inr hdomain⟩
      · exact .inr (hrest.imp_left (List.mem_cons_of_mem locale))

omit [Stack] in
theorem skipped_restrict (h : c.restrict domains locales = .ok (selected, skipped)) :
    ∀ miss ∈ skipped, miss.locale ∈ locales ∧ (miss.domain = .text "" ∨ miss.domain ∈ domains) :=
  fun miss hmiss => (skipped_restrict_go h miss hmiss).resolve_left List.not_mem_nil

end

section

variable (id domain domains locale locales : Value)

/-- The values that a look-up tells of when it finds nothing. -/
def toldOfMiss (t : Translator) : List Value :=
  [id, domain.orElse (.text t.settings.defaultDomain), locale.orElse t.currentLocale]

/-- The values of a request, any of which is told of when it is missing. -/
def toldOfRequest (t : Translator) : List Value :=
  requestedItems domains t.settings.defaultDomain ++
    requestedItems locales t.settings.fallbackLocale

theorem failsBy_toText {told : List Value} {v : Value} (h : v ∈ told) :
    FailsBy (IsOtherFault told) (v.toTextAt .report) := fun _ hfault => .inr ⟨v, h, hfault⟩

theorem looksUp_hasMessage : LooksUp (fun _ => []) (hasMessage id domain locale) := by
  refine .of_requireCatalogue fun c t => .current_bind fun u _ => ?_
  refine .bind (.lift (failsBy_lookup (.inl (by simp)) c _ _ _)) fun found => ?_
  dsimp only
  split
  · exact .pure _
  · exact .bind (.log _ _ _) fun _ => .pure _

theorem looksUp_getMessage :
    LooksUp (toldOfMiss id domain locale) (getMessage id domain locale) := by
  refine .of_requireCatalogue fun c t => .current_bind fun u hu => ?_
  have htype : IsOtherFault (toldOfMiss id domain locale t) .wrongType := .inl (by simp)
  refine .bind (.lift (failsBy_candidates htype _ _)) fun candidates => ?_
  refine .bind (keeps_searchIn htype c _ id candidates) fun found => ?_
  split
  · exact .pure _
  · rw [hu.settings, hu.currentLocale]
    refine .bind (.lift (failsBy_toText (by simp [toldOfMiss]))) fun _ =>
      .bind (.lift (failsBy_toText (by simp [toldOfMiss]))) fun _ =>
      .bind (.lift (failsBy_toText (by simp [toldOfMiss]))) fun _ => ?_
    exact .bind (.log _ _ _) fun _ => .bind (keeps_notify _) fun _ => .pure id

theorem looksUp_getDomains : LooksUp (fun _ => []) (getDomains locale) := by
  refine .of_requireCatalogue fun c t => .current_bind fun u _ => ?_
  exact .lift (failsBy_domains (.inl (by simp)) c _)

theorem looksUp_getCatalogue :
    LooksUp (toldOfRequest domains locales) (getCatalogue domains locales) := by
  refine .of_requireCatalogue fun c t => .current_bind fun u hu => ?_
  refine .lift_bind (failsBy_restrict (.inl (by simp)) c _ _) fun read hread => ?_
  have hskipped := skipped_restrict hread
  rw [hu.settings] at hskipped
  refine .bind (keeps_warnSkipped fun miss hmiss => ?_) fun _ => .pure read.1
  obtain ⟨hlocale, hdomain⟩ := hskipped miss hmiss
  refine ⟨failsBy_toText (List.mem_append_right _ hlocale), ?_⟩
  rcases hdomain with htext | hmem
  · rw [htext]
    exact .ok ""
  · exact failsBy_toText (List.mem_append_left _ hmem)

end

/-! ## Resolving -/

section

variable {t : Translator} (id template parameters domain locale : Value)

omit [Stack] in
theorem keeps_readTemplate (text : String) : Keeps t (fun _ => True) (readTemplate text) := by
  refine .current_bind fun u _ => .bind (.lift fun _ _ => trivial) fun template => ?_
  dsimp only
  split
  · exact .pure template
  · refine .bind (.update_readBefore _) fun _ => ?_
    split
    · exact .bind (.log _ _ _) fun _ => .pure template
    · exact .pure template

theorem keeps_pluralize : Keeps t (fun _ => True) (pluralize template parameters locale) := by
  refine .current_bind fun u _ => .bind (.lift fun _ _ => trivial) fun held => ?_
  refine .ite (.bind (.lift fun _ _ => trivial) fun count => ?_) (.pure _)
  split
  · exact .bind (keeps_readTemplate _) fun read =>
      .bind (.lift fun _ _ => trivial) fun variant => .pure _
  · exact .throw trivial

theorem keeps_resolve : Keeps t (fun _ => True) (resolve id parameters domain locale) := by
  refine .bind ((looksUp_getMessage id domain locale).keeps t) fun template => ?_
  refine .bind (keeps_pluralize template parameters locale) fun variant => ?_
  have hreplace (message : Value) : Keeps t (fun _ => True)
      (liftM (Placeholder.replaceIn message parameters) : Action Value) :=
    .lift fun _ _ => trivial
  cases variant with
  | some message => exact .bind (.pure message) hreplace
  | none =>
    refine .bind (.lift fun _ _ => trivial) fun _ => .bind (.lift fun _ _ => trivial) fun _ => ?_
    exact .bind (.log _ _ _) fun _ => .bind (.pure template) hreplace

theorem keeps_translate : Keeps t (fun _ => True) (translate id parameters domain locale) := by
  refine .current_bind fun u _ => .bind ?_ fun outcome => ?_
  · refine .tryCatch (.bind (keeps_resolve _ _ _ _) fun message => .pure _) fun fault => ?_
    cases fault.isRecoverable with
    | true => exact .bind (.log _ _ _) fun _ => .pure none
    | false => exact .bind (.throw trivial) fun _ => .bind (.log _ _ _) fun _ => .pure none
  · split
    · exact .pure id
    · exact .bind (.lift fun _ _ => trivial) fun beginning =>
        .bind (.log _ _ _) fun _ => .pure _

end

end

end Translator

end Phrasebook
