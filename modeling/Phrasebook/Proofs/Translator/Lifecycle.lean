import Phrasebook.Proofs.Catalogue.Ledger
import Phrasebook.Proofs.Translator.Adding
import Phrasebook.Proofs.Translator.Loading
import Phrasebook.Proofs.Translator.Reading

/-! The life of a translator. Each step is done or fails, and only a load or an insertion that is
done changes the catalogue; the other steps leave it, and all but one kind of them leave the current
locale too. Over a run of calls the catalogue is therefore what the last load read, or the one at
the start without a load, with the messages inserted since: a ledger of the run has them, and tells
what is found. A translator gets its first catalogue by the first of these changes and never loses
it. -/

namespace Phrasebook

/-- What is done to a catalogue as a whole or to one of its messages. -/
inductive Change where
  | load (read : Catalogue)
  | insert (message : Message)

namespace Change

/-- The catalogue after a change. -/
def apply (c : Catalogue) : Change → Catalogue
  | load read => read
  | insert m => c.put m

end Change

/-- The ledger after a change: a load begins it anew. -/
def Ledger.record (ledger : Ledger) : Change → Ledger
  | .load read => { start := read, messages := [] }
  | .insert m => ledger.add m

theorem Ledger.catalogue_record (ledger : Ledger) (change : Change) :
    (ledger.record change).catalogue = change.apply ledger.catalogue := by
  cases change with
  | load read => rfl
  | insert m => exact ledger.catalogue_add m

namespace Step

/-! ## Kinds of steps -/

/-- Whether a step is to change the catalogue. -/
def isChange : Step → Bool
  | load _ _ | loadAs _ _ | add _ _ _ _ => true
  | _ => false

/-- Whether a step needs a catalogue. -/
def isLookup : Step → Bool
  | has _ _ _ | get _ _ _ | domainsOf _ | excerpt _ _ => true
  | _ => false

/-- A message is added under an id and a domain that can be keys, as texts and nothing are. -/
def Keyed : Step → Prop
  | add id _ domain _ => id.isKey = true ∧ domain.isKey = true
  | _ => True

/-- The values that a step may tell of. -/
def told (t : Translator) : Step → List Value
  | get id domain locale => Translator.toldOfMiss id domain locale t
  | excerpt domains locales => Translator.toldOfRequest domains locales t
  | _ => []

section

variable [Stack]

/-- The change that a step makes when it is done. -/
def change? (t : Translator) : Step → Option Change
  | load source kind =>
    (LoadKind.ofValue kind >>= Translator.readSource source).toOption.map fun (read, _) =>
      .load read
  | loadAs source kind =>
    (Translator.readSource source kind).toOption.map fun (read, _) => .load read
  | add id (.text template) domain locale => some (.insert {
      locale := t.targetLocale locale
      domain := t.targetDomain domain
      id
      template })
  | _ => none

/-! ## One step -/

/-- A step that neither changes the catalogue nor sets the current locale only reads. -/
theorem keeps_perform (t : Translator) {step : Step} (hchange : step.isChange = false)
    (hlocale : ∀ locale, step ≠ .setLocale locale) :
    Translator.Keeps t (fun _ => True) step.perform := by
  cases step with
  | load | loadAs | add => cases hchange
  | setLocale locale => exact absurd rfl (hlocale locale)
  | has id domain locale =>
    exact .bind ((Translator.looksUp_hasMessage id domain locale).keeps t) fun _ => .pure _
  | get id domain locale =>
    exact .bind ((Translator.looksUp_getMessage id domain locale).keeps t) fun _ => .pure _
  | domainsOf locale =>
    exact .bind ((Translator.looksUp_getDomains locale).keeps t) fun _ => .pure _
  | excerpt domains locales =>
    exact .bind ((Translator.looksUp_getCatalogue domains locales).keeps t) fun _ => .pure _
  | pluralize template parameters locale =>
    refine .bind (Translator.keeps_pluralize template parameters locale) fun variant => ?_
    cases variant <;> exact .pure _
  | replace message parameters => exact .bind (.lift fun _ _ => trivial) fun _ => .pure _
  | translate id parameters domain locale =>
    exact .bind (Translator.keeps_translate id parameters domain locale) fun _ => .pure _
  | currentLocale | effectiveLocale | initialized | settings =>
    exact .current_bind fun _ _ => .pure _
  | shown => exact .current_bind fun _ _ => .bind (.lift fun _ _ => trivial) fun _ => .pure _

theorem looksUp_perform {step : Step} (h : step.isLookup = true) :
    Translator.LooksUp (fun t => step.told t) step.perform := by
  cases step with
  | has id domain locale => exact (Translator.looksUp_hasMessage id domain locale).bind_pure _
  | get id domain locale => exact (Translator.looksUp_getMessage id domain locale).bind_pure _
  | domainsOf locale => exact (Translator.looksUp_getDomains locale).bind_pure _
  | excerpt domains locales =>
    exact (Translator.looksUp_getCatalogue domains locales).bind_pure _
  | _ => cases h

/-- What a step comes to: a change that is done, the current locale, or nothing. -/
inductive Effect (t : Translator) (step : Step) : Except Fault Answer → Translator → Prop
  | changed {answer : Answer} {change : Change} :
      step.isChange = true → step.change? t = some change →
      Effect t step (.ok answer) { t with
        catalogue := some (change.apply (t.catalogue.getD .empty)) }
  | located {locale : Value} {result : Except Fault Answer} :
      step = .setLocale locale → Effect t step result { t with currentLocale := locale }
  | kept {result : Except Fault Answer} {after : Translator} :
      (step.isChange = true → result.isOk = false) → after.Like t → Effect t step result after

theorem effect_loadAs (t : Translator) (source : Value) (kind : LoadKind) {step : Step}
    (hchange : step.isChange = true)
    (hstep : step.change? t =
      (Translator.readSource source kind).toOption.map fun (read, _) => .load read) :
    Effect t step
      ((runAction (Translator.load source kind) t).1.result.map fun _ => .value (.bool true))
      (runAction (Translator.load source kind) t).2 := by
  rw [Translator.runAction_load]
  cases hread : Translator.readSource source kind with
  | error fault => exact .kept (fun _ => rfl) (.refl t)
  | ok read =>
    obtain ⟨c, name⟩ := read
    rw [hread] at hstep
    dsimp only
    split
    · exact .kept (fun _ => rfl) (.refl t)
    · exact .changed hchange hstep

omit [Stack] in
theorem isKey_targetDomain {domain : Value} (t : Translator) (h : domain.isKey = true) :
    (t.targetDomain domain).isKey = true := by
  unfold Translator.targetDomain Value.orElse
  split
  · exact h
  · rfl

theorem effect_add (t : Translator) {id template domain locale : Value} (hid : id.isKey = true)
    (hdomain : domain.isKey = true) :
    Effect t (.add id template domain locale)
      ((runAction (Translator.add id template domain locale) t).1.result.map
        fun _ => .value (.bool true))
      (runAction (Translator.add id template domain locale) t).2 := by
  rw [Translator.result_add, Translator.translator_add]
  have hdomain := isKey_targetDomain t hdomain
  rcases hset : t.insertion id template domain locale with ⟨fault | done, c⟩
  · -- under such keys a refused insertion has left nothing in the catalogue
    have hc := (Catalogue.refused_of_set hset).unchanged_of_keys hdomain hid
    refine .kept (fun _ => rfl) ?_
    unfold Translator.isInitialized
    cases hcatalogue : t.catalogue with
    | none => exact .refl t
    | some start =>
      rw [hcatalogue] at hc
      exact ⟨rfl, by rw [hcatalogue, hc]; rfl, rfl, rfl⟩
  · obtain ⟨s, rfl, -, -, rfl⟩ := Catalogue.of_set_eq_ok hset
    have hstep : change? t (.add id (.text s) domain locale) = some (.insert {
        locale := t.targetLocale locale
        domain := t.targetDomain domain
        id
        template := s }) := rfl
    exact .changed rfl hstep

/-- A step is done or fails, and what it leaves is told by its kind. -/
theorem effect_of_keyed (t : Translator) {step : Step} (h : step.Keyed) :
    Effect t step (runAction step.perform t).1.result (runAction step.perform t).2 := by
  by_cases hchange : step.isChange = true
  · cases step with
    | load source kind =>
      cases hkind : LoadKind.ofValue kind with
      | error fault =>
        have hrun : (perform (.load source kind)).run.run { translator := t } =
            (.error fault, { translator := t }) := by
          rw [perform, hkind]
          rfl
        rw [Translator.runAction_of_run hrun]
        exact .kept (fun _ => rfl) (.refl t)
      | ok named =>
        have hperform : perform (.load source kind) = perform (.loadAs source named) := by
          rw [perform, hkind]
          rfl
        rw [hperform, perform, Translator.runAction_bind_pure]
        refine effect_loadAs t source named hchange ?_
        rw [change?, hkind]
        rfl
    | loadAs source kind =>
      rw [perform, Translator.runAction_bind_pure]
      exact effect_loadAs t source kind hchange rfl
    | add id template domain locale =>
      rw [perform, Translator.runAction_bind_pure]
      exact effect_add t h.1 h.2
    | _ => cases hchange
  · by_cases hlocale : ∃ locale, step = .setLocale locale
    · obtain ⟨locale, rfl⟩ := hlocale
      exact .located rfl
    · have hkeeps := keeps_perform t (Bool.eq_false_iff.mpr hchange)
        fun locale hstep => hlocale ⟨locale, hstep⟩
      exact .kept (fun h => absurd h hchange) (hkeeps { translator := t } (.refl t)).1

theorem change?_eq_none {step : Step} (h : step.isChange = false) (t : Translator) :
    step.change? t = none := by
  cases step with
  | load | loadAs | add => cases h
  | _ => rfl

namespace Effect

variable {t after : Translator} {step : Step} {result : Except Fault Answer}

/-- What a step makes leads a ledger from the catalogue before it to the one after it. -/
theorem catalogue_foldl (h : Effect t step result after) {ledger : Ledger}
    (hledger : ledger.catalogue = t.catalogue.getD .empty) :
    ((if result.isOk then (step.change? t).toList else []).foldl Ledger.record ledger).catalogue =
      after.catalogue.getD .empty := by
  cases h with
  | @changed _ change _ hstep =>
    rw [hstep]
    show (ledger.record change).catalogue = change.apply (t.catalogue.getD .empty)
    rw [ledger.catalogue_record, hledger]
  | located hstep =>
    have hnone : step.isChange = false := by
      rw [hstep]
      rfl
    rw [change?_eq_none hnone, Option.toList_none, ite_self]
    exact hledger
  | kept hkept hlike =>
    rw [hlike.catalogue]
    cases hchange : step.isChange with
    | true =>
      rw [hkept hchange]
      exact hledger
    | false =>
      rw [change?_eq_none hchange, Option.toList_none, ite_self]
      exact hledger

theorem isInitialized (h : Effect t step result after) :
    after.isInitialized = (t.isInitialized || (step.isChange && result.isOk)) := by
  cases h with
  | changed hchange _ => simp [Translator.isInitialized, hchange, Except.isOk, Except.toBool]
  | located hstep => simp [Translator.isInitialized, hstep, isChange]
  | kept hkept hlike =>
    have hnone : (step.isChange && result.isOk) = false := by simpa using hkept
    rw [hnone, Bool.or_false, Translator.isInitialized, hlike.catalogue, Translator.isInitialized]

/-- A step that changes nothing leaves everything but the current locale, and that too unless it
is set. -/
theorem unchanged (h : Effect t step result after)
    (hresult : step.isChange = true → result.isOk = false) :
    after.catalogue = t.catalogue ∧ after.isInitialized = t.isInitialized ∧
      ((∀ locale, step ≠ .setLocale locale) → after.currentLocale = t.currentLocale) := by
  have hinitialized : after.isInitialized = t.isInitialized := by
    have hnone : (step.isChange && result.isOk) = false := by simpa using hresult
    rw [h.isInitialized, hnone, Bool.or_false]
  cases h with
  | changed hchange _ => cases hresult hchange
  | located hstep => exact ⟨rfl, hinitialized, fun hlocale => absurd hstep (hlocale _)⟩
  | kept _ hlike => exact ⟨hlike.catalogue, hinitialized, fun _ => hlike.currentLocale⟩

end Effect

end

end Step

namespace Call

/-! ## Runs -/

/-- The changes of a run, in order: those of the steps that were done. -/
def changes (t : Translator) : List Call → List Change
  | [] => []
  | call :: rest =>
    let (outcome, after) := Step.runAction call.perform t
    (if outcome.result.isOk then (@Step.change? call.stack t call.step).toList else []) ++
      changes after rest

/-- The ledger of a run: what the last load read, or the catalogue at the start without a load, and
the messages inserted since. -/
def ledger (t : Translator) (calls : List Call) : Ledger :=
  (changes t calls).foldl Ledger.record { start := t.catalogue.getD .empty, messages := [] }

/-- Whether a step of a run that is to change the catalogue was done. -/
def hasChanged (t : Translator) (calls : List Call) : Bool :=
  (calls.zip (run t calls).1).any fun (call, outcome) =>
    call.step.isChange && outcome.result.isOk

/-- The texts of the values that a call may tell of are not themselves refused for want of a
catalogue, as that of a value of a caller's own might be. -/
def CanTell (call : Call) (t : Translator) : Prop :=
  ∀ v ∈ call.step.told t, @Value.toTextAt call.stack v .report ≠ .error .uninitialized

theorem effect (call : Call) (t : Translator) (h : call.step.Keyed) :
    @Step.Effect call.stack t call.step (Step.runAction call.perform t).1.result
      (Step.runAction call.perform t).2 :=
  @Step.effect_of_keyed call.stack t call.step h

section

variable {calls : List Call}

theorem run_append (t : Translator) (calls more : List Call) :
    (run t (calls ++ more)).2 = (run (run t calls).2 more).2 := by
  induction calls generalizing t with
  | nil => rfl
  | cons call rest ih => exact ih _

theorem catalogue_changes (h : ∀ call ∈ calls, call.step.Keyed) {t : Translator} {ledger : Ledger}
    (hledger : ledger.catalogue = t.catalogue.getD .empty) :
    ((changes t calls).foldl Ledger.record ledger).catalogue =
      (run t calls).2.catalogue.getD .empty := by
  induction calls generalizing t ledger with
  | nil => exact hledger
  | cons call rest ih =>
    obtain ⟨hcall, hrest⟩ := List.forall_mem_cons.mp h
    let _ : Stack := call.stack
    rw [changes, List.foldl_append]
    exact ih hrest ((effect call t hcall).catalogue_foldl hledger)

/-- The catalogue after a run is that of its ledger. -/
theorem catalogue_ledger (t : Translator) (h : ∀ call ∈ calls, call.step.Keyed) :
    (ledger t calls).catalogue = (run t calls).2.catalogue.getD .empty :=
  catalogue_changes h rfl

theorem isInitialized_run (h : ∀ call ∈ calls, call.step.Keyed) (t : Translator) :
    (run t calls).2.isInitialized = (t.isInitialized || hasChanged t calls) := by
  induction calls generalizing t with
  | nil => exact (Bool.or_false _).symm
  | cons call rest ih =>
    obtain ⟨hcall, hrest⟩ := List.forall_mem_cons.mp h
    let _ : Stack := call.stack
    have hafter := ih hrest (Step.runAction call.perform t).2
    rw [(effect call t hcall).isInitialized, Bool.or_assoc] at hafter
    exact hafter

/-- After any run the catalogue is what the last load read, or the one at the start without a load,
with the messages inserted since, and it answers by the last of them. It is there once a load or an
insertion was done, and from then on. Whatever call comes next, one that fails or only reads leaves
the catalogue and the current locale, and one that needs the catalogue fails for want of it exactly
when there is none. -/
theorem catalogue_since_last_load (t : Translator) (h : ∀ call ∈ calls, call.step.Keyed) :
    let after := (run t calls).2
    (after.catalogue.getD .empty = (ledger t calls).catalogue ∧
      (ledger t calls).Tells (after.catalogue.getD .empty)) ∧
    (after.isInitialized = true ↔ t.isInitialized = true ∨ hasChanged t calls = true) ∧
    (∀ more : List Call, (∀ call ∈ more, call.step.Keyed) → after.isInitialized = true →
      (run t (calls ++ more)).2.isInitialized = true) ∧
    ∀ call : Call, call.step.Keyed →
      let done := Step.runAction call.perform after
      ((call.step.isChange = true → done.1.result.isOk = false) →
        done.2.catalogue = after.catalogue ∧ done.2.isInitialized = after.isInitialized ∧
        ((∀ locale, call.step ≠ .setLocale locale) →
          done.2.currentLocale = after.currentLocale)) ∧
      (call.step.isLookup = true →
        (after.isInitialized = false → done.1.result = .error .uninitialized) ∧
        (call.CanTell after →
          (done.1.result = .error .uninitialized ↔ after.isInitialized = false))) := by
  intro after
  have hledger := catalogue_ledger t h
  refine ⟨⟨hledger.symm, hledger ▸ (ledger t calls).tells_catalogue⟩, ?_, ?_, ?_⟩
  · rw [isInitialized_run h, Bool.or_eq_true]
  · intro more hmore hafter
    rw [run_append, isInitialized_run hmore, hafter, Bool.true_or]
  · intro call hcall
    let _ : Stack := call.stack
    refine ⟨(effect call after hcall).unchanged, fun hlookup => ?_⟩
    have hlooks := Step.looksUp_perform hlookup
    exact ⟨hlooks.uninitialized { translator := after },
      hlooks.uninitialized_iff { translator := after }⟩

end

/-- A message that a load does away with, the message loaded, one added to it, a refused one, and a
look-up: what was loaded and what was added since are found, and nothing else. -/
theorem catalogue_since_last_load_of_greetings :
    let t : Translator := { settings := default }
    let hello : Value := .map [(.text "en", .map [(.text "messages",
      .map [(.text "hello", .text "Hello")])])]
    let steps : List Step := [
      .add (.text "old") (.text "Old") .null .null,
      .loadAs hello .catalogue,
      .add (.text "bye") (.text "Bye") .null .null,
      .add (.text "none") .null .null .null,
      .get (.text "bye") .null .null]
    let calls : List Call := steps.map fun step => { stack := .ample, step }
    let after := (run t calls).2
    let found (id : String) := (after.catalogue.getD .empty).found? (.text "en") (.text "messages")
      (.text id)
    (∀ call ∈ calls, call.step.Keyed) ∧ after.isInitialized = true ∧
      found "hello" = some "Hello" ∧ found "bye" = some "Bye" ∧ found "old" = none ∧
      found "none" = none ∧ (after.catalogue.getD .empty).locales = [.text "en"] := by
  intro t hello steps calls after found
  have hkeyed : ∀ call ∈ calls, call.step.Keyed := by
    simp [calls, steps, Step.Keyed, Value.isKey, Value.key?]
  obtain ⟨⟨-, htells⟩, hinitialized, -⟩ := catalogue_since_last_load t hkeyed
  have hchanged : hasChanged t calls = true := by rfl
  have hfound (id : String) : found id =
      (ledger t calls).template? (.text "en") (.text "messages") (.text id) :=
    htells.template _ _ _
  refine ⟨hkeyed, hinitialized.mpr (.inr hchanged), ?_, ?_, ?_, ?_, ?_⟩
  · rw [hfound]
    decide +kernel
  · rw [hfound]
    decide +kernel
  · rw [hfound]
    decide +kernel
  · rw [hfound]
    decide +kernel
  · rw [htells.locales]
    rfl

end Call

end Phrasebook
