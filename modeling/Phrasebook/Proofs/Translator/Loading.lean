import Phrasebook.Proofs.Catalogue.Reload
import Phrasebook.Proofs.Translator.Effect

/-! Loading a catalogue into a translator. What is read replaces the catalogue unless it is empty,
and a source that cannot be read changes nothing. A catalogue given as a whole is read from its
nested mappings, so it is taken over as it is when its keys are texts. -/

namespace Phrasebook

namespace Translator

section

variable [Stack]

/-- What loading comes to. -/
theorem runAction_load (t : Translator) (source : Value) (kind : LoadKind) :
    Step.runAction (load source kind) t =
      match readSource source kind with
      | .error fault => ({ result := .error fault, events := [] }, t)
      | .ok (c, name) =>
        if c.isEmpty then ({ result := .error .emptyCatalogue, events := [] }, t)
        else ({ result := .ok ()
                events := [.logged {
                  level := .info, channel := .translator, message := loadedMessage c name }] },
          { t with catalogue := some c }) := by
  unfold load
  cases readSource source kind with
  | error fault => rfl
  | ok read =>
    obtain ⟨c, name⟩ := read
    have hread : (liftM (Except.ok (c, name) : Except Fault _) : Action _).run.run
        { translator := t } = (.ok (c, name), { translator := t }) := rfl
    rw [Step.runAction, run_bind_of_ok _ hread]
    cases hempty : c.isEmpty with
    | true =>
      simp only [hempty, if_true]
      rfl
    | false =>
      simp only [hempty, Bool.false_eq_true, if_false]
      rfl

/-- A catalogue given as a whole is read from its nested mappings. -/
theorem readSource_catalogue (data : Value) (mark : Mark) :
    readSource (.catalogue data mark) .catalogue =
      (Catalogue.ofValue data).map fun c => (c, "<catalogue>") := by
  rw [readSource]
  cases Catalogue.ofValue data <;> rfl

/-- Every catalogue that began empty, or was read from data, and then had messages inserted by any
values keeps keys that can be looked up by, and templates that are not empty. When the keys inserted
were texts it is read back from its nested mappings as it is, in content and order, and a translator
loads it unless it is empty. -/
theorem reloaded_when_keys_are_texts {start c : Catalogue} {calls : List Insertion}
    (hstart : start.Begins) (hcalls : start.setAll calls = .ok c) :
    c.Keyed (·.isKey = true) ∧
    ((∀ i ∈ calls, i.Keys Value.IsText) →
      c.Keyed Value.IsText ∧ Catalogue.ofValue c.toValue = .ok c ∧
      ∀ (t : Translator) (mark : Mark), c.isEmpty = false → ∃ events,
        Step.runAction (load (.catalogue c.toValue mark) .catalogue) t =
          (⟨.ok (), events⟩, { t with catalogue := some c })) := by
  refine ⟨Catalogue.keyed_of_setAll hstart hcalls, fun hkeys => ?_⟩
  have hkeyed := Catalogue.keyed_isText_of_setAll hstart hcalls hkeys
  have hread := Catalogue.ofValue_toValue hkeyed
  refine ⟨hkeyed, hread, fun t mark hempty => ?_⟩
  rw [runAction_load, readSource_catalogue, hread]
  simp only [Except.map, hempty, Bool.false_eq_true, if_false]
  exact ⟨_, rfl⟩

end

section

attribute [local instance] Stack.ample

/-- One message under texts is loaded as it is. -/
theorem reloaded_when_keys_are_texts_greeting :
    let calls : List Insertion :=
      [⟨.text "en", .text "messages", .text "hello", .text "Hello"⟩]
    ∃ c, Catalogue.empty.Begins ∧ Catalogue.empty.setAll calls = .ok c ∧
      (∀ i ∈ calls, i.Keys Value.IsText) ∧ Catalogue.ofValue c.toValue = .ok c := by
  intro calls
  have hkeys : ∀ i ∈ calls, i.Keys Value.IsText := by
    intro i hi
    rw [List.mem_singleton.mp hi]
    exact ⟨⟨"en", rfl⟩, ⟨"messages", rfl⟩, ⟨"hello", rfl⟩⟩
  have hreload := reloaded_when_keys_are_texts .empty (rfl : Catalogue.empty.setAll calls = .ok _)
  exact ⟨_, .empty, rfl, hkeys, (hreload.2 hkeys).2.1⟩

/-- A message under a number as its id is inserted, and the catalogue is not read back. -/
theorem number_as_id_not_reloaded :
    ∃ c, Catalogue.empty.setAll [⟨.text "en", .text "messages", .int 1, .text "Hello"⟩] = .ok c ∧
      Catalogue.ofValue c.toValue =
        .error (.malformed (.keyNotText "catalogue['en']['messages']" "1")) :=
  ⟨_, rfl, by rfl⟩

end

end Translator

end Phrasebook
