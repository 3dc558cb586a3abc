import Phrasebook.Placeholder
import Phrasebook.Proofs.Value.Shown
import Phrasebook.Template.Selection

/-! Faults of what was given. Reading a template, taking a count from the parameters, choosing a
variant and putting the parameters in fail only by such faults, whatever the values are, so long as
the parameters are nothing or a mapping, and a text can be made of the values in it. -/

namespace Phrasebook

/-- An outcome that fails, if it does, by a fault of what was given. -/
abbrev FailsRecoverably {α : Type} (e : Except Fault α) : Prop :=
  FailsBy (fun fault => fault.isRecoverable = true) e

theorem failsRecoverably_error {α : Type} {fault : Fault} (h : fault.isRecoverable = true) :
    FailsRecoverably (.error fault : Except Fault α) :=
  .error h

namespace Number

theorem Binary64.remainder_recoverable (x : Binary64) (divisor : Nat) :
    FailsRecoverably (x.remainder divisor) := by
  cases x with
  | finite negative units =>
    simp only [remainder]
    exact .ite (failsRecoverably_error rfl) (.ok _)
  | infinite negative =>
    simp only [remainder]
    exact .ite (failsRecoverably_error rfl) (failsRecoverably_error rfl)
  | nan =>
    simp only [remainder]
    exact .ite (failsRecoverably_error rfl) (.ok _)

theorem Decimal.result_recoverable (x : Decimal) : FailsRecoverably x.result :=
  .ite (failsRecoverably_error rfl) (.ok _)

theorem Decimal.remainder_recoverable (x : Decimal) (divisor : Nat) :
    FailsRecoverably (x.remainder divisor) := by
  have hlimit {e : Except Fault Decimal} (he : FailsRecoverably e) :
      FailsRecoverably
        (if maxExponent < x.workingPrecision then .error .precisionRange else e) :=
    .ite (failsRecoverably_error rfl) he
  cases x with
  | finite negative coefficient exponent => exact hlimit (result_recoverable _)
  | infinite negative => exact hlimit (failsRecoverably_error rfl)
  | nan negative signaling payload =>
    cases signaling with
    | true => exact hlimit (failsRecoverably_error rfl)
    | false => exact hlimit (.ok _)

end Number

namespace Count

theorem both_recoverable {first second : Except Fault Bool} (h : FailsRecoverably first)
    (h' : FailsRecoverably second) : FailsRecoverably (both first second) :=
  .bind h fun _ => .ite h' (.pure false)

theorem either_recoverable {first second : Except Fault Bool} (h : FailsRecoverably first)
    (h' : FailsRecoverably second) : FailsRecoverably (either first second) :=
  .bind h fun _ => .ite (.pure true) h'

theorem equals_recoverable (count : Count) (n : Int) : FailsRecoverably (count.equals n) :=
  .ite (failsRecoverably_error rfl) (.ok _)

theorem ordered_recoverable (count : Count) (bound : Bound Int) (accept : Ordering → Bool) :
    FailsRecoverably (count.ordered bound accept) :=
  .ite (failsRecoverably_error rfl) (.ok _)

theorem remainder_recoverable (count : Count) (divisor : Nat) :
    FailsRecoverably (count.remainder divisor) := by
  cases count with
  | int n => exact .ok _
  | float x =>
    rw [remainder]
    exact (x.remainder_recoverable divisor).map _
  | decimal x =>
    rw [remainder]
    exact (x.remainder_recoverable divisor).map _

end Count

theorem PluralFamily.position_recoverable (family : PluralFamily) (n : Count) :
    FailsRecoverably (family.position n) := by
  cases family <;>
    unfold PluralFamily.position <;>
    repeat' first
      | exact FailsBy.pure _
      | exact Count.equals_recoverable _ _
      | exact Count.ordered_recoverable _ _ _
      | exact Count.remainder_recoverable _ _
      | apply Count.both_recoverable
      | apply Count.either_recoverable
      | apply FailsBy.map
      | apply FailsBy.ite
      | refine FailsBy.bind ?_ fun _ => ?_

/-! ## Reading a template -/

theorem Numeral.value_recoverable (n : Numeral) : FailsRecoverably n.value :=
  .ite (failsRecoverably_error rfl)
    (.ite (failsRecoverably_error rfl) (.ite (failsRecoverably_error rfl) (.ok _)))

theorem Bound.value_recoverable (b : Bound Numeral) : FailsRecoverably b.value := by
  cases b with
  | negativeInfinity => exact .ok _
  | «at» n => exact n.value_recoverable.map _
  | positiveInfinity => exact .ok _

theorem ConditionShape.evaluate_recoverable (shape : ConditionShape Numeral) :
    FailsRecoverably shape.evaluate := by
  cases shape with
  | set members => exact .map _ (.mapM fun n _ => n.value_recoverable)
  | interval left leftClosed right rightClosed =>
    exact .bind left.value_recoverable fun _ => .bind right.value_recoverable fun _ => .pure _

theorem Segment.read_recoverable (cs : List Char) : FailsRecoverably (Segment.read cs) := by
  unfold Segment.read
  split
  · rename_i shape c rest _
    refine .bind ?_ fun _ => .pure _
    exact .bind shape.evaluate_recoverable fun _ => .pure _
  · exact .ok _

namespace Template

theorem read_recoverable (separator text : String) : FailsRecoverably (read separator text) :=
  .ite (failsRecoverably_error rfl) (.map _ (.mapM fun piece _ => Segment.read_recoverable piece))

/-! ## Choosing a variant -/

theorem equalsAny_recoverable (count : Count) (members : List Int) :
    FailsRecoverably (Condition.equalsAny count members) := by
  induction members with
  | nil => exact .ok false
  | cons n rest ih => exact Count.either_recoverable (count.equals_recoverable n) ih

theorem holds_recoverable (c : Condition) (count : Count) : FailsRecoverably (c.holds count) := by
  unfold Condition.holds
  split
  · exact equalsAny_recoverable count _
  · refine .bind (count.ordered_recoverable _ _) fun _ => ?_
    exact .bind (count.ordered_recoverable _ _) fun _ => .pure _

theorem ruleFor_recoverable (count : Count) (rules : List ExplicitRule) :
    FailsRecoverably (ruleFor count rules) := by
  induction rules with
  | nil => exact .ok none
  | cons r rest ih =>
    exact .bind (holds_recoverable r.condition count) fun _ => .ite (.pure _) ih

theorem variant_recoverable (t : Template) (count : Count) {position : Except Fault Nat}
    (hposition : FailsRecoverably position) : FailsRecoverably (t.variant count position) := by
  refine .bind (ruleFor_recoverable count t.rules) fun found => ?_
  cases found with
  | some text => exact .pure _
  | none => exact .ite (.pure _) (.bind hposition fun _ => .pure _)

end Template

/-! ## Parameters -/

/-- What a message can be given as its parameters: nothing, or a mapping of any entries. -/
def Value.IsParameters (v : Value) : Prop := v = .null ∨ ∃ entries, v = .map entries

theorem OrderedMap.exists_mem_of_findIn {α β : Type} [BEq α] {key : α} {entries : List (α × β)}
    {value : β} (h : findIn key entries = some value) : ∃ entry ∈ entries, entry.2 = value := by
  induction entries with
  | nil => cases h
  | cons first rest ih =>
    rw [findIn] at h
    split at h
    · exact ⟨first, List.mem_cons_self, Option.some.inj h⟩
    · obtain ⟨entry, hentry, hvalue⟩ := ih h
      exact ⟨entry, List.mem_cons_of_mem _ hentry, hvalue⟩

section

variable [Stack]

/-- A value among some parameters has no text, neither as a count that is refused nor in place of a
placeholder, and this is the fault that says why. -/
def Value.HoldsUnshown (parameters : Value) (fault : Fault) : Prop :=
  ∃ entries, parameters = .map entries ∧ ∃ entry ∈ entries,
    entry.2.shownAt .count = .error fault ∨ entry.2.toTextAt .parameter = .error fault

theorem Value.not_holdsUnshown_null {fault : Fault} : ¬ null.HoldsUnshown fault := by
  rintro ⟨entries, h, -⟩
  cases h

/-- An outcome that fails, if it does, by a fault of what was given, or of a value among some
parameters that cannot be shown. -/
abbrev FailsByShowing {α : Type} (parameters : Value) (e : Except Fault α) : Prop :=
  FailsBy (fun fault => fault.isRecoverable = true ∨ parameters.HoldsUnshown fault) e

theorem FailsBy.byShowing {α : Type} {e : Except Fault α} (h : FailsRecoverably e)
    (parameters : Value) : FailsByShowing parameters e :=
  h.mono fun _ => .inl

namespace Count

theorem failsBy_ofValue (v : Value) :
    FailsBy (fun fault => fault.isRecoverable = true ∨ v.shownAt .count = .error fault)
      (ofValue v) := by
  unfold ofValue refuse
  split
  · exact .ok _
  · split
    · exact .error (.inl rfl)
    · rename_i hshown
      exact .error (.inr hshown)

omit [Stack] in
theorem exists_mem_of_givenIn? {entries : List (Value × Value)} {keys : List String} {v : Value}
    (h : givenIn? entries keys = some v) : ∃ entry ∈ entries, entry.2 = v := by
  obtain ⟨_, _, hfound⟩ := List.exists_of_findSome?_eq_some h
  exact OrderedMap.exists_mem_of_findIn (Option.filter_eq_some_iff.mp hfound).1

theorem ofParameters_byShowing {parameters : Value} (h : parameters.IsParameters) :
    FailsByShowing parameters (ofParameters parameters) := by
  obtain rfl | ⟨entries, rfl⟩ := h
  · exact .ok (int 1)
  · refine .ite (.ok (int 1)) ?_
    dsimp only
    split
    · rename_i v hv
      obtain ⟨entry, hentry, rfl⟩ := exists_mem_of_givenIn? hv
      exact (failsBy_ofValue entry.2).mono fun fault hfault =>
        hfault.imp_right fun hshown => ⟨entries, rfl, entry, hentry, .inl hshown⟩
    · exact .ok (int 1)

end Count

theorem Template.pluralize_byShowing (text code separator : String) {parameters : Value}
    (h : parameters.IsParameters) :
    FailsByShowing parameters (pluralize text parameters code separator) := by
  refine .ite ?_ (.ok (some text))
  refine .bind (Count.ofParameters_byShowing h) fun count => ?_
  refine .bind ((read_recoverable separator text).byShowing parameters) fun t => ?_
  exact (t.variant_recoverable count (PluralFamily.position_recoverable _ count)).byShowing _

namespace Placeholder

theorem failsBy_replaceEntries (message : String) (entries : List (Value × Value)) :
    FailsBy (fun fault => fault.isRecoverable = true ∨
      ∃ entry ∈ entries, entry.2.toTextAt .parameter = .error fault)
      (replaceEntries message entries) := by
  induction entries generalizing message with
  | nil => exact .ok message
  | cons entry rest ih =>
    obtain ⟨key, value⟩ := entry
    have hrest (message : String) : FailsBy (fun fault => fault.isRecoverable = true ∨
        ∃ entry ∈ (key, value) :: rest, entry.2.toTextAt .parameter = Except.error fault)
        (replaceEntries message rest) :=
      (ih message).mono fun _ => Or.imp_right fun ⟨entry, hentry, h⟩ =>
        ⟨entry, List.mem_cons_of_mem (key, value) hentry, h⟩
    refine .ite (.bind ?_ fun shown => ?_) (hrest message)
    · exact fun fault hfault => .inr ⟨(key, value), List.mem_cons_self, hfault⟩
    · cases key with
      | text key => exact hrest (substitute message key shown)
      | _ => exact .error (.inl rfl)

theorem replace_byShowing (message : String) {parameters : Value} (h : parameters.IsParameters) :
    FailsByShowing parameters (replace message parameters) := by
  obtain rfl | ⟨entries, rfl⟩ := h
  · exact .ok message
  · exact .ite (.ok message) ((failsBy_replaceEntries message entries).mono fun fault hfault =>
      hfault.imp_right fun ⟨entry, hentry, hshown⟩ => ⟨entries, rfl, entry, hentry, .inr hshown⟩)

end Placeholder

end

end Phrasebook
