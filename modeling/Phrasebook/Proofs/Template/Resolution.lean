import Phrasebook.Proofs.Count.Given
import Phrasebook.Proofs.Template.Segment
import Phrasebook.Template.Selection
import Mathlib.Data.List.Find

/-! Which variant a template gives, read off its segments. Rules under one condition text are one
rule, at the place of the first and with the text of the last; since the condition text settles the
condition, the first rule that a count meets is found at the first segment that it meets, and its
text in the last segment under the same condition text. Without such a rule the segments without a
condition are counted, and the first one stands in for a position beyond them. -/

namespace Phrasebook

/-! ## Merged rules -/

namespace OrderedMap

/-- The first entry whose key has a property, after an insertion. -/
theorem find?_insertIn {β : Type} (p : String → Bool) (key : String) (value : β)
    (entries : List (String × β)) :
    (insertIn key value entries).find? (fun entry => p entry.1) =
      match entries.find? fun entry => p entry.1 with
      | some entry => some (if entry.1 = key then (entry.1, value) else entry)
      | none => if p key then some (key, value) else none := by
  induction entries with
  | nil => cases h : p key <;> simp [insertIn, h]
  | cons entry rest ih =>
    obtain ⟨other, old⟩ := entry
    by_cases hother : other = key
    · subst hother
      cases hp : p other with
      | true => simp [insertIn, hp]
      | false =>
        simp only [insertIn, beq_self_eq_true, if_true, List.find?_cons, hp]
        cases hrest : rest.find? fun entry => p entry.1 with
        | none => simp
        | some found =>
          have hne : found.1 ≠ other := by
            rintro rfl
            have := List.find?_some hrest
            rw [hp] at this
            cases this
          simp [hne]
    · have hbeq : (other == key) = false := by simpa using hother
      simp only [insertIn, hbeq, Bool.false_eq_true, if_false, List.find?_cons]
      cases hp : p other with
      | true => simp [hother]
      | false => exact ih

theorem mem_insertIn {β : Type} {key : String} {value : β} {entries : List (String × β)}
    {entry : String × β} (h : entry ∈ insertIn key value entries) :
    entry ∈ entries ∨ entry.1 = key ∧ entry.2 = value := by
  induction entries with
  | nil =>
    obtain rfl := List.mem_singleton.mp h
    exact .inr ⟨rfl, rfl⟩
  | cons first rest ih =>
    obtain ⟨other, old⟩ := first
    by_cases hother : other = key
    · subst hother
      simp only [insertIn, beq_self_eq_true, if_true] at h
      rcases List.mem_cons.mp h with rfl | h
      · exact .inr ⟨rfl, rfl⟩
      · exact .inl (List.mem_cons_of_mem _ h)
    · have hbeq : (other == key) = false := by simpa using hother
      simp only [insertIn, hbeq, Bool.false_eq_true, if_false] at h
      rcases List.mem_cons.mp h with rfl | h
      · exact .inl List.mem_cons_self
      · exact (ih h).imp_left (List.mem_cons_of_mem _)

end OrderedMap

namespace Template

/-- The last rule under a condition text. -/
def lastUnder (source : String) (rules : List ExplicitRule) : Option ExplicitRule :=
  rules.reverse.find? fun r => r.condition.source == source

/-- The rules under their condition texts, as they are merged. -/
def byText (rules : List ExplicitRule) : OrderedMap String ExplicitRule :=
  .ofList (rules.map fun r => (r.condition.source, r))

theorem byText_append (rules : List ExplicitRule) (r : ExplicitRule) :
    byText (rules ++ [r]) = (byText rules).insert r.condition.source r := by
  simp [byText, OrderedMap.ofList]

theorem lastUnder_append (source : String) (rules : List ExplicitRule) (r : ExplicitRule) :
    lastUnder source (rules ++ [r]) =
      if r.condition.source = source then some r else lastUnder source rules := by
  by_cases h : r.condition.source = source <;> simp [lastUnder, h]

theorem exists_lastUnder {rules : List ExplicitRule} {r : ExplicitRule} (h : r ∈ rules) :
    ∃ last, lastUnder r.condition.source rules = some last := by
  apply Option.isSome_iff_exists.mp
  rw [lastUnder, List.find?_isSome]
  exact ⟨r, List.mem_reverse.mpr h, by simp⟩

/-- The first merged rule whose condition text has a property stands at the first rule with it, and
is the last rule under that text. -/
theorem find?_byText (p : String → Bool) (rules : List ExplicitRule) :
    (byText rules).entries.find? (fun entry => p entry.1) =
      (rules.find? fun r => p r.condition.source).bind fun first =>
        (lastUnder first.condition.source rules).map fun last =>
          (first.condition.source, last) := by
  induction rules using List.reverseRecOn with
  | nil => rfl
  | append_singleton rules r ih =>
    rw [byText_append, OrderedMap.insert, OrderedMap.find?_insertIn, ih, List.find?_append]
    cases hfirst : rules.find? fun r => p r.condition.source with
    | none =>
      cases hp : p r.condition.source <;> simp [hp, lastUnder_append]
    | some first =>
      obtain ⟨last, hlast⟩ := exists_lastUnder (List.mem_of_find?_eq_some hfirst)
      by_cases hsource : r.condition.source = first.condition.source
      · simp [hlast, lastUnder_append, hsource]
      · simp [hlast, lastUnder_append, hsource, Ne.symm hsource]

theorem mem_byText {rules : List ExplicitRule} {entry : String × ExplicitRule}
    (h : entry ∈ (byText rules).entries) :
    entry.2 ∈ rules ∧ entry.1 = entry.2.condition.source := by
  induction rules using List.reverseRecOn with
  | nil => cases h
  | append_singleton rules r ih =>
    rw [byText_append] at h
    rcases OrderedMap.mem_insertIn h with h | ⟨hkey, hvalue⟩
    · exact ⟨List.mem_append_left _ (ih h).1, (ih h).2⟩
    · rw [hkey, hvalue]
      exact ⟨List.mem_append_right _ List.mem_cons_self, rfl⟩

/-! ## Choosing a rule -/

/-- Rules whose conditions are settled by their texts. -/
def SettledByText (rules : List ExplicitRule) : Prop :=
  ∀ r ∈ rules, Condition.read r.condition.source = .ok (some r.condition)

/-- Whether the condition that a text is admits the number of a count. -/
def textAdmits (count : Count) (source : String) : Bool :=
  match Condition.read source with
  | .ok (some c) => c.admits count
  | _ => false

theorem textAdmits_source {count : Count} {rules : List ExplicitRule}
    (hrules : SettledByText rules) {r : ExplicitRule} (hr : r ∈ rules) :
    textAdmits count r.condition.source = r.condition.admits count := by
  rw [textAdmits, hrules r hr]

theorem ruleFor_eq {count : Count} (hcount : count.isFinite = true) (rules : List ExplicitRule) :
    ruleFor count rules =
      .ok ((rules.find? fun r => r.condition.admits count).map ExplicitRule.text) := by
  induction rules with
  | nil => rfl
  | cons r rest ih =>
    rw [ruleFor, Condition.holds_eq_admits hcount, List.find?_cons]
    cases r.condition.admits count with
    | true => rfl
    | false => exact ih

/-- The text of the first merged rule that a count meets. -/
theorem ruleFor_mergeRules {count : Count} (hcount : count.isFinite = true)
    {rules : List ExplicitRule} (hrules : SettledByText rules) :
    ruleFor count (mergeRules rules) =
      .ok ((rules.find? fun r => r.condition.admits count).bind fun first =>
        (lastUnder first.condition.source rules).map ExplicitRule.text) := by
  have hmerged : ((byText rules).entries.find? fun entry => entry.2.condition.admits count) =
      (byText rules).entries.find? fun entry => textAdmits count entry.1 := by
    refine List.find?_congr fun entry hentry => ?_
    obtain ⟨hmem, hkey⟩ := mem_byText hentry
    rw [hkey, textAdmits_source hrules hmem]
  have hfirst : (rules.find? fun r => textAdmits count r.condition.source) =
      rules.find? fun r => r.condition.admits count :=
    List.find?_congr fun r hr => textAdmits_source hrules hr
  rw [ruleFor_eq hcount]
  show Except.ok (Option.map _ (((byText rules).entries.map Prod.snd).find? _)) = _
  rw [List.find?_map, Function.comp_def, hmerged, find?_byText, hfirst]
  cases rules.find? fun r => r.condition.admits count with
  | none => rfl
  | some first => simp [Option.map_map, Function.comp_def]

/-! ## Choosing a variant -/

/-- The rules among segments. -/
def rulesIn (segments : List Segment) : List ExplicitRule := segments.filterMap Segment.rule?

/-- The texts of the segments without a condition. -/
def plainIn (segments : List Segment) : List String := segments.filterMap Segment.standardText?

theorem mem_rulesIn {segments : List Segment} {r : ExplicitRule} (h : r ∈ rulesIn segments) :
    .rule r ∈ segments := by
  obtain ⟨segment, hmem, hrule⟩ := List.mem_filterMap.mp h
  cases segment with
  | rule r' =>
    obtain rfl := Option.some.inj hrule
    exact hmem
  | standard _ => cases hrule

theorem mem_plainIn {segments : List Segment} {text : String} (h : text ∈ plainIn segments) :
    .standard text ∈ segments := by
  obtain ⟨segment, hmem, htext⟩ := List.mem_filterMap.mp h
  cases segment with
  | rule _ => cases htext
  | standard text' =>
    obtain rfl := Option.some.inj htext
    exact hmem

/-- The segments that were read, one for each piece. -/
theorem exists_piece {separator text : String} {segments : List Segment}
    (h : Template.segments separator text = .ok segments) {segment : Segment}
    (hmem : segment ∈ segments) :
    ∃ piece ∈ Text.split separator.toList text.toList, Segment.read piece = .ok segment :=
  exists_mem_of_forall₂ (mapM_eq_ok_iff.mp h) hmem

theorem settledByText_rulesIn {separator text : String} {segments : List Segment}
    (h : Template.segments separator text = .ok segments) : SettledByText (rulesIn segments) := by
  intro r hr
  obtain ⟨piece, -, hpiece⟩ := exists_piece h (mem_rulesIn hr)
  exact Segment.read_source hpiece

theorem getD_mem {α : Type} {xs : List α} {x : α} (h : x ∈ xs) (i : Nat) : xs.getD i x ∈ xs := by
  rw [List.getD_eq_getElem?_getD]
  cases hi : xs[i]? with
  | some y => exact List.mem_of_getElem? hi
  | none => exact h

theorem getD_eq_dite {α : Type} (xs : List α) (i : Nat) (x : α) :
    xs.getD i x = if h : i < xs.length then xs[i] else x := by
  rw [List.getD_eq_getElem?_getD]
  by_cases h : i < xs.length
  · rw [dif_pos h, List.getElem?_eq_getElem h, Option.getD_some]
  · rw [dif_neg h, List.getElem?_eq_none (by omega), Option.getD_none]

theorem standardAt_eq {t : Template} {first : String} {rest : List String}
    (h : t.standard = first :: rest) (position : Nat) :
    t.standardAt position = some (t.standard.getD position first) := by
  rw [standardAt, List.getD_eq_getElem?_getD]
  cases t.standard[position]? with
  | some text => rfl
  | none => simp [h]

/-- The variant of a template, read off its segments. -/
theorem select_ofSegments {count : Count} (hcount : count.isFinite = true)
    {segments : List Segment} (hsettled : SettledByText (rulesIn segments)) (code : String) :
    (ofSegments segments).select count code =
      match (rulesIn segments).find? fun r => r.condition.admits count with
      | some first => .ok ((lastUnder first.condition.source (rulesIn segments)).map (·.text))
      | none =>
        match plainIn segments with
        | [] => .ok none
        | first :: rest => (pluralPosition count code).map fun p =>
          some ((first :: rest).getD p first) := by
  have hrule := ruleFor_mergeRules hcount hsettled
  unfold select variant
  show (ruleFor count (mergeRules (rulesIn segments)) >>= _) = _
  rw [hrule]
  cases hfirst : (rulesIn segments).find? fun r => r.condition.admits count with
  | some first =>
    obtain ⟨last, hlast⟩ := exists_lastUnder (List.mem_of_find?_eq_some hfirst)
    simp only [Option.bind_some, hlast]
    rfl
  | none =>
    cases hplain : plainIn segments with
    | nil =>
      have hstandard : (ofSegments segments).standard = [] := hplain
      rw [hstandard]
      rfl
    | cons first rest =>
      have hstandard : (ofSegments segments).standard = first :: rest := hplain
      rw [← hstandard]
      cases pluralPosition count code with
      | error fault =>
        rw [hstandard]
        rfl
      | ok p =>
        have hat := standardAt_eq hstandard p
        rw [hstandard] at hat ⊢
        exact congrArg Except.ok hat

/-- Where the last rule under a condition text stands. -/
theorem exists_split_of_lastUnder {source : String} {rules : List ExplicitRule}
    {last : ExplicitRule} (h : lastUnder source rules = some last) :
    ∃ front back, rules = front ++ last :: back ∧ last.condition.source = source ∧
      ∀ r ∈ back, r.condition.source ≠ source := by
  obtain ⟨hsource, back, front, hrules, hback⟩ := List.find?_eq_some_iff_append.mp h
  refine ⟨front.reverse, back.reverse, ?_, by simpa using hsource, ?_⟩
  · simpa using congrArg List.reverse hrules
  · intro r hr
    simpa using hback r (List.mem_reverse.mp hr)

/-! ## Resolving a text -/

section Pluralize

variable [Stack] {text separator code : String} {parameters : Value} {count : Count}
  {segments : List Segment}

theorem pluralize_of_not_occurs (h : Text.occurs separator.toList text.toList = false) :
    pluralize text parameters code separator = .ok (some text) := by
  rw [pluralize, h]
  rfl

theorem pluralize_eq_select (hoccurs : Text.occurs separator.toList text.toList = true)
    (hseparator : separator ≠ "") (hcount : Count.ofParameters parameters = .ok count)
    (hsegments : Template.segments separator text = .ok segments) :
    pluralize text parameters code separator = (ofSegments segments).select count code := by
  have hempty : separator.isEmpty = false := by simpa using hseparator
  rw [pluralize, hoccurs, hcount, Template.read, hempty, hsegments]
  rfl

/-- What a successful resolution of a text with the separator goes through. -/
theorem exists_of_pluralize_eq_ok {result : Option String}
    (hoccurs : Text.occurs separator.toList text.toList = true)
    (h : pluralize text parameters code separator = .ok result) :
    ∃ count segments, Count.ofParameters parameters = .ok count ∧
      Template.segments separator text = .ok segments ∧
      (ofSegments segments).select count code = .ok result := by
  rw [pluralize, hoccurs, if_pos rfl] at h
  cases hcount : Count.ofParameters parameters with
  | error fault =>
    rw [hcount] at h
    cases h
  | ok count =>
    by_cases hempty : separator.isEmpty
    · rw [hcount, Template.read, if_pos hempty] at h
      cases h
    · cases hsegments : Template.segments separator text with
      | error fault =>
        rw [hcount, Template.read, if_neg hempty, hsegments] at h
        cases h
      | ok segments =>
        rw [hcount, Template.read, if_neg hempty, hsegments] at h
        exact ⟨count, segments, rfl, rfl, h⟩

/-- The text that is chosen is an end of a piece. -/
theorem exists_suffix_of_pluralize {result : String}
    (h : pluralize text parameters code separator = .ok (some result)) :
    ∃ piece ∈ Text.split separator.toList text.toList, result.toList <:+ piece := by
  cases hoccurs : Text.occurs separator.toList text.toList with
  | false =>
    rw [pluralize_of_not_occurs hoccurs] at h
    obtain rfl := Option.some.inj (Except.ok.inj h)
    refine ⟨text.toList, ?_, List.suffix_rfl⟩
    rw [Text.split_of_not_occurs _ _ hoccurs]
    exact List.mem_cons_self
  | true =>
    obtain ⟨count, segments, hcount, hsegments, hselect⟩ := exists_of_pluralize_eq_ok hoccurs h
    rw [select_ofSegments (Count.isFinite_of_ofParameters hcount)
      (settledByText_rulesIn hsegments)] at hselect
    split at hselect
    · rename_i first _
      obtain ⟨last, hlast, rfl⟩ := Option.map_eq_some_iff.mp (Except.ok.inj hselect)
      obtain ⟨front, back, hrules, -, -⟩ := exists_split_of_lastUnder hlast
      have hmem : last ∈ rulesIn segments := by simp [hrules]
      obtain ⟨piece, hpiece, hread⟩ := exists_piece hsegments (mem_rulesIn hmem)
      exact ⟨piece, hpiece, Segment.text_suffix_of_read_eq_rule hread⟩
    · split at hselect
      · cases hselect
      · rename_i first rest hplain
        cases hposition : pluralPosition count code with
        | error fault =>
          rw [hposition] at hselect
          cases hselect
        | ok p =>
          rw [hposition] at hselect
          obtain rfl := Option.some.inj (Except.ok.inj hselect)
          have hmem : (first :: rest).getD p first ∈ plainIn segments := by
            rw [hplain]
            exact getD_mem List.mem_cons_self p
          obtain ⟨piece, hpiece, hread⟩ := exists_piece hsegments (mem_plainIn hmem)
          exact ⟨piece, hpiece, Segment.text_suffix_of_read_eq_standard hread⟩

theorem pluralize_of_first_rule (hoccurs : Text.occurs separator.toList text.toList = true)
    (hseparator : separator ≠ "") (hcount : Count.ofParameters parameters = .ok count)
    (hsegments : Template.segments separator text = .ok segments)
    {before after : List ExplicitRule} {first : ExplicitRule}
    (hrules : rulesIn segments = before ++ first :: after)
    (hbefore : ∀ r ∈ before, r.condition.holds count = .ok false)
    (hfirst : first.condition.holds count = .ok true) :
    ∃ front last back, rulesIn segments = front ++ last :: back ∧
      last.condition.source = first.condition.source ∧
      (∀ r ∈ back, r.condition.source ≠ first.condition.source) ∧
      pluralize text parameters code separator = .ok (some last.text) := by
  have hfinite := Count.isFinite_of_ofParameters hcount
  have hfind : ((rulesIn segments).find? fun r => r.condition.admits count) = some first := by
    rw [Condition.holds_eq_admits hfinite] at hfirst
    refine List.find?_eq_some_iff_append.mpr
      ⟨Except.ok.inj hfirst, before, after, hrules, ?_⟩
    intro r hr
    have hr' := hbefore r hr
    rw [Condition.holds_eq_admits hfinite] at hr'
    simp [Except.ok.inj hr']
  obtain ⟨last, hlast⟩ := exists_lastUnder (List.mem_of_find?_eq_some hfind)
  obtain ⟨front, back, hsplit, hsource, hback⟩ := exists_split_of_lastUnder hlast
  refine ⟨front, last, back, hsplit, hsource, hback, ?_⟩
  rw [pluralize_eq_select hoccurs hseparator hcount hsegments,
    select_ofSegments hfinite (settledByText_rulesIn hsegments), hfind]
  simp only [hlast, Option.map_some]

theorem pluralize_of_no_rule (code : String)
    (hoccurs : Text.occurs separator.toList text.toList = true) (hseparator : separator ≠ "")
    (hcount : Count.ofParameters parameters = .ok count)
    (hsegments : Template.segments separator text = .ok segments)
    (hrules : ∀ r ∈ rulesIn segments, r.condition.holds count = .ok false) :
    pluralize text parameters code separator =
      match plainIn segments with
      | [] => .ok none
      | first :: rest => (pluralPosition count code).map fun p =>
        some ((first :: rest).getD p first) := by
  have hfinite := Count.isFinite_of_ofParameters hcount
  have hfind : ((rulesIn segments).find? fun r => r.condition.admits count) = none := by
    rw [List.find?_eq_none]
    intro r hr
    have hr' := hrules r hr
    rw [Condition.holds_eq_admits hfinite] at hr'
    simp [Except.ok.inj hr']
  rw [pluralize_eq_select hoccurs hseparator hcount hsegments,
    select_ofSegments hfinite (settledByText_rulesIn hsegments), hfind]

/-- When no rule holds, only a text of rules alone has no variant. -/
theorem pluralize_eq_none_iff (code : String)
    (hoccurs : Text.occurs separator.toList text.toList = true) (hseparator : separator ≠ "")
    (hcount : Count.ofParameters parameters = .ok count)
    (hsegments : Template.segments separator text = .ok segments)
    (hrules : ∀ r ∈ rulesIn segments, r.condition.holds count = .ok false) :
    pluralize text parameters code separator = .ok none ↔ plainIn segments = [] := by
  rw [pluralize_of_no_rule code hoccurs hseparator hcount hsegments hrules]
  cases plainIn segments with
  | nil => simp
  | cons first rest =>
    cases pluralPosition count code with
    | error fault => simp [Except.map]
    | ok p => simp [Except.map]

/-- The resolution of a text is a direct reading of its segments. Each rule holds or does not. Of
the rules that hold, the first settles the condition text and the last under that text gives the
variant. If none holds, the texts without a condition are counted from the position of the count,
the first of them standing in beyond the last. -/
theorem pluralize_reads_segments (text code : String) (parameters : Value)
    (hseparator : separator ≠ "") :
    (Text.occurs separator.toList text.toList = false →
      pluralize text parameters code separator = .ok (some text)) ∧
    (∀ count segments, Text.occurs separator.toList text.toList = true →
      Count.ofParameters parameters = .ok count →
      Template.segments separator text = .ok segments →
      (∀ r ∈ rulesIn segments,
        r.condition.holds count = .ok true ∨ r.condition.holds count = .ok false) ∧
      (∀ before first after, rulesIn segments = before ++ first :: after →
        (∀ r ∈ before, r.condition.holds count = .ok false) →
        first.condition.holds count = .ok true →
        ∃ front last back, rulesIn segments = front ++ last :: back ∧
          last.condition.source = first.condition.source ∧
          (∀ r ∈ back, r.condition.source ≠ first.condition.source) ∧
          pluralize text parameters code separator = .ok (some last.text)) ∧
      ((∀ r ∈ rulesIn segments, r.condition.holds count = .ok false) →
        (∀ p, pluralPosition count code = .ok p → ∀ first rest, plainIn segments = first :: rest →
          pluralize text parameters code separator =
            .ok (some
              (if h : p < (plainIn segments).length then (plainIn segments)[p] else first))) ∧
        (pluralize text parameters code separator = .ok none ↔ plainIn segments = []))) ∧
    (∀ result, pluralize text parameters code separator = .ok (some result) →
      ∃ piece ∈ Text.split separator.toList text.toList, result.toList <:+ piece) := by
  refine ⟨pluralize_of_not_occurs, ?_, fun _ => exists_suffix_of_pluralize⟩
  intro count segments hoccurs hcount hsegments
  have hfinite := Count.isFinite_of_ofParameters hcount
  refine ⟨?_, ?_, ?_⟩
  · intro r _
    exact r.condition.holds_true_or_false hfinite
  · intro before first after
    exact pluralize_of_first_rule hoccurs hseparator hcount hsegments
  · intro hrules
    refine ⟨?_, pluralize_eq_none_iff code hoccurs hseparator hcount hsegments hrules⟩
    intro p hp first rest hplain
    rw [← getD_eq_dite, pluralize_of_no_rule code hoccurs hseparator hcount hsegments hrules,
      hplain, hp]
    rfl

end Pluralize

/-- Two variants for zero among others. -/
def zeroSegments : List Segment :=
  let zero : Condition := { source := "{0}", shape := .set [0] }
  [.rule ⟨zero, "none"⟩, .standard "one", .rule ⟨zero, "nil"⟩, .standard "many"]

section

attribute [local instance] Stack.ample

/-- The second text under the condition `{0}` is the one that a count of zero chooses. -/
theorem pluralize_second_text_of_zero :
    "|" ≠ "" ∧
      Text.occurs "|".toList "{0} none|one|{0} nil|many".toList = true ∧
      Count.ofParameters (.map [(.text "%count%", .int 0)]) = .ok (.int 0) ∧
      Template.segments "|" "{0} none|one|{0} nil|many" = .ok zeroSegments ∧
      ∃ front last back, rulesIn zeroSegments = front ++ last :: back ∧
        last.condition.source = "{0}" ∧
        (∀ r ∈ back, r.condition.source ≠ "{0}") ∧
        pluralize "{0} none|one|{0} nil|many" (.map [(.text "%count%", .int 0)]) "en" "|" =
          .ok (some last.text) := by
  have hseparator : "|" ≠ "" := by decide
  have hoccurs : Text.occurs "|".toList "{0} none|one|{0} nil|many".toList = true := by
    decide +kernel
  have hcount : Count.ofParameters (.map [(.text "%count%", .int 0)]) = .ok (.int 0) := by rfl
  have hsegments : Template.segments "|" "{0} none|one|{0} nil|many" = .ok zeroSegments := by
    decide +kernel
  refine ⟨hseparator, hoccurs, hcount, hsegments, ?_⟩
  obtain ⟨-, hread, -⟩ := pluralize_reads_segments "{0} none|one|{0} nil|many" "en"
    (.map [(.text "%count%", .int 0)]) hseparator
  obtain ⟨-, hfirst, -⟩ := hread (.int 0) zeroSegments hoccurs hcount hsegments
  exact hfirst [] _ _ rfl (by simp) (by decide +kernel)

end

end Template

end Phrasebook
