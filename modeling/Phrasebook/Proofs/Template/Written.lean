import Phrasebook.Proofs.OrderedMap.TextKeys
import Phrasebook.Proofs.Template.Classification
import Phrasebook.Proofs.Template.Resolution

/-! Templates as they are written: rules, labelled variants and plain variants in any order, with a
separator between them that none of them has a character of. Such a template is read back item by
item, and its rules are the written ones, once for each condition text. -/

namespace Phrasebook

open Text

/-! ## Merged rules -/

namespace OrderedMap

variable {α β : Type} [BEq α] [LawfulBEq α]

theorem contains_iff_mem {m : OrderedMap α β} {key : α} : m.contains key = true ↔ key ∈ m.keys := by
  rw [contains, Option.isSome_iff_ne_none, ne_eq, find?_eq_none_iff]
  simp

/-- A map is its keys and what is found under each. -/
theorem entries_eq_filterMap {m : OrderedMap α β} (h : m.keys.Nodup) :
    m.entries = m.keys.filterMap fun key => (m.find? key).map fun value => (key, value) := by
  obtain ⟨entries⟩ := m
  simp only [keys, find?] at h ⊢
  induction entries with
  | nil => rfl
  | cons entry rest ih =>
    obtain ⟨key, value⟩ := entry
    obtain ⟨hkey, hrest⟩ := List.nodup_cons.mp h
    have htail : (rest.map Prod.fst).filterMap (fun other =>
        (findIn other ((key, value) :: rest)).map fun found => (other, found)) = rest := by
      refine Eq.trans (List.filterMap_congr fun other hother => ?_) (ih hrest).symm
      have hne : (key == other) = false := by
        simpa using fun heq : key = other => hkey (heq ▸ hother)
      rw [findIn, hne, if_neg Bool.false_ne_true]
    rw [List.map_cons, List.filterMap_cons, findIn, if_pos (beq_self_eq_true key), htail]
    rfl

end OrderedMap

namespace Template

/-- Pairs with one for each first component: at the place of the first, the last one. -/
def collapse (pairs : List (String × String)) : List (String × String) :=
  (pairs.map Prod.fst).eraseDups.filterMap fun source =>
    pairs.reverse.find? fun pair => pair.1 == source

/-- A rule as a pair of texts. -/
def ruleText (r : ExplicitRule) : String × String := (r.condition.source, r.text)

theorem keys_byText (rules : List ExplicitRule) :
    (byText rules).keys = (rules.map fun r => r.condition.source).eraseDups := by
  induction rules using List.reverseRecOn with
  | nil => rfl
  | append_singleton rules r ih =>
    rw [byText_append, OrderedMap.keys_insert, ih, List.map_append, List.map_singleton,
      eraseDups_concat]
    have hmem : (byText rules).contains r.condition.source = true ↔
        r.condition.source ∈ rules.map fun r => r.condition.source := by
      rw [OrderedMap.contains_iff_mem, ih, List.mem_eraseDups]
    by_cases h : r.condition.source ∈ rules.map fun r => r.condition.source
    · rw [if_pos h, if_pos (hmem.mpr h)]
    · rw [if_neg h, if_neg fun hcontains => h (hmem.mp hcontains)]

theorem find?_byText_source (rules : List ExplicitRule) (source : String) :
    (byText rules).find? source = lastUnder source rules := by
  induction rules using List.reverseRecOn with
  | nil => rfl
  | append_singleton rules r ih =>
    rw [byText_append, lastUnder_append]
    by_cases h : r.condition.source = source
    · rw [if_pos h, ← h, OrderedMap.find?_insert_self _ (.of_lawful _)]
    · have hne : (r.condition.source == source) = false := by simpa using h
      rw [if_neg h, OrderedMap.find?_insert_of_ne _ (.of_lawful _) hne, ih]

/-- The rules of a template are those of its segments, once for each condition text. -/
theorem ruleTexts_ofSegments (segments : List Segment) :
    (ofSegments segments).ruleTexts = collapse ((rulesIn segments).map ruleText) := by
  have hnodup : (byText (rulesIn segments)).keys.Nodup := by
    rw [keys_byText]
    exact nodup_eraseDups _
  show ((byText (rulesIn segments)).entries.map Prod.snd).map ruleText = _
  rw [OrderedMap.entries_eq_filterMap hnodup, keys_byText, collapse, List.map_filterMap,
    List.map_filterMap, List.map_map]
  refine List.filterMap_congr fun source _ => ?_
  rw [find?_byText_source, ← List.map_reverse, List.find?_map, Option.map_map, Option.map_map]
  rfl

end Template

/-! ## Segments -/

namespace Segment

/-- A condition in front of something. -/
def IsRule (cs : List Char) : Prop :=
  ∃ front shape c rest, cs = front ++ c :: rest ∧ Condition.Written front shape

theorem isRule_iff {cs : List Char} :
    IsRule cs ↔ (Condition.recognise? cs).any (fun found => !found.2.isEmpty) = true := by
  rw [Option.any_eq_true]
  constructor
  · intro ⟨front, shape, c, rest, hcs, hfront⟩
    exact ⟨(shape, c :: rest), Condition.recognise?_eq_some_iff.mpr ⟨front, hcs, hfront⟩, rfl⟩
  · intro ⟨⟨shape, rest⟩, hrecognise, hrest⟩
    obtain ⟨front, hcs, hfront⟩ := Condition.recognise?_eq_some_iff.mp hrecognise
    obtain ⟨c, rest, rfl⟩ := List.exists_cons_of_ne_nil (show rest ≠ [] by simpa using hrest)
    exact ⟨front, shape, c, rest, hcs, hfront⟩

instance (cs : List Char) : Decidable (IsRule cs) := decidable_of_iff _ isRule_iff.symm

theorem read_of_condition {c : Condition} (h : Condition.read c.source = .ok (some c)) (x : Char)
    (rest : List Char) :
    read (c.source.toList ++ x :: rest) =
      .ok (.rule { condition := c, text := String.ofList (variantText (x :: rest)) }) := by
  obtain ⟨front, shape, ⟨-, hwritten⟩, hfits, hsource, hshape⟩ := Condition.read_eq_some_iff.mp h
  have hfront : c.source.toList = front := by rw [hsource, String.toList_ofList]
  have hrecognise : Condition.recognise? (front ++ x :: rest) = some (shape, x :: rest) :=
    Condition.recognise?_eq_some_iff.mpr ⟨front, rfl, hwritten⟩
  unfold read
  simp only [hfront, hrecognise]
  rw [Condition.ofShape_of_fits hfits, ← hsource, ← hshape]
  rfl

theorem read_of_not_isRule {cs : List Char} (h : ¬ IsRule cs) :
    read cs = .ok (.standard (String.ofList (standardText cs))) := by
  unfold read
  split
  · rename_i shape c rest hrecognise
    obtain ⟨front, hcs, hfront⟩ := Condition.recognise?_eq_some_iff.mp hrecognise
    exact absurd ⟨front, shape, c, rest, hcs, hfront⟩ h
  · rfl

/-- What a condition begins with is in no word. -/
theorem exists_head_of_written {front : List Char} {shape : ConditionShape Numeral}
    (h : Condition.Written front shape) : ∃ c rest, front = c :: rest ∧ isWord c = false := by
  obtain ⟨before, core, hbefore, hcore, rfl⟩ := h
  cases before with
  | cons c before =>
    exact ⟨c, before ++ core, rfl, not_isWord_of_isBlank (hbefore c List.mem_cons_self)⟩
  | nil =>
    cases hcore with
    | set hmembers => exact ⟨'{', _, rfl, by decide +kernel⟩
    | interval hopening hclosing hleft hright =>
      refine ⟨_, _, rfl, ?_⟩
      simp only [List.mem_cons, List.not_mem_nil, or_false] at hopening
      rcases hopening with rfl | rfl | rfl <;> decide +kernel

/-- A text with a label in front has no condition there. -/
theorem Labels.not_isRule {word rest cs : List Char} (h : Labels word rest cs) : ¬ IsRule cs := by
  rintro ⟨front, shape, c, after, hcs, hfront⟩
  obtain ⟨x, front, rfl, hx⟩ := exists_head_of_written hfront
  obtain ⟨w, word, rfl⟩ := List.exists_cons_of_ne_nil h.word_ne
  obtain ⟨rfl, -⟩ := List.cons.inj (hcs.symm.trans h.eq)
  rw [h.isWord x List.mem_cons_self] at hx
  cases hx

end Segment

namespace Template

/-! ## Items -/

/-- A variant that can be written in a template. -/
inductive Item where
  /-- A rule under a condition that its text alone reads as. -/
  | rule (condition : Condition) (text : String)
      (hcondition : Condition.read condition.source = .ok (some condition)) (htext : text ≠ "")
  /-- A variant after a word, beginning with no white space. -/
  | labelled (word text : String) (hword : word ≠ "")
      (hletters : ∀ c ∈ word.toList, isWord c = true) (htext : text ≠ "")
      (hstart : Stops isBlank text.toList)
  /-- A text with neither a condition nor a label in front of anything. -/
  | plain (text : String) (hrule : ¬ Segment.IsRule text.toList)
      (hlabel : ¬ ∃ word rest, Segment.Labels word rest text.toList)

namespace Item

def written : Item → String
  | rule condition text .. => condition.source ++ " " ++ text
  | labelled word text .. => word ++ ": " ++ text
  | plain text .. => text

/-- Condition and variant text, of a rule. -/
def ruleText? : Item → Option (String × String)
  | rule condition text .. => some (condition.source, text)
  | _ => none

/-- The variant text, without a condition. -/
def standardText? : Item → Option String
  | rule .. => none
  | labelled _ text .. => some text
  | plain text .. => some text

def segment : Item → Segment
  | rule condition text .. => .rule { condition, text }
  | labelled _ text .. => .standard text
  | plain text .. => .standard text

/-- An item is read as it was meant. -/
theorem read_written (item : Item) : Segment.read item.written.toList = .ok item.segment := by
  cases item with
  | rule condition text hcondition htext =>
    have hne : text.toList ≠ [] := by simpa using htext
    have hwritten : (condition.source ++ " " ++ text).toList =
        condition.source.toList ++ ' ' :: text.toList := by simp
    rw [written, hwritten, Segment.read_of_condition hcondition, Segment.variantText_cons,
      if_pos ⟨by decide, hne⟩, String.ofList_toList]
    rfl
  | labelled word text hword hletters htext hstart =>
    have hlabels : Segment.Labels word.toList (' ' :: text.toList) (word ++ ": " ++ text).toList :=
      { word_ne := by simpa using hword
        isWord := hletters
        rest_ne := List.cons_ne_nil _ _
        eq := by simp }
    obtain ⟨x, rest, hcons⟩ : ∃ x rest, text.toList = x :: rest :=
      List.exists_cons_of_ne_nil (by simpa using htext)
    have hx : isBlank x = false := hstart x (by simp [hcons])
    have hspace : ¬ IsSpace (' ' :: text.toList) := by
      intro hspace
      have hblank := hspace x (by simp [hcons])
      rw [hx] at hblank
      cases hblank
    have hpad : IsSpace [' '] := by decide
    have htrim : trimStart (' ' :: text.toList) = text.toList := trimStart_space hpad hstart
    rw [written, Segment.read_of_not_isRule hlabels.not_isRule,
      Segment.standardText_of_labels hlabels, if_neg hspace, htrim, String.ofList_toList]
    rfl
  | plain text hrule hlabel =>
    rw [written, Segment.read_of_not_isRule hrule, Segment.standardText_of_not_labels hlabel,
      String.ofList_toList]
    rfl

end Item

variable {separator : String} {items : List Item}

theorem segments_written (hseparator : separator ≠ "") (hitems : items ≠ [])
    (hapart : ∀ item ∈ items, ∀ c ∈ item.written.toList, c ∉ separator.toList) :
    segments separator (separator.intercalate (items.map Item.written)) =
      .ok (items.map Item.segment) := by
  have hsplit : split separator.toList (separator.intercalate (items.map Item.written)).toList =
      items.map fun item => item.written.toList := by
    rw [String.toList_intercalate, List.map_map]
    refine split_intercalate (by simpa using hseparator) (by simpa using hitems) ?_
    intro piece hpiece
    obtain ⟨item, hitem, rfl⟩ := List.mem_map.mp hpiece
    exact hapart item hitem
  rw [segments, hsplit]
  refine mapM_eq_ok_iff.mpr ?_
  rw [List.forall₂_map_left_iff, List.forall₂_map_right_iff]
  exact List.forall₂_same.mpr fun item _ => item.read_written

/-- Reading a template undoes writing it, whatever its items are and in whichever order they stand.
Every item is counted, the variants without a condition keep their texts and their order, and the
rules are the written pairs, a repeated condition text at its first place with its last variant. -/
theorem read_undoes_writing (hseparator : separator ≠ "") (hitems : items ≠ [])
    (hapart : ∀ item ∈ items, ∀ c ∈ item.written.toList, c ∉ separator.toList) :
    ∃ t, read separator (separator.intercalate (items.map Item.written)) = .ok t ∧
      t.segmentCount = items.length ∧ t.standard = items.filterMap Item.standardText? ∧
      t.ruleTexts = collapse (items.filterMap Item.ruleText?) ∧
      (t.isPlural = true ↔ 1 < items.length) := by
  refine ⟨ofSegments (items.map Item.segment), ?_, ?_, ?_, ?_, ?_⟩
  · exact (read_eq_ok_iff hseparator).mpr ⟨_, segments_written hseparator hitems hapart, rfl⟩
  · exact List.length_map _
  · show (items.map Item.segment).filterMap Segment.standardText? = _
    rw [List.filterMap_map]
    refine List.filterMap_congr fun item _ => ?_
    cases item <;> rfl
  · rw [ruleTexts_ofSegments, rulesIn, List.filterMap_map, List.map_filterMap]
    refine congrArg collapse (List.filterMap_congr fun item _ => ?_)
    cases item <;> rfl
  · rw [isPlural, decide_eq_true_eq]
    show 1 < (items.map Item.segment).length ↔ _
    rw [List.length_map]

/-- Two rules under one condition, a variant after a word, and a condition with nothing after it. -/
def mixedItems : List Item :=
  let zero : Condition := { source := "{0}", shape := .set [0] }
  [.rule zero "none" (by decide +kernel) (by decide),
    .labelled "one" "an apple" (by decide)
      (List.all_eq_true.mp (show "one".toList.all isWord = true by decide +kernel)) (by decide)
      (stops_cons.mpr (by decide)),
    .rule zero " nil" (by decide +kernel) (by decide),
    .plain "{1}" (by decide +kernel) (by
      intro ⟨word, rest, h⟩
      have hcolon : ':' ∈ "{1}".toList := h.eq ▸ by simp
      exact absurd hcolon (by decide))]

theorem read_undoes_writing_mixed :
    "||" ≠ "" ∧ mixedItems ≠ [] ∧
      (∀ item ∈ mixedItems, ∀ c ∈ item.written.toList, c ∉ "||".toList) ∧
      ∃ t, read "||" "{0} none||one: an apple||{0}  nil||{1}" = .ok t ∧
        t.segmentCount = 4 ∧ t.standard = ["an apple", "{1}"] ∧
        t.ruleTexts = [("{0}", " nil")] ∧ t.isPlural = true := by
  have hseparator : "||" ≠ "" := by decide
  have hitems : mixedItems ≠ [] := List.cons_ne_nil _ _
  have hapart : ∀ item ∈ mixedItems, ∀ c ∈ item.written.toList, c ∉ "||".toList := by
    simp [mixedItems, Item.written]
  obtain ⟨t, hread, hcount, hstandard, hrules, hplural⟩ :=
    read_undoes_writing hseparator hitems hapart
  refine ⟨hseparator, hitems, hapart, t, hread, hcount, hstandard, ?_, hplural.mpr (by decide)⟩
  exact hrules

end Template

end Phrasebook
