import Phrasebook.Proofs.Template.Segment
import Mathlib.Data.List.TakeWhile

/-! What a segment of a template is, told from the condition that it reads as by itself. It is a
rule exactly when something is left after that condition, and then the rule has that very condition.
Otherwise a word and a colon in front of something are a label, and without a label the segment is
its own text. A text after a condition or a label is never empty: white space in front of it is
given back where nothing else would be left. -/

namespace Phrasebook

open Text

namespace Segment

/-- A word and a colon in front of something. -/
structure Labels (word rest cs : List Char) : Prop where
  word_ne : word ≠ []
  isWord : ∀ c ∈ word, isWord c = true
  rest_ne : rest ≠ []
  eq : cs = word ++ ':' :: rest

/-- What a segment reads as, given the condition that its text reads as. -/
structure ReadsAs (cs : List Char) (c? : Option Condition) (segment : Segment) : Prop where
  /-- A rule is a condition with something after it. -/
  isRule_iff : (∃ r, segment = .rule r) ↔
    ∃ c rest, c? = some c ∧ cs = c.source.toList ++ rest ∧ rest ≠ []
  /-- The first character after the condition is dropped if it is white space and not the last. -/
  rule : ∀ c x rest, c? = some c → cs = c.source.toList ++ x :: rest →
    segment = .rule {
      condition := c
      text := String.ofList (if isBlank x = true ∧ rest ≠ [] then rest else x :: rest) }
  /-- The text after a label begins with no white space, unless it is its last character. -/
  labelled : (¬ ∃ r, segment = .rule r) → ∀ word rest, ∀ h : Labels word rest cs,
    segment = .standard (String.ofList
      (if IsSpace rest then [rest.getLast h.rest_ne] else trimStart rest))
  plain : (¬ ∃ r, segment = .rule r) → (¬ ∃ word rest, Labels word rest cs) →
    segment = .standard (String.ofList cs)

theorem variantText_cons (x : Char) (rest : List Char) :
    variantText (x :: rest) = if isBlank x = true ∧ rest ≠ [] then rest else x :: rest := by
  cases rest with
  | nil => simp [variantText]
  | cons d rest => simp [variantText]

/-! ## Labels -/

theorem trimStart_eq_nil_iff {cs : List Char} : trimStart cs = [] ↔ IsSpace cs :=
  List.dropWhile_eq_nil_iff

theorem Labels.takeWhile {word rest cs : List Char} (h : Labels word rest cs) :
    cs.takeWhile Text.isWord = word ∧ cs.dropWhile Text.isWord = ':' :: rest := by
  have hcolon : Stops Text.isWord (':' :: rest) := stops_cons.mpr (by decide +kernel)
  rw [h.eq]
  exact ⟨takeWhile_run h.isWord hcolon, dropWhile_run h.isWord hcolon⟩

theorem standardText_of_labels {word rest cs : List Char} (h : Labels word rest cs) :
    standardText cs =
      if IsSpace rest then [rest.getLast h.rest_ne] else trimStart rest := by
  obtain ⟨htake, hdrop⟩ := h.takeWhile
  obtain ⟨c, rest, rfl⟩ := List.exists_cons_of_ne_nil h.rest_ne
  obtain ⟨w, word, rfl⟩ := List.exists_cons_of_ne_nil h.word_ne
  simp only [standardText, afterLabel?, htake, hdrop]
  by_cases hspace : IsSpace (c :: rest)
  · simp [hspace, trimStart_eq_nil_iff.mpr hspace]
  · have hne : trimStart (c :: rest) ≠ [] := fun h => hspace (trimStart_eq_nil_iff.mp h)
    obtain ⟨d, text, htext⟩ := List.exists_cons_of_ne_nil hne
    simp [hspace, htext]

/-- What has a text after its label has a label. -/
theorem exists_labels {cs text : List Char} (h : afterLabel? cs = some text) :
    ∃ word rest, Labels word rest cs := by
  unfold afterLabel? at h
  split at h
  · rename_i w word c rest htake hdrop
    refine ⟨w :: word, c :: rest, List.cons_ne_nil _ _, ?_, List.cons_ne_nil _ _, ?_⟩
    · intro d hd
      exact List.all_eq_true.mp List.all_takeWhile d (htake ▸ hd)
    · rw [← htake, ← hdrop, List.takeWhile_append_dropWhile]
  · cases h

theorem standardText_of_not_labels {cs : List Char} (h : ¬ ∃ word rest, Labels word rest cs) :
    standardText cs = cs := by
  unfold standardText
  cases hlabel : afterLabel? cs with
  | none => rfl
  | some text => exact absurd (exists_labels hlabel) h

/-! ## Segments -/

theorem readsAs_standard {cs : List Char} {c? : Option Condition}
    (h : ∀ c rest, c? = some c → cs = c.source.toList ++ rest → rest = []) :
    ReadsAs cs c? (.standard (String.ofList (standardText cs))) where
  isRule_iff := by
    constructor
    · rintro ⟨r, hr⟩
      cases hr
    · rintro ⟨c, rest, hc, hcs, hrest⟩
      exact absurd (h c rest hc hcs) hrest
  rule := fun c x rest hc hcs => absurd (h c (x :: rest) hc hcs) (List.cons_ne_nil x rest)
  labelled := fun _ _ _ hlabels => by rw [standardText_of_labels hlabels]
  plain := fun _ hlabels => by rw [standardText_of_not_labels hlabels]

theorem readsAs_rule {c : Condition} (x : Char) (rest : List Char) :
    ReadsAs (c.source.toList ++ x :: rest) (some c)
      (.rule { condition := c, text := String.ofList (variantText (x :: rest)) }) where
  isRule_iff := ⟨fun _ => ⟨c, x :: rest, rfl, rfl, List.cons_ne_nil x rest⟩, fun _ => ⟨_, rfl⟩⟩
  rule := by
    intro c' x' rest' hc hcs
    obtain rfl := Option.some.inj hc
    obtain ⟨rfl, rfl⟩ := List.cons.inj (List.append_cancel_left hcs)
    rw [variantText_cons]
  labelled := fun h => absurd ⟨_, rfl⟩ h
  plain := fun h => absurd ⟨_, rfl⟩ h

/-- A text that reads as a condition, or as none, reads as a segment with the same condition. -/
theorem exists_readsAs {s : String} {c? : Option Condition} (h : Condition.read s = .ok c?) :
    ∃ segment, read s.toList = .ok segment ∧ segment.ReadsAs s.toList c? := by
  unfold Condition.read at h
  unfold Segment.read
  cases hrecognise : Condition.recognise? s.toList with
  | none =>
    simp only [hrecognise] at h ⊢
    obtain rfl := Except.ok.inj h
    exact ⟨_, rfl, readsAs_standard fun c rest hc => by cases hc⟩
  | some found =>
    obtain ⟨shape, rest⟩ := found
    obtain ⟨front, hcs, -⟩ := Condition.recognise?_eq_some_iff.mp hrecognise
    simp only [hrecognise] at h ⊢
    by_cases hfits : shape.Fits
    · rw [hcs, Condition.ofShape_of_fits hfits] at h
      obtain rfl := Except.ok.inj h
      cases rest with
      | nil =>
        refine ⟨_, rfl, readsAs_standard fun c rest hc hsource => ?_⟩
        obtain rfl := Option.some.inj hc
        rw [hcs, String.toList_ofList] at hsource
        exact (List.append_cancel_left hsource).symm
      | cons x rest =>
        have hrule := readsAs_rule (c := { source := String.ofList front, shape := shape.denoted })
          x rest
        rw [String.toList_ofList, ← hcs] at hrule
        refine ⟨_, ?_, hrule⟩
        dsimp only
        rw [hcs, Condition.ofShape_of_fits hfits]
        rfl
    · obtain ⟨fault, -, hshape⟩ := Condition.ofShape_of_not_fits s.toList rest hfits
      rw [hshape] at h
      cases h

end Segment

namespace Template

theorem read_eq_ok_iff {separator text : String} (hseparator : separator ≠ "") {t : Template} :
    read separator text = .ok t ↔ ∃ segments, Template.segments separator text = .ok segments ∧
      t = ofSegments segments := by
  have hempty : separator.isEmpty = false := by simpa using hseparator
  rw [read, hempty]
  cases hsegments : Template.segments separator text with
  | error fault => simp [Except.map]
  | ok segments => simp [Except.map, eq_comm]

/-- Every segment of a template is a rule, a labelled text or a plain text by the condition that
its own text reads as. A text without the separator is the only segment of its template, and can be
read whenever it can be read as a condition. -/
theorem read_agrees_with_conditions {separator : String} (hseparator : separator ≠ "")
    (text : String) :
    (∀ t, read separator text = .ok t → ∃ segments, t = ofSegments segments ∧
      List.Forall₂ (fun piece segment => ∀ c?, Condition.read (String.ofList piece) = .ok c? →
        segment.ReadsAs piece c?) (split separator.toList text.toList) segments) ∧
    (occurs separator.toList text.toList = false → ∀ c?, Condition.read text = .ok c? →
      ∃ segment : Segment, segment.ReadsAs text.toList c? ∧ read separator text = .ok {
        standard := segment.standardText?.toList
        rules := segment.rule?.toList
        segmentCount := 1 }) := by
  refine ⟨?_, ?_⟩
  · intro t ht
    obtain ⟨segments, hsegments, rfl⟩ := (read_eq_ok_iff hseparator).mp ht
    refine ⟨segments, rfl, (mapM_eq_ok_iff.mp hsegments).imp ?_⟩
    intro piece segment hread c? hcondition
    obtain ⟨segment', hread', hreads⟩ := Segment.exists_readsAs hcondition
    rw [String.toList_ofList] at hread' hreads
    rw [hread] at hread'
    obtain rfl := Except.ok.inj hread'
    exact hreads
  · intro hoccurs c? hcondition
    obtain ⟨segment, hread, hreads⟩ := Segment.exists_readsAs hcondition
    refine ⟨segment, hreads, (read_eq_ok_iff hseparator).mpr ⟨[segment], ?_, ?_⟩⟩
    · rw [Template.segments, split_of_not_occurs _ _ hoccurs]
      exact mapM_eq_ok_iff.mpr (.cons hread .nil)
    · cases segment <;> rfl

/-- A line end is all that is left after the condition, and so it is the text of the variant. -/
theorem read_condition_before_line_end :
    "|" ≠ "" ∧ occurs "|".toList " {1}\n".toList = false ∧
      Condition.read " {1}\n" = .ok (some { source := " {1}", shape := .set [1] }) ∧
      read "|" " {1}\n" = .ok {
        standard := []
        rules := [{ condition := { source := " {1}", shape := .set [1] }, text := "\n" }]
        segmentCount := 1 } := by
  have hseparator : "|" ≠ "" := by decide
  have hoccurs : occurs "|".toList " {1}\n".toList = false := by decide +kernel
  have hcondition : Condition.read " {1}\n" =
      .ok (some { source := " {1}", shape := .set [1] }) := by decide +kernel
  refine ⟨hseparator, hoccurs, hcondition, ?_⟩
  obtain ⟨-, halone⟩ := read_agrees_with_conditions hseparator " {1}\n"
  obtain ⟨segment, hreads, hread⟩ := halone hoccurs _ hcondition
  rw [hreads.rule _ '\n' [] rfl rfl] at hread
  exact hread

end Template

end Phrasebook
