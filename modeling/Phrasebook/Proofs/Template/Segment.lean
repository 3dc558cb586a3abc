import Phrasebook.Template
import Phrasebook.Proofs.Condition.Meaning
import Phrasebook.Proofs.Fault.Outcome

/-! What reading a segment gives. The condition text of a rule is the front of its segment and
reads as the condition of the rule by itself, so rules under one text have one condition. The text
of a variant, explicit or not, is an end of its segment. -/

namespace Phrasebook

namespace Segment

/-! ## Rules -/

/-- A rule is read from its condition, spelled in full, and a text that is not empty. -/
theorem exists_of_read_eq_rule {cs : List Char} {r : ExplicitRule} (h : read cs = .ok (.rule r)) :
    ∃ front shape c rest, cs = front ++ c :: rest ∧ Condition.Written front shape ∧ shape.Fits ∧
      r = { condition := { source := String.ofList front, shape := shape.denoted }
            text := String.ofList (variantText (c :: rest)) } := by
  unfold read at h
  split at h
  · rename_i shape c rest hrecognise
    obtain ⟨front, rfl, hfront⟩ := Condition.recognise?_eq_some_iff.mp hrecognise
    by_cases hfits : shape.Fits
    · rw [Condition.ofShape_of_fits hfits] at h
      exact ⟨front, shape, c, rest, rfl, hfront, hfits, (Segment.rule.inj (Except.ok.inj h)).symm⟩
    · obtain ⟨fault, -, hshape⟩ :=
        Condition.ofShape_of_not_fits (front ++ c :: rest) (c :: rest) hfits
      rw [hshape] at h
      cases h
  · cases h

/-- The condition text of a rule, by itself, reads as its condition. -/
theorem read_source {cs : List Char} {r : ExplicitRule} (h : read cs = .ok (.rule r)) :
    Condition.read r.condition.source = .ok (some r.condition) := by
  obtain ⟨front, shape, c, rest, -, hfront, hfits, rfl⟩ := exists_of_read_eq_rule h
  have hopens : Condition.Opens (String.ofList front) front shape :=
    ⟨⟨[], by simp⟩, hfront⟩
  exact Condition.read_of_opens hopens hfits

theorem variantText_suffix (cs : List Char) : variantText cs <:+ cs := by
  unfold variantText
  split
  · split
    · exact List.suffix_cons _ _
    · exact List.suffix_rfl
  · exact List.suffix_rfl

theorem text_suffix_of_read_eq_rule {cs : List Char} {r : ExplicitRule}
    (h : read cs = .ok (.rule r)) : r.text.toList <:+ cs := by
  obtain ⟨front, shape, c, rest, rfl, -, -, rfl⟩ := exists_of_read_eq_rule h
  simpa using (variantText_suffix (c :: rest)).trans (List.suffix_append front (c :: rest))

/-! ## Standard variants -/

theorem afterLabel?_suffix {cs text : List Char} (h : afterLabel? cs = some text) :
    text <:+ cs := by
  unfold afterLabel? at h
  split at h
  · rename_i c rest _ hdrop
    have hafter : c :: rest <:+ cs :=
      (List.suffix_cons ':' (c :: rest)).trans (hdrop ▸ List.dropWhile_suffix Text.isWord)
    split at h
    · obtain rfl := Option.some.inj h
      have hlast : [(c :: rest).getLast (List.cons_ne_nil c rest)] <:+ c :: rest :=
        ⟨(c :: rest).dropLast, List.dropLast_append_getLast _⟩
      exact hlast.trans hafter
    · obtain rfl := Option.some.inj h
      exact (List.dropWhile_suffix Text.isBlank).trans hafter
  · cases h

theorem standardText_suffix (cs : List Char) : standardText cs <:+ cs := by
  unfold standardText
  cases h : afterLabel? cs with
  | none => exact List.suffix_rfl
  | some text => exact afterLabel?_suffix h

theorem text_suffix_of_read_eq_standard {cs : List Char} {text : String}
    (h : read cs = .ok (.standard text)) : text.toList <:+ cs := by
  unfold read at h
  split at h
  · rename_i shape c rest _
    cases hshape : Condition.ofShape cs (c :: rest) shape with
    | error fault =>
      rw [hshape] at h
      cases h
    | ok condition =>
      rw [hshape] at h
      cases h
  · obtain rfl := Segment.standard.inj (Except.ok.inj h)
    simpa using standardText_suffix cs

end Segment

end Phrasebook
