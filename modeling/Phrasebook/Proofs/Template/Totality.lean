import Phrasebook.Proofs.Plural.Position

/-! What keeps a template from being resolved. Any text is a template under a separator that is not
empty, however its conditions are written, unless an integer in one of them cannot be converted; and
any finite count has a variant in it, or none, unless the position asks for a remainder that the
count does not have. -/

namespace Phrasebook

/-- No condition in front of a segment has an integer that cannot be converted. A condition with
nothing after it is not read. -/
def Segment.Fits (cs : List Char) : Prop :=
  ∀ front shape c rest, cs = front ++ c :: rest → Condition.Written front shape → shape.Fits

namespace Segment

theorem exists_read {cs : List Char} (h : Fits cs) : ∃ segment, read cs = .ok segment := by
  unfold read
  split
  · rename_i shape c rest hrecognise
    obtain ⟨front, rfl, hfront⟩ := Condition.recognise?_eq_some_iff.mp hrecognise
    rw [Condition.ofShape_of_fits (h front shape c rest rfl hfront)]
    exact ⟨_, rfl⟩
  · exact ⟨_, rfl⟩

theorem exists_fault {cs : List Char} (h : ¬ Fits cs) :
    ∃ fault, fault.isConversion = true ∧ read cs = .error fault := by
  simp only [Fits, not_forall] at h
  obtain ⟨front, shape, c, rest, hcs, hfront, hfits⟩ := h
  have hrecognise : Condition.recognise? cs = some (shape, c :: rest) :=
    Condition.recognise?_eq_some_iff.mpr ⟨front, hcs, hfront⟩
  obtain ⟨fault, hfault, hshape⟩ := Condition.ofShape_of_not_fits cs (c :: rest) hfits
  refine ⟨fault, hfault, ?_⟩
  unfold read
  simp only [hrecognise, hshape]
  rfl

theorem exists_read_iff {cs : List Char} : (∃ segment, read cs = .ok segment) ↔ Fits cs := by
  refine ⟨?_, exists_read⟩
  rintro ⟨segment, hread⟩
  by_contra hfits
  obtain ⟨fault, -, hfault⟩ := exists_fault hfits
  rw [hfault] at hread
  cases hread

theorem failsBy_read (cs : List Char) :
    FailsBy (fun fault => fault.isConversion = true) (read cs) := by
  by_cases hfits : Fits cs
  · obtain ⟨segment, hread⟩ := exists_read hfits
    rw [hread]
    exact .ok segment
  · obtain ⟨fault, hfault, hread⟩ := exists_fault hfits
    rw [hread]
    exact .error hfault

end Segment

namespace Template

/-! ## Reading -/

section

variable {separator : String} (hseparator : separator ≠ "") (text : String)

include hseparator

theorem read_eq_map : read separator text = (segments separator text).map ofSegments := by
  rw [read, if_neg (by simpa using hseparator)]

theorem exists_read_iff : (∃ t, read separator text = .ok t) ↔
    ∀ piece ∈ Text.split separator.toList text.toList, Segment.Fits piece := by
  simp only [← Segment.exists_read_iff, ← exists_mapM_iff]
  rw [read_eq_map hseparator]
  show (∃ t, (segments separator text).map ofSegments = .ok t) ↔
    ∃ found, segments separator text = .ok found
  cases segments separator text with
  | error fault => simp [Except.map]
  | ok found => simp [Except.map]

theorem failsBy_read :
    FailsBy (fun fault => fault.isConversion = true) (read separator text) := by
  rw [read_eq_map hseparator]
  exact .map _ (.mapM fun piece _ => Segment.failsBy_read piece)

end

/-! ## Choosing -/

/-- A finite count is given a variant or none, unless it has no remainders. -/
theorem ends_select {count : Count} (h : count.isFinite = true) (t : Template) (code : String) :
    Ends (fun _ => True) (Count.OutOfRange count) (t.select count code) := by
  rw [select, variant, ruleFor_eq h]
  refine .bind (P := fun _ => True) (.ok trivial) fun found _ => ?_
  cases found with
  | some text => exact .ok trivial
  | none =>
    dsimp only
    split
    · exact .ok trivial
    · exact (ends_pluralPosition h code).bind fun p _ => .ok trivial

/-- An empty separator is refused. Under any other one a text is a template exactly when the
integers of the conditions in it can be converted, and nothing else keeps it from being one. What
is chosen for a finite count is a variant or none, in every locale; only where the remainders of a
decimal cannot be taken may choosing fail, and by nothing else. -/
theorem read_and_select_faults (separator text : String) :
    (separator = "" → read separator text = .error .emptySeparator) ∧
    (separator ≠ "" →
      ((∃ t, read separator text = .ok t) ↔
        ∀ piece ∈ Text.split separator.toList text.toList, Segment.Fits piece) ∧
      ∀ fault, read separator text = .error fault → fault.isConversion = true) ∧
    ∀ t, read separator text = .ok t → ∀ count : Count, count.isFinite = true → ∀ code,
      (count.admitsRemainder = true → ∃ result, t.select count code = .ok result) ∧
      ∀ fault, t.select count code = .error fault →
        fault = .precisionRange ∧ count.admitsRemainder = false := by
  refine ⟨?_, fun hseparator => ?_, ?_⟩
  · rintro rfl
    rfl
  · exact ⟨exists_read_iff hseparator text, failsBy_read hseparator text⟩
  · intro t _ count hcount code
    have hends := ends_select hcount t code
    refine ⟨fun hremainder => ?_, hends.failsBy⟩
    obtain ⟨result, hresult, -⟩ := hends.exists_ok fun fault hfault =>
      Bool.false_ne_true (hfault.2.symm.trans hremainder)
    exact ⟨result, hresult⟩

example : select { standard := ["one", "few", "many"], rules := [], segmentCount := 3 }
    (.decimal (.finite false 1 999999999999999999)) "pl" = .error .precisionRange := by
  decide +kernel

/-- A condition with nothing after it is a plain text, which every count chooses. -/
theorem read_and_select_faults_of_bare_condition :
    ∃ t, "|" ≠ "" ∧ read "|" "\x7b1\x7d" = .ok t ∧ (Count.int 3).isFinite = true ∧
      (Count.int 3).admitsRemainder = true ∧ ∃ result, t.select (.int 3) "pl" = .ok result := by
  have hread : read "|" "\x7b1\x7d" =
      .ok { standard := ["\x7b1\x7d"], rules := [], segmentCount := 1 } := by rfl
  obtain ⟨-, -, hselect⟩ := read_and_select_faults "|" "\x7b1\x7d"
  exact ⟨_, by decide, hread, rfl, rfl, (hselect _ hread (.int 3) rfl "pl").1 rfl⟩

/-- A text with an information separator between an integer and a comma is no template. -/
theorem information_separator_not_read :
    "|" ≠ "" ∧ read "|" "\x7b1\x1c,2\x7d x" = .error (.notInteger "'1\\x1c'") :=
  ⟨by decide, by rfl⟩

end Template

end Phrasebook
