import Phrasebook.Count.Reader

/-! Counts as they are given. Whatever is admitted as a count is finite, so that comparing it never
fails. -/

namespace Phrasebook.Count

theorem isFinite_of_ofText? {s : String} {count : Count} (h : ofText? s = some count) :
    count.isFinite = true := by
  unfold ofText? at h
  split at h
  · cases h
  · rename_i x _
    split at h
    · rename_i hfinite
      obtain rfl := Option.some.inj h
      cases x.toInt? with
      | some n => rfl
      | none => exact hfinite
    · cases h

theorem isFinite_of_ofValue? {v : Value} {count : Count} (h : ofValue? v = some count) :
    count.isFinite = true := by
  unfold ofValue? at h
  split at h
  · obtain rfl := Option.some.inj h
    rfl
  · split at h
    · rename_i hfinite
      obtain rfl := Option.some.inj h
      exact hfinite
    · cases h
  · split at h
    · rename_i hfinite
      obtain rfl := Option.some.inj h
      exact hfinite
    · cases h
  · exact isFinite_of_ofText? h
  · cases h

section

variable [Stack]

theorem isFinite_of_ofValue {v : Value} {count : Count} (h : ofValue v = .ok count) :
    count.isFinite = true := by
  unfold ofValue at h
  split at h
  · rename_i hcount
    obtain rfl := Except.ok.inj h
    exact isFinite_of_ofValue? hcount
  · cases h

theorem isFinite_of_ofParameters {parameters : Value} {count : Count}
    (h : ofParameters parameters = .ok count) : count.isFinite = true := by
  unfold ofParameters at h
  split at h
  · obtain rfl := Except.ok.inj h
    rfl
  · split at h
    · split at h
      · exact isFinite_of_ofValue h
      · obtain rfl := Except.ok.inj h
        rfl
    · cases h

/-- A finite count is given by its own value. -/
theorem ofValue_toValue {count : Count} (h : count.isFinite = true) :
    ofValue count.toValue = .ok count := by
  cases count with
  | int n => rfl
  | float x =>
    have hx : x.isFinite = true := h
    simp only [toValue, ofValue, ofValue?, hx, if_true]
  | decimal x =>
    have hx : x.isFinite = true := h
    simp only [toValue, ofValue, ofValue?, hx, if_true]

/-- The counts that values give are the finite ones. -/
theorem exists_ofValue_iff {count : Count} :
    (∃ v, ofValue v = .ok count) ↔ count.isFinite = true :=
  ⟨fun ⟨_, h⟩ => isFinite_of_ofValue h, fun h => ⟨_, ofValue_toValue h⟩⟩

end

end Phrasebook.Count
