import Phrasebook.Proofs.OrderedMap.Level
import Phrasebook.Value
import Mathlib.Data.List.Nodup

/-! Maps under texts. A text equals no key but itself, so a map has a text exactly when it is among
its keys, and insertions under texts list every text once, in the order of the first insertion. Such
a map is its keys and what is found under each. -/

namespace Phrasebook

/-- The list without later repetitions, one item longer. -/
theorem eraseDups_concat (texts : List String) (s : String) :
    (texts ++ [s]).eraseDups =
      if s ∈ texts then texts.eraseDups else texts.eraseDups ++ [s] := by
  rw [List.eraseDups_append]
  by_cases h : s ∈ texts <;> simp [List.removeAll, h, List.eraseDups_cons]

/-- Going through a list again brings nothing new. -/
theorem eraseDups_append_self (texts : List String) :
    (texts ++ texts).eraseDups = texts.eraseDups := by
  have hnone : texts.removeAll texts = [] := List.filter_eq_nil_iff.mpr (by simp)
  rw [List.eraseDups_append, hnone]
  simp

theorem nodup_eraseDups (texts : List String) : texts.eraseDups.Nodup := by
  induction texts using List.reverseRecOn with
  | nil => simp
  | append_singleton texts s ih =>
    rw [eraseDups_concat]
    split
    · exact ih
    · rename_i h
      refine List.nodup_append.mpr ⟨ih, List.nodup_singleton s, ?_⟩
      intro first hfirst last hlast
      rw [List.mem_singleton.mp hlast]
      rintro rfl
      exact h (List.mem_eraseDups.mp hfirst)

namespace OrderedMap

variable {β : Type} {m : OrderedMap Value β} {s : String}

theorem find?_text_eq_none_iff : m.find? (.text s) = none ↔ Value.text s ∉ m.keys := by
  rw [find?_eq_none_iff]
  constructor
  · intro h hmem
    have := h _ hmem
    rw [(Value.exactKey_text s).beq_self] at this
    cases this
  · intro h other hother
    cases hbeq : other == Value.text s with
    | false => rfl
    | true =>
      obtain rfl := (Value.exactKey_text s).eq_of_beq other hbeq
      exact absurd hother h

theorem contains_text : m.contains (.text s) = true ↔ Value.text s ∈ m.keys := by
  rw [contains, Option.isSome_iff_ne_none, ne_eq, find?_text_eq_none_iff, not_not]

theorem find?_insert_text (m : OrderedMap Value β) (s other : String) (value : β) :
    (m.insert (.text s) value).find? (.text other) =
      if other = s then some value else m.find? (.text other) := by
  by_cases h : other = s
  · subst h
    rw [if_pos rfl, find?_insert_self m (Value.exactKey_text other)]
  · rw [if_neg h, find?_insert_of_ne m (Value.exactKey_text s)]
    simpa [Value.beq_text] using Ne.symm h

/-- Keys stay in the order of their first insertion. -/
theorem keys_insert_text {texts : List String} (h : m.keys = texts.eraseDups.map .text)
    (s : String) (value : β) :
    (m.insert (.text s) value).keys = (texts ++ [s]).eraseDups.map .text := by
  have hmem : m.contains (.text s) = true ↔ s ∈ texts := by
    rw [contains_text, h]
    simp
  rw [keys_insert, eraseDups_concat, h]
  by_cases hs : s ∈ texts
  · rw [if_pos hs, if_pos (hmem.mpr hs)]
  · rw [if_neg hs, if_neg fun hcontains => hs (hmem.mp hcontains), List.map_append]
    rfl

theorem isEmpty_of_keys {texts : List String} (h : m.keys = texts.eraseDups.map .text) :
    m.isEmpty = texts.isEmpty := by
  obtain ⟨entries⟩ := m
  cases texts with
  | nil => simpa [keys, isEmpty] using h
  | cons s rest =>
    cases entries with
    | nil => simp [keys, List.eraseDups_cons] at h
    | cons entry entries => rfl

/-! ## Entries under texts -/

/-- Entries under texts, as they stand in a map. -/
def underTexts (entries : List (String × β)) : List (Value × β) :=
  entries.map fun entry => (.text entry.1, entry.2)

theorem underTexts_concat (entries : List (String × β)) (entry : String × β) :
    underTexts (entries ++ [entry]) = underTexts entries ++ [(.text entry.1, entry.2)] := by
  simp [underTexts]

theorem keys_ofList_underTexts (entries : List (String × β)) :
    (ofList (underTexts entries)).keys = (entries.map Prod.fst).eraseDups.map .text := by
  induction entries using List.reverseRecOn with
  | nil => rfl
  | append_singleton entries entry ih =>
    rw [underTexts_concat, ofList_append, keys_insert_text ih, List.map_append]
    rfl

/-- The last entry under a text is the one that is found. -/
theorem find?_ofList_underTexts (entries : List (String × β)) (s : String) :
    (ofList (underTexts entries)).find? (.text s) =
      (entries.reverse.find? fun entry => entry.1 == s).map Prod.snd := by
  induction entries using List.reverseRecOn with
  | nil => rfl
  | append_singleton entries entry ih =>
    rw [underTexts_concat, ofList_append, find?_insert_text, ih, List.reverse_append]
    by_cases h : s = entry.1
    · simp [h]
    · simp [h, Ne.symm h]

/-- A map whose keys are texts is told by its keys and what is found under them. -/
theorem entries_eq_map {texts : List String} (h : m.keys = texts.map .text)
    (hnodup : texts.Nodup) (default : β) :
    m.entries = texts.map fun s => (.text s, (m.find? (.text s)).getD default) := by
  obtain ⟨entries⟩ := m
  simp only [keys, find?] at h ⊢
  induction texts generalizing entries with
  | nil => simpa using h
  | cons s texts ih =>
    obtain ⟨⟨key, value⟩, rest, rfl⟩ : ∃ entry rest, entries = entry :: rest :=
      List.exists_cons_of_ne_nil (by rintro rfl; cases h)
    obtain ⟨rfl, hrest⟩ := List.cons.inj h
    obtain ⟨hs, hnodup⟩ := List.nodup_cons.mp hnodup
    rw [List.map_cons, findIn, if_pos (Value.exactKey_text s).beq_self, ih hnodup rest hrest]
    refine congrArg _ (List.map_congr_left fun other hother => ?_)
    have hne : (Value.text s == Value.text other) = false := by
      rw [Value.beq_text]
      simpa using fun heq : s = other => hs (heq ▸ hother)
    rw [← ih hnodup rest hrest, findIn, hne, if_neg Bool.false_ne_true]

end OrderedMap

end Phrasebook
