import Phrasebook.OrderedMap
import Mathlib.Data.List.Induction

/-! What insertions do to an ordered map as a list of entries: a new key comes last, and a key that
is there keeps its place. A map is a level when its keys are told apart from one another; levels
also say what holds of each key and of each value, so that levels of levels describe nested maps.
Insertion keeps a level one, and a level is what inserting its entries in order gives. -/

namespace Phrasebook.OrderedMap

theorem ext {α β : Type} {m m' : OrderedMap α β} (h : m.entries = m'.entries) : m = m' := by
  obtain ⟨entries⟩ := m
  exact congrArg mk h

variable {α β : Type} [BEq α] {m : OrderedMap α β} {key : α} {value : β}

/-! ## Entries -/

theorem find?_eq_none_iff : m.find? key = none ↔ ∀ other ∈ m.keys, (other == key) = false := by
  obtain ⟨entries⟩ := m
  simp only [find?, keys]
  induction entries with
  | nil => simp [findIn]
  | cons entry rest ih =>
    obtain ⟨other, old⟩ := entry
    cases h : other == key <;> simp [findIn, h, ih]

/-- A new key comes last. -/
theorem entries_insert_of_find?_eq_none (h : m.find? key = none) (value : β) :
    (m.insert key value).entries = m.entries ++ [(key, value)] := by
  obtain ⟨entries⟩ := m
  simp only [find?, insert] at h ⊢
  induction entries with
  | nil => rfl
  | cons entry rest ih =>
    obtain ⟨other, old⟩ := entry
    cases hother : other == key with
    | true => simp [findIn, hother] at h
    | false =>
      simp only [findIn, hother, Bool.false_eq_true, if_false] at h
      simp [insertIn, hother, ih h]

theorem insert_of_find?_eq_none (h : m.find? key = none) (value : β) :
    m.insert key value = ⟨m.entries ++ [(key, value)]⟩ :=
  ext (entries_insert_of_find?_eq_none h value)

/-- The place of a key that is there, which an insertion under the key overwrites. -/
theorem exists_split_of_find? {old : β} (h : m.find? key = some old) :
    ∃ before other after, m.entries = before ++ (other, old) :: after ∧ (other == key) = true ∧
      ∀ value, (m.insert key value).entries = before ++ (other, value) :: after := by
  obtain ⟨entries⟩ := m
  simp only [find?, insert] at h ⊢
  induction entries with
  | nil => cases h
  | cons entry rest ih =>
    obtain ⟨other, first⟩ := entry
    cases hother : other == key with
    | true =>
      simp only [findIn, hother, if_true] at h
      obtain rfl := Option.some.inj h
      exact ⟨[], other, rest, rfl, hother, fun value => by simp [insertIn, hother]⟩
    | false =>
      simp only [findIn, hother, Bool.false_eq_true, if_false] at h
      obtain ⟨before, found, after, hrest, hfound, hinsert⟩ := ih h
      refine ⟨(other, first) :: before, found, after, by simp [hrest], hfound, fun value => ?_⟩
      simp [insertIn, hother, hinsert value]

/-- Putting back what is found changes nothing. -/
theorem insert_of_find? (h : m.find? key = some value) : m.insert key value = m := by
  obtain ⟨before, other, after, hentries, -, hinsert⟩ := exists_split_of_find? h
  exact ext ((hinsert value).trans hentries.symm)

theorem mem_entries_of_find? (h : m.find? key = some value) :
    ∃ entry ∈ m.entries, (entry.1 == key) = true ∧ entry.2 = value := by
  obtain ⟨before, other, after, hentries, hother, -⟩ := exists_split_of_find? h
  exact ⟨(other, value), by simp [hentries], hother, rfl⟩

/-- An insertion puts a new entry last or overwrites one in its place. -/
theorem insert_cases (m : OrderedMap α β) (key : α) (value : β) :
    (m.find? key = none ∧ (m.insert key value).entries = m.entries ++ [(key, value)]) ∨
    ∃ before other old after, m.find? key = some old ∧
      m.entries = before ++ (other, old) :: after ∧ (other == key) = true ∧
      (m.insert key value).entries = before ++ (other, value) :: after := by
  cases hfind : m.find? key with
  | none => exact .inl ⟨rfl, entries_insert_of_find?_eq_none hfind value⟩
  | some old =>
    obtain ⟨before, other, after, hentries, hother, hinsert⟩ := exists_split_of_find? hfind
    exact .inr ⟨before, other, old, after, rfl, hentries, hother, hinsert value⟩

theorem mem_entries_insert {entry : α × β} (h : entry ∈ (m.insert key value).entries) :
    entry ∈ m.entries ∨ entry.2 = value := by
  rcases m.insert_cases key value with ⟨-, hinsert⟩ |
    ⟨before, other, old, after, -, hentries, -, hinsert⟩
  · rw [hinsert] at h
    rcases List.mem_append.mp h with h | h
    · exact .inl h
    · exact .inr (by rw [List.mem_singleton.mp h])
  · rw [hinsert] at h
    rw [hentries]
    simp only [List.mem_append, List.mem_cons] at h ⊢
    rcases h with h | rfl | h
    · exact .inl (.inl h)
    · exact .inr rfl
    · exact .inl (.inr (.inr h))

theorem keys_insert (m : OrderedMap α β) (key : α) (value : β) :
    (m.insert key value).keys = if m.contains key then m.keys else m.keys ++ [key] := by
  cases h : m.contains key with
  | true => exact keys_insert_of_contains m value h
  | false => exact keys_insert_of_not_contains m value h

theorem ofList_append (entries : List (α × β)) (entry : α × β) :
    ofList (entries ++ [entry]) = (ofList entries).insert entry.1 entry.2 := by
  simp [ofList]

/-! ## Look-ups -/

theorem find?_concat (entries : List (α × β)) (last : α) (value : β) (key : α) :
    (⟨entries ++ [(last, value)]⟩ : OrderedMap α β).find? key =
      ((⟨entries⟩ : OrderedMap α β).find? key).or (if last == key then some value else none) := by
  simp only [find?]
  induction entries with
  | nil => rfl
  | cons entry rest ih =>
    simp only [List.cons_append, findIn, ih]
    split <;> rfl

theorem or_empty_bind_find? (found : Option (OrderedMap α β)) (made : Bool) (key : α) :
    (found.or (if made then some .empty else none)).bind (·.find? key) =
      found.bind (·.find? key) := by
  cases found with
  | none => cases made <;> rfl
  | some m => rfl

/-- What was inserted is found, also under a key that equals other keys. -/
theorem find?_insert_of_beq_self (m : OrderedMap α β) {key : α} (hkey : (key == key) = true)
    (value : β) : (m.insert key value).find? key = some value := by
  obtain ⟨entries⟩ := m
  simp only [find?, insert]
  induction entries with
  | nil => simp [insertIn, findIn, hkey]
  | cons entry rest ih =>
    obtain ⟨other, old⟩ := entry
    by_cases h : (other == key) = true
    · simp [insertIn, findIn, h]
    · simpa [insertIn, findIn, h] using ih

/-- Where one value of a map is another, look-ups come out the same but for finding that value. -/
theorem find?_replace (before after : List (α × β)) (other key : α) (old new : β) :
    (⟨before ++ (other, new) :: after⟩ : OrderedMap α β).find? key =
        (⟨before ++ (other, old) :: after⟩ : OrderedMap α β).find? key ∨
      (⟨before ++ (other, old) :: after⟩ : OrderedMap α β).find? key = some old ∧
        (⟨before ++ (other, new) :: after⟩ : OrderedMap α β).find? key = some new := by
  simp only [find?]
  induction before with
  | nil =>
    simp only [List.nil_append, findIn]
    split
    · exact .inr ⟨rfl, rfl⟩
    · exact .inl rfl
  | cons entry rest ih =>
    simp only [List.cons_append, findIn]
    split
    · exact .inl rfl
    · exact ih

/-! ## Levels -/

/-- A map with keys that are told apart, of keys and values with a property each. -/
structure Level (K : α → Prop) (V : β → Prop) (m : OrderedMap α β) : Prop where
  apart : m.keys.Pairwise fun key other => (key == other) = false
  keys : ∀ key ∈ m.keys, K key
  values : ∀ entry ∈ m.entries, V entry.2

namespace Level

variable {K K' : α → Prop} {V V' : β → Prop}

theorem empty : Level K V (OrderedMap.empty : OrderedMap α β) where
  apart := .nil
  keys := fun _ h => nomatch h
  values := fun _ h => nomatch h

theorem imp (h : Level K V m) (hkeys : ∀ key, K key → K' key)
    (hvalues : ∀ value, V value → V' value) : Level K' V' m where
  apart := h.apart
  keys := fun key hkey => hkeys key (h.keys key hkey)
  values := fun entry hentry => hvalues entry.2 (h.values entry hentry)

theorem find? (h : Level K V m) (hfind : m.find? key = some value) : V value := by
  obtain ⟨entry, hmem, -, rfl⟩ := mem_entries_of_find? hfind
  exact h.values entry hmem

theorem getD (h : Level K V m) {default : β} (hdefault : V default) (key : α) :
    V ((m.find? key).getD default) := by
  cases hfind : m.find? key with
  | none => exact hdefault
  | some value => exact h.find? hfind

theorem insert (h : Level K V m) (hkey : K key) (hvalue : V value) :
    Level K V (m.insert key value) where
  apart := by
    rw [keys_insert]
    split
    · exact h.apart
    · rename_i hcontains
      -- nothing was found under the new key, so it is told apart from every key before it
      have hnone : m.find? key = none := by simpa [contains] using hcontains
      refine List.pairwise_append.mpr ⟨h.apart, List.pairwise_singleton _ _, ?_⟩
      intro other hother last hlast
      rw [List.mem_singleton.mp hlast]
      exact find?_eq_none_iff.mp hnone other hother
  keys := by
    intro other hother
    rw [keys_insert] at hother
    split at hother
    · exact h.keys other hother
    · rcases List.mem_append.mp hother with hother | hother
      · exact h.keys other hother
      · rwa [List.mem_singleton.mp hother]
  values := by
    intro entry hentry
    rcases mem_entries_insert hentry with hentry | hentry
    · exact h.values entry hentry
    · rwa [hentry]

theorem ofList {entries : List (α × β)} (hkeys : ∀ entry ∈ entries, K entry.1)
    (hvalues : ∀ entry ∈ entries, V entry.2) : Level K V (.ofList entries) := by
  induction entries using List.reverseRecOn with
  | nil => exact empty
  | append_singleton entries entry ih =>
    rw [ofList_append]
    have hmem : entry ∈ entries ++ [entry] := by simp
    refine insert (ih ?_ ?_) (hkeys entry hmem) (hvalues entry hmem)
    · exact fun e he => hkeys e (List.mem_append_left _ he)
    · exact fun e he => hvalues e (List.mem_append_left _ he)

/-- A level is what its entries give when they are inserted in order. -/
theorem ofList_entries (h : Level K V m) : OrderedMap.ofList m.entries = m := by
  obtain ⟨entries⟩ := m
  have hapart : (entries.map Prod.fst).Pairwise fun key other => (key == other) = false := h.apart
  clear h
  induction entries using List.reverseRecOn with
  | nil => rfl
  | append_singleton entries entry ih =>
    rw [List.map_append] at hapart
    obtain ⟨hfront, -, hlast⟩ := List.pairwise_append.mp hapart
    have hnone : (⟨entries⟩ : OrderedMap α β).find? entry.1 = none :=
      find?_eq_none_iff.mpr fun other hother => hlast other hother entry.1 (by simp)
    rw [ofList_append, ih hfront]
    exact congrArg OrderedMap.mk (entries_insert_of_find?_eq_none hnone entry.2)

end Level

end Phrasebook.OrderedMap
