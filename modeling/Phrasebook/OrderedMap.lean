/-! Maps that keep the order in which their keys were first inserted. Overwriting an entry leaves
its key in place, so the order of the keys depends on their first insertions alone. Keys are
compared by `==`, which need not tell all keys apart; the laws below are stated for keys that
equal nothing but themselves. -/

namespace Phrasebook

structure OrderedMap (α β : Type) where
  entries : List (α × β)

/-- A key that equals itself and nothing else. -/
structure ExactKey {α : Type} [BEq α] (key : α) : Prop where
  beq_self : (key == key) = true
  eq_of_beq : ∀ other, (other == key) = true → other = key

theorem ExactKey.of_lawful {α : Type} [BEq α] [LawfulBEq α] (key : α) : ExactKey key where
  beq_self := beq_self_eq_true key
  eq_of_beq := fun _ h => LawfulBEq.eq_of_beq h

namespace OrderedMap

variable {α β : Type} [BEq α]

def empty : OrderedMap α β := ⟨[]⟩

def keys (m : OrderedMap α β) : List α := m.entries.map Prod.fst

def size (m : OrderedMap α β) : Nat := m.entries.length

def isEmpty (m : OrderedMap α β) : Bool := m.entries.isEmpty

def findIn (key : α) : List (α × β) → Option β
  | [] => none
  | (other, value) :: rest => if other == key then some value else findIn key rest

def insertIn (key : α) (value : β) : List (α × β) → List (α × β)
  | [] => [(key, value)]
  | (other, old) :: rest =>
    if other == key then (other, value) :: rest else (other, old) :: insertIn key value rest

def find? (m : OrderedMap α β) (key : α) : Option β := findIn key m.entries

def contains (m : OrderedMap α β) (key : α) : Bool := (m.find? key).isSome

/-- Overwrites the entry of a key, or appends one. -/
def insert (m : OrderedMap α β) (key : α) (value : β) : OrderedMap α β :=
  ⟨insertIn key value m.entries⟩

/-- Inserts entries one after another: a repeated key keeps its first place and last value. -/
def ofList (entries : List (α × β)) : OrderedMap α β :=
  entries.foldl (fun m entry => m.insert entry.1 entry.2) empty

@[simp] theorem find?_empty (key : α) : (empty : OrderedMap α β).find? key = none := rfl

theorem find?_insert_self (m : OrderedMap α β) {key : α} (hkey : ExactKey key) (value : β) :
    (m.insert key value).find? key = some value := by
  obtain ⟨entries⟩ := m
  simp only [find?, insert]
  induction entries with
  | nil => simp [insertIn, findIn, hkey.beq_self]
  | cons entry rest ih =>
    obtain ⟨other, old⟩ := entry
    by_cases h : (other == key) = true
    · simp [insertIn, findIn, h]
    · simpa [insertIn, findIn, h] using ih

theorem find?_insert_of_ne (m : OrderedMap α β) {key other : α} (hkey : ExactKey key)
    (hne : (key == other) = false) (value : β) :
    (m.insert key value).find? other = m.find? other := by
  obtain ⟨entries⟩ := m
  simp only [find?, insert]
  induction entries with
  | nil => simp [insertIn, findIn, hne]
  | cons entry rest ih =>
    obtain ⟨first, old⟩ := entry
    by_cases h : (first == key) = true
    · obtain rfl := hkey.eq_of_beq first h
      simp [insertIn, findIn, h, hne]
    · simp only [insertIn, h, findIn]
      simp [findIn, ih]

theorem keys_insert_of_contains (m : OrderedMap α β) {key : α} (value : β)
    (h : m.contains key = true) : (m.insert key value).keys = m.keys := by
  obtain ⟨entries⟩ := m
  simp only [keys, insert, contains, find?] at h ⊢
  induction entries with
  | nil => simp [findIn] at h
  | cons entry rest ih =>
    obtain ⟨other, old⟩ := entry
    by_cases hother : (other == key) = true
    · simp [insertIn, hother]
    · simp only [findIn, hother, Bool.false_eq_true, if_false] at h
      simp [insertIn, hother, ih h]

theorem keys_insert_of_not_contains (m : OrderedMap α β) {key : α} (value : β)
    (h : m.contains key = false) : (m.insert key value).keys = m.keys ++ [key] := by
  obtain ⟨entries⟩ := m
  simp only [keys, insert, contains, find?] at h ⊢
  induction entries with
  | nil => rfl
  | cons entry rest ih =>
    obtain ⟨other, old⟩ := entry
    by_cases hother : (other == key) = true
    · simp [findIn, hother] at h
    · simp only [findIn, hother, Bool.false_eq_true, if_false] at h
      simp [insertIn, hother, ih h]

end OrderedMap

end Phrasebook
