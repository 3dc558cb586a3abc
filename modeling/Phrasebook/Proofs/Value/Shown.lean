import Phrasebook.Proofs.Fault.Outcome
import Phrasebook.Value.Printer

/-! Which values can be shown. What is inside a value is shown with it, so three things keep a value
from being shown: it is nested deeper than there is room for, or it is or holds an integer of too
many digits, or a value of a caller's own that has no text itself. -/

namespace Phrasebook.Value

open Number

mutual

/-- The way down the stack to the deepest value that is shown with a value. -/
def depth : Value → Nat
  | list items | tuple items => itemsDepth items
  | map entries => entriesDepth entries
  | catalogue (.map locales) _ => recordDepth + keysDepth locales
  | catalogue _ _ => recordDepth
  | loader (.mapping data) _ => recordDepth + data.depth
  | loader (.document content) _ => recordDepth + content.depth
  | loader (.file _) _ => recordDepth
  | _ => 0

def itemsDepth : List Value → Nat
  | [] => 0
  | v :: rest => max (itemDepth + v.depth) (itemsDepth rest)

def entriesDepth : List (Value × Value) → Nat
  | [] => 0
  | (key, v) :: rest =>
    max (max (itemDepth + key.depth) (itemDepth + v.depth)) (entriesDepth rest)

def keysDepth : List (Value × Value) → Nat
  | [] => 0
  | (key, _) :: rest => max key.depth (keysDepth rest)

end

/-- A value that has no text on its own account, and the fault that says why. -/
inductive HasNoText : Value → Fault → Prop
  | long {n : Int} (h : Fault.maxIntegerDigits < digitCount n.natAbs) :
      HasNoText (int n) (.longInteger none)
  | own (kind : String) (fault : Fault) (text : Except Fault String) (mark : Mark) :
      HasNoText (own kind (.error fault) text mark) fault

/-- A value with a property, or one that holds such a value where it would be shown. -/
inductive Holds (P : Value → Prop) : Value → Prop
  | self {v : Value} (h : P v) : Holds P v
  | item {items : List Value} {v : Value} (hv : v ∈ items) (h : v.Holds P) : Holds P (list items)
  | part {items : List Value} {v : Value} (hv : v ∈ items) (h : v.Holds P) : Holds P (tuple items)
  | key {entries : List (Value × Value)} {entry : Value × Value} (hentry : entry ∈ entries)
      (h : entry.1.Holds P) : Holds P (map entries)
  | value {entries : List (Value × Value)} {entry : Value × Value} (hentry : entry ∈ entries)
      (h : entry.2.Holds P) : Holds P (map entries)
  | locale {locales : List (Value × Value)} {entry : Value × Value} {mark : Mark}
      (hentry : entry ∈ locales) (h : entry.1.Holds P) : Holds P (catalogue (map locales) mark)
  | data {data : Value} {mark : Mark} (h : data.Holds P) : Holds P (loader (.mapping data) mark)
  | content {content : Value} {mark : Mark} (h : content.Holds P) :
      Holds P (loader (.document content) mark)

/-- Why a value cannot be shown, as a fault tells it. -/
inductive Hinders (room : Nat) (v : Value) : Fault → Prop
  | deep (h : room < v.depth) : Hinders room v .nestedTooDeep
  | held {fault : Fault} (h : v.Holds fun inner => inner.HasNoText fault) : Hinders room v fault

/-! ## What showing fails by -/

/-- An outcome that fails, if it does, for want of room, or by a fault of something that is there.
-/
abbrev FailsWithin {α : Type} (room way : Nat) (isThere : Fault → Prop) (e : Except Fault α) :
    Prop :=
  FailsBy (fun fault => (fault = .nestedTooDeep ∧ room < way) ∨ isThere fault) e

section

variable {α : Type} {room way way' : Nat} {isThere isThere' : Fault → Prop} {e : Except Fault α}

theorem FailsWithin.imp (he : FailsWithin room way isThere e) (hway : way ≤ way')
    (h : ∀ fault, isThere fault → isThere' fault) : FailsWithin room way' isThere' e :=
  he.mono fun fault hfault =>
    hfault.imp (fun hdeep => ⟨hdeep.1, Nat.lt_of_lt_of_le hdeep.2 hway⟩) (h fault)

theorem failsWithin_descend {inside : Nat → Except Fault α} (step : Nat)
    (h : ∀ room, FailsWithin room way isThere (inside room)) :
    FailsWithin room (step + way) isThere (descend step room inside) := by
  unfold descend
  split
  · exact .error (.inl ⟨rfl, by omega⟩)
  · exact (h (room - step)).mono fun fault hfault =>
      hfault.imp (fun hdeep => ⟨hdeep.1, by omega⟩) id

theorem failsWithin_descend_ok (step : Nat) (a : α) :
    FailsWithin room step isThere (descend step room fun _ => .ok a) := by
  have hinside (room : Nat) : FailsWithin room 0 isThere (.ok a : Except Fault α) := .ok a
  exact failsWithin_descend step hinside

end

mutual

theorem failsWithin_shown (v : Value) (room : Nat) :
    FailsWithin room v.depth (fun fault => v.Holds fun inner => inner.HasNoText fault)
      (v.shown room) := by
  match v with
  | null | bool _ | float _ _ | decimal _ _ | text _ | bytes _ => exact .ok _
  | int n =>
    unfold shown integerText
    split
    · rename_i h
      exact .error (.inr (.self (.long h)))
    · exact .ok _
  | list items =>
    exact .map _ ((failsWithin_allShown items room).imp (Nat.le_refl _)
      fun _ ⟨_, hv, h⟩ => .item hv h)
  | tuple [] => exact .ok _
  | tuple [v] =>
    refine .map _ ((failsWithin_descend itemDepth (failsWithin_shown v)).imp ?_
      fun _ h => .part List.mem_cons_self h)
    exact Nat.le_max_left _ _
  | tuple (v :: w :: rest) =>
    exact .map _ ((failsWithin_allShown (v :: w :: rest) room).imp (Nat.le_refl _)
      fun _ ⟨_, hv, h⟩ => .part hv h)
  | map entries =>
    refine .map _ ((failsWithin_entriesShown entries room).imp (Nat.le_refl _) ?_)
    exact fun _ ⟨_, hentry, h⟩ => h.elim (.key hentry) (.value hentry)
  | catalogue (.map locales) _ =>
    refine .map _ ((failsWithin_descend recordDepth (failsWithin_keysShown locales)).imp
      (Nat.le_refl _) ?_)
    exact fun _ ⟨_, hentry, h⟩ => .locale hentry h
  | catalogue null _ | catalogue (.bool _) _ | catalogue (.int _) _ | catalogue (.float _ _) _
  | catalogue (.decimal _ _) _ | catalogue (.text _) _ | catalogue (.bytes _) _
  | catalogue (.list _) _ | catalogue (.tuple _) _ | catalogue (.catalogue _ _) _
  | catalogue (.loader _ _) _ | catalogue (.own _ _ _ _) _ =>
    exact failsWithin_descend_ok recordDepth _
  | loader (.mapping data) _ =>
    exact .map _ ((failsWithin_descend recordDepth (failsWithin_shown data)).imp (Nat.le_refl _)
      fun _ h => .data h)
  | loader (.document content) _ =>
    exact .map _ ((failsWithin_descend recordDepth (failsWithin_shown content)).imp
      (Nat.le_refl _) fun _ h => .content h)
  | loader (.file _) _ => exact failsWithin_descend_ok recordDepth _
  | loader (.own _ _) _ => exact .ok _
  | own _ (.ok s) _ _ => exact .ok s
  | own kind (.error fault) inText mark =>
    exact .error (.inr (.self (.own kind fault inText mark)))

theorem failsWithin_allShown (items : List Value) (room : Nat) :
    FailsWithin room (itemsDepth items)
      (fun fault => ∃ v ∈ items, v.Holds fun inner => inner.HasNoText fault)
      (allShown items room) := by
  match items with
  | [] => exact .ok []
  | v :: rest =>
    refine .bind ((failsWithin_descend itemDepth (failsWithin_shown v)).imp
      (Nat.le_max_left _ _) fun _ h => ⟨v, List.mem_cons_self, h⟩) fun _ => ?_
    refine .bind ((failsWithin_allShown rest room).imp (Nat.le_max_right _ _) ?_) fun _ => .pure _
    exact fun _ ⟨w, hw, h⟩ => ⟨w, List.mem_cons_of_mem v hw, h⟩

theorem failsWithin_entriesShown (entries : List (Value × Value)) (room : Nat) :
    FailsWithin room (entriesDepth entries)
      (fun fault => ∃ entry ∈ entries, (entry.1.Holds fun inner => inner.HasNoText fault) ∨
        entry.2.Holds fun inner => inner.HasNoText fault)
      (entriesShown entries room) := by
  match entries with
  | [] => exact .ok []
  | (key, v) :: rest =>
    refine .bind ((failsWithin_descend itemDepth (failsWithin_shown key)).imp ?_
      fun _ h => ⟨_, List.mem_cons_self, .inl h⟩) fun _ => ?_
    · exact Nat.le_trans (Nat.le_max_left _ _) (Nat.le_max_left _ _)
    refine .bind ((failsWithin_descend itemDepth (failsWithin_shown v)).imp ?_
      fun _ h => ⟨_, List.mem_cons_self, .inr h⟩) fun _ => ?_
    · exact Nat.le_trans (Nat.le_max_right _ _) (Nat.le_max_left _ _)
    refine .bind ((failsWithin_entriesShown rest room).imp (Nat.le_max_right _ _) ?_)
      fun _ => .pure _
    exact fun _ ⟨entry, hentry, h⟩ => ⟨entry, List.mem_cons_of_mem _ hentry, h⟩

theorem failsWithin_keysShown (entries : List (Value × Value)) (room : Nat) :
    FailsWithin room (keysDepth entries)
      (fun fault => ∃ entry ∈ entries, entry.1.Holds fun inner => inner.HasNoText fault)
      (keysShown entries room) := by
  match entries with
  | [] => exact .ok []
  | (key, _) :: rest =>
    refine .bind ((failsWithin_shown key room).imp (Nat.le_max_left _ _)
      fun _ h => ⟨_, List.mem_cons_self, h⟩) fun _ => ?_
    refine .bind ((failsWithin_keysShown rest room).imp (Nat.le_max_right _ _) ?_)
      fun _ => .pure _
    exact fun _ ⟨entry, hentry, h⟩ => ⟨entry, List.mem_cons_of_mem _ hentry, h⟩

end

/-- A value is shown, or something keeps it from being shown. -/
theorem hinders_of_shown {v : Value} {room : Nat} {fault : Fault}
    (h : v.shown room = .error fault) : Hinders room v fault := by
  rcases failsWithin_shown v room fault h with ⟨rfl, hdeep⟩ | hheld
  · exact .deep hdeep
  · exact .held hheld

/-! ## Values in values -/

/-- A value within so many others. -/
def nested : (levels : Nat) → Value → Value
  | 0, v => v
  | levels + 1, v => tuple [nested levels v]

/-- A value within more others than there is room for is not shown. -/
theorem shown_nested {levels room : Nat} (h : room < levels) (v : Value) :
    (nested levels v).shown room = .error .nestedTooDeep := by
  induction levels generalizing room with
  | zero => cases h
  | succ levels ih =>
    rw [nested, shown, descend]
    split
    · rfl
    · rename_i hroom
      rw [ih (by rw [itemDepth] at hroom ⊢; omega)]
      rfl

theorem isKey_nested {v : Value} (h : v.isKey = true) (levels : Nat) :
    (nested levels v).isKey = true := by
  induction levels with
  | zero => exact h
  | succ levels ih =>
    obtain ⟨atoms, hatoms⟩ := Option.isSome_iff_exists.mp ih
    rw [nested, isKey, key?, keys?, hatoms]
    rfl

/-! ## Texts at a place -/

section

variable [Stack]

/-- A value with a text to show it by at a place. -/
def Shown (place : Place) (v : Value) : Prop := ∃ s, v.shownAt place = .ok s

/-- A value that cannot be shown at a place, with the fault that says why. -/
structure Unshown (place : Place) (v : Value) (fault : Fault) : Prop where
  shownAt_eq : v.shownAt place = .error fault
  hinders : Hinders (Stack.room place) v fault

theorem unshown_iff {place : Place} {v : Value} {fault : Fault} :
    v.Unshown place fault ↔ v.shownAt place = .error fault :=
  ⟨Unshown.shownAt_eq, fun h => ⟨h, hinders_of_shown h⟩⟩

/-- A value within more others than there is room for is not shown. -/
theorem unshown_nested {levels : Nat} {place : Place} (h : Stack.room place < levels) (v : Value) :
    (nested levels v).Unshown place .nestedTooDeep :=
  unshown_iff.mpr (shown_nested h v)

end

end Phrasebook.Value
