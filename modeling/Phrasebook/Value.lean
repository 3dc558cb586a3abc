import Phrasebook.Fault
import Phrasebook.Number.Binary64
import Phrasebook.OrderedMap
import Phrasebook.Text.Split

/-! Values as callers give them: counts and placeholder values, catalogue data before it is
checked, keys, options. Any value may turn up in any place, so the operations that need a kind of
value say so by a fault.

Keys are compared by what they denote: numbers of every kind by their exact value, texts and bytes
by content, tuples by their items. A value that is equal to none but itself, a NaN for one, bears a
mark that tells it from its likes; it can be a key, and is found again under its mark. A value that
can change, such as a list, cannot be a key. -/

namespace Phrasebook

open Number

/-- Where a whole catalogue can come from. -/
inductive Loader (α : Type) where
  | mapping (data : α)
  | document (content : α)
  /-- A file with its bytes, none when it does not exist. -/
  | file (bytes : Option ByteArray)
  /-- A loader of a caller's own: the levels of the catalogue that it gives, which is taken as it
  is, and how it describes itself. -/
  | own (given : Except Fault (List (α × List (α × List (α × String)))))
    (description : Except Fault String)

/-- Tells apart values that look alike and are equal to none but themselves. Any other value has
the same meaning under every mark. -/
abbrev Mark := Nat

inductive Value where
  | null
  | bool (b : Bool)
  | int (n : Int)
  | float (x : Binary64) (mark : Mark)
  | decimal (x : Decimal) (mark : Mark)
  | text (s : String)
  | bytes (data : ByteArray)
  | list (items : List Value)
  | tuple (items : List Value)
  | map (entries : List (Value × Value))
  /-- A catalogue given as a whole, by its checked data. -/
  | catalogue (data : Value) (mark : Mark)
  | loader (source : Loader Value) (mark : Mark)
  /-- A value of a caller's own kind, known by its texts: the one in messages, and the one in place
  of a placeholder. Making either may fail, as it does for a value that holds itself. -/
  | own (kind : String) (shown text : Except Fault String) (mark : Mark)

namespace Value

instance : Inhabited Value := ⟨null⟩

/-- The entries of a mapping. -/
def entries? : Value → Option (List (Value × Value))
  | map entries => some entries
  | _ => none

/-- Number of messages in catalogue data. -/
def messageCount (data : Value) : Nat :=
  let below (v : Value) : List Value := (v.entries?.getD []).map Prod.snd
  ((below data).flatMap below).foldl (fun n messages => n + (below messages).length) 0

/-- Zero of any kind, nothing, and whatever is empty count as absent. -/
def isTruthy : Value → Bool
  | null => false
  | bool b => b
  | int n => n ≠ 0
  | float x _ => !x.isZero
  | decimal x _ => !x.isZero
  | text s => !s.isEmpty
  | bytes data => !data.isEmpty
  | list items | tuple items => !items.isEmpty
  | map entries => !entries.isEmpty
  | catalogue data _ => data.messageCount ≠ 0
  | loader _ _ | own _ _ _ _ => true

/-- A value, or another one where it is absent. -/
def orElse (v fallback : Value) : Value := if v.isTruthy then v else fallback

/-- The name of a value's kind in messages. -/
def kind : Value → String
  | null => "NoneType"
  | bool _ => "bool"
  | int _ => "int"
  | float _ _ => "float"
  | decimal _ _ => "Decimal"
  | text _ => "str"
  | bytes _ => "bytes"
  | list _ => "list"
  | tuple _ => "tuple"
  | map _ => "dict"
  | catalogue _ _ => "MessageCatalogue"
  | loader (.mapping _) _ => "MappingCatalogueLoader"
  | loader (.document _) _ => "JsonCatalogueLoader"
  | loader (.file _) _ => "PathCatalogueLoader"
  | loader (.own _ _) _ => "StaticLoader"
  | own kind _ _ _ => kind

/-- Number of items, characters or messages. -/
def size : Value → Except Fault Nat
  | text s => .ok s.length
  | bytes data => .ok data.size
  | list items | tuple items => .ok items.length
  | map entries => .ok entries.length
  | catalogue data _ => .ok data.messageCount
  | _ => .error .wrongType

/-- The items met when a value is gone through: characters of a text, keys of a mapping. -/
def items : Value → Except Fault (List Value)
  | text s => .ok (s.toList.map fun c => text (String.ofList [c]))
  | bytes data => .ok (data.toList.map fun b => int b.toNat)
  | list items | tuple items => .ok items
  | map entries => .ok (entries.map Prod.fst)
  | catalogue data _ => .ok ((data.entries?.getD []).map Prod.fst)
  | _ => .error .wrongType

/-- The first items of a value that has them in a row, as a value of its kind. -/
def take (count : Nat) : Value → Except Fault Value
  | text s => .ok (text (String.ofList (s.toList.take count)))
  | bytes data => .ok (bytes (data.extract 0 count))
  | list items => .ok (list (items.take count))
  | tuple items => .ok (tuple (items.take count))
  | _ => .error .wrongType

/-! ## Keys -/

-- the core library's equality of bytes, whatever else is in scope
attribute [local instance (high)] ByteArray.instDecidableEq

/-- A piece of what a key denotes. Numbers are given by their sign, a coefficient that does not
end in zero, and a power of ten. -/
inductive KeyAtom where
  | null
  | number (negative : Bool) (coefficient : Nat) (exponent : Int)
  | infinite (negative : Bool)
  | marked (mark : Mark)
  | text (s : String)
  | bytes (data : ByteArray)
  | tuple (size : Nat)
  | mapping
  | document
  deriving DecidableEq

/-- Takes factors of ten out of a coefficient, as many as the first argument at most. -/
def stripZeros : Nat → Nat → Int → Nat × Int
  | 0, coefficient, exponent => (coefficient, exponent)
  | most + 1, coefficient, exponent =>
    if coefficient % 10 = 0 then stripZeros most (coefficient / 10) (exponent + 1)
    else (coefficient, exponent)

def KeyAtom.ofScaled (negative : Bool) (coefficient : Nat) (exponent : Int) : KeyAtom :=
  if coefficient = 0 then number false 0 0
  else
    let (coefficient, exponent) := stripZeros (digitCount coefficient) coefficient exponent
    number negative coefficient exponent

mutual

/-- What a value denotes as a key, none for a value that cannot be one. -/
def key? : Value → Option (List KeyAtom)
  | null => some [.null]
  | bool b => some [.ofScaled false b.toNat 0]
  | int n => some [.ofScaled (n < 0) n.natAbs 0]
  | float (.finite negative units) _ =>
    some [.ofScaled negative (units * Binary64.unitCoefficient) (-1074)]
  | float (.infinite negative) _ => some [.infinite negative]
  | float .nan mark => some [.marked mark]
  | decimal (.finite negative coefficient exponent) _ =>
    some [.ofScaled negative coefficient exponent]
  | decimal (.infinite negative) _ => some [.infinite negative]
  | decimal (.nan _ signaling _) mark => if signaling then none else some [.marked mark]
  | text s => some [.text s]
  | bytes data => some [.bytes data]
  | list _ => none
  | tuple items => (keys? items).map (.tuple items.length :: ·)
  | map _ => none
  | catalogue _ mark => some [.marked mark]
  | loader (.mapping data) _ => data.key?.map (.mapping :: ·)
  | loader (.document content) _ => content.key?.map (.document :: ·)
  | loader _ mark => some [.marked mark]
  | own _ _ _ mark => some [.marked mark]

def keys? : List Value → Option (List KeyAtom)
  | [] => some []
  | v :: rest => v.key?.bind fun first => (keys? rest).map (first ++ ·)

end

/-- Whether a value can be a key. -/
def isKey (v : Value) : Bool := v.key?.isSome

/-- Keys are equal when they denote the same. -/
instance : BEq Value where
  beq a b := match a.key?, b.key? with
    | some x, some y => x == y
    | _, _ => false

/-- A value that is used as a key. -/
def asKey (v : Value) : Except Fault Value :=
  if v.isKey then .ok v else .error .wrongType

/-- A mapping of the given entries, in order. -/
def mapOf (entries : List (Value × Value)) : Except Fault Value :=
  if entries.all (·.1.isKey) then .ok (map (OrderedMap.ofList entries).entries)
  else .error .wrongType

/-- Whether a text is part of a value: within a text, or else among the items or keys. -/
def holdsText (part : String) : Value → Except Fault Bool
  | text s => .ok (Text.occurs part.toList s.toList)
  | list items | tuple items => .ok (items.any (· == text part))
  | map entries => .ok (entries.any (·.1 == text part))
  | catalogue data _ => .ok ((data.entries?.getD []).any (·.1 == text part))
  | _ => .error .wrongType

@[simp] theorem holdsText_text (part s : String) :
    holdsText part (text s) = .ok (Text.occurs part.toList s.toList) := rfl

/-- A value that can be a key equals itself. -/
theorem beq_self_of_isKey {v : Value} (h : v.isKey = true) : (v == v) = true := by
  obtain ⟨atoms, hatoms⟩ := Option.isSome_iff_exists.mp h
  show (match v.key?, v.key? with
    | some x, some y => x == y
    | _, _ => false) = true
  simp [hatoms]

@[simp] theorem asKey_text (s : String) : asKey (text s) = .ok (text s) := rfl

theorem beq_text (s t : String) : (text s == text t) = (s == t) := by
  show ([KeyAtom.text s] == [KeyAtom.text t]) = (s == t)
  rw [Bool.eq_iff_iff]
  simp

theorem KeyAtom.ofScaled_ne_text (negative : Bool) (coefficient : Nat) (exponent : Int)
    (s : String) : ofScaled negative coefficient exponent ≠ text s := by
  unfold ofScaled
  split <;> simp

theorem eq_text_of_key? {v : Value} {s : String} (h : v.key? = some [.text s]) : v = text s := by
  cases v with
  | text t => simpa [key?] using h
  | float x => cases x <;> simp_all [key?, KeyAtom.ofScaled_ne_text]
  | decimal x => cases x <;> simp_all [key?, KeyAtom.ofScaled_ne_text]
  | loader source => cases source <;> simp_all [key?]
  | _ => simp_all [key?, KeyAtom.ofScaled_ne_text]

/-- A text key equals no key but itself. -/
theorem exactKey_text (s : String) : ExactKey (text s) where
  beq_self := by simp [beq_text]
  eq_of_beq := by
    intro other h
    apply eq_text_of_key?
    change (match other.key?, (text s).key? with
      | some x, some y => x == y
      | _, _ => false) = true at h
    cases hkey : other.key? with
    | none => simp [hkey] at h
    | some x => simpa [hkey, key?] using h

end Value

end Phrasebook
