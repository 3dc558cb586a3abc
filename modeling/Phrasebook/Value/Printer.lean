import Phrasebook.Number.Binary64.Shortest
import Phrasebook.Stack
import Phrasebook.Text.Quoted
import Phrasebook.Value

/-! Values as text. `shown` is the form used in messages, where a text is quoted and a decimal says
that it is one; `toText` is the form put in place of a placeholder, where they are not. Both differ
only at the top: what is inside a value is always shown. An integer beyond the digit limit has no
text at all, nor has a value nested deeper than there is room for, and a value of a caller's own has
the text that it gives. A value with nothing inside needs no room. -/

namespace Phrasebook.Value

open Number

/-- The decimal text of an integer within the digit limit. -/
def integerText (n : Int) : Except Fault String :=
  if Fault.maxIntegerDigits < digitCount n.natAbs then .error (.longInteger none)
  else .ok (String.ofList (signedText n))

def commaSeparated (parts : List String) : String := String.intercalate ", " parts

/-- A catalogue by its locales and the number of its messages. -/
def catalogueText (locales : List String) (messages : Nat) : String :=
  "MessageCatalogue(locales=[" ++ commaSeparated locales ++ "], messages=" ++
    String.ofList (Number.text messages) ++ ")"

/-- The way down the stack to a value that is an item or a key of another one. -/
def itemDepth : Nat := 1

/-- The way down the stack to a value that a record holds. -/
def recordDepth : Nat := 3

mutual

def shown : Value → (room : Nat) → Except Fault String
  | null, _ => .ok "None"
  | bool b, _ => .ok (if b then "True" else "False")
  | int n, _ => integerText n
  | float x _, _ => .ok (String.ofList x.toText)
  | decimal x _, _ => .ok ("Decimal('" ++ String.ofList x.toText ++ "')")
  | text s, _ => .ok (String.ofList (Text.quoted s.toList))
  | bytes data, _ => .ok (String.ofList (Text.quotedBytes data.toList))
  | list items, room =>
    (allShown items room).map fun parts => "[" ++ commaSeparated parts ++ "]"
  | tuple [v], room =>
    (descend itemDepth room fun room => v.shown room).map fun part => "(" ++ part ++ ",)"
  | tuple items, room =>
    (allShown items room).map fun parts => "(" ++ commaSeparated parts ++ ")"
  | map entries, room =>
    (entriesShown entries room).map fun parts => "\x7b" ++ commaSeparated parts ++ "\x7d"
  | catalogue (.map locales) _, room =>
    (descend recordDepth room fun room => keysShown locales room).map fun parts =>
      catalogueText parts (messageCount (.map locales))
  | catalogue _ _, room => descend recordDepth room fun _ => .ok (catalogueText [] 0)
  | loader (.mapping data) _, room =>
    (descend recordDepth room fun room => data.shown room).map fun part =>
      "MappingCatalogueLoader(data=" ++ part ++ ")"
  | loader (.document content) _, room =>
    (descend recordDepth room fun room => content.shown room).map fun part =>
      "JsonCatalogueLoader(document=" ++ part ++ ")"
  | loader (.file _) _, room =>
    descend recordDepth room fun _ => .ok "PathCatalogueLoader(path='<path>')"
  | loader (.own _ _) _, _ => .ok "<catalogue>"
  | own _ made _ _, _ => made

/-- The items of a value. -/
def allShown : List Value → (room : Nat) → Except Fault (List String)
  | [], _ => .ok []
  | v :: rest, room => do
    return (← descend itemDepth room fun room => v.shown room) :: (← allShown rest room)

def entriesShown : List (Value × Value) → (room : Nat) → Except Fault (List String)
  | [], _ => .ok []
  | (key, v) :: rest, room => do
    let key ← descend itemDepth room fun room => key.shown room
    let v ← descend itemDepth room fun room => v.shown room
    return (key ++ ": " ++ v) :: (← entriesShown rest room)

/-- The locales of a catalogue. -/
def keysShown : List (Value × Value) → (room : Nat) → Except Fault (List String)
  | [], _ => .ok []
  | (key, _) :: rest, room => do return (← key.shown room) :: (← keysShown rest room)

end

def toText : Value → (room : Nat) → Except Fault String
  | text s, _ => .ok s
  | decimal x _, _ => .ok (String.ofList x.toText)
  | own _ _ made _, _ => made
  | v, room => v.shown room

section

variable [Stack]

/-- A value in messages, at a place. -/
def shownAt (v : Value) (place : Place) : Except Fault String := v.shown (Stack.room place)

/-- A value in place of a placeholder, at a place. -/
def toTextAt (v : Value) (place : Place) : Except Fault String := v.toText (Stack.room place)

@[simp] theorem toTextAt_text (s : String) (place : Place) : (text s).toTextAt place = .ok s := rfl

end

end Phrasebook.Value
