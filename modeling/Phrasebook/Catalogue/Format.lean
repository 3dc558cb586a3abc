import Phrasebook.Catalogue

/-! Catalogue data: nested mappings of locale, domain and message id to a template. Every level is
a mapping with texts for keys, and every template is a text that is not empty; levels may be empty.
The first offence is reported, in the order of the data, with its place; the keys of a level are
checked before anything below it. -/

namespace Phrasebook.Catalogue

variable [Stack]

/-- A place in the data, extended by a key. -/
def place (path key : String) : String :=
  path ++ "[" ++ String.ofList (Text.quoted key.toList) ++ "]"

/-- The key of an entry at some place. -/
def checkKey (path : String) : Value → Except Fault String
  | .text key => .ok key
  | key => do throw (.malformed (.keyNotText path (← key.shownAt .dataKey)))

/-- The entries of a mapping with texts for keys. -/
def checkLevel (path : String) : Value → Except Fault (List (String × Value))
  | .map entries => entries.mapM fun (key, value) => return (← checkKey path key, value)
  | v => .error (.malformed (.notMapping path v.kind))

/-- Reads a level: its entries by a reader that is told their place. -/
def readLevel {β : Type} (path : String) (readEntry : String → Value → Except Fault β)
    (data : Value) : Except Fault (OrderedMap Value β) := do
  let entries ← (← checkLevel path data).mapM fun (key, value) =>
    return (Value.text key, ← readEntry (place path key) value)
  return .ofList entries

/-- Reads catalogue data. -/
def ofValue (data : Value) : Except Fault Catalogue :=
  (readLevel "catalogue" (fun path => readLevel path (fun path => readLevel path checkTemplate))
    data).map .mk

end Phrasebook.Catalogue

namespace Phrasebook.Value

/-- A catalogue given as a whole. -/
def catalogueOf [Stack] (data : Value) (mark : Mark) : Except Fault Value := do
  let c ← Catalogue.ofValue data
  return .catalogue c.toValue mark

end Phrasebook.Value
