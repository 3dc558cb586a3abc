import Phrasebook.Text.Split
import Phrasebook.Value.Printer

/-! Placeholders. Each parameter replaces every occurrence of its key by the text of its value, one
parameter after another in their order, so a key may meet text that an earlier value brought in. A
key that is absent or empty replaces nothing. -/

namespace Phrasebook.Placeholder

variable [Stack]

/-- Replaces the occurrences of one key. -/
def substitute (message key value : String) : String :=
  String.ofList (Text.replaceAll key.toList value.toList message.toList)

def replaceEntries (message : String) : List (Value × Value) → Except Fault String
  | [] => .ok message
  | (key, value) :: rest =>
    if key.isTruthy then do
      let shown ← value.toTextAt .parameter
      match key with
      | .text key => replaceEntries (substitute message key shown) rest
      | _ => .error .wrongType
    else replaceEntries message rest

/-- Replaces the placeholders of a message by the values of its parameters. -/
def replace (message : String) (parameters : Value) : Except Fault String :=
  if !parameters.isTruthy then .ok message
  else match parameters with
    | .map entries => replaceEntries message entries
    | _ => .error .missingOperation

/-- Why nothing can be replaced in a value that is no text: bytes take no text in, and the other
kinds of value have no parts to replace. -/
def refuse (message value : Value) : Except Fault Value :=
  match message with
  | .bytes _ => do
    let _ ← value.toTextAt .parameter
    throw .wrongType
  | _ => .error .missingOperation

/-- Replaces the placeholders of a message of any kind. One that is no text is refused at the first
key that is not empty, and stays as it is without one. -/
def replaceIn (message parameters : Value) : Except Fault Value :=
  match message with
  | .text s => (replace s parameters).map .text
  | message =>
    if !parameters.isTruthy then .ok message
    else match parameters with
      | .map entries =>
        match entries.find? (·.1.isTruthy) with
        | some (_, value) => refuse message value
        | none => .ok message
      | _ => .error .missingOperation

end Phrasebook.Placeholder
