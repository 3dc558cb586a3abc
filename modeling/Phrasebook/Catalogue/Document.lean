import Phrasebook.Catalogue.Format
import Phrasebook.Json.Reader

/-! Catalogues from outside: serialized documents, and the loaders that give a whole catalogue and
describe where it comes from. -/

namespace Phrasebook

namespace Catalogue

section

variable [Stack]

/-- Reads a catalogue from a document given as text, nested at most so deep. -/
def ofText (depth : Nat) (document : String) : Except Fault Catalogue := do
  ofValue (← Json.read depth document)

/-- Reads a catalogue from a document given as bytes, in the encoding that they suggest. -/
def ofBytes (depth : Nat) (bytes : ByteArray) : Except Fault Catalogue := do
  match Text.decode? bytes with
  | none => throw .undecodableBytes
  | some document => ofValue (← Json.readDecoded depth document)

/-- Reads a catalogue from a file in UTF-8, whatever its line ends. -/
def ofFile (depth : Nat) (bytes : ByteArray) : Except Fault Catalogue :=
  match Text.decodeLines? bytes with
  | none => .error .undecodableBytes
  | some document => ofText depth document

/-- Reads a catalogue from a serialized document. -/
def ofDocument (depth : Nat) : Value → Except Fault Catalogue
  | .text document => ofText depth document
  | .bytes data => ofBytes depth data
  | _ => .error .wrongType

end

/-- The catalogue of some levels. -/
def ofLevels (levels : List (Value × List (Value × List (Value × String)))) : Catalogue :=
  ⟨.ofList (levels.map fun (locale, domains) =>
    (locale, .ofList (domains.map fun (domain, messages) => (domain, .ofList messages))))⟩

end Catalogue

namespace Loader

/-- Loads the catalogue, which may be empty; a document is read nested at most so deep. -/
def load [Stack] (depth : Nat) : Loader Value → Except Fault Catalogue
  | mapping data => Catalogue.ofValue data
  | document content => Catalogue.ofDocument depth content
  | file none => .error .missingFile
  | file (some bytes) => Catalogue.ofFile depth bytes
  | own given _ => given.map Catalogue.ofLevels

/-- The source of a catalogue, for messages. -/
def describe : Loader Value → Except Fault String
  | mapping data => do
    return "<mapping with " ++ String.ofList (Number.text (← data.size)) ++ " locale(s)>"
  | document content => do
    return "<json document, " ++ String.ofList (Number.text (← content.size)) ++ " chars>"
  | file _ => .ok "<path>"
  | own _ description => description

end Loader

end Phrasebook
