import Phrasebook.Proofs.Catalogue.Decoding
import Phrasebook.Proofs.Catalogue.Reload
import Phrasebook.Proofs.Json.Written

/-! Serializing the contents of a catalogue and reading them from the document. Contents are
locales, domains and message ids, none of them twice on its level, with templates that are not
empty; keys and templates are any texts, and levels may be empty. The document gives the contents
back with every level in its order, as a text and as the bytes of it. -/

namespace Phrasebook

/-- A text that is not empty. -/
abbrev TemplateText := { s : String // s ≠ "" }

abbrev Contents := Layer (Layer (Layer TemplateText))

namespace Contents

open Json

def toValue (contents : Contents) : Value :=
  Layer.toValue (Layer.toValue (Layer.toValue fun template => .text template.1)) contents

/-- The contents as a catalogue. -/
def catalogue (contents : Contents) : Catalogue :=
  ⟨Layer.toMap (Layer.toMap (Layer.toMap Subtype.val)) contents⟩

def writeMessages (spelling : Spelling) (messages : Layer TemplateText) : List Char :=
  writeObject spelling (fun template => writeText spelling template.1) messages.entries

def writeDomains (spelling : Spelling) (domains : Layer (Layer TemplateText)) : List Char :=
  writeObject spelling (writeMessages spelling) domains.entries

/-- The contents as a serialized document. -/
def document (spelling : Spelling) (contents : Contents) : String :=
  String.ofList (writeObject spelling (writeDomains spelling) contents.entries)

theorem toValue_catalogue (contents : Contents) :
    contents.catalogue.toValue = contents.toValue := by
  simp [Catalogue.toValue, catalogue, toValue, Layer.toValue, Layer.toMap, OrderedMap.underTexts]

theorem keyed_catalogue (contents : Contents) : contents.catalogue.Keyed Value.IsText :=
  Layer.level_toMap (fun domains => domains.level_toMap fun messages => messages.level_toMap
    fun template => template.2) contents

theorem readBack_document (spelling : Spelling) :
    ReadBack (fun contents : Contents => (contents.document spelling).toList) toValue 3 := by
  simp only [document, String.toList_ofList]
  exact readBack_object (readBack_object (readBack_object
    (readBack_text spelling fun template : TemplateText => template.1) spelling) spelling) spelling

end Contents

namespace Catalogue

section

variable [Stack] {depth : Nat}

theorem ofText_document (hdepth : 3 ≤ depth) (spelling : Json.Spelling) (contents : Contents) :
    ofText depth (contents.document spelling) = .ok contents.catalogue := by
  have hread := (Contents.readBack_document spelling).readDocument hdepth contents
  rw [ofText_of_unmarked (by simp [Contents.document, Json.writeObject]), Json.readDecoded, hread,
    ← contents.toValue_catalogue]
  exact ofValue_toValue contents.keyed_catalogue

/-- Reading a document gives back the contents that were serialized, level by level in their order,
from its text and from its bytes, so long as three levels can be nested. -/
theorem decoding_undoes_serialization (hdepth : 3 ≤ depth) (spelling : Json.Spelling)
    (contents : Contents) :
    (ofDocument depth (.text (contents.document spelling))).map toValue = .ok contents.toValue ∧
      (ofDocument depth (.bytes (contents.document spelling).toUTF8)).map toValue =
        .ok contents.toValue := by
  have hbytes : ofBytes depth (contents.document spelling).toUTF8 =
      ofText depth (contents.document spelling) :=
    ofBytes_toUTF8 ((Contents.readBack_document spelling).nonzero contents)
      (by simp [Contents.document, Json.writeObject]) depth
  rw [ofDocument, ofDocument, hbytes, ofText_document hdepth]
  exact ⟨congrArg Except.ok contents.toValue_catalogue,
    congrArg Except.ok contents.toValue_catalogue⟩

end

section

attribute [local instance] Stack.ample

/-- A greeting in one locale, and another locale that has nothing. -/
def greetingContents : Contents where
  entries := [
    ("en", ⟨[("m", ⟨[("hi", ⟨"Hi \"you\"", by decide⟩)], by decide⟩)], by decide⟩),
    ("de", ⟨[], by decide⟩)]
  distinct := by decide

theorem decoding_undoes_serialization_of_greeting :
    3 ≤ 3 ∧
      (ofDocument 3 (.text (greetingContents.document .escaped))).map toValue =
        .ok (.map [
          (.text "en", .map [(.text "m", .map [(.text "hi", .text "Hi \"you\"")])]),
          (.text "de", .map [])]) :=
  ⟨Nat.le_refl 3, (decoding_undoes_serialization (Nat.le_refl 3) .escaped greetingContents).1⟩

end

end Catalogue

end Phrasebook
