import Phrasebook.Catalogue.Document
import Phrasebook.Proofs.Catalogue.Format
import Phrasebook.Proofs.Json.Reading
import Phrasebook.Proofs.Text.Utf8

/-! Reading a catalogue from a serialized document, and every way of failing in it. Data with texts
for keys are refused as malformed and no other way, so whatever else a document fails by comes of
its bytes, which may be no text, or of its text, which may have an integer of too many digits or
values nested too deep. -/

namespace Phrasebook

open Number

/-- Every key that is reached is a text. -/
theorem Value.TextKeyed.isText {v key : Value} (h : v.TextKeyed) (hkey : v.HasKey key) :
    key.IsText := by
  induction h with
  | map hkeys _ ih =>
    cases hkey with
    | outer hmem =>
      obtain ⟨entry, hentry, rfl⟩ := List.mem_map.mp hmem
      exact hkeys entry hentry
    | inner hentry hinner => exact ih _ hentry hinner
  | plain hplain => cases hkey <;> cases hplain

namespace Catalogue

section

variable [Stack]

/-! ## Texts -/

/-- A fault of a text: it is no catalogue, or beyond what is read at all. -/
def RefusesText (depth : Nat) (text : String) (fault : Fault) : Prop :=
  fault.IsMalformed ∨ Json.Refuses depth text.toList (.fault fault)

omit [Stack] in
theorem refusesText_faultOf {depth : Nat} {text : String} {stop : Json.Stop}
    (h : Json.Refuses depth text.toList stop) :
    RefusesText depth text (Json.faultOf text.toList stop) := by
  cases h with
  | malformed reason rest => exact .inl ⟨_, rfl⟩
  | longInteger hin hdigits hlong => exact .inr (.longInteger hin hdigits hlong)
  | nestedTooDeep h => exact .inr (.nestedTooDeep h)

/-- Texts are read alike however they were given, but for a byte order mark. -/
theorem failsBy_readDecoded (depth : Nat) (text : String) :
    FailsBy (RefusesText depth text) (do ofValue (← Json.readDecoded depth text)) := by
  unfold Json.readDecoded
  rcases Json.readDocument_cases depth text.toList with ⟨v, hread, hv⟩ | ⟨stop, hread, hstop⟩
  · rw [hread]
    refine (refuses_ofValue v).mono fun fault hfault => ?_
    rcases hfault with hfault | ⟨key, hkey, htext, -⟩
    · exact .inl hfault
    · exact absurd (hv.isText hkey) htext
  · rw [hread]
    exact .error (refusesText_faultOf hstop)

theorem failsBy_ofText (depth : Nat) (text : String) :
    FailsBy (RefusesText depth text) (ofText depth text) := by
  unfold ofText Json.read
  split
  · exact .error (.inl ⟨_, rfl⟩)
  · exact failsBy_readDecoded depth text

/-- Without a byte order mark a text is read as it would be when decoded from bytes. -/
theorem ofText_of_unmarked {text : String} (hmark : text.toList.head? ≠ some '\ufeff')
    (depth : Nat) : ofText depth text = (do ofValue (← Json.readDecoded depth text)) := by
  unfold ofText Json.read
  split
  · rename_i heq
    rw [heq] at hmark
    exact absurd rfl hmark
  · rfl

/-- A text and its bytes give the same, unless its first bytes tell another encoding or a mark. -/
theorem ofBytes_toUTF8 {text : String} (hzero : '\x00' ∉ text.toList)
    (hmark : text.toList.head? ≠ some '\ufeff') (depth : Nat) :
    ofBytes depth text.toUTF8 = ofText depth text := by
  rw [ofText_of_unmarked hmark, ofBytes, Text.decode?_toUTF8 hzero hmark]

/-! ## Documents -/

/-- A document that can be read: a text or bytes. -/
inductive IsDocument : Value → Prop
  | text (s : String) : IsDocument (.text s)
  | bytes (data : ByteArray) : IsDocument (.bytes data)

/-- The text of a document, none of bytes that are not text. -/
def documentText? : Value → Option String
  | .text s => some s
  | .bytes data => Text.decode? data
  | _ => none

/-- A text within the limits of what is read: of its digits no more stand together than an integer
may have, and it opens no more brackets than may be nested. -/
structure WithinLimits (depth : Nat) (text : String) : Prop where
  digits : ∀ ds, ds <:+: text.toList → (∀ c ∈ ds, isPlainDigit c = true) →
    ds.length ≤ Fault.maxIntegerDigits
  brackets : text.toList.countP Json.isOpening ≤ depth

omit [Stack] in
theorem WithinLimits.isMalformed {depth : Nat} {text : String} {fault : Fault}
    (h : WithinLimits depth text) (hfault : RefusesText depth text fault) : fault.IsMalformed := by
  rcases hfault with hfault | hfault
  · exact hfault
  · cases hfault with
    | longInteger hin hdigits hlong => exact absurd hlong (Nat.not_lt.mpr (h.digits _ hin hdigits))
    | nestedTooDeep hdeep => exact absurd hdeep (Nat.not_lt.mpr h.brackets)

section

variable {depth : Nat} {document : Value} {text : String}

theorem ofDocument_of_documentText?_eq_none (hdocument : IsDocument document)
    (h : documentText? document = none) : ofDocument depth document = .error .undecodableBytes := by
  cases hdocument with
  | text s => cases h
  | bytes data =>
    have hdecode : Text.decode? data = none := h
    rw [ofDocument, ofBytes, hdecode]
    rfl

theorem failsBy_ofDocument (hdocument : IsDocument document)
    (h : documentText? document = some text) :
    FailsBy (RefusesText depth text) (ofDocument depth document) := by
  cases hdocument with
  | text s =>
    obtain rfl := Option.some.inj h
    exact failsBy_ofText depth s
  | bytes data =>
    have hdecode : Text.decode? data = some text := h
    rw [ofDocument, ofBytes, hdecode]
    exact failsBy_readDecoded depth text

omit [Stack] in
theorem not_refusesText_undecodableBytes : ¬ RefusesText depth text .undecodableBytes := by
  rintro (⟨cause, h⟩ | h)
  · cases h
  · cases h

variable (depth) in
/-- A document fails as one of bytes that are no text exactly when it is that, and otherwise as a
catalogue that is malformed, unless its text goes beyond what is read at all. -/
theorem serialized_catalogue_faults (hdocument : IsDocument document) :
    (ofDocument depth document = .error .undecodableBytes ↔ documentText? document = none) ∧
      ∀ text, documentText? document = some text →
        FailsBy (RefusesText depth text) (ofDocument depth document) ∧
          (WithinLimits depth text → FailsBy Fault.IsMalformed (ofDocument depth document)) := by
  refine ⟨⟨fun hfault => ?_, ofDocument_of_documentText?_eq_none hdocument⟩, fun text htext => ?_⟩
  · cases htext : documentText? document with
    | none => rfl
    | some text =>
      exact absurd (failsBy_ofDocument hdocument htext _ hfault) not_refusesText_undecodableBytes
  · have hfails : FailsBy (RefusesText depth text) (ofDocument depth document) :=
      failsBy_ofDocument hdocument htext
    exact ⟨hfails, fun hlimits => hfails.mono fun fault => hlimits.isMalformed⟩

end

end

section

attribute [local instance] Stack.ample

/-- A byte that begins no character, and a text within the limits that is no catalogue. -/
theorem serialized_catalogue_faults_examples :
    (ofDocument 990 (.bytes ⟨#[0xff]⟩) = .error .undecodableBytes ↔
        documentText? (.bytes ⟨#[0xff]⟩) = none) ∧
      (documentText? (.text "[1]") = some "[1]" ∧ WithinLimits 990 "[1]" ∧
        FailsBy Fault.IsMalformed (ofDocument 990 (.text "[1]"))) := by
  have hlimits : WithinLimits 990 "[1]" := by
    refine ⟨fun ds hds _ => ?_, by decide⟩
    exact Nat.le_trans hds.length_le (by decide)
  exact ⟨(serialized_catalogue_faults 990 (.bytes ⟨#[0xff]⟩)).1, rfl, hlimits,
    ((serialized_catalogue_faults 990 (.text "[1]")).2 _ rfl).2 hlimits⟩

end

/-! ## Beyond the limits -/

section

variable [Stack]

theorem ofText_of_readDocument {depth : Nat} {cs : List Char} {stop : Json.Stop}
    (hmark : cs.head? ≠ some '\ufeff') (h : Json.readDocument depth cs = .error stop) :
    ofText depth (String.ofList cs) = .error (Json.faultOf cs stop) := by
  rw [ofText_of_unmarked (by rwa [String.toList_ofList]), Json.readDecoded, String.toList_ofList, h]
  rfl

/-- An integer of too many digits is no catalogue and is not refused as malformed. -/
theorem ofDocument_digits (depth : Nat) {ds : List Char}
    (hdigits : ∀ c ∈ ds, isPlainDigit c = true) (hzero : ds.head? ≠ some '0')
    (hlong : Fault.maxIntegerDigits < ds.length) :
    ofDocument depth (.text (String.ofList ds)) = .error (.longInteger (some ds.length)) := by
  refine ofText_of_readDocument ?_ (Json.readDocument_digits depth hdigits hzero hlong)
  intro hmark
  exact absurd (hdigits _ (List.mem_of_head? hmark)) (by decide)

/-- More brackets than may be nested are not refused as malformed, whatever comes after them. -/
theorem ofDocument_brackets (depth : Nat) (rest : List Char) :
    ofDocument depth (.text (String.ofList (List.replicate (depth + 1) '[' ++ rest))) =
      .error .nestedTooDeep :=
  ofText_of_readDocument
    (by rw [List.replicate_succ, List.cons_append, List.head?_cons]; decide)
    (Json.readDocument_brackets depth rest)

end

section

attribute [local instance] Stack.ample

/-- Documents that are neither a catalogue nor refused as malformed: a byte that begins no
character, an integer of one digit too many, and one bracket more than may be nested, however many
that are. -/
theorem documents_not_malformed :
    ofDocument 990 (.bytes ⟨#[0xff]⟩) = .error .undecodableBytes ∧
      ofDocument 990 (.text (String.ofList (List.replicate 4301 '1'))) =
        .error (.longInteger (some 4301)) ∧
      ∀ depth, ofDocument depth (.text (String.ofList (List.replicate (depth + 1) '['))) =
        .error .nestedTooDeep := by
  refine ⟨?_, ?_, fun depth => ?_⟩
  · refine ofDocument_of_documentText?_eq_none (.bytes _) ?_
    decide +kernel
  · have hdigits : ∀ c ∈ List.replicate 4301 '1', isPlainDigit c = true := by
      intro c hc
      rw [List.eq_of_mem_replicate hc]
      rfl
    have hfault := ofDocument_digits 990 hdigits (by decide) (by rw [List.length_replicate]; decide)
    rwa [List.length_replicate] at hfault
  · have hfault := ofDocument_brackets depth []
    rwa [List.append_nil] at hfault

end

end Catalogue

end Phrasebook
