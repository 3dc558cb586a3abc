import Phrasebook.Proofs.Catalogue.Decoding
import Phrasebook.Proofs.Json.Depth
import Phrasebook.Proofs.Json.LineEnds

/-! The routes by which one serialized document is loaded: as a text, as its bytes, by a loader of
either, and from a file of the bytes. Bytes are found to be UTF-8, and a file differs in its line
ends alone, so with as many levels to nest values in, a document is loaded as the same catalogue by
every route or by none. But a loader goes further down the stack before it reads, which leaves it
fewer levels, and a document may take just the ones that are missing. -/

namespace Phrasebook.Catalogue

/-- A way to load a document. -/
inductive Route where
  | text
  | bytes
  | textLoader
  | bytesLoader
  | file
  deriving DecidableEq, Repr

/-- A catalogue that both give, or malformed data, or a fault that both end by. -/
inductive SameOutcome : Except Fault Catalogue → Except Fault Catalogue → Prop where
  | same (e : Except Fault Catalogue) : SameOutcome e e
  | malformed (cause cause' : Malformation) :
    SameOutcome (.error (.malformed cause)) (.error (.malformed cause'))

namespace SameOutcome

variable {outcome : Except Fault Catalogue}

theorem eq_ok {c : Catalogue} (h : SameOutcome (.ok c) outcome) : outcome = .ok c := by
  cases h with
  | same => rfl

theorem exists_malformed {cause : Malformation}
    (h : SameOutcome (.error (.malformed cause)) outcome) :
    ∃ cause, outcome = .error (.malformed cause) := by
  cases h with
  | same => exact ⟨cause, rfl⟩
  | malformed _ cause' => exact ⟨cause', rfl⟩

theorem eq_error {fault : Fault} (hfault : ¬ fault.IsMalformed)
    (h : SameOutcome (.error fault) outcome) : outcome = .error fault := by
  cases h with
  | same => rfl
  | malformed cause _ => exact absurd ⟨cause, rfl⟩ hfault

end SameOutcome

section

variable [Stack]

/-- Loads a document by a route that leaves so many levels to nest values in. -/
def Route.load (route : Route) (depth : Nat) (document : String) : Except Fault Catalogue :=
  match route with
  | text => ofDocument depth (.text document)
  | bytes => ofDocument depth (.bytes document.toUTF8)
  | textLoader => Loader.load depth (.document (.text document))
  | bytesLoader => Loader.load depth (.document (.bytes document.toUTF8))
  | file => Loader.load depth (.file (some document.toUTF8))

/-- A file of the bytes of a text gives the text with its line ends unified. -/
theorem ofFile_toUTF8 (depth : Nat) (text : String) :
    ofFile depth text.toUTF8 = ofText depth (String.ofList (Text.unifyLineEnds text.toList)) := by
  rw [ofFile, Text.decodeLines?, Text.fromUTF8?_toUTF8]
  rfl

variable {text : String}

theorem sameOutcome_unifyLineEnds (hmark : text.toList.head? ≠ some '\ufeff') (depth : Nat) :
    SameOutcome (ofText depth text)
      (ofText depth (String.ofList (Text.unifyLineEnds text.toList))) := by
  have hmark' : (Text.unifyLineEnds text.toList).head? ≠ some '\ufeff' := by
    intro heq
    rcases Text.head?_unifyLineEnds heq with hhead | hfeed
    · exact hmark hhead
    · cases hfeed
  have halike := Json.alike_document depth text.toList
  rw [ofText_of_unmarked hmark, ofText_of_unmarked (by rwa [String.toList_ofList]),
    Json.readDecoded, Json.readDecoded, String.toList_ofList]
  generalize Json.readDocument depth text.toList = r at halike ⊢
  generalize Json.readDocument depth (Text.unifyLineEnds text.toList) = r' at halike ⊢
  cases halike with
  | ok v => exact .same _
  | malformed => exact .malformed _ _
  | fault fault => exact .same _

/-- Every route comes to the same as reading the text with as many levels. -/
theorem sameOutcome_load (hzero : '\x00' ∉ text.toList)
    (hmark : text.toList.head? ≠ some '\ufeff') (route : Route) (depth : Nat) :
    SameOutcome (ofText depth text) (route.load depth text) := by
  have hbytes : SameOutcome (ofText depth text) (ofDocument depth (.bytes text.toUTF8)) := by
    rw [ofDocument, ofBytes_toUTF8 hzero hmark]
    exact .same _
  cases route with
  | text => exact .same _
  | bytes => exact hbytes
  | textLoader => exact .same _
  | bytesLoader => exact hbytes
  | file =>
    have hfile := sameOutcome_unifyLineEnds hmark depth
    rwa [← ofFile_toUTF8] at hfile

/-- With fewer levels than it opens brackets a text may be nested too deep, and else it gives the
same with any number of levels. -/
theorem ofText_common (hmark : text.toList.head? ≠ some '\ufeff') (depth : Nat) :
    ofText depth text = ofText (text.toList.countP Json.isOpening) text ∨
      depth < text.toList.countP Json.isOpening ∧ ofText depth text = .error .nestedTooDeep := by
  rw [ofText_of_unmarked hmark, ofText_of_unmarked hmark, Json.readDecoded, Json.readDecoded]
  rcases Json.readDocument_common depth text.toList with hsame | ⟨hlt, hdeep⟩
  · rw [hsame]
    exact .inl rfl
  · rw [hdeep]
    exact .inr ⟨hlt, rfl⟩

/-- A text that has no zero character and no byte order mark in front, whatever its line ends, comes
to one outcome by every route: the same catalogue, malformed data, or the same fault, with the one
exception that a route with fewer levels than the text opens brackets may run out of them. Routes
with as many levels as one another come to the same outcome without exception. -/
theorem serialized_routes_agree (hzero : '\x00' ∉ text.toList)
    (hmark : text.toList.head? ≠ some '\ufeff') :
    (∃ common, ∀ (route : Route) (depth : Nat), SameOutcome common (route.load depth text) ∨
      depth < text.toList.countP Json.isOpening ∧
        route.load depth text = .error .nestedTooDeep) ∧
    ∀ depth : Nat, (∃ c, ∀ route : Route, route.load depth text = .ok c) ∨
      (∀ route : Route, ∃ cause, route.load depth text = .error (.malformed cause)) ∨
        ∃ fault, ∀ route : Route, route.load depth text = .error fault := by
  refine ⟨⟨ofText (text.toList.countP Json.isOpening) text, fun route depth => ?_⟩, fun depth => ?_⟩
  · have hsame := sameOutcome_load hzero hmark route depth
    rcases ofText_common hmark depth with hcommon | ⟨hlt, hdeep⟩
    · rw [hcommon] at hsame
      exact .inl hsame
    · rw [hdeep] at hsame
      exact .inr ⟨hlt, hsame.eq_error fun ⟨_, h⟩ => nomatch h⟩
  · have hsame := fun route => sameOutcome_load hzero hmark route depth
    cases hread : ofText depth text with
    | ok c =>
      rw [hread] at hsame
      exact .inl ⟨c, fun route => (hsame route).eq_ok⟩
    | error fault =>
      rw [hread] at hsame
      by_cases hfault : fault.IsMalformed
      · obtain ⟨cause, rfl⟩ := hfault
        exact .inr (.inl fun route => (hsame route).exists_malformed)
      · exact .inr (.inr ⟨fault, fun route => (hsame route).eq_error hfault⟩)

end

section

attribute [local instance] Stack.ample

/-- A document with line ends of every kind between its values. -/
def greetingDocument : String :=
  "\x7b\"en\":\r\n\x7b\"m\":\r\x7b\"hi\": \"Hi\"\x7d\n\x7d\x7d\r"

theorem serialized_routes_agree_on_greeting :
    '\x00' ∉ greetingDocument.toList ∧ greetingDocument.toList.head? ≠ some '\ufeff' ∧
      ∃ c, ∀ route : Route, route.load 3 greetingDocument = .ok c := by
  have hzero : '\x00' ∉ greetingDocument.toList := by decide
  have hmark : greetingDocument.toList.head? ≠ some '\ufeff' := by decide
  have hread : (Route.text.load 3 greetingDocument).isOk = true := by decide +kernel
  refine ⟨hzero, hmark, ?_⟩
  rcases (serialized_routes_agree hzero hmark).2 3 with h | h | ⟨fault, h⟩
  · exact h
  · obtain ⟨cause, hfault⟩ := h .text
    rw [hfault] at hread
    cases hread
  · rw [h .text] at hread
    cases hread

/-- Brackets in brackets that close again. -/
def bracketDocument (levels : Nat) : String :=
  String.ofList (List.replicate (levels + 1) '[' ++ List.replicate (levels + 1) ']')

theorem load_bracketDocument_of_lt {levels depth : Nat} (h : levels < depth) :
    Route.text.load depth (bracketDocument levels) =
      .error (.malformed (.notMapping "catalogue" "list")) := by
  have hmark : (bracketDocument levels).toList.head? ≠ some '\ufeff' := by
    rw [bracketDocument, String.toList_ofList, List.replicate_succ, List.cons_append,
      List.head?_cons]
    decide
  refine (ofText_of_unmarked hmark depth).trans ?_
  rw [Json.readDecoded, bracketDocument, String.toList_ofList, Json.readDocument_nested_brackets h]
  cases levels <;> rfl

theorem load_bracketDocument_of_le {levels depth : Nat} (h : depth ≤ levels) :
    Route.textLoader.load depth (bracketDocument levels) = .error .nestedTooDeep := by
  obtain ⟨more, rfl⟩ := Nat.exists_eq_add_of_le h
  have hsplit : List.replicate (depth + more + 1) '[' =
      List.replicate (depth + 1) '[' ++ List.replicate more '[' := by
    rw [List.replicate_append_replicate, Nat.add_right_comm]
  rw [bracketDocument, hsplit, List.append_assoc]
  exact ofDocument_brackets depth _

/-- A loader is a call further down the stack, which leaves it one level less: where reading a text
has just the levels for it and finds a list, loading the same text runs out of them. -/
theorem loader_runs_out_of_levels :
    Route.text.load 994 (bracketDocument 993) =
        .error (.malformed (.notMapping "catalogue" "list")) ∧
      Route.textLoader.load 993 (bracketDocument 993) = .error .nestedTooDeep :=
  ⟨load_bracketDocument_of_lt (Nat.lt_succ_self 993), load_bracketDocument_of_le (Nat.le_refl 993)⟩

end

end Phrasebook.Catalogue
