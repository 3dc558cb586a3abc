import Phrasebook.Json.Reader
import Phrasebook.Proofs.Text.Run

/-! The reader of values by situations, with one equation for each. What comes next is told by a
mark that stands after white space: a bracket that closes, a comma or a colon. The readers of items
and of members are written here by what they do after each mark, so that a fact about them is a fact
about marks. -/

namespace Phrasebook.Json

variable {α : Type} {cs rest : List Char}

/-! ## Marks -/

theorem skipSpace_suffix (cs : List Char) : skipSpace cs <:+ cs := List.dropWhile_suffix isSpace

theorem length_skipSpace_le (cs : List Char) : (skipSpace cs).length ≤ cs.length :=
  (skipSpace_suffix cs).length_le

theorem skipSpace_cons {c : Char} (hc : isSpace c = false) (cs : List Char) :
    skipSpace (c :: cs) = c :: cs := Text.dropWhile_of_stops (Text.stops_cons.mpr hc)

theorem skipSpace_skipSpace (cs : List Char) : skipSpace (skipSpace cs) = skipSpace cs :=
  Text.dropWhile_of_stops (Text.stops_dropWhile isSpace cs)

/-- Goes on after a mark where it comes next, otherwise with what comes next. -/
def afterMark (mark : Char) (next otherwise : List Char → Reading α) (cs : List Char) : Reading α :=
  match skipSpace cs with
  | [] => otherwise []
  | c :: rest => if c = mark then next rest else otherwise (c :: rest)

/-- Goes on after a value among others: done after the closing bracket, with more after a comma. -/
def afterValue (close : Char) (done more : List Char → Reading α) : List Char → Reading α :=
  afterMark close done (afterMark ',' (fun rest => more (skipSpace rest))
    fun rest => .error (.malformed .expectingComma rest))

section

variable {mark c : Char} {next otherwise : List Char → Reading α}

theorem afterMark_skipSpace (cs : List Char) :
    afterMark mark next otherwise (skipSpace cs) = afterMark mark next otherwise cs := by
  rw [afterMark, skipSpace_skipSpace, ← afterMark]

theorem afterMark_mark (h : skipSpace cs = mark :: rest) :
    afterMark mark next otherwise cs = next rest := by
  rw [afterMark, h]
  exact if_pos rfl

theorem afterMark_of_ne (h : ∀ rest, skipSpace cs ≠ mark :: rest) :
    afterMark mark next otherwise cs = otherwise (skipSpace cs) := by
  unfold afterMark
  split
  · rename_i heq
    rw [heq]
  · rename_i c rest heq
    rw [heq] at h ⊢
    exact if_neg fun hc => h rest (by rw [hc])

theorem mark_cases (mark : Char) (cs : List Char) :
    (∃ rest, skipSpace cs = mark :: rest) ∨ ∀ rest, skipSpace cs ≠ mark :: rest := by
  by_cases h : ∃ rest, skipSpace cs = mark :: rest
  · exact .inl h
  · exact .inr (not_exists.mp h)

theorem afterValue_comma {close : Char} (hclose : close ≠ ',') {done more : List Char → Reading α}
    (h : skipSpace cs = ',' :: rest) : afterValue close done more cs = more (skipSpace rest) := by
  have hne : ∀ after, skipSpace cs ≠ close :: after := by
    intro after heq
    rw [h] at heq
    exact hclose (List.cons.inj heq).1.symm
  rw [afterValue, afterMark_of_ne hne, afterMark_skipSpace, afterMark_mark h]

theorem afterValue_of_ne {close : Char} {done more : List Char → Reading α}
    (hclose : ∀ rest, skipSpace cs ≠ close :: rest) (hcomma : ∀ rest, skipSpace cs ≠ ',' :: rest) :
    afterValue close done more cs = .error (.malformed .expectingComma (skipSpace cs)) := by
  rw [afterValue, afterMark_of_ne hclose, afterMark_skipSpace, afterMark_of_ne hcomma]

end

/-- What is done after a mark need only be known for shorter texts. -/
theorem afterMark_congr {mark : Char} {next next' otherwise otherwise' : List Char → Reading α}
    (hnext : ∀ rest, rest.length < cs.length → next rest = next' rest)
    (hother : ∀ rest, rest.length ≤ cs.length → otherwise rest = otherwise' rest) :
    afterMark mark next otherwise cs = afterMark mark next' otherwise' cs := by
  have hlength := length_skipSpace_le cs
  rcases mark_cases mark cs with ⟨rest, h⟩ | h
  · rw [h] at hlength
    rw [afterMark_mark h, afterMark_mark h, hnext rest hlength]
  · rw [afterMark_of_ne h, afterMark_of_ne h, hother _ hlength]

theorem afterValue_congr {close : Char} {done more more' : List Char → Reading α}
    (hmore : ∀ rest, rest.length < cs.length → more rest = more' rest) :
    afterValue close done more cs = afterValue close done more' cs := by
  refine afterMark_congr (fun _ _ => rfl) fun rest hrest => ?_
  refine afterMark_congr (fun after hafter => hmore _ ?_) fun _ _ => rfl
  have hlength := length_skipSpace_le after
  omega

/-! ## Values by their first character -/

def isOpening (c : Char) : Bool := c = '[' || c = '{'

theorem eq_of_isOpening {c : Char} (h : isOpening c = true) : c = '[' ∨ c = '{' := by
  simpa [isOpening] using h

/-- A value is told by its first character: a string, one made of others, or neither. -/
theorem value_cases (cs : List Char) :
    (∃ rest, cs = '"' :: rest) ∨ (∃ c rest, cs = c :: rest ∧ isOpening c = true) ∨
      ∀ c ∈ cs.head?, c ≠ '"' ∧ isOpening c = false := by
  cases cs with
  | nil => exact .inr (.inr fun c hc => nomatch hc)
  | cons c rest =>
    by_cases hquote : c = '"'
    · exact .inl ⟨rest, by rw [hquote]⟩
    cases hc : isOpening c with
    | true => exact .inr (.inl ⟨c, rest, rfl, hc⟩)
    | false =>
      refine .inr (.inr fun d hd => ?_)
      obtain rfl := Option.some.inj hd
      exact ⟨hquote, hc⟩

theorem readValue_quote (most depth : Nat) (rest : List Char) :
    readValue (most + 1) depth ('"' :: rest) =
      (readText rest).map fun (s, rest) => (.text s, rest) := by
  rw [readValue]

theorem readValue_deep {c : Char} (hc : isOpening c = true) (most : Nat) (rest : List Char) :
    readValue (most + 1) 0 (c :: rest) = .error (.fault .nestedTooDeep) := by
  rcases eq_of_isOpening hc with rfl | rfl <;> rw [readValue]

theorem readValue_list (most depth : Nat) (rest : List Char) :
    readValue (most + 1) (depth + 1) ('[' :: rest) =
      afterMark ']' (fun rest => .ok (.list [], rest))
        (fun rest => (readItems most depth rest).map fun (items, rest) => (.list items, rest))
        rest := by
  rcases mark_cases ']' rest with ⟨after, h⟩ | h
  · rw [afterMark_mark h, readValue.eq_def]
    simp only [h]
  · rw [afterMark_of_ne h]
    simp [readValue]

theorem readValue_map (most depth : Nat) (rest : List Char) :
    readValue (most + 1) (depth + 1) ('{' :: rest) =
      afterMark '}' (fun rest => .ok (.map [], rest))
        (fun rest => (readMembers most depth rest).map fun (members, rest) =>
          (.map (OrderedMap.ofList members).entries, rest)) rest := by
  rcases mark_cases '}' rest with ⟨after, h⟩ | h
  · rw [afterMark_mark h, readValue.eq_def]
    simp only [h]
  · rw [afterMark_of_ne h]
    simp [readValue]

theorem readValue_atom (most depth : Nat) (h : ∀ c ∈ cs.head?, c ≠ '"' ∧ isOpening c = false) :
    readValue (most + 1) depth cs = readAtom cs := by
  rw [readValue.eq_def]
  dsimp only
  split
  · exact absurd rfl (h '"' rfl).1
  · exact absurd (h '[' rfl).2 (by decide)
  · exact absurd (h '{' rfl).2 (by decide)
  · rfl

/-! ## Names and numbers -/

/-- The name of a value that a text begins with. -/
def nameAt? (cs : List Char) : Option (List Char × Value) :=
  names.find? fun entry => entry.1.isPrefixOf cs

theorem readAtom_of_name {name : List Char} {v : Value} (h : nameAt? cs = some (name, v)) :
    readAtom cs = .ok (v, cs.drop name.length) := by
  unfold readAtom
  split
  · rename_i hfind
    obtain ⟨rfl, rfl⟩ := Prod.mk.inj (Option.some.inj (hfind.symm.trans h))
    rfl
  · rename_i hfind
    cases hfind.symm.trans h

theorem readAtom_of_sign (h : nameAt? ('-' :: rest) = none) :
    readAtom ('-' :: rest) = readMagnitude ('-' :: rest) true rest := by
  unfold readAtom
  split
  · rename_i hfind
    cases hfind.symm.trans h
  · rfl

theorem readAtom_of_no_sign (h : nameAt? cs = none) (hcs : ∀ rest, cs ≠ '-' :: rest) :
    readAtom cs = readMagnitude cs false cs := by
  unfold readAtom
  split
  · rename_i hfind
    cases hfind.symm.trans h
  · split
    · exact absurd rfl (hcs _)
    · rfl

/-! ## Items and members -/

theorem bind_ok_eq_map {β γ : Type} (r : Reading (β × List Char)) (f : β → γ) :
    (r >>= fun (b, rest) => pure (f b, rest)) = r.map fun (b, rest) => (f b, rest) := by
  cases r <;> rfl

theorem readItems_eq (most depth : Nat) (cs : List Char) :
    readItems (most + 1) depth cs = readValue most depth cs >>= fun (first, rest) =>
      afterValue ']' (fun rest => .ok ([first], rest))
        (fun rest => (readItems most depth rest).map fun (others, rest) => (first :: others, rest))
        rest := by
  rw [readItems]
  refine congrArg (readValue most depth cs >>= ·) (funext fun ⟨first, rest⟩ => ?_)
  dsimp only
  rcases mark_cases ']' rest with ⟨after, hclose⟩ | hclose
  · rw [afterValue, afterMark_mark hclose, hclose]
    rfl
  rcases mark_cases ',' rest with ⟨after, hcomma⟩ | hcomma
  · rw [afterValue_comma (by decide) hcomma, hcomma]
    exact bind_ok_eq_map _ _
  · rw [afterValue_of_ne hclose hcomma]
    split
    · exact absurd ‹_› (hclose _)
    · exact absurd ‹_› (hcomma _)
    · rfl

/-- What is read after the name of a member: the value, and then the others. -/
def readRest (most depth : Nat) (name : String) (rest : List Char) :
    Reading (List (Value × Value) × List Char) :=
  readValue most depth rest >>= fun (value, rest) =>
    afterValue '}' (fun rest => .ok ([(.text name, value)], rest))
      (fun rest => (readMembers most depth rest).map fun (others, rest) =>
        ((.text name, value) :: others, rest)) rest

theorem readMembers_quote (most depth : Nat) (rest : List Char) :
    readMembers (most + 1) depth ('"' :: rest) = readText rest >>= fun (name, rest) =>
      afterMark ':' (fun rest => readRest most depth name (skipSpace rest))
        (fun rest => .error (.malformed .expectingColon rest)) rest := by
  rw [readMembers]
  refine congrArg (readText rest >>= ·) (funext fun ⟨name, rest⟩ => ?_)
  dsimp only
  rcases mark_cases ':' rest with ⟨before, hcolon⟩ | hcolon
  · rw [afterMark_mark hcolon, hcolon]
    refine congrArg (readValue most depth (skipSpace before) >>= ·)
      (funext fun ⟨value, rest⟩ => ?_)
    dsimp only
    rcases mark_cases '}' rest with ⟨after, hclose⟩ | hclose
    · rw [afterValue, afterMark_mark hclose, hclose]
      rfl
    rcases mark_cases ',' rest with ⟨after, hcomma⟩ | hcomma
    · rw [afterValue_comma (by decide) hcomma, hcomma]
      exact bind_ok_eq_map _ _
    · rw [afterValue_of_ne hclose hcomma]
      split
      · exact absurd ‹_› (hclose _)
      · exact absurd ‹_› (hcomma _)
      · rfl
  · rw [afterMark_of_ne hcolon]
    split
    · exact absurd ‹_› (hcolon _)
    · rfl

theorem readMembers_of_ne (most depth : Nat) (h : ∀ rest, cs ≠ '"' :: rest) :
    readMembers (most + 1) depth cs = .error (.malformed .expectingName cs) := by
  rw [readMembers]
  exact h

end Phrasebook.Json
