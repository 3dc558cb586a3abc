import Phrasebook.Placeholder
import Phrasebook.Proofs.Text.Run
import Mathlib.Data.List.Nodup

/-! Placeholders between double braces. Two braces stand together nowhere else in a message whose
other texts have none, and a name ends before the first closing brace, so a key is met at the
placeholders of its own name and nowhere else. A text without braces in their place leaves a message
of the same kind, with the other placeholders as they were. Replacing one key after another is
therefore replacing all of them at once, and no order of the parameters makes a difference. -/

namespace Phrasebook.Placeholder

open Text

def BraceFree (s : String) : Prop := '{' ∉ s.toList ∧ '}' ∉ s.toList

instance (s : String) : Decidable (BraceFree s) := inferInstanceAs (Decidable (_ ∧ _))

/-- The placeholder of a name. -/
def keyOf (name : String) : String := "\x7b\x7b " ++ name ++ " \x7d\x7d"

/-- A part of a message. -/
inductive Piece where
  | literal (text : String) (htext : BraceFree text)
  | placeholder (name : String) (hname : BraceFree name)

def Piece.written : Piece → String
  | literal text _ => text
  | placeholder name _ => keyOf name

/-- The text of a message made of pieces. -/
def message (pieces : List Piece) : String := String.join (pieces.map Piece.written)

theorem toList_message (pieces : List Piece) :
    (message pieces).toList = pieces.flatMap fun piece => piece.written.toList := by
  rw [message, String.toList_join, List.flatMap_map]

section

variable [Stack]

/-- A parameter: the name in its key, and a value with a text that has no braces. -/
structure Binding where
  name : String
  value : Value
  text : String
  hname : BraceFree name
  hvalue : value.toTextAt .parameter = .ok text
  htext : BraceFree text

/-- The parameter of a name, as an entry of a mapping. -/
def Binding.entry (b : Binding) : Value × Value := (.text (keyOf b.name), b.value)

/-- The text of a piece among parameters: a placeholder gives way to the text of its parameter, and
stays where there is none. -/
def Piece.shownAmong (bindings : List Binding) : Piece → String
  | literal text _ => text
  | placeholder name _ =>
    ((bindings.find? fun b => b.name == name).map Binding.text).getD (keyOf name)

/-- A piece after the placeholders of one parameter are replaced. -/
def Piece.fill (b : Binding) : Piece → Piece
  | literal text htext => literal text htext
  | placeholder name hname =>
    if b.name = name then literal b.text b.htext else placeholder name hname

/-- A piece after the placeholders of all parameters are replaced, one parameter after another. -/
def Piece.fillAll (bindings : List Binding) (piece : Piece) : Piece :=
  bindings.foldl (fun piece b => piece.fill b) piece

end

/-! ## Occurrences of a key -/

section

variable {name other : String}

theorem toList_keyOf (name : String) :
    (keyOf name).toList = '{' :: '{' :: ' ' :: (name.toList ++ [' ', '}', '}']) := by
  simp [keyOf]

/-- A name ends before the first closing brace. -/
theorem takeWhile_name (h : BraceFree name) (rest : List Char) :
    (name.toList ++ ' ' :: '}' :: rest).takeWhile (· ≠ '}') = name.toList ++ [' '] := by
  have hbefore : ∀ c ∈ name.toList ++ [' '], decide (c ≠ '}') = true := by
    intro c hc
    rw [decide_eq_true_eq]
    rintro rfl
    rcases List.mem_append.mp hc with hc | hc
    · exact h.2 hc
    · exact absurd hc (by decide)
  have hstop : Stops (· ≠ '}') ('}' :: rest) := stops_cons.mpr (by decide)
  have hrun := takeWhile_run hbefore hstop
  rwa [List.append_assoc] at hrun

theorem eq_of_keyOf_isPrefix (hname : BraceFree name) (hother : BraceFree other)
    {rest : List Char} (h : (keyOf name).toList <+: (keyOf other).toList ++ rest) :
    name = other := by
  obtain ⟨after, hafter⟩ := h
  have hnames : name.toList ++ ' ' :: '}' :: '}' :: after =
      other.toList ++ ' ' :: '}' :: '}' :: rest := by
    simpa [toList_keyOf] using hafter
  have heq := congrArg (List.takeWhile (· ≠ '}')) hnames
  rw [takeWhile_name hname, takeWhile_name hother] at heq
  exact String.toList_inj.mp (List.append_cancel_right heq)

/-- A key passes over the placeholder of another name. -/
theorem replaceAll_other (hname : BraceFree name) (hother : BraceFree other) (hne : name ≠ other)
    (text rest : List Char) :
    replaceAll (keyOf name).toList text ((keyOf other).toList ++ rest) =
      (keyOf other).toList ++ replaceAll (keyOf name).toList text rest := by
  have hbegin : (keyOf name).toList.isPrefixOf ((keyOf other).toList ++ rest) = false := by
    rw [Bool.eq_false_iff, ne_eq, List.isPrefixOf_iff_prefix]
    exact fun h => hne (eq_of_keyOf_isPrefix hname hother h)
  have hspace : '{' ∉ ' ' :: (other.toList ++ [' ', '}', '}']) := by
    simp [hother.1]
  have hsecond : (keyOf name).toList.isPrefixOf
      ('{' :: (' ' :: (other.toList ++ [' ', '}', '}']) ++ rest)) = false := by
    rw [toList_keyOf]
    rfl
  -- the key does not begin at the first brace for its name, nor at the second for the space there
  rw [toList_keyOf other, List.cons_append, List.cons_append] at hbegin ⊢
  rw [replaceAll_cons hbegin, replaceAll_cons hsecond, toList_keyOf name,
    replaceAll_append_left hspace]
  rfl

end

/-! ## One parameter -/

section

variable [Stack]

theorem replaceAll_written (b : Binding) (piece : Piece) (rest : List Char) :
    replaceAll (keyOf b.name).toList b.text.toList (piece.written.toList ++ rest) =
      (piece.fill b).written.toList ++ replaceAll (keyOf b.name).toList b.text.toList rest := by
  cases piece with
  | literal text htext =>
    rw [toList_keyOf]
    exact replaceAll_append_left htext.1 rest
  | placeholder name hname =>
    by_cases h : b.name = name
    · subst h
      rw [Piece.fill, if_pos rfl]
      exact replaceAll_append (by simp [toList_keyOf]) rest
    · rw [Piece.fill, if_neg h]
      exact replaceAll_other b.hname hname h b.text.toList rest

/-- Replacing a key fills its placeholders and leaves all else. -/
theorem substitute_message (b : Binding) (pieces : List Piece) :
    substitute (message pieces) (keyOf b.name) b.text = message (pieces.map (Piece.fill b)) := by
  have hfill : replaceAll (keyOf b.name).toList b.text.toList
      (pieces.flatMap fun piece => piece.written.toList) =
        (pieces.map (Piece.fill b)).flatMap fun piece => piece.written.toList := by
    induction pieces with
    | nil => exact replaceAll_nil
    | cons piece pieces ih =>
      rw [List.flatMap_cons, replaceAll_written, ih]
      rfl
  rw [substitute, toList_message, hfill, ← toList_message, String.ofList_toList]

/-! ## All parameters -/

theorem replace_map (message : String) (entries : List (Value × Value)) :
    replace message (.map entries) = replaceEntries message entries := by
  cases entries <;> rfl

theorem replaceEntries_message (bindings : List Binding) (pieces : List Piece) :
    replaceEntries (message pieces) (bindings.map Binding.entry) =
      .ok (message (pieces.map (Piece.fillAll bindings))) := by
  induction bindings generalizing pieces with
  | nil => exact congrArg (fun pieces => Except.ok (message pieces)) (List.map_id' pieces).symm
  | cons b bindings ih =>
    have hkey : (Value.text (keyOf b.name)).isTruthy = true := by
      simp [Value.isTruthy, keyOf]
    rw [List.map_cons, Binding.entry, replaceEntries, if_pos hkey, b.hvalue]
    show replaceEntries (substitute (message pieces) (keyOf b.name) b.text) _ = _
    rw [substitute_message, ih, List.map_map]
    rfl

theorem fillAll_literal (bindings : List Binding) (text : String) (htext : BraceFree text) :
    Piece.fillAll bindings (.literal text htext) = .literal text htext := by
  induction bindings with
  | nil => rfl
  | cons b bindings ih => exact ih

/-- Of the parameters of one name the first counts: after it there is no placeholder left. -/
theorem written_fillAll (bindings : List Binding) (piece : Piece) :
    (piece.fillAll bindings).written = piece.shownAmong bindings := by
  cases piece with
  | literal text htext =>
    rw [fillAll_literal]
    rfl
  | placeholder name hname =>
    induction bindings with
    | nil => rfl
    | cons b bindings ih =>
      rw [Piece.fillAll, List.foldl_cons, Piece.fill, ← Piece.fillAll, Piece.shownAmong]
      by_cases h : b.name = name
      · rw [if_pos h, fillAll_literal, List.find?_cons_of_pos (by simpa using h)]
        rfl
      · rw [if_neg h, ih, List.find?_cons_of_neg (by simpa using h)]
        rfl

theorem replace_message (bindings : List Binding) (pieces : List Piece) :
    replace (message pieces) (.map (bindings.map Binding.entry)) =
      .ok (String.join (pieces.map (Piece.shownAmong bindings))) := by
  rw [replace_map, replaceEntries_message, message, List.map_map]
  exact congrArg (fun texts => Except.ok (String.join texts))
    (List.map_congr_left fun piece _ => written_fillAll bindings piece)

/-! ## Order -/

variable {bindings reordered : List Binding}

theorem find?_name_eq_some_iff (h : (bindings.map Binding.name).Nodup) {name : String}
    {b : Binding} :
    bindings.find? (fun b => b.name == name) = some b ↔ b ∈ bindings ∧ b.name = name := by
  constructor
  · intro hfind
    exact ⟨List.mem_of_find?_eq_some hfind, eq_of_beq (List.find?_some hfind :)⟩
  · rintro ⟨hmem, rfl⟩
    have hsome : (bindings.find? fun other => other.name == b.name).isSome = true :=
      List.find?_isSome.mpr ⟨b, hmem, beq_self_eq_true b.name⟩
    obtain ⟨other, hother⟩ := Option.isSome_iff_exists.mp hsome
    have hname : other.name = b.name := eq_of_beq (List.find?_some hother :)
    rw [hother, List.inj_on_of_nodup_map h (List.mem_of_find?_eq_some hother) hmem hname]

theorem shownAmong_of_perm (h : (bindings.map Binding.name).Nodup)
    (hperm : reordered.Perm bindings) (piece : Piece) :
    piece.shownAmong reordered = piece.shownAmong bindings := by
  cases piece with
  | literal text htext => rfl
  | placeholder name hname =>
    have hreordered := (hperm.map Binding.name).nodup_iff.mpr h
    have hfind : reordered.find? (fun b => b.name == name) =
        bindings.find? fun b => b.name == name := by
      ext b
      rw [find?_name_eq_some_iff hreordered, find?_name_eq_some_iff h, hperm.mem_iff]
    rw [Piece.shownAmong, Piece.shownAmong, hfind]

/-- Replacing the placeholders of a message never fails when each parameter has a text: every
placeholder with a parameter gives way to its text, all at once, and everything else stays. The
order of the parameters makes no difference. -/
theorem replace_simultaneous (h : (bindings.map Binding.name).Nodup) (pieces : List Piece) :
    replace (message pieces) (.map (bindings.map Binding.entry)) =
        .ok (String.join (pieces.map (Piece.shownAmong bindings))) ∧
      ∀ reordered : List Binding, reordered.Perm bindings →
        replace (message pieces) (.map (reordered.map Binding.entry)) =
          .ok (String.join (pieces.map (Piece.shownAmong bindings))) := by
  refine ⟨replace_message bindings pieces, fun reordered hperm => ?_⟩
  rw [replace_message, List.map_congr_left fun piece _ => shownAmong_of_perm h hperm piece]

end

/-- A repeated placeholder, one without a parameter, and a parameter named like the text of another
one. -/
def stockMessage : List Piece :=
  [.literal "Dear " (by decide), .placeholder "name" (by decide), .placeholder "name" (by decide),
    .literal ", " (by decide), .placeholder "none" (by decide), .placeholder "n" (by decide)]

section

attribute [local instance] Stack.ample

def stockBindings : List Binding :=
  [⟨"name", .text "n", "n", by decide, rfl, by decide⟩,
    ⟨"n", .int 2, "2", by decide, by decide +kernel, by decide⟩]

theorem replace_simultaneous_stock :
    (stockBindings.map Binding.name).Nodup ∧ stockBindings.reverse.Perm stockBindings ∧
      replace ("Dear " ++ keyOf "name" ++ keyOf "name" ++ ", " ++ keyOf "none" ++ keyOf "n")
          (.map [(.text (keyOf "n"), .int 2), (.text (keyOf "name"), .text "n")]) =
        .ok ("Dear nn, " ++ keyOf "none" ++ "2") := by
  have hdistinct : (stockBindings.map Binding.name).Nodup := by decide
  have hperm : stockBindings.reverse.Perm stockBindings := List.reverse_perm _
  refine ⟨hdistinct, hperm, ?_⟩
  exact (replace_simultaneous hdistinct stockMessage).2 _ hperm

end

end Phrasebook.Placeholder
