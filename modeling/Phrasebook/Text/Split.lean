/-! Pieces of a text between the occurrences of a separator. Occurrences are found from left to
right and do not overlap; joining the pieces with the separator gives the text back. Replacing every
occurrence by another text is joining the pieces with that text instead. -/

namespace Phrasebook.Text

/-- Puts a character in front of the first piece. -/
def consPiece (c : Char) : List (List Char) → List (List Char)
  | [] => [[c]]
  | piece :: pieces => (c :: piece) :: pieces

/-- The pieces after `skip` characters that belong to an occurrence already found. -/
def splitFrom (separator : List Char) : (skip : Nat) → List Char → List (List Char)
  | _, [] => [[]]
  | skip + 1, _ :: rest => splitFrom separator skip rest
  | 0, c :: rest =>
    if separator.isPrefixOf (c :: rest) then [] :: splitFrom separator (separator.length - 1) rest
    else consPiece c (splitFrom separator 0 rest)

/-- The pieces of a text between the occurrences of a separator that is not empty. -/
def split (separator cs : List Char) : List (List Char) := splitFrom separator 0 cs

/-- Replaces every occurrence of a text that is not empty. -/
def replaceAll (old new cs : List Char) : List Char := new.intercalate (split old cs)

/-- Whether a text occurs in another one. -/
def occurs (part : List Char) : List Char → Bool
  | [] => part.isEmpty
  | c :: rest => part.isPrefixOf (c :: rest) || occurs part rest

/-! ## Laws -/

theorem splitFrom_eq (separator : List Char) (skip : Nat) (cs : List Char) :
    splitFrom separator skip cs = split separator (cs.drop skip) := by
  induction skip generalizing cs with
  | zero => rfl
  | succ skip ih =>
    cases cs with
    | nil => rfl
    | cons c rest => exact ih rest

theorem split_nil (separator : List Char) : split separator [] = [[]] := rfl

theorem split_append (separator rest : List Char) (h : separator ≠ []) :
    split separator (separator ++ rest) = [] :: split separator rest := by
  cases separator with
  | nil => exact absurd rfl h
  | cons s ss =>
    have hp : (s :: ss).isPrefixOf (s :: (ss ++ rest)) = true := by
      rw [List.isPrefixOf_iff_prefix]
      exact List.prefix_append (s :: ss) rest
    rw [List.cons_append, split, splitFrom, if_pos hp, splitFrom_eq]
    simp

theorem split_cons (separator : List Char) (c : Char) (rest : List Char)
    (h : separator.isPrefixOf (c :: rest) = false) :
    split separator (c :: rest) = consPiece c (split separator rest) := by
  simp [split, splitFrom, h]

theorem split_ne_nil (separator cs : List Char) : split separator cs ≠ [] := by
  cases cs with
  | nil => simp [split_nil]
  | cons c rest =>
    rw [split, splitFrom]
    split
    · simp
    · cases splitFrom separator 0 rest <;> simp [consPiece]

theorem intercalate_consPiece (separator : List Char) (c : Char) {pieces : List (List Char)}
    (h : pieces ≠ []) :
    separator.intercalate (consPiece c pieces) = c :: separator.intercalate pieces := by
  obtain ⟨piece, pieces, rfl⟩ := List.exists_cons_of_ne_nil h
  cases pieces with
  | nil => simp [consPiece]
  | cons next pieces => simp [consPiece]

/-- A separator that does not occur leaves the text in one piece. -/
theorem split_of_not_occurs (separator cs : List Char) (h : occurs separator cs = false) :
    split separator cs = [cs] := by
  induction cs with
  | nil => rfl
  | cons c rest ih =>
    simp only [occurs, Bool.or_eq_false_iff] at h
    rw [split_cons separator c rest h.1, ih h.2, consPiece]

/-- Characters that are not in the separator stay in one piece with what follows them. -/
theorem split_append_left {separator piece rest first : List Char} {others : List (List Char)}
    (hne : separator ≠ []) (hpiece : ∀ c ∈ piece, c ∉ separator)
    (hrest : split separator rest = first :: others) :
    split separator (piece ++ rest) = (piece ++ first) :: others := by
  induction piece with
  | nil => exact hrest
  | cons c piece ih =>
    obtain ⟨s, ss, rfl⟩ := List.exists_cons_of_ne_nil hne
    have hs : s ≠ c := by
      intro hs
      exact hpiece c List.mem_cons_self (hs ▸ List.mem_cons_self)
    have hprefix : (s :: ss).isPrefixOf (c :: (piece ++ rest)) = false := by
      rw [List.isPrefixOf_cons_cons, beq_false_of_ne hs, Bool.false_and]
    rw [List.cons_append, split_cons _ c _ hprefix,
      ih fun d hd => hpiece d (List.mem_cons_of_mem c hd)]
    rfl

/-- Pieces without any character of the separator are found again. -/
theorem split_intercalate {separator : List Char} {pieces : List (List Char)}
    (hseparator : separator ≠ []) (hne : pieces ≠ [])
    (hpieces : ∀ piece ∈ pieces, ∀ c ∈ piece, c ∉ separator) :
    split separator (separator.intercalate pieces) = pieces := by
  induction pieces with
  | nil => exact absurd rfl hne
  | cons piece pieces ih =>
    have hpiece := hpieces piece List.mem_cons_self
    cases pieces with
    | nil =>
      have hsplit := split_append_left hseparator hpiece (split_nil separator)
      simpa using hsplit
    | cons next pieces =>
      have hrest := ih (List.cons_ne_nil next pieces) fun other hother =>
        hpieces other (List.mem_cons_of_mem piece hother)
      rw [List.intercalate_cons_cons, List.append_assoc,
        split_append_left hseparator hpiece (split_append separator _ hseparator), hrest,
        List.append_nil]

theorem mem_consPiece {c : Char} {pieces : List (List Char)} (h : pieces ≠ [])
    {piece : List Char} (hpiece : piece ∈ consPiece c pieces) :
    piece ∈ pieces ∨ ∃ tail ∈ pieces, piece = c :: tail := by
  obtain ⟨first, others, rfl⟩ := List.exists_cons_of_ne_nil h
  rcases List.mem_cons.mp hpiece with rfl | hothers
  · exact .inr ⟨first, List.mem_cons_self, rfl⟩
  · exact .inl (List.mem_cons_of_mem first hothers)

theorem length_le_of_mem_splitFrom {separator piece : List Char} (skip : Nat) (cs : List Char)
    (h : piece ∈ splitFrom separator skip cs) : piece.length ≤ cs.length := by
  induction cs generalizing skip piece with
  | nil =>
    rw [splitFrom, List.mem_singleton] at h
    simp [h]
  | cons c rest ih =>
    cases skip with
    | succ skip => exact Nat.le_succ_of_le (ih skip h)
    | zero =>
      rw [splitFrom] at h
      split at h
      · rcases List.mem_cons.mp h with rfl | h
        · exact Nat.zero_le _
        · exact Nat.le_succ_of_le (ih _ h)
      · rcases mem_consPiece (split_ne_nil separator rest) h with hpiece | ⟨tail, htail, rfl⟩
        · exact Nat.le_succ_of_le (ih 0 hpiece)
        · exact Nat.succ_le_succ (ih 0 htail)

/-- Where the separator occurs, no piece is the whole text. -/
theorem length_lt_of_mem_split {separator piece cs : List Char} (hseparator : separator ≠ [])
    (hoccurs : occurs separator cs = true) (h : piece ∈ split separator cs) :
    piece.length < cs.length := by
  induction cs generalizing piece with
  | nil => exact absurd (List.isEmpty_iff.mp hoccurs) hseparator
  | cons c rest ih =>
    rw [split, splitFrom] at h
    split at h
    · rcases List.mem_cons.mp h with rfl | h
      · exact Nat.succ_pos _
      · exact Nat.lt_succ_of_le (length_le_of_mem_splitFrom _ rest h)
    · rename_i hprefix
      rw [occurs, Bool.eq_false_iff.mpr hprefix, Bool.false_or] at hoccurs
      rcases mem_consPiece (split_ne_nil separator rest) h with hpiece | ⟨tail, htail, rfl⟩
      · exact Nat.lt_succ_of_lt (ih hoccurs hpiece)
      · exact Nat.succ_lt_succ (ih hoccurs htail)

/-! ## Replacement -/

section

variable {old new : List Char}

theorem replaceAll_nil : replaceAll old new [] = [] := by
  rw [replaceAll, split_nil, List.intercalate_singleton]

theorem replaceAll_append (h : old ≠ []) (rest : List Char) :
    replaceAll old new (old ++ rest) = new ++ replaceAll old new rest := by
  rw [replaceAll, split_append old rest h]
  obtain ⟨piece, pieces, hs⟩ := List.exists_cons_of_ne_nil (split_ne_nil old rest)
  rw [replaceAll, hs, List.intercalate_cons_cons, List.nil_append]

theorem replaceAll_cons {c : Char} {rest : List Char} (h : old.isPrefixOf (c :: rest) = false) :
    replaceAll old new (c :: rest) = c :: replaceAll old new rest := by
  rw [replaceAll, split_cons old c rest h, intercalate_consPiece _ _ (split_ne_nil old rest),
    replaceAll]

/-- No occurrence begins in a text without the first character of what is replaced. -/
theorem replaceAll_append_left {first : Char} {piece : List Char} (h : first ∉ piece)
    (rest : List Char) :
    replaceAll (first :: old) new (piece ++ rest) =
      piece ++ replaceAll (first :: old) new rest := by
  induction piece with
  | nil => rfl
  | cons c piece ih =>
    obtain ⟨hc, hpiece⟩ := not_or.mp (mt List.mem_cons.mpr h)
    have hprefix : (first :: old).isPrefixOf (c :: (piece ++ rest)) = false := by
      rw [List.isPrefixOf_cons_cons, beq_false_of_ne hc, Bool.false_and]
    rw [List.cons_append, replaceAll_cons hprefix, ih hpiece]
    rfl

end

end Phrasebook.Text
