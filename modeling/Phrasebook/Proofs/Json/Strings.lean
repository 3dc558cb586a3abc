import Phrasebook.Json.Reader

/-! What stands at the front of a text inside quotes: the closing quote, or a character however it
is written, or neither. A string is read front by front, so a fact about all strings is a fact about
one front. -/

namespace Phrasebook.Json

/-- Four hexadecimal digits with text after them. -/
def code? : List Char → Option (Nat × List Char)
  | a :: b :: c :: d :: e :: rest => (hex4? a b c d).map fun code => (code, e :: rest)
  | _ => none

inductive Front where
  | close (rest : List Char)
  | char (c : Char) (rest : List Char)
  | stuck

/-- The character of a high surrogate, which takes the escape after it along when that is the other
half of the pair. -/
def pairFront (high : Nat) : List Char → Front
  | '\\' :: 'u' :: rest =>
    match code? rest with
    | none => .stuck
    | some (low, after) =>
      if Text.isLowSurrogate low then .char (Text.joinSurrogates high low) after
      else .char (Text.charOf high) ('\\' :: 'u' :: rest)
  | rest => .char (Text.charOf high) rest

/-- The front after a backslash. -/
def escapeFront : List Char → Front
  | 'u' :: rest =>
    match code? rest with
    | none => .stuck
    | some (code, after) =>
      if Text.isHighSurrogate code then pairFront code after else .char (Text.charOf code) after
  | letter :: rest => (escaped? letter).elim .stuck fun c => .char c rest
  | [] => .stuck

def front : List Char → Front
  | [] => .stuck
  | c :: rest =>
    if c = '"' then .close rest
    else if c = '\\' then escapeFront rest
    else if c.toNat < 0x20 then .stuck
    else .char c rest

/-- What is read where a front stands, when `next` reads what comes after it. -/
def Front.Gives (next : List Char → Reading (List Char × List Char))
    (read : Reading (List Char × List Char)) : Front → Prop
  | .close rest => read = .ok ([], rest)
  | .char c rest => read = consChar c (next rest)
  | .stuck => ∃ reason rest, read = .error (.malformed reason rest)

section

variable {opening : List Char} {most : Nat}

/-- An escape of digits that is cut short or has others stops reading, whatever came before. -/
theorem readString_of_code?_eq_none (opening : List Char) (most : Nat) {rest : List Char}
    (h : code? rest = none) :
    ∃ reason after, readString opening most ('\\' :: 'u' :: rest) =
      .error (.malformed reason after) := by
  cases most with
  | zero => exact ⟨_, _, by rw [readString]⟩
  | succ most =>
    match rest, h with
    | [], _ | [_], _ | [_, _], _ | [_, _, _], _ | [_, _, _, _], _ =>
      exact ⟨.invalidUnicodeEscape, _, by simp [readString]; rfl⟩
    | a :: b :: c :: d :: e :: after, h =>
      have hnone : hex4? a b c d = none := by simpa [code?] using h
      exact ⟨.invalidUnicodeEscape, _, by simp [readString, hnone]; rfl⟩

theorem code?_eq_some_iff {rest after : List Char} {code : Nat} :
    code? rest = some (code, after) ↔
      ∃ a b c d, hex4? a b c d = some code ∧ rest = [a, b, c, d] ++ after ∧ after ≠ [] := by
  constructor
  · intro h
    match rest, h with
    | a :: b :: c :: d :: e :: tail, h =>
      obtain ⟨other, hcode, heq⟩ := Option.map_eq_some_iff.mp h
      obtain ⟨rfl, rfl⟩ := Prod.mk.inj heq
      exact ⟨a, b, c, d, hcode, rfl, List.cons_ne_nil e tail⟩
  · rintro ⟨a, b, c, d, hcode, rfl, hne⟩
    obtain ⟨e, tail, rfl⟩ := List.exists_cons_of_ne_nil hne
    simp [code?, hcode]

theorem nextSurrogate?_of_code?_eq_some {rest after : List Char} {low : Nat}
    (h : code? rest = some (low, after)) : nextSurrogate? ('\\' :: 'u' :: rest) =
      if Text.isLowSurrogate low then some (.ok (low, after)) else none := by
  obtain ⟨a, b, c, d, hhex, rfl, hne⟩ := code?_eq_some_iff.mp h
  obtain ⟨e, tail, rfl⟩ := List.exists_cons_of_ne_nil hne
  simp only [List.cons_append, List.nil_append, nextSurrogate?, hhex]

/-- A surrogate is taken along only where an escape of digits follows. -/
theorem nextSurrogate?_of_code?_eq_none {rest : List Char} (h : code? rest = none) :
    nextSurrogate? ('\\' :: 'u' :: rest) = none ∨
      nextSurrogate? ('\\' :: 'u' :: rest) = some (.error ()) := by
  match rest, h with
  | [], _ | [_], _ | [_, _], _ | [_, _, _], _ | [_, _, _, _], _ => exact .inl rfl
  | a :: b :: c :: d :: e :: after, h =>
    have hnone : hex4? a b c d = none := by simpa [code?] using h
    exact .inr (by simp only [nextSurrogate?, hnone])

theorem readString_code {rest after : List Char} {code : Nat}
    (h : code? rest = some (code, after)) :
    readString opening (most + 1) ('\\' :: 'u' :: rest) =
      if Text.isHighSurrogate code then
        match nextSurrogate? after with
        | some (.ok (low, after)) =>
          consChar (Text.joinSurrogates code low) (readString opening most after)
        | some (.error ()) => .error (.malformed .invalidUnicodeEscape ('u' :: rest))
        | none => consChar (Text.charOf code) (readString opening most after)
      else consChar (Text.charOf code) (readString opening most after) := by
  obtain ⟨a, b, c, d, hhex, rfl, hne⟩ := code?_eq_some_iff.mp h
  obtain ⟨e, tail, rfl⟩ := List.exists_cons_of_ne_nil hne
  simp only [List.cons_append, List.nil_append, readString, hhex]
  rfl

theorem readString_letter {letter : Char} (hne : letter ≠ 'u') (rest : List Char) :
    readString opening (most + 1) ('\\' :: letter :: rest) =
      match escaped? letter with
      | none => .error (.malformed .invalidEscape (letter :: rest))
      | some c => consChar c (readString opening most rest) := by
  simp only [readString, Char.reduceEq, if_false, if_true]
  split
  · rename_i heq
    cases heq
  · rename_i heq
    exact absurd (List.cons.inj heq).1 hne
  · rename_i heq
    exact absurd (List.cons.inj heq).1 hne
  · rename_i heq
    obtain ⟨rfl, rfl⟩ := List.cons.inj heq
    rfl

theorem pairFront_of_not_escape {high : Nat} {cs : List Char}
    (h : ∀ rest, cs ≠ '\\' :: 'u' :: rest) : pairFront high cs = .char (Text.charOf high) cs := by
  unfold pairFront
  split
  · exact absurd rfl (h _)
  · rfl

theorem nextSurrogate?_of_not_escape {cs : List Char} (h : ∀ rest, cs ≠ '\\' :: 'u' :: rest) :
    nextSurrogate? cs = none := by
  unfold nextSurrogate?
  split
  · exact absurd rfl (h _)
  · rfl

/-- A high surrogate with what comes after it. -/
theorem gives_pairFront {rest after : List Char} {high : Nat}
    (h : code? rest = some (high, after)) (hhigh : Text.isHighSurrogate high = true) :
    (pairFront high after).Gives (readString opening most)
      (readString opening (most + 1) ('\\' :: 'u' :: rest)) := by
  rw [readString_code h, if_pos hhigh]
  by_cases hescape : ∃ next, after = '\\' :: 'u' :: next
  · obtain ⟨next, rfl⟩ := hescape
    rw [pairFront]
    cases hlow : code? next with
    | none =>
      rcases nextSurrogate?_of_code?_eq_none hlow with hnext | hnext
      · -- the high surrogate is read by itself, and what comes after it stops the reading
        obtain ⟨reason, tail, hread⟩ := readString_of_code?_eq_none opening most hlow
        exact ⟨reason, tail, by rw [hnext, hread]; rfl⟩
      · exact ⟨_, _, by rw [hnext]⟩
    | some found =>
      obtain ⟨low, tail⟩ := found
      rw [nextSurrogate?_of_code?_eq_some hlow]
      by_cases hpair : Text.isLowSurrogate low = true
      · simp only [hpair, if_true]
        rfl
      · simp only [hpair]
        rfl
  · have hnot : ∀ next, after ≠ '\\' :: 'u' :: next := fun next heq => hescape ⟨next, heq⟩
    rw [pairFront_of_not_escape hnot, nextSurrogate?_of_not_escape hnot]
    rfl

theorem escapeFront_letter {letter : Char} (hne : letter ≠ 'u') (rest : List Char) :
    escapeFront (letter :: rest) = (escaped? letter).elim .stuck fun c => .char c rest := by
  rw [escapeFront]
  exact hne

theorem gives_escapeFront (rest : List Char) :
    (escapeFront rest).Gives (readString opening most)
      (readString opening (most + 1) ('\\' :: rest)) := by
  unfold escapeFront
  split
  · rename_i rest
    cases hcode : code? rest with
    | none => exact readString_of_code?_eq_none _ _ hcode
    | some found =>
      obtain ⟨code, after⟩ := found
      dsimp only
      split
      · rename_i hhigh
        exact gives_pairFront hcode hhigh
      · rename_i hhigh
        exact (readString_code hcode).trans (if_neg hhigh)
  · rename_i letter rest hne
    rw [readString_letter hne]
    cases escaped? letter with
    | none => exact ⟨_, _, rfl⟩
    | some c => rfl
  · exact ⟨_, _, rfl⟩

/-- A string is read front by front. -/
theorem gives_front (opening : List Char) (most : Nat) (cs : List Char) :
    (front cs).Gives (readString opening most) (readString opening (most + 1) cs) := by
  cases cs with
  | nil => exact ⟨_, _, rfl⟩
  | cons c rest =>
    rw [front]
    by_cases hquote : c = '"'
    · subst hquote
      rfl
    by_cases hslash : c = '\\'
    · subst hslash
      exact gives_escapeFront rest
    rw [if_neg hquote, if_neg hslash]
    by_cases hcontrol : c.toNat < 0x20
    · rw [if_pos hcontrol]
      exact ⟨.controlCharacter, c :: rest, by simp [readString, hquote, hslash, hcontrol]⟩
    · rw [if_neg hcontrol]
      simp [Front.Gives, readString, hquote, hslash, hcontrol]

end

/-! ## What comes after a front -/

/-- What comes after a front lies in a text. -/
def Front.Within (cs : List Char) : Front → Prop
  | .close rest | .char _ rest => rest <:+ cs
  | .stuck => True

theorem Front.Within.mono {f : Front} {cs cs' : List Char} (h : f.Within cs) (hcs : cs <:+ cs') :
    f.Within cs' := by
  cases f with
  | close rest | char _ rest => exact List.IsSuffix.trans h hcs
  | stuck => trivial

theorem suffix_of_code?_eq_some {rest after : List Char} {code : Nat}
    (h : code? rest = some (code, after)) : after <:+ rest := by
  obtain ⟨a, b, c, d, -, rfl, -⟩ := code?_eq_some_iff.mp h
  exact ⟨[a, b, c, d], rfl⟩

theorem within_pairFront (high : Nat) (cs : List Char) : (pairFront high cs).Within cs := by
  unfold pairFront
  split
  · rename_i rest
    cases hcode : code? rest with
    | none => trivial
    | some found =>
      dsimp only
      split
      · exact (suffix_of_code?_eq_some hcode).trans ⟨['\\', 'u'], rfl⟩
      · exact List.suffix_refl _
  · exact List.suffix_refl _

theorem within_escapeFront (cs : List Char) : (escapeFront cs).Within cs := by
  unfold escapeFront
  split
  · rename_i rest
    cases hcode : code? rest with
    | none => trivial
    | some found =>
      have hafter : found.2 <:+ 'u' :: rest :=
        (suffix_of_code?_eq_some hcode).trans (List.suffix_cons _ _)
      dsimp only
      split
      · exact (within_pairFront found.1 found.2).mono hafter
      · exact hafter
  · rename_i letter rest _
    cases escaped? letter with
    | none => trivial
    | some c => exact List.suffix_cons _ _
  · trivial

/-- A front takes a character of the text at least. -/
theorem within_front (c : Char) (rest : List Char) : (front (c :: rest)).Within rest := by
  rw [front]
  split
  · exact List.suffix_refl _
  split
  · exact within_escapeFront rest
  split
  · trivial
  · exact List.suffix_refl _

end Phrasebook.Json
