import Phrasebook.Proofs.Json.Reading
import Phrasebook.Proofs.Text.Utf8

/-! Objects and texts as they are written, and reading them back. A character that is not written as
it is has an escape, of one letter or of its number in hexadecimal digits, and beyond four digits it
is written as two surrogates. Entries stand one after another with a comma and a blank between, and
a colon and a blank between name and value. What is written is read back whatever follows. -/

namespace Phrasebook

open OrderedMap

/-- Entries under texts, no text twice. -/
structure Layer (β : Type) where
  entries : List (String × β)
  distinct : (entries.map Prod.fst).Nodup

namespace Layer

variable {β γ : Type}

/-- The map of the entries, with something of their own for the values. -/
def toMap (f : β → γ) (layer : Layer β) : OrderedMap Value γ :=
  ⟨underTexts (layer.entries.map fun entry => (entry.1, f entry.2))⟩

def toValue (value : β → Value) (layer : Layer β) : Value := .map (layer.toMap value).entries

theorem level_toMap {f : β → γ} {V : γ → Prop} (hf : ∀ b, V (f b)) (layer : Layer β) :
    (layer.toMap f).Level Value.IsText V where
  apart := by
    have hkeys : (layer.toMap f).keys = (layer.entries.map Prod.fst).map Value.text := by
      simp [toMap, keys, underTexts]
    rw [hkeys, List.pairwise_map]
    exact layer.distinct.imp fun hne => by simpa [Value.beq_text] using hne
  keys := by
    intro key hkey
    simp only [toMap, keys, underTexts, List.mem_map] at hkey
    obtain ⟨_, ⟨entry, -, rfl⟩, rfl⟩ := hkey
    exact ⟨_, rfl⟩
  values := by
    intro entry hentry
    simp only [toMap, underTexts, List.mem_map] at hentry
    obtain ⟨_, ⟨given, -, rfl⟩, rfl⟩ := hentry
    exact hf given.2

/-- Inserting the entries of a layer in order gives the layer. -/
theorem ofList_toMap (f : β → γ) (layer : Layer β) :
    ofList (layer.toMap f).entries = layer.toMap f :=
  (layer.level_toMap (V := fun _ => True) fun _ => trivial).ofList_entries

end Layer

namespace Json

/-- Which characters are written as they are: those of ASCII or all, control characters apart. -/
inductive Spelling where
  | escaped
  | raw
  deriving DecidableEq, Repr

def Spelling.keeps (spelling : Spelling) (c : Char) : Bool :=
  match spelling with
  | escaped => 0x20 ≤ c.toNat && c.toNat < 0x7f
  | raw => 0x20 ≤ c.toNat

def hexDigit (n : Nat) : Char := if n < 10 then Char.ofNat (48 + n) else Char.ofNat (87 + n)

def hexDigits (n : Nat) : List Char :=
  [hexDigit (n / 4096 % 16), hexDigit (n / 256 % 16), hexDigit (n / 16 % 16), hexDigit (n % 16)]

/-- The escape of a number below `2 ^ 16`. -/
def hexEscape (n : Nat) : List Char := '\\' :: 'u' :: hexDigits n

def shortEscape? : Char → Option Char
  | '"' => some '"'
  | '\\' => some '\\'
  | '\x08' => some 'b'
  | '\x0c' => some 'f'
  | '\n' => some 'n'
  | '\r' => some 'r'
  | '\t' => some 't'
  | _ => none

def writeChar (spelling : Spelling) (c : Char) : List Char :=
  match shortEscape? c with
  | some letter => ['\\', letter]
  | none =>
    if spelling.keeps c then [c]
    else if c.toNat < 0x10000 then hexEscape c.toNat
    else hexEscape (0xd800 + (c.toNat - 0x10000) / 0x400) ++
      hexEscape (0xdc00 + (c.toNat - 0x10000) % 0x400)

def writeText (spelling : Spelling) (s : String) : List Char :=
  '"' :: s.toList.flatMap (writeChar spelling) ++ ['"']

/-- The entries of an object, their values written by a writer of their own. -/
def writeMembers {β : Type} (spelling : Spelling) (write : β → List Char) :
    List (String × β) → List Char
  | [] => []
  | [(name, b)] => writeText spelling name ++ ':' :: ' ' :: write b
  | (name, b) :: rest =>
    writeText spelling name ++ ':' :: ' ' :: write b ++
      ',' :: ' ' :: writeMembers spelling write rest

def writeObject {β : Type} (spelling : Spelling) (write : β → List Char)
    (entries : List (String × β)) : List Char :=
  '{' :: writeMembers spelling write entries ++ ['}']

/-! ## Characters -/

theorem hexValue?_hexDigit {n : Nat} (h : n < 16) : hexValue? (hexDigit n) = some n := by
  have hall : ∀ n < 16, hexValue? (hexDigit n) = some n := by decide
  exact hall n h

/-- Four digits are read where text goes on after them. -/
theorem code?_hexDigits {n : Nat} (h : n < 0x10000) {cs : List Char} (hcs : cs ≠ []) :
    code? (hexDigits n ++ cs) = some (n, cs) := by
  have hhex : hex4? (hexDigit (n / 4096 % 16)) (hexDigit (n / 256 % 16))
      (hexDigit (n / 16 % 16)) (hexDigit (n % 16)) = some n := by
    rw [hex4?, hexValue?_hexDigit (by omega), hexValue?_hexDigit (by omega),
      hexValue?_hexDigit (by omega), hexValue?_hexDigit (by omega)]
    exact congrArg some (by omega)
  exact code?_eq_some_iff.mpr ⟨_, _, _, _, hhex, rfl, hcs⟩

theorem charOf_toNat (c : Char) : Text.charOf c.toNat = c := by
  have hvalid := Text.not_surrogate c
  have hcode : (Text.isHighSurrogate c.toNat || Text.isLowSurrogate c.toNat) = false := by
    simp only [Text.isHighSurrogate, Text.isLowSurrogate, Bool.or_eq_false_iff,
      Bool.and_eq_false_iff, decide_eq_false_iff_not]
    omega
  rw [Text.charOf, hcode]
  exact Char.ofNat_toNat c

theorem escaped?_of_shortEscape? {c letter : Char} (h : shortEscape? c = some letter) :
    letter ≠ 'u' ∧ escaped? letter = some c := by
  unfold shortEscape? at h
  split at h <;> cases h <;> exact ⟨by decide, rfl⟩

theorem ne_of_shortEscape?_eq_none {c : Char} (h : shortEscape? c = none) : c ≠ '"' ∧ c ≠ '\\' := by
  constructor <;> (rintro rfl; cases h)

theorem Spelling.le_of_keeps {spelling : Spelling} {c : Char} (h : spelling.keeps c = true) :
    0x20 ≤ c.toNat := by
  cases spelling <;> simp [keeps] at h <;> omega

/-- The escape of a character of four digits. -/
theorem front_hexEscape {c : Char} {cs : List Char} (hc : c.toNat < 0x10000) (hcs : cs ≠ []) :
    front (hexEscape c.toNat ++ cs) = .char c cs := by
  have hhigh : Text.isHighSurrogate c.toNat = false := by
    have hvalid := Text.not_surrogate c
    simp only [Text.isHighSurrogate, Bool.and_eq_false_iff, decide_eq_false_iff_not]
    omega
  simp [front, hexEscape, escapeFront, code?_hexDigits hc hcs, hhigh, charOf_toNat]

/-- The two escapes of a character beyond four digits. -/
theorem front_surrogates {c : Char} {cs : List Char} (hc : 0x10000 ≤ c.toNat) (hcs : cs ≠ []) :
    front (hexEscape (0xd800 + (c.toNat - 0x10000) / 0x400) ++
      (hexEscape (0xdc00 + (c.toNat - 0x10000) % 0x400) ++ cs)) = .char c cs := by
  have hlt := Text.toNat_lt c
  generalize hhalf : (c.toNat - 0x10000) / 0x400 = upper
  generalize hrest : (c.toNat - 0x10000) % 0x400 = lower
  have hhigh : Text.isHighSurrogate (0xd800 + upper) = true := by
    simp only [Text.isHighSurrogate, Bool.and_eq_true, decide_eq_true_eq]
    omega
  have hlow : Text.isLowSurrogate (0xdc00 + lower) = true := by
    simp only [Text.isLowSurrogate, Bool.and_eq_true, decide_eq_true_eq]
    omega
  have hjoin : Text.joinSurrogates (0xd800 + upper) (0xdc00 + lower) = c := by
    have hcode : 0x10000 + (0xd800 + upper - 0xd800) * 0x400 + (0xdc00 + lower - 0xdc00) =
        c.toNat := by omega
    rw [Text.joinSurrogates, hcode]
    exact Char.ofNat_toNat c
  have hfirst : code? (hexDigits (0xd800 + upper) ++ (hexEscape (0xdc00 + lower) ++ cs)) =
      some (0xd800 + upper, hexEscape (0xdc00 + lower) ++ cs) :=
    code?_hexDigits (by omega) (by simp [hexEscape])
  have hsecond := code?_hexDigits (n := 0xdc00 + lower) (by omega) hcs
  simp only [hexEscape, List.cons_append] at hfirst ⊢
  simp [front, escapeFront, hfirst, hhigh, pairFront, hsecond, hlow, hjoin]

/-- A character as it is written stands at the front, whatever follows. -/
theorem front_writeChar (spelling : Spelling) (c : Char) {cs : List Char} (hcs : cs ≠ []) :
    front (writeChar spelling c ++ cs) = .char c cs := by
  unfold writeChar
  cases hshort : shortEscape? c with
  | some letter =>
    obtain ⟨hne, hletter⟩ := escaped?_of_shortEscape? hshort
    simp [front, escapeFront, hletter]
  | none =>
    obtain ⟨hquote, hslash⟩ := ne_of_shortEscape?_eq_none hshort
    dsimp only
    split
    · rename_i hkeeps
      have hcontrol := Spelling.le_of_keeps hkeeps
      simp [front, hquote, hslash, Nat.not_lt.mpr hcontrol]
    split
    · rename_i hlt
      exact front_hexEscape hlt hcs
    · rename_i hle
      rw [List.append_assoc]
      exact front_surrogates (Nat.not_lt.mp hle) hcs

theorem writeChar_ne_nil (spelling : Spelling) (c : Char) : writeChar spelling c ≠ [] := by
  unfold writeChar
  split
  · exact List.cons_ne_nil _ _
  split
  · exact List.cons_ne_nil _ _
  split
  · exact List.cons_ne_nil _ _
  · exact List.cons_ne_nil _ _

theorem nonzero_hexEscape (n : Nat) : '\x00' ∉ hexEscape n := by
  have hdigit : ∀ n, hexDigit (n % 16) ≠ '\x00' := by
    intro n
    have hall : ∀ n < 16, hexDigit n ≠ '\x00' := by decide
    exact hall _ (Nat.mod_lt n (by decide))
  simp [hexEscape, hexDigits, (hdigit _).symm]

theorem nonzero_writeChar (spelling : Spelling) (c : Char) : '\x00' ∉ writeChar spelling c := by
  unfold writeChar
  cases hshort : shortEscape? c with
  | some letter =>
    have hletter : letter ≠ '\x00' := by
      rintro rfl
      exact absurd (escaped?_of_shortEscape? hshort).2 (by simp [escaped?])
    simp [hletter.symm]
  | none =>
    dsimp only
    split
    · rename_i hkeeps
      have hle := Spelling.le_of_keeps hkeeps
      rw [List.mem_singleton]
      rintro rfl
      exact absurd hle (by decide)
    split
    · exact nonzero_hexEscape _
    · rw [List.mem_append]
      rintro (h | h)
      · exact nonzero_hexEscape _ h
      · exact nonzero_hexEscape _ h

/-! ## Texts -/

/-- A string is read back up to its closing quote, if the bound lets it. -/
theorem readString_written (spelling : Spelling) (opening cs rest : List Char) (most : Nat)
    (hmost : cs.length < most) :
    readString opening most (cs.flatMap (writeChar spelling) ++ '"' :: rest) = .ok (cs, rest) := by
  induction cs generalizing most with
  | nil =>
    obtain ⟨most, rfl⟩ := Nat.exists_eq_add_one_of_ne_zero (Nat.ne_of_gt hmost)
    exact gives_front opening most ('"' :: rest)
  | cons c cs ih =>
    obtain ⟨most, rfl⟩ := Nat.exists_eq_add_one_of_ne_zero (Nat.ne_zero_of_lt hmost)
    have hread := gives_front opening most
      (writeChar spelling c ++ (cs.flatMap (writeChar spelling) ++ '"' :: rest))
    rw [front_writeChar spelling c (by simp)] at hread
    rw [List.flatMap_cons, List.append_assoc, hread, ih most (Nat.lt_of_succ_lt_succ hmost)]
    rfl

theorem length_le_length_flatMap (spelling : Spelling) (cs : List Char) :
    cs.length ≤ (cs.flatMap (writeChar spelling)).length := by
  induction cs with
  | nil => exact Nat.le_refl 0
  | cons c cs ih =>
    have hpos := List.length_pos_of_ne_nil (writeChar_ne_nil spelling c)
    simp only [List.flatMap_cons, List.length_append, List.length_cons]
    omega

theorem readText_written (spelling : Spelling) (s : String) (rest : List Char) :
    readText (s.toList.flatMap (writeChar spelling) ++ '"' :: rest) = .ok (s, rest) := by
  have hlength := length_le_length_flatMap spelling s.toList
  rw [readText, readString_written spelling _ _ _ _
    (by rw [List.length_append, List.length_cons]; omega)]
  simp [Except.map]

theorem nonzero_writeText (spelling : Spelling) (s : String) : '\x00' ∉ writeText spelling s := by
  simp only [writeText, List.cons_append, List.mem_cons, List.mem_append, List.mem_flatMap]
  rintro (h | ⟨c, -, h⟩ | h | h)
  · cases h
  · exact nonzero_writeChar spelling c h
  · cases h
  · cases h

/-! ## Values -/

/-- A way of writing values that is read back, whatever follows, where enough levels are left. -/
structure ReadBack {β : Type} (write : β → List Char) (value : β → Value) (levels : Nat) :
    Prop where
  /-- Reading starts right where the value does. -/
  begins : ∀ b, ∃ c cs, write b = c :: cs ∧ isSpace c = false
  nonzero : ∀ b, '\x00' ∉ write b
  reads : ∀ b most depth rest, 2 * (write b).length ≤ most → levels ≤ depth →
    readValue most depth (write b ++ rest) = .ok (value b, rest)

theorem readBack_text {β : Type} (spelling : Spelling) (text : β → String) :
    ReadBack (fun b => writeText spelling (text b)) (fun b => .text (text b)) 0 where
  begins := fun b => ⟨'"', _, rfl, rfl⟩
  nonzero := fun b => nonzero_writeText spelling (text b)
  reads := by
    intro b most depth rest hmost _
    have hpos : 0 < (writeText spelling (text b)).length := Nat.succ_pos _
    obtain ⟨most, rfl⟩ := Nat.exists_eq_add_one_of_ne_zero (n := most) (by omega)
    rw [writeText, List.cons_append, List.cons_append, readValue_quote, List.append_assoc,
      List.singleton_append, readText_written]
    rfl

section

variable {β : Type} {write : β → List Char} {value : β → Value} {levels : Nat}

theorem ReadBack.skipSpace_append (h : ReadBack write value levels) (b : β) (cs : List Char) :
    skipSpace (write b ++ cs) = write b ++ cs := by
  obtain ⟨c, tail, hwrite, hc⟩ := h.begins b
  rw [hwrite]
  exact skipSpace_cons hc _

/-- A member is read back, whatever follows its value. -/
theorem readMembers_member (h : ReadBack write value levels) (spelling : Spelling) (name : String)
    (b : β) {most depth : Nat} (hmost : 2 * (write b).length ≤ most) (hdepth : levels ≤ depth)
    (after : List Char) :
    readMembers (most + 1) depth (writeText spelling name ++ ':' :: ' ' :: (write b ++ after)) =
      afterValue '}' (fun rest => .ok ([(.text name, value b)], rest))
        (fun rest => (readMembers most depth rest).map fun (others, rest) =>
          ((.text name, value b) :: others, rest)) after := by
  have hspace : skipSpace (' ' :: (write b ++ after)) = write b ++ after :=
    h.skipSpace_append b after
  rw [writeText, List.cons_append, List.cons_append, readMembers_quote, List.append_assoc,
    List.singleton_append, readText_written]
  simp only [bind, Except.bind]
  rw [afterMark_mark (skipSpace_cons rfl _), readRest, hspace,
    h.reads b most depth after hmost hdepth]
  rfl

/-- Members begin with the quote of a name. -/
theorem exists_writeMembers (write : β → List Char) (spelling : Spelling)
    {entries : List (String × β)} (hne : entries ≠ []) :
    ∃ cs, writeMembers spelling write entries = '"' :: cs := by
  match entries, hne with
  | [_], _ => exact ⟨_, rfl⟩
  | _ :: _ :: _, _ => exact ⟨_, rfl⟩

theorem skipSpace_writeMembers (write : β → List Char) (spelling : Spelling)
    {entries : List (String × β)} (hne : entries ≠ []) (cs : List Char) :
    skipSpace (writeMembers spelling write entries ++ cs) =
      writeMembers spelling write entries ++ cs := by
  obtain ⟨tail, htail⟩ := exists_writeMembers write spelling hne
  rw [htail]
  exact skipSpace_cons rfl _

theorem nonzero_writeMembers (h : ReadBack write value levels) (spelling : Spelling)
    (entries : List (String × β)) : '\x00' ∉ writeMembers spelling write entries := by
  induction entries using writeMembers.induct with
  | case1 => exact List.not_mem_nil
  | case2 name b =>
    simp [writeMembers, nonzero_writeText, h.nonzero b]
  | case3 name b others hothers ih =>
    simp [writeMembers, nonzero_writeText, h.nonzero b, ih]

/-- The members of an object are read back up to its closing brace. -/
theorem readMembers_written (h : ReadBack write value levels) (spelling : Spelling)
    {entries : List (String × β)} (hne : entries ≠ []) {most depth : Nat} (rest : List Char)
    (hmost : 2 * (writeMembers spelling write entries).length < most) (hdepth : levels ≤ depth) :
    readMembers most depth (writeMembers spelling write entries ++ '}' :: rest) =
      .ok (underTexts (entries.map fun e => (e.1, value e.2)), rest) := by
  induction entries using writeMembers.induct generalizing most with
  | case1 => exact absurd rfl hne
  | case2 name b =>
    obtain ⟨most, rfl⟩ := Nat.exists_eq_add_one_of_ne_zero (Nat.ne_zero_of_lt hmost)
    simp only [writeMembers, List.length_append, List.length_cons, List.append_assoc,
      List.cons_append] at hmost ⊢
    rw [readMembers_member h spelling name b (by omega) hdepth, afterValue,
      afterMark_mark (skipSpace_cons rfl _)]
    rfl
  | case3 name b others hothers ih =>
    obtain ⟨most, rfl⟩ := Nat.exists_eq_add_one_of_ne_zero (Nat.ne_zero_of_lt hmost)
    simp only [writeMembers, List.length_append, List.length_cons, List.append_assoc,
      List.cons_append] at hmost ⊢
    have hspace : skipSpace (' ' :: (writeMembers spelling write others ++ '}' :: rest)) =
        writeMembers spelling write others ++ '}' :: rest :=
      skipSpace_writeMembers write spelling hothers _
    rw [readMembers_member h spelling name b (by omega) hdepth,
      afterValue_comma (by decide) (skipSpace_cons rfl _), hspace, ih hothers (by omega)]
    rfl

theorem readBack_object (h : ReadBack write value levels) (spelling : Spelling) :
    ReadBack (fun layer : Layer β => writeObject spelling write layer.entries)
      (Layer.toValue value) (levels + 1) where
  begins := fun layer => ⟨'{', _, rfl, rfl⟩
  nonzero := by
    intro layer
    simp only [writeObject, List.cons_append, List.mem_cons, List.mem_append]
    rintro (hmem | hmem | hmem | hmem)
    · cases hmem
    · exact nonzero_writeMembers h spelling layer.entries hmem
    · cases hmem
    · cases hmem
  reads := by
    intro layer most depth rest hmost hdepth
    obtain ⟨depth, rfl⟩ := Nat.exists_eq_add_one_of_ne_zero (Nat.ne_zero_of_lt hdepth)
    simp only [writeObject, List.length_append, List.length_cons, List.length_nil, List.cons_append,
      List.append_assoc, List.nil_append] at hmost ⊢
    obtain ⟨most, rfl⟩ := Nat.exists_eq_add_one_of_ne_zero (n := most) (by omega)
    rw [readValue_map]
    by_cases hne : layer.entries = []
    · rw [hne, writeMembers, List.nil_append, afterMark_mark (skipSpace_cons rfl _)]
      simp [Layer.toValue, Layer.toMap, hne, underTexts]
    · obtain ⟨tail, htail⟩ := exists_writeMembers write spelling hne
      have hspace := skipSpace_writeMembers write spelling hne ('}' :: rest)
      have hopen : ∀ after, skipSpace (writeMembers spelling write layer.entries ++ '}' :: rest) ≠
          '}' :: after := by
        rw [hspace, htail]
        exact fun after heq => absurd (List.cons.inj heq).1 (by decide)
      rw [afterMark_of_ne hopen, hspace,
        readMembers_written h spelling hne rest (by omega) (by omega)]
      exact congrArg (fun m => Except.ok (Value.map m.entries, rest)) (layer.ofList_toMap value)

theorem ReadBack.readDocument (h : ReadBack write value levels) {depth : Nat}
    (hlevels : levels ≤ depth) (b : β) : readDocument depth (write b) = .ok (value b) := by
  have hspace : skipSpace (write b) = write b := by simpa using h.skipSpace_append b []
  have hread := h.reads b (2 * (write b).length + 2) depth [] (Nat.le_add_right _ 2) hlevels
  rw [List.append_nil] at hread
  rw [Json.readDocument, hspace, hread]
  rfl

end

end Json

end Phrasebook
