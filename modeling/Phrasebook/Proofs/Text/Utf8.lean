import Phrasebook.Text.Encoding

/-! Text in UTF-8 is found to be such. The bytes of a character tell it apart: one below 128 stands
for itself, and otherwise a first byte says how many follow, all of them between 128 and 191. So no
byte of a text is one of a byte order mark of wider units, a zero byte stands for the zero character
only, and the bytes of a surrogate do not occur. A text without the zero character that does not
begin with a byte order mark is therefore decoded from its bytes as it is. -/

namespace Phrasebook.Text

theorem toNat_lt (c : Char) : c.toNat < 0x110000 := by
  have hvalid := c.valid
  unfold UInt32.isValidChar Nat.isValidChar at hvalid
  have hcode : c.val.toNat = c.toNat := rfl
  omega

/-- A character is no surrogate. -/
theorem not_surrogate (c : Char) : ¬ (0xd800 ≤ c.toNat ∧ c.toNat < 0xe000) := by
  have hvalid := c.valid
  unfold UInt32.isValidChar Nat.isValidChar at hvalid
  have hcode : c.val.toNat = c.toNat := rfl
  omega

/-- A byte after the first of a character. -/
def IsTail (b : UInt8) : Prop := 0x80 ≤ b.toNat ∧ b.toNat < 0xc0

/-- The bytes of a character, by their number. -/
inductive Encoded (c : Char) : List UInt8 → Prop where
  | one {a : UInt8} (hc : a.toNat = c.toNat) (ha : a.toNat < 0x80) : Encoded c [a]
  | two {a b : UInt8} (ha : 0xc0 ≤ a.toNat) (ha' : a.toNat < 0xe0) (hb : IsTail b) :
      Encoded c [a, b]
  | three {a b d : UInt8} (ha : 0xe0 ≤ a.toNat) (ha' : a.toNat < 0xf0) (hb : IsTail b)
      (hd : IsTail d)
      (hc : c.toNat = ((a.toNat - 0xe0) * 64 + (b.toNat - 0x80)) * 64 + (d.toNat - 0x80)) :
      Encoded c [a, b, d]
  | four {a b d e : UInt8} (ha : 0xf0 ≤ a.toNat) (ha' : a.toNat < 0xf8) (hb : IsTail b)
      (hd : IsTail d) (he : IsTail e) : Encoded c [a, b, d, e]

theorem toNat_ofNat_of_lt {n : Nat} (h : n < 256) : (UInt8.ofNat n).toNat = n := by
  rw [UInt8.toNat_ofNat']
  exact Nat.mod_eq_of_lt h

theorem isTail_ofNat (n : Nat) : IsTail (UInt8.ofNat (n % 64 + 128)) := by
  rw [IsTail, toNat_ofNat_of_lt (by omega)]
  omega

theorem encoded_utf8EncodeChar (c : Char) : Encoded c (String.utf8EncodeChar c) := by
  have hcode : c.val.toNat = c.toNat := rfl
  have hlt := toNat_lt c
  unfold String.utf8EncodeChar
  rw [hcode]
  dsimp only
  split
  · exact .one (toNat_ofNat_of_lt (by omega)) (by rw [toNat_ofNat_of_lt (by omega)]; omega)
  split
  · refine .two ?_ ?_ (isTail_ofNat _)
    · rw [toNat_ofNat_of_lt (by omega)]; omega
    · rw [toNat_ofNat_of_lt (by omega)]; omega
  split
  · refine .three ?_ ?_ (isTail_ofNat _) (isTail_ofNat _) ?_
    · rw [toNat_ofNat_of_lt (by omega)]; omega
    · rw [toNat_ofNat_of_lt (by omega)]; omega
    · rw [toNat_ofNat_of_lt (by omega), toNat_ofNat_of_lt (by omega), toNat_ofNat_of_lt (by omega)]
      omega
  · refine .four ?_ ?_ (isTail_ofNat _) (isTail_ofNat _) (isTail_ofNat _)
    · rw [toNat_ofNat_of_lt (by omega)]; omega
    · rw [toNat_ofNat_of_lt (by omega)]; omega

/-! ## Bytes that tell encodings apart -/

section

variable {c : Char} {bytes rest : List UInt8}

/-- A zero byte is the zero character. -/
theorem Encoded.eq_zero (h : Encoded c bytes) (hzero : 0 ∈ bytes) : c = '\x00' := by
  have hmem : ∃ b ∈ bytes, b.toNat = 0 := ⟨0, hzero, rfl⟩
  cases h with
  | one hc ha =>
    simp only [List.mem_singleton, exists_eq_left] at hmem
    exact Char.toNat_inj.mp (by rw [← hc, hmem]; rfl)
  | two ha ha' hb =>
    simp only [List.mem_cons, List.not_mem_nil, or_false, IsTail] at hmem hb
    rcases hmem with ⟨b, rfl | rfl, hzero⟩ <;> omega
  | three ha ha' hb hd hc =>
    simp only [List.mem_cons, List.not_mem_nil, or_false, IsTail] at hmem hb hd
    rcases hmem with ⟨b, rfl | rfl | rfl, hzero⟩ <;> omega
  | four ha ha' hb hd he =>
    simp only [List.mem_cons, List.not_mem_nil, or_false, IsTail] at hmem hb hd he
    rcases hmem with ⟨b, rfl | rfl | rfl | rfl, hzero⟩ <;> omega

theorem Encoded.lt (h : Encoded c bytes) : ∀ b ∈ bytes, b.toNat < 0xf8 := by
  intro b hb
  cases h with
  | one hc ha =>
    simp only [List.mem_singleton] at hb
    subst hb
    omega
  | two ha ha' htail =>
    simp only [List.mem_cons, List.not_mem_nil, or_false, IsTail] at hb htail
    rcases hb with rfl | rfl <;> omega
  | three ha ha' hb' hd hc =>
    simp only [List.mem_cons, List.not_mem_nil, or_false, IsTail] at hb hb' hd
    rcases hb with rfl | rfl | rfl <;> omega
  | four ha ha' hb' hd he =>
    simp only [List.mem_cons, List.not_mem_nil, or_false, IsTail] at hb hb' hd he
    rcases hb with rfl | rfl | rfl | rfl <;> omega

/-- A text whose bytes begin with a byte order mark begins with one. -/
theorem Encoded.eq_mark (h : Encoded c bytes)
    (hmark : ∃ after, bytes ++ rest = 0xef :: 0xbb :: 0xbf :: after) : c = '\ufeff' := by
  obtain ⟨after, hmark⟩ := hmark
  cases h with
  | one hc ha =>
    obtain ⟨rfl, -⟩ := List.cons.inj hmark
    exact absurd ha (by decide)
  | two ha ha' hb =>
    obtain ⟨rfl, -⟩ := List.cons.inj hmark
    exact absurd ha' (by decide)
  | three ha ha' hb hd hc =>
    simp only [List.cons_append, List.cons.injEq] at hmark
    obtain ⟨rfl, rfl, rfl, -⟩ := hmark
    exact Char.toNat_inj.mp hc
  | four ha ha' hb hd he =>
    obtain ⟨rfl, -⟩ := List.cons.inj hmark
    exact absurd ha (by decide)

/-! ## Surrogates -/

theorem replaceSurrogates_cons {a : UInt8} (h : a.toNat ≠ 0xed) (rest : List UInt8) :
    replaceSurrogates (a :: rest) = a :: replaceSurrogates rest := by
  match rest with
  | [] => rfl
  | [_] => rfl
  | b :: c :: after =>
    have hne : a ≠ 0xed := fun heq => h (congrArg UInt8.toNat heq)
    rw [replaceSurrogates, isSurrogateTriple]
    simp [hne]

/-- A character that does not begin with a byte of its own is no surrogate. -/
theorem replaceSurrogates_of_lt {a b : UInt8} (hb : b.toNat < 0xa0) (rest : List UInt8) :
    replaceSurrogates (a :: b :: rest) = a :: replaceSurrogates (b :: rest) := by
  match rest with
  | [] => rfl
  | c :: after =>
    have hle : ¬ (0xa0 ≤ b) := by
      rw [UInt8.le_iff_toNat_le]
      exact Nat.not_le.mpr hb
    rw [replaceSurrogates, isSurrogateTriple]
    simp [hle]

theorem Encoded.replaceSurrogates (h : Encoded c bytes) (rest : List UInt8) :
    replaceSurrogates (bytes ++ rest) = bytes ++ Text.replaceSurrogates rest := by
  have hvalid := not_surrogate c
  cases h with
  | one hc ha => exact replaceSurrogates_cons (by omega) rest
  | two ha ha' hb =>
    unfold IsTail at hb
    simp only [List.cons_append, List.nil_append]
    rw [replaceSurrogates_cons (by omega), replaceSurrogates_cons (by omega)]
  | @three a b d ha ha' hb hd hc =>
    unfold IsTail at hb hd
    simp only [List.cons_append, List.nil_append]
    have hfirst : Text.replaceSurrogates (a :: b :: d :: rest) =
        a :: Text.replaceSurrogates (b :: d :: rest) := by
      by_cases hlead : a.toNat = 0xed
      · exact replaceSurrogates_of_lt (by omega) _
      · exact replaceSurrogates_cons hlead _
    rw [hfirst, replaceSurrogates_cons (by omega), replaceSurrogates_cons (by omega)]
  | four ha ha' hb hd he =>
    unfold IsTail at hb hd he
    simp only [List.cons_append, List.nil_append]
    rw [replaceSurrogates_cons (by omega), replaceSurrogates_cons (by omega),
      replaceSurrogates_cons (by omega), replaceSurrogates_cons (by omega)]

end

/-! ## Texts -/

theorem toList_loop (bytes : ByteArray) (i : Nat) (read : List UInt8) :
    ByteArray.toList.loop bytes i read = read.reverse ++ bytes.data.toList.drop i := by
  fun_induction ByteArray.toList.loop bytes i read with
  | case1 i read hlt ih =>
    have hlength : i < bytes.data.toList.length := by simpa using hlt
    have hget : bytes.get! i = bytes.data[i]! := by cases bytes; rfl
    rw [ih, List.drop_eq_getElem_cons hlength, hget, getElem!_pos bytes.data i hlt,
      List.reverse_cons, List.append_assoc, Array.getElem_toList]
    rfl
  | case2 i read hlt =>
    rw [List.drop_eq_nil_of_le (by simpa using Nat.le_of_not_lt hlt), List.append_nil]

theorem toList_toUTF8 (s : String) : s.toUTF8.toList = s.toList.flatMap String.utf8EncodeChar := by
  have hbytes : s.toUTF8 = (s.toList.flatMap String.utf8EncodeChar).toByteArray :=
    String.utf8Encode_toList.symm
  rw [ByteArray.toList, toList_loop, hbytes, List.toList_data_toByteArray]
  rfl

theorem replaceSurrogates_flatMap (cs : List Char) :
    replaceSurrogates (cs.flatMap String.utf8EncodeChar) = cs.flatMap String.utf8EncodeChar := by
  induction cs with
  | nil => rfl
  | cons c cs ih => rw [List.flatMap_cons, (encoded_utf8EncodeChar c).replaceSurrogates, ih]

theorem fromUTF8?_toUTF8 (s : String) : String.fromUTF8? s.toUTF8 = some s := by
  have hvalid : s.toUTF8.IsValidUTF8 := s.isValidUTF8
  rw [String.fromUTF8?, dif_pos hvalid]
  rfl

theorem decodeAs?_toUTF8 (s : String) : decodeAs? .utf8 s.toUTF8 = some s := by
  have hbytes : (replaceSurrogates s.toUTF8.toList).toByteArray = s.toUTF8 := by
    rw [toList_toUTF8, replaceSurrogates_flatMap]
    exact String.utf8Encode_toList
  rw [decodeAs?, hbytes, fromUTF8?_toUTF8]

theorem plainEncoding_of_not_mem {bytes : List UInt8} (h : 0 ∉ bytes) :
    plainEncoding bytes = .utf8 := by
  unfold plainEncoding
  split
  · simp only [List.mem_cons, not_or] at h
    rw [if_neg (Ne.symm h.1), if_neg (Ne.symm h.2.1)]
  · simp only [List.mem_cons, not_or] at h
    rw [if_neg (Ne.symm h.1), if_neg (Ne.symm h.2.1)]
  · rfl

theorem markedEncoding?_eq_none {bytes : List UInt8} (hlt : ∀ b ∈ bytes, b.toNat < 0xf8)
    (hmark : ¬ ∃ after, bytes = 0xef :: 0xbb :: 0xbf :: after) : markedEncoding? bytes = none := by
  unfold markedEncoding?
  split
  · exact absurd (hlt 0xfe (by simp)) (by decide)
  · exact absurd (hlt 0xff (by simp)) (by decide)
  · exact absurd (hlt 0xfe (by simp)) (by decide)
  · exact absurd (hlt 0xff (by simp)) (by decide)
  · exact absurd ⟨_, rfl⟩ hmark
  · rfl

/-- A text without the zero character and without a byte order mark is decoded from its bytes. -/
theorem decode?_toUTF8 {s : String} (hzero : '\x00' ∉ s.toList)
    (hmark : s.toList.head? ≠ some '\ufeff') : decode? s.toUTF8 = some s := by
  have hlt : ∀ b ∈ s.toUTF8.toList, b.toNat < 0xf8 := by
    rw [toList_toUTF8]
    intro b hb
    obtain ⟨c, -, hb⟩ := List.mem_flatMap.mp hb
    exact (encoded_utf8EncodeChar c).lt b hb
  have hplain : 0 ∉ s.toUTF8.toList := by
    rw [toList_toUTF8]
    intro hb
    obtain ⟨c, hc, hb⟩ := List.mem_flatMap.mp hb
    exact hzero ((encoded_utf8EncodeChar c).eq_zero hb ▸ hc)
  have hunmarked : ¬ ∃ after, s.toUTF8.toList = 0xef :: 0xbb :: 0xbf :: after := by
    rw [toList_toUTF8]
    cases hs : s.toList with
    | nil => simp
    | cons c cs =>
      rw [List.flatMap_cons]
      intro hstart
      rw [hs, (encoded_utf8EncodeChar c).eq_mark hstart] at hmark
      exact hmark rfl
  rw [decode?, markedEncoding?_eq_none hlt hunmarked]
  dsimp only
  rw [plainEncoding_of_not_mem hplain, decodeAs?_toUTF8]

end Phrasebook.Text
