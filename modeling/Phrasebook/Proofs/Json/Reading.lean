import Phrasebook.Proofs.Catalogue.Data
import Phrasebook.Proofs.Json.Strings
import Phrasebook.Proofs.Json.Values

/-! What a reading leaves, and why it stops. After whatever is read there is an end of the text that
was there before. A text is refused because it is not JSON, or for an integer of too many digits,
all of which stand in it, or for values nested too deep, and then it has more opening brackets than
levels are left. The mappings that are read have texts for keys. -/

namespace Phrasebook

open Number OrderedMap

/-- A value whose mappings have texts for keys, as far as they are reached through mappings. -/
inductive Value.TextKeyed : Value → Prop where
  | map {entries : List (Value × Value)} (hkeys : ∀ entry ∈ entries, entry.1.IsText)
      (hvalues : ∀ entry ∈ entries, entry.2.TextKeyed) : TextKeyed (.map entries)
  | plain {v : Value} (h : v.entries? = none) : v.TextKeyed

namespace Json

/-- Why a text is refused when some levels of nesting are left. -/
inductive Refuses (depth : Nat) (cs : List Char) : Stop → Prop where
  | malformed (reason : Reason) (rest : List Char) : Refuses depth cs (.malformed reason rest)
  | longInteger {ds : List Char} (hin : ds <:+: cs) (hdigits : ∀ c ∈ ds, isPlainDigit c = true)
      (hlong : Fault.maxIntegerDigits < ds.length) :
      Refuses depth cs (.fault (.longInteger (some ds.length)))
  | nestedTooDeep (h : depth < cs.countP isOpening) : Refuses depth cs (.fault .nestedTooDeep)

namespace Refuses

variable {depth : Nat} {cs cs' : List Char} {stop : Stop}

theorem mono (h : Refuses depth cs stop) (hcs : cs <:+ cs') : Refuses depth cs' stop := by
  cases h with
  | malformed reason rest => exact .malformed reason rest
  | longInteger hin hdigits hlong => exact .longInteger (hin.trans hcs.isInfix) hdigits hlong
  | nestedTooDeep h => exact .nestedTooDeep (Nat.lt_of_lt_of_le h hcs.sublist.countP_le)

/-- An opening bracket in front takes one level more. -/
theorem nested {c : Char} (h : Refuses depth cs stop) (hc : isOpening c = true) :
    Refuses (depth + 1) (c :: cs) stop := by
  cases h with
  | malformed reason rest => exact .malformed reason rest
  | longInteger hin hdigits hlong =>
    exact .longInteger (hin.trans (List.suffix_cons c cs).isInfix) hdigits hlong
  | nestedTooDeep h =>
    refine .nestedTooDeep ?_
    rw [List.countP_cons_of_pos hc]
    exact Nat.succ_lt_succ h

end Refuses

/-- A reading gives results with a property and an end of the text, or refuses the text. -/
structure Reads {α : Type} (P : α → Prop) (depth : Nat) (cs : List Char)
    (r : Reading (α × List Char)) : Prop where
  result : ∀ a rest, r = .ok (a, rest) → P a ∧ rest <:+ cs
  refuses : ∀ stop, r = .error stop → Refuses depth cs stop

namespace Reads

variable {α β : Type} {P : α → Prop} {Q : β → Prop} {depth : Nat} {cs cs' rest : List Char}
  {r : Reading (α × List Char)}

theorem ok {a : α} (ha : P a) (hrest : rest <:+ cs) : Reads P depth cs (.ok (a, rest)) where
  result := by
    intro b other h
    obtain ⟨rfl, rfl⟩ := Prod.mk.inj (Except.ok.inj h)
    exact ⟨ha, hrest⟩
  refuses := fun _ h => nomatch h

theorem error {stop : Stop} (h : Refuses depth cs stop) : Reads P depth cs (.error stop) where
  result := fun _ _ h => nomatch h
  refuses := by
    intro other hother
    obtain rfl := Except.error.inj hother
    exact h

theorem malformed (reason : Reason) (rest : List Char) :
    Reads P depth cs (.error (.malformed reason rest)) := error (.malformed reason rest)

theorem bind {f : α × List Char → Reading (β × List Char)} (h : Reads P depth cs r)
    (hf : ∀ a rest, P a → rest <:+ cs → Reads Q depth cs (f (a, rest))) :
    Reads Q depth cs (r >>= f) := by
  cases r with
  | error stop => exact error (h.refuses stop rfl)
  | ok read =>
    obtain ⟨ha, hrest⟩ := h.result read.1 read.2 rfl
    exact hf read.1 read.2 ha hrest

theorem map {f : α → β} (h : Reads P depth cs r) (hf : ∀ a, P a → Q (f a)) :
    Reads Q depth cs (r.map fun (a, rest) => (f a, rest)) := by
  cases r with
  | error stop => exact error (h.refuses stop rfl)
  | ok read =>
    obtain ⟨ha, hrest⟩ := h.result read.1 read.2 rfl
    exact ok (hf read.1 ha) hrest

theorem mono (h : Reads P depth cs r) (hcs : cs <:+ cs') : Reads P depth cs' r where
  result := fun a rest hr => (h.result a rest hr).imp_right fun hrest => hrest.trans hcs
  refuses := fun stop hr => (h.refuses stop hr).mono hcs

theorem nested {c : Char} (h : Reads P depth cs r) (hc : isOpening c = true) :
    Reads P (depth + 1) (c :: cs) r where
  result := fun a rest hr =>
    (h.result a rest hr).imp_right fun hrest => hrest.trans (List.suffix_cons c cs)
  refuses := fun stop hr => (h.refuses stop hr).nested hc

theorem afterMark {mark : Char} {next otherwise : List Char → Reading (α × List Char)}
    (hnext : ∀ after, after <:+ rest → Reads P depth cs (next after))
    (hother : ∀ after, after <:+ rest → Reads P depth cs (otherwise after)) :
    Reads P depth cs (Json.afterMark mark next otherwise rest) := by
  rcases mark_cases mark rest with ⟨after, h⟩ | h
  · rw [afterMark_mark h]
    exact hnext after ((List.suffix_cons mark after).trans (h ▸ skipSpace_suffix rest))
  · rw [afterMark_of_ne h]
    exact hother _ (skipSpace_suffix rest)

theorem afterValue {close : Char} {done more : List Char → Reading (α × List Char)}
    (hdone : ∀ after, after <:+ rest → Reads P depth cs (done after))
    (hmore : ∀ after, after <:+ rest → Reads P depth cs (more after)) :
    Reads P depth cs (Json.afterValue close done more rest) :=
  .afterMark hdone fun _ hcomma => .afterMark
    (fun after hafter => hmore _ ((skipSpace_suffix after).trans (hafter.trans hcomma)))
    fun _ _ => .malformed _ _

/-- What comes after a reading need only be known for the ends of the text. -/
theorem bind_congr {f f' : α × List Char → Reading (β × List Char)} (h : Reads P depth cs r)
    (hf : ∀ a rest, rest <:+ cs → f (a, rest) = f' (a, rest)) : (r >>= f) = (r >>= f') := by
  cases r with
  | error stop => rfl
  | ok read => exact hf read.1 read.2 (h.result read.1 read.2 rfl).2

end Reads

variable {depth : Nat} {cs rest : List Char}

/-! ## Strings, numbers and names -/

theorem reads_string (opening : List Char) (most : Nat) (cs : List Char) :
    Reads (fun _ => True) depth cs (readString opening most cs) := by
  induction most generalizing cs with
  | zero => exact .malformed _ _
  | succ most ih =>
    cases cs with
    | nil => exact .malformed _ _
    | cons c rest =>
      have hread := gives_front opening most (c :: rest)
      have hrest := within_front c rest
      cases hfront : front (c :: rest) with
      | close after =>
        rw [hfront] at hread hrest
        rw [hread]
        exact .ok trivial (hrest.trans (List.suffix_cons c rest))
      | char d after =>
        rw [hfront] at hread hrest
        rw [hread]
        exact ((ih after).mono (hrest.trans (List.suffix_cons c rest))).map fun _ h => h
      | stuck =>
        rw [hfront] at hread
        obtain ⟨reason, after, hread⟩ := hread
        rw [hread]
        exact .malformed _ _

theorem reads_text (cs : List Char) : Reads (fun _ => True) depth cs (readText cs) :=
  (reads_string ('"' :: cs) cs.length cs).map fun _ h => h

theorem wholeDigits_isPrefix (cs : List Char) : wholeDigits cs <+: cs := by
  unfold wholeDigits
  split
  · exact ⟨_, rfl⟩
  · exact List.takeWhile_prefix isPlainDigit

theorem isPlainDigit_of_mem_wholeDigits {c : Char} (h : c ∈ wholeDigits cs) :
    isPlainDigit c = true := by
  unfold wholeDigits at h
  split at h
  · rw [List.mem_singleton.mp h]
    rfl
  · exact List.all_eq_true.mp List.all_takeWhile c h

theorem reads_magnitude (start : List Char) (negative : Bool) (cs : List Char) :
    Reads Value.TextKeyed depth cs (readMagnitude start negative cs) := by
  unfold readMagnitude
  dsimp only
  split
  · exact .malformed _ _
  split
  · split
    · rename_i hlong
      exact .error (.longInteger (wholeDigits_isPrefix cs).isInfix
        (fun c hc => isPlainDigit_of_mem_wholeDigits hc) hlong)
    · exact .ok (.plain rfl) (List.drop_suffix _ _)
  · split
    · exact .ok (.plain rfl) (List.drop_suffix _ _)
    · exact .malformed _ _

theorem entries?_of_mem_names {entry : List Char × Value} (h : entry ∈ names) :
    entry.2.entries? = none := by
  simp only [names, List.mem_cons, List.not_mem_nil, or_false] at h
  rcases h with rfl | rfl | rfl | rfl | rfl | rfl <;> rfl

theorem reads_atom (cs : List Char) : Reads Value.TextKeyed depth cs (readAtom cs) := by
  unfold readAtom
  split
  · rename_i name v hfind
    exact .ok (.plain (entries?_of_mem_names (List.mem_of_find?_eq_some hfind)))
      (List.drop_suffix _ _)
  · split
    · exact (reads_magnitude _ _ _).mono (List.suffix_cons _ _)
    · exact reads_magnitude _ _ _

/-! ## Values -/

/-- A member of an object: a text and a value. -/
def IsMember (member : Value × Value) : Prop := member.1.IsText ∧ member.2.TextKeyed

theorem textKeyed_ofList (members : List (Value × Value)) (h : ∀ m ∈ members, IsMember m) :
    (Value.map (OrderedMap.ofList members).entries).TextKeyed := by
  have hlevel : (OrderedMap.ofList members).Level Value.IsText Value.TextKeyed :=
    .ofList (fun m hm => (h m hm).1) fun m hm => (h m hm).2
  exact .map (fun entry hentry => hlevel.keys entry.1 (List.mem_map_of_mem hentry))
    hlevel.values

/-! ### Values made of others

The three readers call one another, so what they do is shown together, by their common bound. -/

mutual

theorem reads_value : (most depth : Nat) → (cs : List Char) →
    Reads Value.TextKeyed depth cs (readValue most depth cs)
  | 0, _, _ => .malformed _ _
  | most + 1, depth, cs => by
    rcases value_cases cs with ⟨rest, rfl⟩ | ⟨c, rest, rfl, hc⟩ | hatom
    · rw [readValue_quote]
      exact ((reads_text rest).mono (List.suffix_cons _ _)).map fun s _ => .plain rfl
    · cases depth with
      | zero =>
        rw [readValue_deep hc]
        exact .error (.nestedTooDeep (by rw [List.countP_cons_of_pos hc]; exact Nat.succ_pos _))
      | succ depth =>
        rcases eq_of_isOpening hc with rfl | rfl
        · rw [readValue_list]
          refine .afterMark (fun after hafter => ?_) fun after hafter => ?_
          · exact .ok (.plain rfl) (hafter.trans (List.suffix_cons _ _))
          · exact (((reads_items most depth after).mono hafter).nested hc).map
              fun items _ => .plain rfl
        · rw [readValue_map]
          refine .afterMark (fun after hafter => ?_) fun after hafter => ?_
          · exact .ok (textKeyed_ofList [] fun m hm => nomatch hm)
              (hafter.trans (List.suffix_cons _ _))
          · exact (((reads_members most depth after).mono hafter).nested hc).map textKeyed_ofList
    · rw [readValue_atom most depth hatom]
      exact reads_atom cs

theorem reads_items : (most depth : Nat) → (cs : List Char) →
    Reads (fun _ => True) depth cs (readItems most depth cs)
  | 0, _, _ => .malformed _ _
  | most + 1, depth, cs => by
    rw [readItems_eq]
    refine (reads_value most depth cs).bind fun first rest _ hrest => ?_
    refine .afterValue (fun after hafter => ?_) fun after hafter => ?_
    · exact .ok trivial (hafter.trans hrest)
    · exact ((reads_items most depth after).mono (hafter.trans hrest)).map fun _ _ => trivial

theorem reads_members : (most depth : Nat) → (cs : List Char) →
    Reads (fun members => ∀ m ∈ members, IsMember m) depth cs (readMembers most depth cs)
  | 0, _, _ => .malformed _ _
  | most + 1, depth, cs => by
    by_cases hquote : ∃ rest, cs = '"' :: rest
    · obtain ⟨rest, rfl⟩ := hquote
      rw [readMembers_quote]
      refine ((reads_text rest).mono (List.suffix_cons _ _)).bind fun name colon _ hcolon => ?_
      refine .afterMark (fun before hbefore => ?_) fun _ _ => .malformed _ _
      refine ((reads_value most depth (skipSpace before)).mono
        ((skipSpace_suffix before).trans (hbefore.trans hcolon))).bind
        fun value rest hvalue hrest => ?_
      have hmember : IsMember (.text name, value) := ⟨⟨name, rfl⟩, hvalue⟩
      refine .afterValue (fun after hafter => ?_) fun after hafter => ?_
      · exact .ok (by simpa using hmember) (hafter.trans hrest)
      · exact ((reads_members most depth after).mono (hafter.trans hrest)).map
          fun others hothers => List.forall_mem_cons.mpr ⟨hmember, hothers⟩
    · rw [readMembers_of_ne most depth (not_exists.mp hquote)]
      exact .malformed _ _

end

/-! ### The bound of the recursion

Every call but the first of a pair has consumed a character, so a bound above twice the length of
the text is never reached. -/

mutual

theorem readValue_succ : (most depth : Nat) → (cs : List Char) → 2 * cs.length < most →
    readValue (most + 1) depth cs = readValue most depth cs
  | 0, _, _, h => absurd h (Nat.not_lt_zero _)
  | most + 1, depth, cs, h => by
    rcases value_cases cs with ⟨rest, rfl⟩ | ⟨c, rest, rfl, hc⟩ | hatom
    · rw [readValue_quote, readValue_quote]
    · cases depth with
      | zero => rw [readValue_deep hc, readValue_deep hc]
      | succ depth =>
        rw [List.length_cons] at h
        rcases eq_of_isOpening hc with rfl | rfl
        · rw [readValue_list, readValue_list]
          refine afterMark_congr (fun _ _ => rfl) fun after hafter => ?_
          rw [readItems_succ most depth after (by omega)]
        · rw [readValue_map, readValue_map]
          refine afterMark_congr (fun _ _ => rfl) fun after hafter => ?_
          rw [readMembers_succ most depth after (by omega)]
    · rw [readValue_atom _ depth hatom, readValue_atom _ depth hatom]

theorem readItems_succ : (most depth : Nat) → (cs : List Char) → 2 * cs.length + 1 < most →
    readItems (most + 1) depth cs = readItems most depth cs
  | 0, _, _, h => absurd h (Nat.not_lt_zero _)
  | most + 1, depth, cs, h => by
    rw [readItems_eq, readItems_eq, readValue_succ most depth cs (by omega)]
    refine (reads_value most depth cs).bind_congr fun first rest hrest => ?_
    have hlength := hrest.length_le
    refine afterValue_congr fun after hafter => ?_
    rw [readItems_succ most depth after (by omega)]

theorem readMembers_succ : (most depth : Nat) → (cs : List Char) → 2 * cs.length + 1 < most →
    readMembers (most + 1) depth cs = readMembers most depth cs
  | 0, _, _, h => absurd h (Nat.not_lt_zero _)
  | most + 1, depth, cs, h => by
    by_cases hquote : ∃ rest, cs = '"' :: rest
    · obtain ⟨rest, rfl⟩ := hquote
      rw [List.length_cons] at h
      rw [readMembers_quote, readMembers_quote]
      have hname : Reads (fun _ => True) depth rest (readText rest) := reads_text rest
      refine hname.bind_congr fun name colon hcolon => ?_
      have hlength := hcolon.length_le
      refine afterMark_congr (fun before hbefore => ?_) fun _ _ => rfl
      have hskip := length_skipSpace_le before
      rw [readRest, readRest, readValue_succ most depth _ (by omega)]
      refine (reads_value most depth _).bind_congr fun value rest hrest => ?_
      have hrest := hrest.length_le
      refine afterValue_congr fun after hafter => ?_
      rw [readMembers_succ most depth after (by omega)]
    · rw [readMembers_of_ne _ depth (not_exists.mp hquote),
        readMembers_of_ne _ depth (not_exists.mp hquote)]

end

/-- Bounds that suffice give the same. -/
theorem readValue_eq_of_lt {most most' : Nat} (h : 2 * cs.length < most)
    (h' : 2 * cs.length < most') : readValue most depth cs = readValue most' depth cs := by
  have hleast : ∀ n, readValue (2 * cs.length + 1 + n) depth cs =
      readValue (2 * cs.length + 1) depth cs := by
    intro n
    induction n with
    | zero => rfl
    | succ n ih => rw [← Nat.add_assoc, readValue_succ _ depth cs (by omega), ih]
  obtain ⟨n, rfl⟩ := Nat.exists_eq_add_of_le (Nat.succ_le_of_lt h)
  obtain ⟨n', rfl⟩ := Nat.exists_eq_add_of_le (Nat.succ_le_of_lt h')
  exact (hleast n).trans (hleast n').symm

/-! ## Documents -/

/-- A document gives a value whose mappings have texts for keys, or is refused. -/
theorem readDocument_cases (depth : Nat) (cs : List Char) :
    (∃ v, readDocument depth cs = .ok v ∧ v.TextKeyed) ∨
      ∃ stop, readDocument depth cs = .error stop ∧ Refuses depth cs stop := by
  have hreads := (reads_value (2 * cs.length + 2) depth (skipSpace cs)).mono
    (skipSpace_suffix cs)
  unfold readDocument
  cases hread : readValue (2 * cs.length + 2) depth (skipSpace cs) with
  | error stop => exact .inr ⟨stop, rfl, hreads.refuses stop hread⟩
  | ok read =>
    obtain ⟨v, rest⟩ := read
    simp only [bind, Except.bind]
    split
    · exact .inl ⟨v, rfl, (hreads.result v rest hread).1⟩
    · exact .inr ⟨_, rfl, .malformed _ _⟩

/-! ### Documents beyond the limits -/

theorem readMagnitude_digits {ds : List Char} (hdigits : ∀ c ∈ ds, isPlainDigit c = true)
    (hzero : ds.head? ≠ some '0') (hlong : Fault.maxIntegerDigits < ds.length)
    (start : List Char) (negative : Bool) :
    readMagnitude start negative ds = .error (.fault (.longInteger (some ds.length))) := by
  have hwhole : wholeDigits ds = ds := by
    unfold wholeDigits
    split
    · exact absurd rfl hzero
    · simpa using Text.takeWhile_run hdigits (Text.stops_nil _)
  have hne : ds ≠ [] := List.ne_nil_of_length_pos (Nat.zero_lt_of_lt hlong)
  simp [readMagnitude, hwhole, hne, fractionPart, exponentPart, hlong]

section

variable {d : Char}

theorem ne_of_isPlainDigit (hd : isPlainDigit d = true) (c : Char)
    (hc : isPlainDigit c = false) : d ≠ c := by
  rintro rfl
  rw [hd] at hc
  cases hc

theorem not_isSpace_of_isPlainDigit (hd : isPlainDigit d = true) : isSpace d = false := by
  have hne := ne_of_isPlainDigit hd
  simp [isSpace, hne ' ' rfl, hne '\t' rfl, hne '\n' rfl, hne '\r' rfl]

theorem not_isOpening_of_isPlainDigit (hd : isPlainDigit d = true) : isOpening d = false := by
  have hne := ne_of_isPlainDigit hd
  simp [isOpening, hne '[' rfl, hne '\x7b' rfl]

theorem begins_of_mem_names {entry : List Char × Value} (h : entry ∈ names) :
    ∃ c tail, entry.1 = c :: tail ∧ isPlainDigit c = false := by
  simp only [names, List.mem_cons, List.not_mem_nil, or_false] at h
  rcases h with rfl | rfl | rfl | rfl | rfl | rfl <;> exact ⟨_, _, rfl, rfl⟩

theorem nameAt?_digit (hd : isPlainDigit d = true) (cs : List Char) : nameAt? (d :: cs) = none := by
  refine List.find?_eq_none.mpr fun entry hentry hfound => ?_
  obtain ⟨c, tail, hname, hc⟩ := begins_of_mem_names hentry
  rw [hname, List.isPrefixOf, Bool.and_eq_true, beq_iff_eq] at hfound
  exact absurd hfound.1.symm (ne_of_isPlainDigit hd c hc)

/-- A text that begins with a digit is a number. -/
theorem readAtom_digit (hd : isPlainDigit d = true) (cs : List Char) :
    readAtom (d :: cs) = readMagnitude (d :: cs) false (d :: cs) :=
  readAtom_of_no_sign (nameAt?_digit hd cs) fun _ heq =>
    ne_of_isPlainDigit hd '-' rfl (List.cons.inj heq).1

theorem readDocument_digits (depth : Nat) {ds : List Char}
    (hdigits : ∀ c ∈ ds, isPlainDigit c = true) (hzero : ds.head? ≠ some '0')
    (hlong : Fault.maxIntegerDigits < ds.length) :
    readDocument depth ds = .error (.fault (.longInteger (some ds.length))) := by
  obtain ⟨d, tail, rfl⟩ := List.exists_cons_of_length_pos (Nat.zero_lt_of_lt hlong)
  have hd : isPlainDigit d = true := hdigits d List.mem_cons_self
  have hspace : skipSpace (d :: tail) = d :: tail :=
    skipSpace_cons (not_isSpace_of_isPlainDigit hd) _
  have hatom : ∀ c ∈ (d :: tail).head?, c ≠ '"' ∧ isOpening c = false := by
    intro c hc
    obtain rfl := Option.some.inj hc
    exact ⟨ne_of_isPlainDigit hd '"' rfl, not_isOpening_of_isPlainDigit hd⟩
  rw [readDocument, hspace, readValue_atom _ _ hatom, readAtom_digit hd,
    readMagnitude_digits hdigits hzero hlong]
  rfl

end

/-- Brackets take up the levels one by one. -/
theorem readValue_brackets (depth most : Nat) (rest : List Char) (hmost : 2 * depth < most) :
    readValue most depth (List.replicate (depth + 1) '[' ++ rest) =
      .error (.fault .nestedTooDeep) := by
  induction depth generalizing most with
  | zero =>
    obtain ⟨most, rfl⟩ := Nat.exists_eq_add_one_of_ne_zero (Nat.ne_of_gt hmost)
    exact readValue_deep rfl most rest
  | succ depth ih =>
    obtain ⟨most, rfl⟩ := Nat.exists_eq_add_of_lt hmost
    have hinner := ih (2 * depth + most + 1) (by omega)
    rw [List.replicate_succ, List.cons_append] at hinner ⊢
    rw [List.replicate_succ, List.cons_append,
      show 2 * (depth + 1) + most + 1 = 2 * depth + most + 1 + 1 + 1 from by omega,
      readValue_list, afterMark_of_ne (fun after h => by cases h), skipSpace_cons (c := '[') rfl,
      readItems_eq, hinner]
    rfl

theorem readDocument_brackets (depth : Nat) (rest : List Char) :
    readDocument depth (List.replicate (depth + 1) '[' ++ rest) =
      .error (.fault .nestedTooDeep) := by
  have hspace : skipSpace (List.replicate (depth + 1) '[' ++ rest) =
      List.replicate (depth + 1) '[' ++ rest :=
    skipSpace_cons (c := '[') rfl _
  rw [readDocument, hspace, readValue_brackets depth _ rest (by simp; omega)]
  rfl

end Json

end Phrasebook
