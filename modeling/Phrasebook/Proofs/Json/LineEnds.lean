import Phrasebook.Proofs.Json.Reading
import Phrasebook.Proofs.Text.LineEnds
import Mathlib.Data.List.Find

/-! Line ends do not matter to the reading of a document. A carriage return stands between values,
where it is white space like the line feed that replaces it, or where neither of them may stand; so
a text and the text with its line ends unified give the same value and leave the same text, but for
line ends, or are both refused, for the same fault if it is not that they are no JSON. -/

namespace Phrasebook.Json

open Text

variable {cs rest : List Char}

theorem skipSpace_unifyLineEnds (cs : List Char) :
    skipSpace (unifyLineEnds cs) = unifyLineEnds (skipSpace cs) := by
  induction cs using unifyLineEnds.induct with
  | case1 => rfl
  | case2 rest ih => simpa [unifyLineEnds, skipSpace, isSpace] using ih
  | case3 rest hrest ih => simpa [unifyLineEnds, skipSpace, isSpace] using ih
  | case4 c rest hc hc' ih =>
    have hne : c ≠ '\r' := hc'
    rw [unifyLineEnds_cons hne]
    by_cases hspace : isSpace c = true
    · simpa [skipSpace, hspace] using ih
    · simp [skipSpace, hspace, unifyLineEnds_cons hne]

/-! ## Strings -/

def Front.unifyLineEnds : Front → Front
  | close rest => close (Text.unifyLineEnds rest)
  | char c rest => char c (Text.unifyLineEnds rest)
  | stuck => stuck

theorem not_isLineEnd_of_hexValue? {c : Char} {n : Nat} (h : hexValue? c = some n) :
    ¬ IsLineEnd c := by
  rintro (rfl | rfl) <;> cases h

theorem not_isLineEnd_of_hex4? {a b c d : Char} {n : Nat} (h : hex4? a b c d = some n) :
    ∀ e ∈ [a, b, c, d], ¬ IsLineEnd e := by
  simp only [hex4?, Option.bind_eq_bind, Option.bind_eq_some_iff] at h
  obtain ⟨va, ha, vb, hb, vc, hc, vd, hd, -⟩ := h
  simp only [List.mem_cons, List.not_mem_nil, or_false, forall_eq_or_imp, forall_eq]
  exact ⟨not_isLineEnd_of_hexValue? ha, not_isLineEnd_of_hexValue? hb,
    not_isLineEnd_of_hexValue? hc, not_isLineEnd_of_hexValue? hd⟩

theorem code?_unifyLineEnds (cs : List Char) :
    code? (unifyLineEnds cs) = (code? cs).map fun (code, rest) => (code, unifyLineEnds rest) := by
  refine Option.ext fun ⟨code, rest⟩ => ?_
  simp only [Option.map_eq_some_iff, Prod.exists, Prod.mk.injEq, code?_eq_some_iff]
  constructor
  · rintro ⟨a, b, c, d, hhex, hcs, hne⟩
    obtain ⟨before, rfl, rfl⟩ :=
      (unifyLineEnds_eq_append_iff (not_isLineEnd_of_hex4? hhex)).mp hcs
    exact ⟨code, before, ⟨a, b, c, d, hhex, rfl, mt unifyLineEnds_eq_nil_iff.mpr hne⟩, rfl, rfl⟩
  · rintro ⟨_, before, ⟨a, b, c, d, hhex, rfl, hne⟩, rfl, rfl⟩
    exact ⟨a, b, c, d, hhex, (unifyLineEnds_eq_append_iff (not_isLineEnd_of_hex4? hhex)).mpr
      ⟨before, rfl, rfl⟩, mt unifyLineEnds_eq_nil_iff.mp hne⟩

theorem pairFront_unifyLineEnds (high : Nat) (cs : List Char) :
    pairFront high (unifyLineEnds cs) = (pairFront high cs).unifyLineEnds := by
  have hfront : ∀ e ∈ ['\\', 'u'], ¬ IsLineEnd e := by simp [IsLineEnd]
  by_cases hescape : ∃ next, cs = '\\' :: 'u' :: next
  · obtain ⟨next, rfl⟩ := hescape
    have hunified : unifyLineEnds ('\\' :: 'u' :: next) = '\\' :: 'u' :: unifyLineEnds next :=
      (unifyLineEnds_eq_append_iff hfront).mpr ⟨next, rfl, rfl⟩
    rw [hunified, pairFront, pairFront, code?_unifyLineEnds]
    cases code? next with
    | none => rfl
    | some found =>
      dsimp only [Option.map_some]
      split
      · rfl
      · rw [Front.unifyLineEnds, hunified]
  · have hbefore : ∀ next, cs ≠ '\\' :: 'u' :: next := not_exists.mp hescape
    rw [pairFront_of_not_escape hbefore,
      pairFront_of_not_escape (unifyLineEnds_ne_append hfront hbefore)]
    rfl

theorem escapeFront_unifyLineEnds (cs : List Char) :
    escapeFront (unifyLineEnds cs) = (escapeFront cs).unifyLineEnds := by
  cases cs with
  | nil => rfl
  | cons c rest =>
    rcases unifyLineEnds_cons_cases c rest with ⟨-, hunified⟩ | ⟨rfl, after, hunified⟩
    · rw [hunified]
      by_cases hu : c = 'u'
      · subst hu
        rw [escapeFront, escapeFront, code?_unifyLineEnds]
        cases code? rest with
        | none => rfl
        | some found =>
          dsimp only [Option.map_some]
          split
          · exact pairFront_unifyLineEnds found.1 found.2
          · rfl
      · rw [escapeFront_letter hu, escapeFront_letter hu]
        cases escaped? c with
        | none => rfl
        | some _ => rfl
    · rw [hunified]
      rfl

theorem front_unifyLineEnds (cs : List Char) :
    front (unifyLineEnds cs) = (front cs).unifyLineEnds := by
  cases cs with
  | nil => rfl
  | cons c rest =>
    rcases unifyLineEnds_cons_cases c rest with ⟨-, hunified⟩ | ⟨rfl, after, hunified⟩
    · rw [hunified, front, front]
      split
      · rfl
      split
      · exact escapeFront_unifyLineEnds rest
      split
      · rfl
      · rfl
    · rw [hunified]
      rfl

/-! ## Readings -/

/-- Readings of a text and of the text with its line ends unified that come to the same. -/
inductive Alike {α : Type} : Reading (α × List Char) → Reading (α × List Char) → Prop where
  | ok (a : α) (rest : List Char) : Alike (.ok (a, rest)) (.ok (a, unifyLineEnds rest))
  | malformed (reason reason' : Reason) (rest rest' : List Char) :
    Alike (.error (.malformed reason rest)) (.error (.malformed reason' rest'))
  | fault (fault : Fault) : Alike (.error (.fault fault)) (.error (.fault fault))

namespace Alike

variable {α β : Type} {r r' : Reading (α × List Char)}

theorem bind {f f' : α × List Char → Reading (β × List Char)} (h : Alike r r')
    (hf : ∀ a rest, Alike (f (a, rest)) (f' (a, unifyLineEnds rest))) :
    Alike (r >>= f) (r' >>= f') := by
  cases h with
  | ok a rest => exact hf a rest
  | malformed => exact .malformed _ _ _ _
  | fault fault => exact .fault fault

theorem map (f : α → β) (h : Alike r r') :
    Alike (r.map fun (a, rest) => (f a, rest)) (r'.map fun (a, rest) => (f a, rest)) := by
  cases h with
  | ok a rest => exact .ok (f a) rest
  | malformed => exact .malformed _ _ _ _
  | fault fault => exact .fault fault

theorem afterMark {mark : Char}
    {next next' otherwise otherwise' : List Char → Reading (α × List Char)}
    (hmark : ¬ IsLineEnd mark)
    (hnext : ∀ after, Alike (next after) (next' (unifyLineEnds after)))
    (hother : ∀ after, Alike (otherwise after) (otherwise' (unifyLineEnds after)))
    (rest : List Char) :
    Alike (Json.afterMark mark next otherwise rest)
      (Json.afterMark mark next' otherwise' (unifyLineEnds rest)) := by
  have hspace := skipSpace_unifyLineEnds rest
  rcases mark_cases mark rest with ⟨after, h⟩ | h
  · rw [h, unifyLineEnds_cons fun heq => hmark (.inl heq)] at hspace
    rw [afterMark_mark h, afterMark_mark hspace]
    exact hnext after
  · have h' := unifyLineEnds_ne_cons hmark h
    rw [← hspace] at h'
    rw [afterMark_of_ne h, afterMark_of_ne h', hspace]
    exact hother _

theorem afterValue {close : Char} {done done' more more' : List Char → Reading (α × List Char)}
    (hclose : ¬ IsLineEnd close) (hdone : ∀ after, Alike (done after) (done' (unifyLineEnds after)))
    (hmore : ∀ after, Alike (more after) (more' (unifyLineEnds after))) (rest : List Char) :
    Alike (Json.afterValue close done more rest)
      (Json.afterValue close done' more' (unifyLineEnds rest)) := by
  refine .afterMark hclose hdone (.afterMark (by decide) (fun after => ?_) fun _ => ?_) rest
  · rw [skipSpace_unifyLineEnds]
    exact hmore _
  · exact .malformed _ _ _ _

end Alike

theorem readString_nil (opening : List Char) (most : Nat) :
    readString opening most [] = .error (.malformed .unterminatedString opening) := by
  cases most <;> rfl

/-- Strings hold no line ends, so they are read alike under bounds that suffice. -/
theorem alike_string {most most' : Nat} (opening opening' : List Char)
    (hmost : cs.length ≤ most) (hmost' : (unifyLineEnds cs).length ≤ most') :
    Alike (readString opening most cs) (readString opening' most' (unifyLineEnds cs)) := by
  induction most generalizing cs most' with
  | zero =>
    obtain rfl := List.eq_nil_of_length_eq_zero (Nat.le_zero.mp hmost)
    rw [unifyLineEnds, readString_nil, readString_nil]
    exact .malformed _ _ _ _
  | succ most ih =>
    cases cs with
    | nil =>
      rw [unifyLineEnds, readString_nil, readString_nil]
      exact .malformed _ _ _ _
    | cons c rest =>
      obtain ⟨c', rest', hunified⟩ := exists_unifyLineEnds_cons c rest
      have hread := gives_front opening most (c :: rest)
      have hrest := within_front c rest
      have hfront := front_unifyLineEnds (c :: rest)
      rw [hunified] at hfront hmost' ⊢
      obtain ⟨most', rfl⟩ := Nat.exists_eq_add_one_of_ne_zero (Nat.ne_zero_of_lt hmost')
      have hread' := gives_front opening' most' (c' :: rest')
      have hrest' := within_front c' rest'
      rw [hfront] at hread' hrest'
      cases hcs : front (c :: rest) with
      | close after =>
        rw [hcs] at hread hread'
        rw [hread, hread']
        exact .ok [] after
      | char d after =>
        rw [hcs] at hread hread' hrest hrest'
        rw [hread, hread']
        refine (ih ?_ ?_).map (d :: ·)
        · exact Nat.le_trans hrest.length_le (Nat.le_of_succ_le_succ hmost)
        · exact Nat.le_trans hrest'.length_le (Nat.le_of_succ_le_succ hmost')
      | stuck =>
        rw [hcs] at hread hread'
        obtain ⟨_, _, hread⟩ := hread
        obtain ⟨_, _, hread'⟩ := hread'
        rw [hread, hread']
        exact .malformed _ _ _ _

theorem alike_text (cs : List Char) : Alike (readText cs) (readText (unifyLineEnds cs)) :=
  (alike_string _ _ (Nat.le_refl _) (Nat.le_refl _)).map String.ofList

/-! ### Numbers and names -/

/-- A beginning without line ends. -/
structure Fronts (front cs : List Char) : Prop where
  begins : front <+: cs
  noLineEnd : ∀ c ∈ front, ¬ IsLineEnd c

namespace Fronts

variable {front next : List Char}

theorem drop (h : Fronts front cs) :
    (unifyLineEnds cs).drop front.length = unifyLineEnds (cs.drop front.length) := by
  obtain ⟨rest, rfl⟩ := h.begins
  rw [(unifyLineEnds_eq_append_iff h.noLineEnd).mpr ⟨rest, rfl, rfl⟩, List.drop_left,
    List.drop_left]

theorem append (h : Fronts front cs) (h' : Fronts next (cs.drop front.length)) :
    Fronts (front ++ next) cs where
  begins := by
    obtain ⟨rest, rfl⟩ := h.begins
    obtain ⟨rest, hrest⟩ := h'.begins
    rw [List.drop_left] at hrest
    exact ⟨rest, by rw [List.append_assoc, hrest]⟩
  noLineEnd := by
    intro c hc
    rcases List.mem_append.mp hc with hc | hc
    · exact h.noLineEnd c hc
    · exact h'.noLineEnd c hc

theorem nil (cs : List Char) : Fronts [] cs where
  begins := List.nil_prefix
  noLineEnd := fun _ h => nomatch h

theorem cons {c : Char} (h : Fronts front cs) (hc : ¬ IsLineEnd c) :
    Fronts (c :: front) (c :: cs) where
  begins := List.prefix_cons_inj c |>.mpr h.begins
  noLineEnd := by
    intro d hd
    rcases List.mem_cons.mp hd with rfl | hd
    · exact hc
    · exact h.noLineEnd d hd

end Fronts

theorem not_isLineEnd_of_isPlainDigit {c : Char} (h : Number.isPlainDigit c = true) :
    ¬ IsLineEnd c := by
  rintro (rfl | rfl) <;> cases h

theorem fronts_digits (cs : List Char) : Fronts (cs.takeWhile Number.isPlainDigit) cs where
  begins := List.takeWhile_prefix Number.isPlainDigit
  noLineEnd := fun c hc =>
    not_isLineEnd_of_isPlainDigit (List.all_eq_true.mp List.all_takeWhile c hc)

theorem fronts_wholeDigits (cs : List Char) : Fronts (wholeDigits cs) cs where
  begins := wholeDigits_isPrefix cs
  noLineEnd := fun _ hc => not_isLineEnd_of_isPlainDigit (isPlainDigit_of_mem_wholeDigits hc)

theorem fronts_fractionPart (cs : List Char) : Fronts (fractionPart cs) cs := by
  unfold fractionPart
  split
  · rename_i rest
    split
    · exact .nil _
    · exact (fronts_digits rest).cons (by decide)
  · exact .nil _

theorem wholeDigits_of_not_zero (h : ∀ rest, cs ≠ '0' :: rest) :
    wholeDigits cs = cs.takeWhile Number.isPlainDigit := by
  unfold wholeDigits
  split
  · exact absurd rfl (h _)
  · rfl

theorem wholeDigits_unifyLineEnds (cs : List Char) :
    wholeDigits (unifyLineEnds cs) = wholeDigits cs := by
  by_cases h : ∃ rest, cs = '0' :: rest
  · obtain ⟨rest, rfl⟩ := h
    rw [unifyLineEnds_cons (by decide)]
    rfl
  · have hcs : ∀ rest, cs ≠ '0' :: rest := not_exists.mp h
    rw [wholeDigits_of_not_zero hcs,
      wholeDigits_of_not_zero (unifyLineEnds_ne_cons (by decide) hcs),
      takeWhile_unifyLineEnds rfl rfl]

theorem fractionPart_of_no_point (h : ∀ rest, cs ≠ '.' :: rest) : fractionPart cs = [] := by
  unfold fractionPart
  split
  · exact absurd rfl (h _)
  · rfl

theorem fractionPart_unifyLineEnds (cs : List Char) :
    fractionPart (unifyLineEnds cs) = fractionPart cs := by
  by_cases h : ∃ rest, cs = '.' :: rest
  · obtain ⟨rest, rfl⟩ := h
    rw [unifyLineEnds_cons (by decide), fractionPart, fractionPart,
      takeWhile_unifyLineEnds rfl rfl]
  · have hcs : ∀ rest, cs ≠ '.' :: rest := not_exists.mp h
    rw [fractionPart_of_no_point hcs,
      fractionPart_of_no_point (unifyLineEnds_ne_cons (by decide) hcs)]

/-- The sign of an exponent, nothing without one. -/
def exponentSign : List Char → List Char
  | '+' :: _ => ['+']
  | '-' :: _ => ['-']
  | _ => []

theorem exponentSign_cons (c : Char) (rest : List Char) :
    exponentSign (c :: rest) = if c = '+' ∨ c = '-' then [c] else [] := by
  by_cases hplus : c = '+'
  · subst hplus
    rfl
  by_cases hminus : c = '-'
  · subst hminus
    rfl
  simp [exponentSign, hplus, hminus]

theorem exponentPart_cons (c : Char) (rest : List Char) :
    exponentPart (c :: rest) =
      if c = 'e' || c = 'E' then
        match (rest.drop (exponentSign rest).length).takeWhile Number.isPlainDigit with
        | [] => []
        | ds => c :: (exponentSign rest ++ ds)
      else [] := rfl

theorem fronts_exponentSign (cs : List Char) : Fronts (exponentSign cs) cs := by
  unfold exponentSign
  split
  · exact (Fronts.nil _).cons (by decide)
  · exact (Fronts.nil _).cons (by decide)
  · exact .nil _

theorem exponentSign_unifyLineEnds (cs : List Char) :
    exponentSign (unifyLineEnds cs) = exponentSign cs := by
  cases cs with
  | nil => rfl
  | cons c rest =>
    rcases unifyLineEnds_cons_cases c rest with ⟨-, hunified⟩ | ⟨rfl, after, hunified⟩
    · rw [hunified, exponentSign_cons, exponentSign_cons]
    · rw [hunified]
      rfl

theorem fronts_exponentPart (cs : List Char) : Fronts (exponentPart cs) cs := by
  cases cs with
  | nil => exact .nil _
  | cons c rest =>
    rw [exponentPart_cons]
    split
    · split
      · exact .nil _
      · rename_i hmark _ _
        have hsign := fronts_exponentSign rest
        refine (hsign.append (fronts_digits _)).cons ?_
        rintro (rfl | rfl) <;> cases hmark
    · exact .nil _

theorem exponentPart_unifyLineEnds (cs : List Char) :
    exponentPart (unifyLineEnds cs) = exponentPart cs := by
  cases cs with
  | nil => rfl
  | cons c rest =>
    rcases unifyLineEnds_cons_cases c rest with ⟨-, hunified⟩ | ⟨rfl, after, hunified⟩
    · rw [hunified, exponentPart_cons, exponentPart_cons, exponentSign_unifyLineEnds,
        (fronts_exponentSign rest).drop, takeWhile_unifyLineEnds rfl rfl]
    · rw [hunified]
      rfl

theorem alike_magnitude (start start' : List Char) (negative : Bool) (cs : List Char) :
    Alike (readMagnitude start negative cs) (readMagnitude start' negative (unifyLineEnds cs)) := by
  have hwhole := fronts_wholeDigits cs
  have hfraction := hwhole.append (fronts_fractionPart _)
  have hexponent := hfraction.append (fronts_exponentPart _)
  unfold readMagnitude
  simp only [wholeDigits_unifyLineEnds, hwhole.drop, fractionPart_unifyLineEnds, hfraction.drop,
    exponentPart_unifyLineEnds, hexponent.drop]
  split
  · exact .malformed _ _ _ _
  split
  · split
    · exact .fault _
    · exact .ok _ _
  · split
    · exact .ok _ _
    · exact .malformed _ _ _ _

theorem not_isLineEnd_of_mem_names {entry : List Char × Value} (h : entry ∈ names) :
    ∀ c ∈ entry.1, ¬ IsLineEnd c := by
  simp only [names, List.mem_cons, List.not_mem_nil, or_false] at h
  rcases h with rfl | rfl | rfl | rfl | rfl | rfl <;> simp [IsLineEnd]

theorem nameAt?_unifyLineEnds (cs : List Char) : nameAt? (unifyLineEnds cs) = nameAt? cs := by
  refine List.find?_congr fun entry hentry => Bool.eq_iff_iff.mpr ?_
  rw [List.isPrefixOf_iff_prefix, List.isPrefixOf_iff_prefix]
  constructor
  · rintro ⟨rest, hrest⟩
    obtain ⟨before, rfl, -⟩ :=
      (unifyLineEnds_eq_append_iff (not_isLineEnd_of_mem_names hentry)).mp hrest.symm
    exact ⟨before, rfl⟩
  · rintro ⟨before, rfl⟩
    exact ⟨_, ((unifyLineEnds_eq_append_iff (not_isLineEnd_of_mem_names hentry)).mpr
      ⟨before, rfl, rfl⟩).symm⟩

theorem fronts_name {name : List Char} {v : Value} (h : nameAt? cs = some (name, v)) :
    Fronts name cs where
  begins := by
    have hfound := List.find?_some h
    exact List.isPrefixOf_iff_prefix.mp hfound
  noLineEnd := not_isLineEnd_of_mem_names (List.mem_of_find?_eq_some h)

theorem alike_atom (cs : List Char) : Alike (readAtom cs) (readAtom (unifyLineEnds cs)) := by
  have hname := nameAt?_unifyLineEnds cs
  cases h : nameAt? cs with
  | some found =>
    obtain ⟨name, v⟩ := found
    rw [h] at hname
    rw [readAtom_of_name h, readAtom_of_name hname, (fronts_name h).drop]
    exact .ok v _
  | none =>
    rw [h] at hname
    by_cases hcs : ∃ rest, cs = '-' :: rest
    · obtain ⟨rest, rfl⟩ := hcs
      rw [unifyLineEnds_cons (by decide)] at hname ⊢
      rw [readAtom_of_sign h, readAtom_of_sign hname]
      exact alike_magnitude _ _ _ _
    · have hcs : ∀ rest, cs ≠ '-' :: rest := not_exists.mp hcs
      rw [readAtom_of_no_sign h hcs,
        readAtom_of_no_sign hname (unifyLineEnds_ne_cons (by decide) hcs)]
      exact alike_magnitude _ _ _ _

/-! ### Values

With the same bound for both texts the readers take the same steps. -/

mutual

theorem alike_value : (most depth : Nat) → (cs : List Char) →
    Alike (readValue most depth cs) (readValue most depth (unifyLineEnds cs))
  | 0, _, _ => .malformed _ _ _ _
  | most + 1, depth, cs => by
    rcases value_cases cs with ⟨rest, rfl⟩ | ⟨c, rest, rfl, hc⟩ | hatom
    · rw [unifyLineEnds_cons (by decide), readValue_quote, readValue_quote]
      exact (alike_text rest).map Value.text
    · have hne : c ≠ '\r' := by
        rintro rfl
        cases hc
      rw [unifyLineEnds_cons hne]
      cases depth with
      | zero =>
        rw [readValue_deep hc, readValue_deep hc]
        exact .fault _
      | succ depth =>
        rcases eq_of_isOpening hc with rfl | rfl
        · rw [readValue_list, readValue_list]
          exact .afterMark (by decide) (fun after => .ok _ after)
            (fun after => (alike_items most depth after).map Value.list) rest
        · rw [readValue_map, readValue_map]
          exact .afterMark (by decide) (fun after => .ok _ after)
            (fun after => (alike_members most depth after).map fun members =>
              Value.map (OrderedMap.ofList members).entries) rest
    · have hatom' : ∀ c ∈ (unifyLineEnds cs).head?, c ≠ '"' ∧ isOpening c = false := by
        intro c hc
        rcases head?_unifyLineEnds hc with hc | rfl
        · exact hatom c hc
        · decide
      rw [readValue_atom most depth hatom, readValue_atom most depth hatom']
      exact alike_atom cs

theorem alike_items : (most depth : Nat) → (cs : List Char) →
    Alike (readItems most depth cs) (readItems most depth (unifyLineEnds cs))
  | 0, _, _ => .malformed _ _ _ _
  | most + 1, depth, cs => by
    rw [readItems_eq, readItems_eq]
    refine (alike_value most depth cs).bind fun first rest => ?_
    exact .afterValue (by decide) (fun after => .ok [first] after)
      (fun after => (alike_items most depth after).map (first :: ·)) rest

theorem alike_members : (most depth : Nat) → (cs : List Char) →
    Alike (readMembers most depth cs) (readMembers most depth (unifyLineEnds cs))
  | 0, _, _ => .malformed _ _ _ _
  | most + 1, depth, cs => by
    by_cases hquote : ∃ rest, cs = '"' :: rest
    · obtain ⟨rest, rfl⟩ := hquote
      rw [unifyLineEnds_cons (by decide), readMembers_quote, readMembers_quote]
      refine (alike_text rest).bind fun name rest => ?_
      refine .afterMark (by decide) (fun before => ?_) (fun _ => .malformed _ _ _ _) rest
      rw [skipSpace_unifyLineEnds]
      refine (alike_value most depth _).bind fun value rest => ?_
      exact .afterValue (by decide) (fun after => .ok [(Value.text name, value)] after)
        (fun after => (alike_members most depth after).map ((Value.text name, value) :: ·)) rest
    · have hquote : ∀ rest, cs ≠ '"' :: rest := not_exists.mp hquote
      rw [readMembers_of_ne most depth hquote,
        readMembers_of_ne most depth (unifyLineEnds_ne_cons (by decide) hquote)]
      exact .malformed _ _ _ _

end

/-! ## Documents -/

/-- Documents that come to the same: a value, or being no JSON, or a fault. -/
inductive AlikeDocuments : Except Stop Value → Except Stop Value → Prop where
  | ok (v : Value) : AlikeDocuments (.ok v) (.ok v)
  | malformed (reason reason' : Reason) (rest rest' : List Char) :
    AlikeDocuments (.error (.malformed reason rest)) (.error (.malformed reason' rest'))
  | fault (fault : Fault) : AlikeDocuments (.error (.fault fault)) (.error (.fault fault))

theorem alike_document (depth : Nat) (cs : List Char) :
    AlikeDocuments (readDocument depth cs) (readDocument depth (unifyLineEnds cs)) := by
  have hlength := length_skipSpace_le (unifyLineEnds cs)
  have hle := length_unifyLineEnds_le cs
  rw [skipSpace_unifyLineEnds] at hlength
  have hbound : readValue (2 * (unifyLineEnds cs).length + 2) depth
      (unifyLineEnds (skipSpace cs)) =
      readValue (2 * cs.length + 2) depth (unifyLineEnds (skipSpace cs)) :=
    readValue_eq_of_lt (by omega) (by omega)
  have halike := alike_value (2 * cs.length + 2) depth (skipSpace cs)
  rw [readDocument, readDocument, skipSpace_unifyLineEnds, hbound]
  generalize readValue (2 * cs.length + 2) depth (skipSpace cs) = r at halike ⊢
  generalize readValue (2 * cs.length + 2) depth (unifyLineEnds (skipSpace cs)) = r' at halike ⊢
  cases halike with
  | malformed => exact .malformed _ _ _ _
  | fault fault => exact .fault fault
  | ok v rest =>
    simp only [bind, Except.bind, skipSpace_unifyLineEnds]
    generalize skipSpace rest = after
    cases after with
    | nil => exact .ok v
    | cons c after =>
      obtain ⟨c', after', hunified⟩ := exists_unifyLineEnds_cons c after
      rw [hunified]
      exact .malformed _ _ _ _

end Phrasebook.Json
