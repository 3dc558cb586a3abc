import Phrasebook.Condition.Reader
import Phrasebook.Proofs.Text.Run

/-! The grammar of conditions, as a relation between a text and the condition that it spells. The
reader recognises exactly the texts that begin with white space and a spelled condition, and the
part that it takes is the only one: a bracket ends the condition, and no condition has another one
inside. Every part is read by itself, so a part is described by what its reader takes off a text
and by what may follow it. -/

namespace Phrasebook

open Text

/-- An optional minus sign and at least one digit. -/
inductive Numeral.Written : List Char → Numeral → Prop
  | plain {cs : List Char} {ds : List Nat} :
      cs ≠ [] → DigitsOf cs ds → Written cs { negative := false, digits := ds, text := cs }
  | minus {cs : List Char} {ds : List Nat} :
      cs ≠ [] → DigitsOf cs ds →
      Written ('-' :: cs) { negative := true, digits := ds, text := '-' :: cs }

/-- A number, or an infinity with an optional sign. -/
inductive Bound.Written : List Char → Bound Numeral → Prop
  | infinity : Written ['I', 'n', 'f'] .positiveInfinity
  | plusInfinity : Written ['+', 'I', 'n', 'f'] .positiveInfinity
  | minusInfinity : Written ['-', 'I', 'n', 'f'] .negativeInfinity
  | number {cs : List Char} {n : Numeral} : n.Written cs → Written cs (.at n)

/-- A spelling with optional white space around it. -/
def Padded {α : Type} (spells : List Char → α → Prop) (cs : List Char) (a : α) : Prop :=
  ∃ before core after, IsSpace before ∧ spells core a ∧ IsSpace after ∧
    cs = before ++ (core ++ after)

/-- A number with optional white space around it, all of which is its text. -/
def Numeral.Spaced (cs : List Char) (member : Numeral) : Prop :=
  ∃ n, Padded Numeral.Written cs n ∧ member = { n with text := cs }

namespace ConditionShape

/-- Numbers divided by commas, at least one. -/
inductive MembersWritten : List Char → List Numeral → Prop
  | last {cs : List Char} {n : Numeral} : n.Spaced cs → MembersWritten cs [n]
  | more {cs rest : List Char} {n : Numeral} {others : List Numeral} :
      n.Spaced cs → MembersWritten rest others → MembersWritten (cs ++ ',' :: rest) (n :: others)

/-- Members in braces, or two bounds in brackets. White space next to a brace is part of no member.
Both kinds of bracket stand on both sides; the left bound is included by an opening one, the right
bound by a closing one. -/
inductive Written : List Char → ConditionShape Numeral → Prop
  | set {cs : List Char} {members : List Numeral} :
      MembersWritten cs members → Written ('{' :: (cs ++ ['}'])) (.set (trimEnds members))
  | interval {opening closing : Char} {ls rs : List Char} {left right : Bound Numeral} :
      opening ∈ ['[', ']', '('] → closing ∈ ['[', ']', ')'] →
      Padded Bound.Written ls left → Padded Bound.Written rs right →
      Written (opening :: (ls ++ ',' :: (rs ++ [closing])))
        (.interval left (opening == '[') right (closing == ']'))

end ConditionShape

/-- White space and a condition: the texts that the reader recognises. -/
def Condition.Written (cs : List Char) (shape : ConditionShape Numeral) : Prop :=
  ∃ before core, IsSpace before ∧ shape.Written core ∧ cs = before ++ core

/-! ## Numbers -/

namespace Numeral

/-- The first character of a number. -/
theorem Written.head {cs : List Char} {n : Numeral} (h : n.Written cs) :
    ∃ c rest, cs = c :: rest ∧ (c = '-' ∨ isDecimalDigit c = true) := by
  cases h with
  | plain hne hds =>
    obtain ⟨c, rest, rfl⟩ := List.exists_cons_of_ne_nil hne
    exact ⟨c, rest, rfl, .inr (hds.isDecimalDigit c List.mem_cons_self)⟩
  | minus _ _ => exact ⟨'-', _, rfl, .inl rfl⟩

theorem readDigits?_complete {cs rest : List Char} {ds : List Nat} (negative : Bool)
    (hne : cs ≠ []) (hds : DigitsOf cs ds) (hrest : Stops isDecimalDigit rest) :
    readDigits? negative (cs ++ rest) =
      some ({ negative, digits := ds, text := if negative then '-' :: cs else cs }, rest) := by
  obtain ⟨c, cs, rfl⟩ := List.exists_cons_of_ne_nil hne
  unfold readDigits?
  rw [takeWhile_run hds.isDecimalDigit hrest, dropWhile_run hds.isDecimalDigit hrest]
  simp [hds.filterMap]

theorem readDigits?_sound {negative : Bool} {cs rest : List Char} {n : Numeral}
    (h : readDigits? negative cs = some (n, rest)) :
    ∃ front ds, cs = front ++ rest ∧ front ≠ [] ∧ DigitsOf front ds ∧
      n = { negative, digits := ds, text := if negative then '-' :: front else front } := by
  unfold readDigits? at h
  split at h
  · cases h
  · rename_i hne
    obtain ⟨rfl, rfl⟩ := Prod.mk.inj (Option.some.inj h)
    refine ⟨_, _, List.takeWhile_append_dropWhile.symm, hne, ?_, rfl⟩
    exact digitsOf_filterMap fun c hc => List.all_eq_true.mp List.all_takeWhile c hc

theorem read?_complete {cs rest : List Char} {n : Numeral} (h : n.Written cs)
    (hrest : Stops isDecimalDigit rest) : read? (cs ++ rest) = some (n, rest) := by
  cases h with
  | minus hne hds => exact readDigits?_complete true hne hds hrest
  | plain hne hds =>
    have hread := readDigits?_complete false hne hds hrest
    obtain ⟨c, cs, rfl⟩ := List.exists_cons_of_ne_nil hne
    have hc := hds.isDecimalDigit c List.mem_cons_self
    unfold read?
    split
    · rename_i after heq
      obtain ⟨rfl, -⟩ := List.cons.inj heq
      exact absurd hc (by decide)
    · exact hread

theorem read?_sound {cs rest : List Char} {n : Numeral} (h : read? cs = some (n, rest)) :
    ∃ front, cs = front ++ rest ∧ n.Written front := by
  unfold read? at h
  split at h
  · obtain ⟨front, ds, rfl, hne, hds, rfl⟩ := readDigits?_sound h
    exact ⟨'-' :: front, rfl, .minus hne hds⟩
  · obtain ⟨front, ds, rfl, hne, hds, rfl⟩ := readDigits?_sound h
    exact ⟨front, rfl, .plain hne hds⟩

end Numeral

/-! ## Bounds -/

namespace Bound

/-- A text that begins with a digit is read as a number. -/
theorem read?_digit {c : Char} (hc : isDecimalDigit c = true) (cs : List Char) :
    read? (c :: cs) = (Numeral.read? (c :: cs)).map fun (n, rest) => (.at n, rest) := by
  unfold read?
  split
  · rename_i heq
    obtain ⟨rfl, -⟩ := List.cons.inj heq
    exact absurd hc (by decide)
  · rename_i heq
    obtain ⟨rfl, -⟩ := List.cons.inj heq
    exact absurd hc (by decide)
  · rename_i heq
    obtain ⟨rfl, -⟩ := List.cons.inj heq
    exact absurd hc (by decide)
  · rfl

theorem read?_number {cs rest : List Char} {n : Numeral} (h : n.Written cs) :
    read? (cs ++ rest) = (Numeral.read? (cs ++ rest)).map fun (n, rest) => (.at n, rest) := by
  -- a number starts with no letter and no plus sign, and has a digit after a minus sign
  cases h with
  | plain hne hds =>
    obtain ⟨c, cs, rfl⟩ := List.exists_cons_of_ne_nil hne
    exact read?_digit (hds.isDecimalDigit c List.mem_cons_self) (cs ++ rest)
  | minus hne hds =>
    obtain ⟨c, cs, rfl⟩ := List.exists_cons_of_ne_nil hne
    have hc := hds.isDecimalDigit c List.mem_cons_self
    unfold read?
    split
    · rename_i heq
      cases (List.cons.inj heq).1
    · rename_i heq
      cases (List.cons.inj heq).1
    · rename_i heq
      obtain ⟨rfl, -⟩ := List.cons.inj (List.cons.inj heq).2
      exact absurd hc (by decide)
    · rfl

theorem read?_complete {cs rest : List Char} {b : Bound Numeral} (h : Bound.Written cs b)
    (hrest : Stops isDecimalDigit rest) : read? (cs ++ rest) = some (b, rest) := by
  cases h with
  | infinity => rfl
  | plusInfinity => rfl
  | minusInfinity => rfl
  | number hn => rw [read?_number hn, Numeral.read?_complete hn hrest, Option.map_some]

theorem read?_sound {cs rest : List Char} {b : Bound Numeral} (h : read? cs = some (b, rest)) :
    ∃ front, cs = front ++ rest ∧ Bound.Written front b := by
  unfold read? at h
  split at h
  · obtain ⟨rfl, rfl⟩ := Prod.mk.inj (Option.some.inj h)
    exact ⟨_, rfl, .infinity⟩
  · obtain ⟨rfl, rfl⟩ := Prod.mk.inj (Option.some.inj h)
    exact ⟨_, rfl, .plusInfinity⟩
  · obtain ⟨rfl, rfl⟩ := Prod.mk.inj (Option.some.inj h)
    exact ⟨_, rfl, .minusInfinity⟩
  · obtain ⟨⟨n, after⟩, hn, heq⟩ := Option.map_eq_some_iff.mp h
    obtain ⟨rfl, rfl⟩ := Prod.mk.inj heq
    obtain ⟨front, rfl, hfront⟩ := Numeral.read?_sound hn
    exact ⟨front, rfl, .number hfront⟩

/-- The first character of a bound is no white space. -/
theorem Written.stops {cs : List Char} {b : Bound Numeral} (h : Bound.Written cs b) :
    cs ≠ [] ∧ Stops isBlank cs := by
  cases h with
  | infinity => exact ⟨List.cons_ne_nil _ _, stops_cons.mpr (by decide)⟩
  | plusInfinity => exact ⟨List.cons_ne_nil _ _, stops_cons.mpr (by decide)⟩
  | minusInfinity => exact ⟨List.cons_ne_nil _ _, stops_cons.mpr (by decide)⟩
  | number hn =>
    obtain ⟨c, rest, rfl, hc⟩ := hn.head
    refine ⟨List.cons_ne_nil c rest, stops_cons.mpr ?_⟩
    rcases hc with rfl | hc
    · decide
    · exact not_isBlank_of_isDecimalDigit hc

end Bound

/-! ## Padding -/

/-- A reader of spellings that end where no digit follows: it takes every spelling off the front
of a text, and nothing else. No spelling begins with white space. -/
structure Reads {α : Type} (read : List Char → Option (α × List Char))
    (spells : List Char → α → Prop) : Prop where
  complete : ∀ {cs rest a}, spells cs a → Stops isDecimalDigit rest →
    read (cs ++ rest) = some (a, rest)
  sound : ∀ {cs rest a}, read cs = some (a, rest) → ∃ front, cs = front ++ rest ∧ spells front a
  stops : ∀ {cs a}, spells cs a → cs ≠ [] ∧ Stops isBlank cs

theorem Bound.reads : Reads Bound.read? Bound.Written where
  complete := Bound.read?_complete
  sound := Bound.read?_sound
  stops := Bound.Written.stops

theorem Numeral.reads : Reads Numeral.read? Numeral.Written where
  complete := Numeral.read?_complete
  sound := Numeral.read?_sound
  stops := fun h => (Bound.Written.number h).stops

namespace Reads

variable {α : Type} {read : List Char → Option (α × List Char)} {spells : List Char → α → Prop}

/-- A padded spelling is read up to the character that ends it, and what is left out on both sides
is the white space around it. -/
theorem padded (hread : Reads read spells) {cs : List Char} {a : α} (h : Padded spells cs a)
    (stop : Char) (rest : List Char) (hblank : isBlank stop = false)
    (hdigit : isDecimalDigit stop = false) :
    ∃ core after, spells core a ∧ read (trimStart (cs ++ stop :: rest)) = some (a, after) ∧
      trimStart after = stop :: rest ∧
      (cs ++ stop :: rest).takeWhile isBlank ++ (core ++ after.takeWhile isBlank) = cs := by
  obtain ⟨before, core, after, hbefore, hcore, hafter, rfl⟩ := h
  obtain ⟨hne, hstops⟩ := hread.stops hcore
  have hblank : Stops isBlank (stop :: rest) := stops_cons.mpr hblank
  have hstops : Stops isBlank (core ++ (after ++ stop :: rest)) := hstops.append hne
  rw [List.append_assoc, List.append_assoc]
  refine ⟨core, after ++ stop :: rest, hcore, ?_, trimStart_space hafter hblank, ?_⟩
  · rw [trimStart_space hbefore hstops]
    exact hread.complete hcore (stops_digit_after_space hafter (stops_cons.mpr hdigit))
  · rw [takeWhile_run hbefore hstops, takeWhile_run hafter hblank]

theorem padded_sound (hread : Reads read spells) {cs rest after : List Char} {stop : Char} {a : α}
    (h : read (trimStart cs) = some (a, after)) (hafter : trimStart after = stop :: rest) :
    ∃ core front, spells core a ∧ Padded spells front a ∧ cs = front ++ stop :: rest ∧
      cs.takeWhile isBlank ++ (core ++ after.takeWhile isBlank) = front := by
  obtain ⟨core, hcore, hspells⟩ := hread.sound h
  refine ⟨core, _, hspells, ⟨_, core, _, isSpace_takeWhile cs, hspells, isSpace_takeWhile after,
    rfl⟩, ?_, rfl⟩
  have hsplit := takeWhile_append_trimStart after
  rw [hafter] at hsplit
  rw [List.append_assoc, List.append_assoc, hsplit, ← hcore, takeWhile_append_trimStart]

end Reads

/-! ## Members -/

namespace Numeral

theorem Written.text_eq {cs : List Char} {n : Numeral} (h : n.Written cs) : n.text = cs := by
  cases h with
  | plain _ _ => rfl
  | minus _ _ => rfl

/-- A spaced number is read up to the character that ends it, with the white space around it. -/
theorem Spaced.read? {cs : List Char} {member : Numeral} (h : member.Spaced cs) (stop : Char)
    (rest : List Char) (hblank : isBlank stop = false) (hdigit : isDecimalDigit stop = false) :
    ∃ n after, Numeral.read? (Text.trimStart (cs ++ stop :: rest)) = some (n, after) ∧
      Text.trimStart after = stop :: rest ∧
      n.padded ((cs ++ stop :: rest).takeWhile isBlank) (after.takeWhile isBlank) = member := by
  obtain ⟨n, hn, rfl⟩ := h
  obtain ⟨core, after, hcore, hread, hafter, hcs⟩ := reads.padded hn stop rest hblank hdigit
  refine ⟨n, after, hread, hafter, ?_⟩
  rw [padded, hcore.text_eq, hcs]

theorem spaced_of_read? {cs rest after : List Char} {stop : Char} {n : Numeral}
    (h : read? (Text.trimStart cs) = some (n, after))
    (hafter : Text.trimStart after = stop :: rest) :
    ∃ front, cs = front ++ stop :: rest ∧
      (n.padded (cs.takeWhile isBlank) (after.takeWhile isBlank)).Spaced front := by
  obtain ⟨core, front, hcore, hfront, hcs, htext⟩ := reads.padded_sound h hafter
  refine ⟨front, hcs, n, hfront, ?_⟩
  rw [padded, hcore.text_eq, htext]

/-- A spaced number takes up a character at least. -/
theorem Spaced.length_pos {cs : List Char} {member : Numeral} (h : member.Spaced cs) :
    1 ≤ cs.length := by
  obtain ⟨n, ⟨before, core, after, -, hcore, -, rfl⟩, -⟩ := h
  have := List.length_pos_iff.mpr (reads.stops hcore).1
  simp only [List.length_append]
  omega

end Numeral

namespace ConditionShape

/-! ## Sets -/

theorem readMembers?_complete {cs : List Char} {members : List Numeral}
    (h : MembersWritten cs members) (rest : List Char) {most : Nat}
    (hmost : members.length ≤ most) :
    readMembers? most (cs ++ '}' :: rest) = some (members, rest) := by
  induction h generalizing most with
  | @last cs n hn =>
    obtain ⟨most, rfl⟩ : ∃ k, most = k + 1 := ⟨most - 1, by simp at hmost; omega⟩
    obtain ⟨core, after, hread, hafter, hn⟩ := hn.read? '}' rest (by decide) (by decide)
    simp [readMembers?, hread, hafter, hn]
  | @more cs tail n others hn _ ih =>
    obtain ⟨most, rfl⟩ : ∃ k, most = k + 1 := ⟨most - 1, by simp at hmost; omega⟩
    obtain ⟨core, after, hread, hafter, hn⟩ :=
      hn.read? ',' (tail ++ '}' :: rest) (by decide) (by decide)
    have hothers : others.length ≤ most := by simpa using hmost
    have htail := ih hothers
    simp [readMembers?, hread, hafter, hn, htail]

theorem readMembers?_sound {most : Nat} {cs rest : List Char} {members : List Numeral}
    (h : readMembers? most cs = some (members, rest)) :
    ∃ front, cs = front ++ '}' :: rest ∧ MembersWritten front members := by
  induction most generalizing cs rest members with
  | zero => cases h
  | succ most ih =>
    obtain ⟨⟨first, after⟩, hfirst, h⟩ := Option.bind_eq_some_iff.mp h
    dsimp only at h
    split at h
    · rename_i rest' hafter
      obtain ⟨rfl, rfl⟩ := Prod.mk.inj (Option.some.inj h)
      obtain ⟨front, hcs, hfront⟩ := Numeral.spaced_of_read? hfirst hafter
      exact ⟨front, hcs, .last hfront⟩
    · rename_i rest' hafter
      obtain ⟨⟨others, rest''⟩, hothers, h⟩ := Option.bind_eq_some_iff.mp h
      obtain ⟨rfl, rfl⟩ := Prod.mk.inj (Option.some.inj h)
      obtain ⟨front, hcs, hfront⟩ := Numeral.spaced_of_read? hfirst hafter
      obtain ⟨tail, rfl, htail⟩ := ih hothers
      exact ⟨front ++ ',' :: tail, by simpa using hcs, .more hfront htail⟩
    · cases h

/-- Every member takes up a character at least. -/
theorem MembersWritten.length_le {cs : List Char} {members : List Numeral}
    (h : MembersWritten cs members) : members.length ≤ cs.length := by
  induction h with
  | last hn => exact hn.length_pos
  | more hn _ ih =>
    have := hn.length_pos
    simp only [List.length_cons, List.length_append]
    omega

/-! ## Intervals -/

theorem readBounds?_complete {ls rs : List Char} {left right : Bound Numeral} {closing : Char}
    (leftClosed : Bool) (rest : List Char) (hclosing : closing ∈ ['[', ']', ')'])
    (hleft : Padded Bound.Written ls left) (hright : Padded Bound.Written rs right) :
    readBounds? leftClosed (ls ++ ',' :: (rs ++ closing :: rest)) =
      some (.interval left leftClosed right (closing == ']'), rest) := by
  obtain ⟨_, after, -, hread, hafter, -⟩ := Bound.reads.padded hleft ','
    (rs ++ closing :: rest) (by decide) (by decide)
  have hstop : isBlank closing = false ∧ isDecimalDigit closing = false := by
    simp only [List.mem_cons, List.not_mem_nil, or_false] at hclosing
    rcases hclosing with rfl | rfl | rfl <;> decide
  obtain ⟨_, after', -, hread', hafter', -⟩ :=
    Bound.reads.padded hright closing rest hstop.1 hstop.2
  simp only [List.mem_cons, List.not_mem_nil, or_false] at hclosing
  rcases hclosing with rfl | rfl | rfl <;> simp [readBounds?, hread, hafter, hread', hafter']

theorem readBounds?_sound {leftClosed : Bool} {cs rest : List Char}
    {shape : ConditionShape Numeral} (h : readBounds? leftClosed cs = some (shape, rest)) :
    ∃ ls rs left right closing, closing ∈ ['[', ']', ')'] ∧ Padded Bound.Written ls left ∧
      Padded Bound.Written rs right ∧ cs = ls ++ ',' :: (rs ++ closing :: rest) ∧
      shape = .interval left leftClosed right (closing == ']') := by
  obtain ⟨⟨left, after⟩, hleft, h⟩ := Option.bind_eq_some_iff.mp h
  dsimp only at h
  split at h
  · rename_i tail hafter
    obtain ⟨⟨right, after'⟩, hright, h⟩ := Option.bind_eq_some_iff.mp h
    dsimp only at h
    obtain ⟨closing, hclosing, hafter', rfl⟩ : ∃ closing, closing ∈ ['[', ']', ')'] ∧
        trimStart after' = closing :: rest ∧
        shape = .interval left leftClosed right (closing == ']') := by
      split at h
      · rename_i hafter'
        obtain ⟨rfl, rfl⟩ := Prod.mk.inj (Option.some.inj h)
        exact ⟨']', by simp, hafter', rfl⟩
      · rename_i hafter'
        obtain ⟨rfl, rfl⟩ := Prod.mk.inj (Option.some.inj h)
        exact ⟨'[', by simp, hafter', rfl⟩
      · rename_i hafter'
        obtain ⟨rfl, rfl⟩ := Prod.mk.inj (Option.some.inj h)
        exact ⟨')', by simp, hafter', rfl⟩
      · cases h
    obtain ⟨_, ls, -, hls, rfl, -⟩ := Bound.reads.padded_sound hleft hafter
    obtain ⟨_, rs, -, hrs, rfl, -⟩ := Bound.reads.padded_sound hright hafter'
    exact ⟨ls, rs, left, right, closing, hclosing, hls, hrs, rfl, rfl⟩
  · cases h

/-- What is read after an opening bracket of any kind is an interval with it. -/
theorem exists_written_of_readBounds? {opening : Char} {cs rest : List Char}
    {shape : ConditionShape Numeral} (hopening : opening ∈ ['[', ']', '('])
    (h : readBounds? (opening == '[') cs = some (shape, rest)) :
    ∃ front, opening :: cs = front ++ rest ∧ shape.Written front := by
  obtain ⟨ls, rs, left, right, closing, hclosing, hls, hrs, rfl, rfl⟩ := readBounds?_sound h
  exact ⟨_, by simp, .interval hopening hclosing hls hrs⟩

/-! ## Conditions -/

theorem read?_complete {cs rest : List Char} {shape : ConditionShape Numeral}
    (h : shape.Written cs) : read? (cs ++ rest) = some (shape, rest) := by
  cases h with
  | @set cs members hmembers =>
    have hmost : members.length ≤ (cs ++ '}' :: rest).length := by
      have := hmembers.length_le
      simp only [List.length_append]
      omega
    have hread := readMembers?_complete hmembers rest hmost
    simp only [List.cons_append, List.append_assoc, List.nil_append, read?, hread, Option.map_some]
  | @interval opening closing ls rs left right hopening hclosing hleft hright =>
    have hread := fun leftClosed =>
      readBounds?_complete leftClosed rest hclosing hleft hright
    simp only [List.cons_append, List.append_assoc, List.nil_append]
    simp only [List.mem_cons, List.not_mem_nil, or_false] at hopening
    rcases hopening with rfl | rfl | rfl
    · exact hread true
    · exact hread false
    · exact hread false

theorem read?_sound {cs rest : List Char} {shape : ConditionShape Numeral}
    (h : read? cs = some (shape, rest)) : ∃ front, cs = front ++ rest ∧ shape.Written front := by
  unfold read? at h
  split at h
  · obtain ⟨⟨members, after⟩, hmembers, heq⟩ := Option.map_eq_some_iff.mp h
    obtain ⟨rfl, rfl⟩ := Prod.mk.inj heq
    obtain ⟨front, rfl, hfront⟩ := readMembers?_sound hmembers
    exact ⟨'{' :: (front ++ ['}']), by simp, .set hfront⟩
  · exact exists_written_of_readBounds? (by simp) h
  · exact exists_written_of_readBounds? (by simp) h
  · exact exists_written_of_readBounds? (by simp) h
  · cases h

theorem Written.stops {cs : List Char} {shape : ConditionShape Numeral} (h : shape.Written cs) :
    cs ≠ [] ∧ Stops isBlank cs := by
  cases h with
  | set _ => exact ⟨List.cons_ne_nil _ _, stops_cons.mpr (by decide)⟩
  | interval hopening _ _ _ =>
    simp only [List.mem_cons, List.not_mem_nil, or_false] at hopening
    refine ⟨List.cons_ne_nil _ _, stops_cons.mpr ?_⟩
    rcases hopening with rfl | rfl | rfl <;> decide

end ConditionShape

namespace Condition

/-- The reader recognises a text exactly by the condition that it begins with. -/
theorem recognise?_eq_some_iff {cs rest : List Char} {shape : ConditionShape Numeral} :
    recognise? cs = some (shape, rest) ↔ ∃ front, cs = front ++ rest ∧ Written front shape := by
  constructor
  · intro h
    obtain ⟨before, hbefore, hcs, -⟩ := exists_space cs
    obtain ⟨core, hcore, hshape⟩ := ConditionShape.read?_sound h
    refine ⟨before ++ core, ?_, before, core, hbefore, hshape, rfl⟩
    rw [List.append_assoc, ← hcore, ← hcs]
  · rintro ⟨front, rfl, before, core, hbefore, hcore, rfl⟩
    obtain ⟨hne, hstops⟩ := hcore.stops
    rw [recognise?, List.append_assoc, trimStart_space hbefore (hstops.append hne)]
    exact ConditionShape.read?_complete hcore

theorem recognise?_eq_none_iff {cs : List Char} :
    recognise? cs = none ↔ ¬ ∃ front rest shape, cs = front ++ rest ∧ Written front shape := by
  constructor
  · rintro h ⟨front, rest, shape, hcs, hfront⟩
    have hread := recognise?_eq_some_iff.mpr ⟨front, hcs, hfront⟩
    rw [h] at hread
    cases hread
  · intro h
    cases hread : recognise? cs with
    | none => rfl
    | some read =>
      obtain ⟨front, hcs, hfront⟩ := recognise?_eq_some_iff.mp hread
      exact absurd ⟨front, read.2, read.1, hcs, hfront⟩ h

/-- A text begins with one condition at most, spelled in one way. -/
theorem Written.unique {front front' rest rest' : List Char} {shape shape' : ConditionShape Numeral}
    (h : Written front shape) (h' : Written front' shape') (heq : front ++ rest = front' ++ rest') :
    front = front' ∧ shape = shape' := by
  have hread : recognise? (front ++ rest) = some (shape, rest) :=
    recognise?_eq_some_iff.mpr ⟨front, rfl, h⟩
  have hread' : recognise? (front' ++ rest') = some (shape', rest') :=
    recognise?_eq_some_iff.mpr ⟨front', rfl, h'⟩
  rw [heq, hread'] at hread
  obtain ⟨rfl, rfl⟩ := Prod.mk.inj (Option.some.inj hread)
  exact ⟨List.append_cancel_right heq, rfl⟩

end Condition

end Phrasebook
