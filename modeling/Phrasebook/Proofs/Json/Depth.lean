import Phrasebook.Proofs.Json.Reading

/-! How deep a document may be nested. A reader that runs out of levels stops there and then, and
nothing else that it does depends on how many levels are left, so with fewer levels a text is read
as with more or not at all. Values in brackets alone are read as soon as there is a level for each.
-/

namespace Phrasebook.Json

/-- A reading that ran out of levels, or one that comes to what another reading does. -/
def Cut {α : Type} (r r' : Except Stop α) : Prop := r = .error (.fault .nestedTooDeep) ∨ r = r'

namespace Cut

variable {α β : Type} {r r' : Except Stop α}

theorem refl (r : Except Stop α) : Cut r r := .inr rfl

theorem bind {f f' : α → Except Stop β} (h : Cut r r') (hf : ∀ a, Cut (f a) (f' a)) :
    Cut (r >>= f) (r' >>= f') := by
  rcases h with rfl | rfl
  · exact .inl rfl
  · cases r with
    | error stop => exact .refl _
    | ok a => exact hf a

theorem map {f : α → β} (h : Cut r r') : Cut (r.map f) (r'.map f) := by
  rcases h with rfl | rfl
  · exact .inl rfl
  · exact .refl _

theorem afterMark {mark : Char} {next next' otherwise otherwise' : List Char → Reading α}
    (hnext : ∀ rest, Cut (next rest) (next' rest))
    (hother : ∀ rest, Cut (otherwise rest) (otherwise' rest)) (cs : List Char) :
    Cut (Json.afterMark mark next otherwise cs) (Json.afterMark mark next' otherwise' cs) := by
  rcases mark_cases mark cs with ⟨rest, h⟩ | h
  · rw [afterMark_mark h, afterMark_mark h]
    exact hnext rest
  · rw [afterMark_of_ne h, afterMark_of_ne h]
    exact hother _

theorem afterValue {close : Char} {done more more' : List Char → Reading α}
    (hmore : ∀ rest, Cut (more rest) (more' rest)) (cs : List Char) :
    Cut (Json.afterValue close done more cs) (Json.afterValue close done more' cs) :=
  .afterMark (fun _ => .refl _) (.afterMark (fun _ => hmore _) fun _ => .refl _) cs

end Cut

/-! ## Fewer levels

The three readers call one another, so what they do is shown together, by their common bound. -/

mutual

theorem cut_value (more : Nat) : (most depth : Nat) → (cs : List Char) →
    Cut (readValue most depth cs) (readValue most (depth + more) cs)
  | 0, _, _ => .refl _
  | most + 1, depth, cs => by
    rcases value_cases cs with ⟨rest, rfl⟩ | ⟨c, rest, rfl, hc⟩ | hatom
    · rw [readValue_quote, readValue_quote]
      exact .refl _
    · cases depth with
      | zero => exact .inl (readValue_deep hc most rest)
      | succ depth =>
        rw [Nat.succ_add]
        rcases eq_of_isOpening hc with rfl | rfl
        · rw [readValue_list, readValue_list]
          exact .afterMark (fun _ => .refl _) (fun rest => (cut_items more most depth rest).map)
            rest
        · rw [readValue_map, readValue_map]
          exact .afterMark (fun _ => .refl _) (fun rest => (cut_members more most depth rest).map)
            rest
    · rw [readValue_atom _ _ hatom, readValue_atom _ _ hatom]
      exact .refl _

theorem cut_items (more : Nat) : (most depth : Nat) → (cs : List Char) →
    Cut (readItems most depth cs) (readItems most (depth + more) cs)
  | 0, _, _ => .refl _
  | most + 1, depth, cs => by
    rw [readItems_eq, readItems_eq]
    exact (cut_value more most depth cs).bind fun (_, rest) =>
      .afterValue (fun after => (cut_items more most depth after).map) rest

theorem cut_members (more : Nat) : (most depth : Nat) → (cs : List Char) →
    Cut (readMembers most depth cs) (readMembers most (depth + more) cs)
  | 0, _, _ => .refl _
  | most + 1, depth, cs => by
    by_cases hquote : ∃ rest, cs = '"' :: rest
    · obtain ⟨rest, rfl⟩ := hquote
      rw [readMembers_quote, readMembers_quote]
      refine (Cut.refl (readText rest)).bind fun (_, rest) =>
        .afterMark (fun before => ?_) (fun _ => .refl _) rest
      exact (cut_value more most depth _).bind fun (_, rest) =>
        .afterValue (fun after => (cut_members more most depth after).map) rest
    · have hne := not_exists.mp hquote
      rw [readMembers_of_ne _ _ hne, readMembers_of_ne _ _ hne]
      exact .refl _

end

/-- With fewer levels a document is read as with more, or not at all. -/
theorem cut_document {depth depth' : Nat} (h : depth ≤ depth') (cs : List Char) :
    Cut (readDocument depth cs) (readDocument depth' cs) := by
  obtain ⟨more, rfl⟩ := Nat.exists_eq_add_of_le h
  exact (cut_value more _ depth _).bind fun _ => .refl _

theorem lt_of_nestedTooDeep {depth : Nat} {cs : List Char}
    (h : readDocument depth cs = .error (.fault .nestedTooDeep)) : depth < cs.countP isOpening := by
  rcases readDocument_cases depth cs with ⟨v, hread, -⟩ | ⟨stop, hread, hstop⟩
  · rw [h] at hread
    cases hread
  · obtain rfl := Except.error.inj (hread.symm.trans h)
    cases hstop with
    | nestedTooDeep hlt => exact hlt

/-- However many levels there are, a document is read as with a level for every bracket that it
opens, or there are fewer levels than that and they do not suffice. -/
theorem readDocument_common (depth : Nat) (cs : List Char) :
    readDocument depth cs = readDocument (cs.countP isOpening) cs ∨
      depth < cs.countP isOpening ∧
        readDocument depth cs = .error (.fault .nestedTooDeep) := by
  rcases Nat.lt_or_ge depth (cs.countP isOpening) with hlt | hle
  · rcases cut_document (Nat.le_of_lt hlt) cs with hdeep | hsame
    · exact .inr ⟨hlt, hdeep⟩
    · exact .inl hsame
  · rcases cut_document hle cs with hdeep | hsame
    · exact absurd (lt_of_nestedTooDeep hdeep) (Nat.lt_irrefl _)
    · exact .inl hsame.symm

/-! ## Brackets in brackets -/

/-- An empty list within so many others. -/
def brackets : (levels : Nat) → Value
  | 0 => .list []
  | levels + 1 => .list [brackets levels]

theorem readValue_nested_brackets (levels depth most : Nat) (rest : List Char)
    (hdepth : levels < depth) (hmost : 2 * levels < most) :
    readValue most depth
        (List.replicate (levels + 1) '[' ++ (List.replicate (levels + 1) ']' ++ rest)) =
      .ok (brackets levels, rest) := by
  induction levels generalizing depth most rest with
  | zero =>
    obtain ⟨depth, rfl⟩ := Nat.exists_eq_add_one_of_ne_zero (Nat.ne_of_gt hdepth)
    obtain ⟨most, rfl⟩ := Nat.exists_eq_add_one_of_ne_zero (Nat.ne_of_gt hmost)
    exact (readValue_list most depth _).trans (afterMark_mark (skipSpace_cons rfl rest))
  | succ levels ih =>
    obtain ⟨depth, rfl⟩ := Nat.exists_eq_add_one_of_ne_zero (Nat.ne_zero_of_lt hdepth)
    obtain ⟨most, rfl⟩ := Nat.exists_eq_add_of_lt hmost
    have hinner := ih depth (2 * levels + most + 1) (']' :: rest) (by omega) (by omega)
    have hopen : ∀ after, skipSpace (List.replicate (levels + 1) '[' ++
        (List.replicate (levels + 1) ']' ++ ']' :: rest)) ≠ ']' :: after := by
      rw [List.replicate_succ, List.cons_append, skipSpace_cons rfl]
      exact fun after h => absurd (List.cons.inj h).1 (by decide)
    have hspace : skipSpace (List.replicate (levels + 1) '[' ++
        (List.replicate (levels + 1) ']' ++ ']' :: rest)) =
          List.replicate (levels + 1) '[' ++ (List.replicate (levels + 1) ']' ++ ']' :: rest) := by
      rw [List.replicate_succ, List.cons_append, skipSpace_cons rfl]
    have hclose : List.replicate (levels + 1 + 1) ']' ++ rest =
        List.replicate (levels + 1) ']' ++ ']' :: rest := by
      rw [List.replicate_succ', List.append_assoc, List.singleton_append]
    rw [List.replicate_succ, List.cons_append, hclose,
      show 2 * (levels + 1) + most + 1 = 2 * levels + most + 1 + 1 + 1 from by omega,
      readValue_list, afterMark_of_ne hopen, hspace, readItems_eq, hinner]
    simp only [bind, Except.bind, afterValue, afterMark_mark (skipSpace_cons (c := ']') rfl rest)]
    rfl

/-- Brackets that close again are a document when there is a level for each. -/
theorem readDocument_nested_brackets {levels depth : Nat} (h : levels < depth) :
    readDocument depth (List.replicate (levels + 1) '[' ++ List.replicate (levels + 1) ']') =
      .ok (brackets levels) := by
  have hread := readValue_nested_brackets levels depth
    (2 * (List.replicate (levels + 1) '[' ++ List.replicate (levels + 1) ']').length + 2) [] h
    (by simp only [List.length_append, List.length_replicate]; omega)
  have hspace : skipSpace (List.replicate (levels + 1) '[' ++ List.replicate (levels + 1) ']') =
      List.replicate (levels + 1) '[' ++ List.replicate (levels + 1) ']' := by
    rw [List.replicate_succ, List.cons_append, skipSpace_cons rfl]
  rw [List.append_nil] at hread
  rw [readDocument, hspace, hread]
  rfl

end Phrasebook.Json
