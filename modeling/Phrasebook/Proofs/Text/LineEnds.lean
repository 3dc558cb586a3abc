import Phrasebook.Text.Encoding

/-! Unifying the line ends of a text. A carriage return becomes a line feed, together with the line
feed after it, and every other character stays. So a beginning without line ends stands before and
afterwards alike, and what a text does not begin with it does not begin with afterwards. -/

namespace Phrasebook.Text

/-- The characters that line ends are made of. -/
def IsLineEnd (c : Char) : Prop := c = '\r' ∨ c = '\n'

instance (c : Char) : Decidable (IsLineEnd c) := inferInstanceAs (Decidable (_ ∨ _))

theorem unifyLineEnds_cons {c : Char} (h : c ≠ '\r') (cs : List Char) :
    unifyLineEnds (c :: cs) = c :: unifyLineEnds cs := by
  rw [unifyLineEnds]
  · exact fun _ heq => absurd heq h
  · exact h

theorem unifyLineEnds_return {cs : List Char} (h : ∀ after, cs ≠ '\n' :: after) :
    unifyLineEnds ('\r' :: cs) = '\n' :: unifyLineEnds cs := by
  rw [unifyLineEnds]
  exact h

/-- A first character stays or is a carriage return, which is a line feed afterwards. -/
theorem unifyLineEnds_cons_cases (c : Char) (cs : List Char) :
    c ≠ '\r' ∧ unifyLineEnds (c :: cs) = c :: unifyLineEnds cs ∨
      c = '\r' ∧ ∃ rest, unifyLineEnds (c :: cs) = '\n' :: unifyLineEnds rest := by
  by_cases hc : c = '\r'
  · subst hc
    refine .inr ⟨rfl, ?_⟩
    by_cases hfeed : ∃ rest, cs = '\n' :: rest
    · obtain ⟨rest, rfl⟩ := hfeed
      exact ⟨rest, rfl⟩
    · exact ⟨cs, unifyLineEnds_return (not_exists.mp hfeed)⟩
  · exact .inl ⟨hc, unifyLineEnds_cons hc cs⟩

theorem unifyLineEnds_eq_nil_iff {cs : List Char} : unifyLineEnds cs = [] ↔ cs = [] := by
  cases cs with
  | nil => simp [unifyLineEnds]
  | cons c cs => rcases unifyLineEnds_cons_cases c cs with ⟨-, h⟩ | ⟨-, rest, h⟩ <;> simp [h]

theorem exists_unifyLineEnds_cons (c : Char) (cs : List Char) :
    ∃ d rest, unifyLineEnds (c :: cs) = d :: rest :=
  List.exists_cons_of_ne_nil (mt unifyLineEnds_eq_nil_iff.mp (List.cons_ne_nil c cs))

theorem length_unifyLineEnds_le (cs : List Char) : (unifyLineEnds cs).length ≤ cs.length := by
  induction cs using unifyLineEnds.induct with
  | case1 => exact Nat.le_refl 0
  | case2 rest ih => exact Nat.succ_le_succ (Nat.le_succ_of_le ih)
  | case3 rest hrest ih =>
    rw [unifyLineEnds_return hrest]
    exact Nat.succ_le_succ ih
  | case4 c rest hc hc' ih =>
    rw [unifyLineEnds_cons hc']
    exact Nat.succ_le_succ ih

/-! ## Beginnings -/

/-- A beginning without line ends is the same before and afterwards. -/
theorem unifyLineEnds_eq_append_iff {front cs rest : List Char} (h : ∀ c ∈ front, ¬ IsLineEnd c) :
    unifyLineEnds cs = front ++ rest ↔
      ∃ before, cs = front ++ before ∧ rest = unifyLineEnds before := by
  induction front generalizing cs with
  | nil => simp [eq_comm]
  | cons c front ih =>
    have hc : ¬ IsLineEnd c := h c List.mem_cons_self
    have hfront : ∀ d ∈ front, ¬ IsLineEnd d := fun d hd => h d (List.mem_cons_of_mem c hd)
    constructor
    · intro heq
      cases cs with
      | nil => cases heq
      | cons d cs =>
        rcases unifyLineEnds_cons_cases d cs with ⟨-, hd⟩ | ⟨-, after, hd⟩
        · rw [hd] at heq
          obtain ⟨rfl, hrest⟩ := List.cons.inj heq
          obtain ⟨before, rfl, rfl⟩ := (ih hfront).mp hrest
          exact ⟨before, rfl, rfl⟩
        · rw [hd] at heq
          exact absurd (.inr (List.cons.inj heq).1.symm) hc
    · rintro ⟨before, rfl, rfl⟩
      rw [List.cons_append, unifyLineEnds_cons fun heq => hc (.inl heq)]
      exact congrArg (c :: ·) ((ih hfront).mpr ⟨before, rfl, rfl⟩)

/-- Another beginning without line ends is none of the text afterwards either. -/
theorem unifyLineEnds_ne_append {front cs : List Char} (h : ∀ c ∈ front, ¬ IsLineEnd c)
    (hcs : ∀ rest, cs ≠ front ++ rest) (rest : List Char) : unifyLineEnds cs ≠ front ++ rest := by
  intro heq
  obtain ⟨before, rfl, -⟩ := (unifyLineEnds_eq_append_iff h).mp heq
  exact hcs before rfl

theorem unifyLineEnds_ne_cons {c : Char} {cs : List Char} (hc : ¬ IsLineEnd c)
    (hcs : ∀ rest, cs ≠ c :: rest) (rest : List Char) : unifyLineEnds cs ≠ c :: rest := by
  have hfront : ∀ d ∈ [c], ¬ IsLineEnd d := List.forall_mem_singleton.mpr hc
  exact unifyLineEnds_ne_append hfront hcs rest

theorem head?_unifyLineEnds {c : Char} {cs : List Char} (h : c ∈ (unifyLineEnds cs).head?) :
    c ∈ cs.head? ∨ c = '\n' := by
  cases cs with
  | nil => cases h
  | cons d cs =>
    rcases unifyLineEnds_cons_cases d cs with ⟨-, hd⟩ | ⟨-, rest, hd⟩
    · rw [hd] at h
      exact .inl h
    · rw [hd] at h
      exact .inr (Option.some.inj h).symm

/-- A run of characters that are no line ends is the same afterwards. -/
theorem takeWhile_unifyLineEnds {p : Char → Bool} (hreturn : p '\r' = false)
    (hfeed : p '\n' = false) (cs : List Char) :
    (unifyLineEnds cs).takeWhile p = cs.takeWhile p := by
  induction cs with
  | nil => rfl
  | cons c cs ih =>
    rcases unifyLineEnds_cons_cases c cs with ⟨-, hc⟩ | ⟨rfl, rest, hc⟩
    · rw [hc, List.takeWhile_cons, List.takeWhile_cons, ih]
    · rw [hc, List.takeWhile_cons_of_neg (by simp [hfeed]),
        List.takeWhile_cons_of_neg (by simp [hreturn])]

end Phrasebook.Text
