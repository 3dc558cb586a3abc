import Phrasebook.Proofs.Number.Remainder
import Phrasebook.Proofs.Template.Resolution

/-! Rules that no count meets. The only number without room between two bounds is their common
closed end, and where there is room some number of tenths lies in it: an end itself, a number one
further, or the half between neighbours. An infinite end is no number, so a closed interval at one
of the infinities has no point, although its ends are equal and closed. Rules that are reported
empty have no part in the choice of a variant. -/

namespace Phrasebook

open Number

namespace Count

/-- A number of tenths as a count. -/
def tenths (n : Int) : Count := decimal (.finite (decide (n < 0)) n.natAbs (-1))

theorem value_tenths (n : Int) : (tenths n).value = n / 10 := by
  rw [tenths, value, Decimal.value, Decimal.signed_natAbs, zpow_neg, zpow_one, div_eq_mul_inv]

end Count

namespace Bound

variable {left right : Bound Int} {q : ℚ}

/-- What lies inside an open end lies inside the closed one. -/
theorem IsBelow.of_open (h : left.IsBelow q false) (closed : Bool) : left.IsBelow q closed := by
  cases closed with
  | false => exact h
  | true =>
    cases left with
    | negativeInfinity => trivial
    | «at» n => exact le_of_lt h
    | positiveInfinity => exact h

theorem IsAbove.of_open (h : right.IsAbove q false) (closed : Bool) : right.IsAbove q closed := by
  cases closed with
  | false => exact h
  | true =>
    cases right with
    | negativeInfinity => exact h
    | «at» n => exact le_of_lt h
    | positiveInfinity => trivial

/-- Between two bounds with room there is a number of tenths. -/
theorem exists_tenths_between (h : Condition.isBelow left right = true) :
    ∃ n : Int, left.IsBelow (n / 10 : ℚ) false ∧ right.IsAbove (n / 10 : ℚ) false := by
  cases left with
  | negativeInfinity =>
    cases right with
    | negativeInfinity => cases h
    | «at» m =>
      refine ⟨10 * m - 10, trivial, ?_⟩
      simp only [IsAbove]
      push_cast
      linarith
    | positiveInfinity => exact ⟨0, trivial, trivial⟩
  | «at» n =>
    cases right with
    | negativeInfinity => cases h
    | «at» m =>
      -- neighbours have only fractions between them
      have hnm : ((n + 1 : Int) : ℚ) ≤ m := Int.cast_le.mpr (of_decide_eq_true h)
      push_cast at hnm
      refine ⟨10 * n + 5, ?_, ?_⟩ <;> simp only [IsBelow, IsAbove] <;> push_cast <;> linarith
    | positiveInfinity =>
      refine ⟨10 * n + 10, ?_, trivial⟩
      simp only [IsBelow]
      push_cast
      linarith
  | positiveInfinity => cases h

/-- A number between two bounds without room is the closed end of both. -/
theorem closed_of_between {leftClosed rightClosed : Bool}
    (h : Condition.isBelow left right = false) (hleft : left.IsBelow q leftClosed)
    (hright : right.IsAbove q rightClosed) :
    leftClosed = true ∧ rightClosed = true ∧ ∃ n, left = .at n ∧ right = .at n := by
  cases left with
  | negativeInfinity =>
    cases right with
    | negativeInfinity => cases rightClosed <;> cases hright
    | «at» m => cases h
    | positiveInfinity => cases h
  | «at» n =>
    cases right with
    | negativeInfinity => cases rightClosed <;> cases hright
    | «at» m =>
      have hmn : (m : ℚ) ≤ n := Int.cast_le.mpr (not_lt.mp (of_decide_eq_false h))
      cases leftClosed with
      | false =>
        have hlow : (n : ℚ) < q := hleft
        cases rightClosed <;> simp only [IsAbove] at hright <;> linarith
      | true =>
        have hlow : (n : ℚ) ≤ q := hleft
        cases rightClosed with
        | false =>
          have hhigh : q < m := hright
          linarith
        | true =>
          have hhigh : q ≤ m := hright
          have hnm : n = m := Int.cast_injective (le_antisymm (hlow.trans hhigh) hmn)
          exact ⟨rfl, rfl, m, by rw [hnm], rfl⟩
    | positiveInfinity => cases h
  | positiveInfinity => cases leftClosed <;> cases hleft

end Bound

/-- A closed interval from an infinity to itself. -/
def ConditionShape.IsInfinitePoint (shape : ConditionShape Int) : Prop :=
  shape = .interval .negativeInfinity true .negativeInfinity true ∨
    shape = .interval .positiveInfinity true .positiveInfinity true

namespace Condition

/-- Whether some value gives a count that meets a condition. -/
def IsMet [Stack] (c : Condition) : Prop :=
  ∃ count, (∃ v, Count.ofValue v = .ok count) ∧ c.holds count = .ok true

section

variable [Stack] {c : Condition}

theorem isMet_iff :
    c.IsMet ↔ ∃ count : Count, count.isFinite = true ∧ count.value ∈ c.shape.points := by
  simp only [IsMet, Count.exists_ofValue_iff]
  refine exists_congr fun count => and_congr_right fun hfinite => ?_
  rw [holds_eq_admits hfinite, Except.ok.injEq, admits, decide_eq_true_eq]

theorem isMet_of_tenths {n : Int} (h : (n / 10 : ℚ) ∈ c.shape.points) : c.IsMet :=
  isMet_iff.mpr ⟨Count.tenths n, rfl, by rwa [Count.value_tenths]⟩

theorem isMet_of_intCast {n : Int} (h : (n : ℚ) ∈ c.shape.points) : c.IsMet :=
  isMet_iff.mpr ⟨.int n, rfl, h⟩

/-- A condition that is not reported empty is met, or it is a point at infinity. -/
theorem isMet_of_not_isEmpty (h : c.isEmpty = false) : c.IsMet ∨ c.shape.IsInfinitePoint := by
  unfold isEmpty at h
  split at h
  · rename_i members hshape
    cases members with
    | nil => cases h
    | cons n rest =>
      refine .inl (isMet_of_intCast (n := n) ?_)
      rw [hshape]
      exact ⟨n, List.mem_cons_self, rfl⟩
  · rename_i left leftClosed right rightClosed hshape
    cases hbelow : isBelow left right with
    | true =>
      obtain ⟨n, hleft, hright⟩ := Bound.exists_tenths_between hbelow
      refine .inl (isMet_of_tenths (n := n) ?_)
      rw [hshape]
      exact ⟨hleft.of_open leftClosed, hright.of_open rightClosed⟩
    | false =>
      simp only [hbelow, Bool.not_false, Bool.true_and, Bool.not_eq_false', Bool.and_eq_true,
        beq_iff_eq] at h
      obtain ⟨⟨rfl, rfl⟩, rfl⟩ := h
      cases left with
      | negativeInfinity => exact .inr (.inl hshape)
      | «at» n =>
        refine .inl (isMet_of_intCast (n := n) ?_)
        rw [hshape]
        exact ⟨le_refl (n : ℚ), le_refl (n : ℚ)⟩
      | positiveInfinity => exact .inr (.inr hshape)

theorem not_isMet_of_points (h : c.shape.points = ∅) : ¬ c.IsMet := by
  intro hmet
  obtain ⟨count, -, hmem⟩ := isMet_iff.mp hmet
  rw [h] at hmem
  exact hmem

end

theorem points_of_isEmpty {c : Condition} (h : c.isEmpty = true) : c.shape.points = ∅ := by
  rw [Set.eq_empty_iff_forall_notMem]
  intro q hq
  unfold isEmpty at h
  split at h
  · rename_i members hshape
    rw [hshape, List.isEmpty_iff.mp h] at hq
    obtain ⟨n, hn, -⟩ := hq
    cases hn
  · rename_i left leftClosed right rightClosed hshape
    simp only [Bool.and_eq_true, Bool.not_eq_true'] at h
    obtain ⟨hbelow, hends⟩ := h
    rw [hshape] at hq
    obtain ⟨rfl, rfl, n, rfl, rfl⟩ := Bound.closed_of_between hbelow hq.1 hq.2
    simp at hends

theorem points_of_isInfinitePoint {c : Condition} (h : c.shape.IsInfinitePoint) :
    c.shape.points = ∅ := by
  rw [Set.eq_empty_iff_forall_notMem]
  intro q hq
  rcases h with hshape | hshape
  · rw [hshape] at hq
    exact hq.2
  · rw [hshape] at hq
    exact hq.1

theorem not_isEmpty_of_isInfinitePoint {c : Condition} (h : c.shape.IsInfinitePoint) :
    c.isEmpty = false := by
  rcases h with hshape | hshape <;> rw [isEmpty, hshape] <;> rfl

end Condition

namespace Template

/-- A template without the rules that are reported empty. -/
def withoutEmptyRules (t : Template) : Template :=
  { t with rules := t.rules.filter fun r => !r.condition.isEmpty }

theorem select_withoutEmptyRules (t : Template) {count : Count} (h : count.isFinite = true)
    (code : String) : t.withoutEmptyRules.select count code = t.select count code := by
  have hfind : ((t.rules.filter fun r => !r.condition.isEmpty).find? fun r =>
      r.condition.admits count) = t.rules.find? fun r => r.condition.admits count := by
    rw [List.find?_filter]
    congr 1
    funext r
    cases hempty : r.condition.isEmpty with
    | false => simp
    | true =>
      have hmem : count.value ∉ r.condition.shape.points := by
        rw [Condition.points_of_isEmpty hempty]
        exact Set.notMem_empty _
      simp [Condition.admits, hmem]
  have hrule : ruleFor count t.withoutEmptyRules.rules = ruleFor count t.rules := by
    rw [ruleFor_eq h, ruleFor_eq h]
    exact congrArg (fun found => Except.ok (Option.map ExplicitRule.text found)) hfind
  unfold select variant
  rw [hrule]
  rfl

end Template

namespace Condition

/-- What a condition reports about itself is right but at the infinities. Every other condition is
reported empty exactly when no value gives a count that meets it; a closed interval from an
infinity to itself is never met, and not reported empty. Rules that are reported empty may be left
out: every count that a value gives chooses the same variant without them. -/
theorem isEmpty_exact_apart_from_infinity [Stack] (c : Condition) :
    (¬ c.shape.IsInfinitePoint → (c.isEmpty = true ↔ ¬ c.IsMet)) ∧
    (c.shape.IsInfinitePoint → c.isEmpty = false ∧ ¬ c.IsMet) ∧
    ∀ (t : Template) v count code, Count.ofValue v = .ok count →
      t.withoutEmptyRules.select count code = t.select count code := by
  refine ⟨fun hpoint => ⟨?_, fun hmet => ?_⟩, fun hpoint => ?_, ?_⟩
  · intro hempty
    exact not_isMet_of_points (points_of_isEmpty hempty)
  · by_contra hempty
    have hroom : c.isEmpty = false := by simpa using hempty
    rcases isMet_of_not_isEmpty hroom with h | h
    · exact hmet h
    · exact hpoint h
  · exact ⟨not_isEmpty_of_isInfinitePoint hpoint,
      not_isMet_of_points (points_of_isInfinitePoint hpoint)⟩
  · intro t v count code hv
    exact t.select_withoutEmptyRules (Count.isFinite_of_ofValue hv) code

/-- Both neighbours are left out. -/
def fiveToSix : Condition := { source := "]5,6[", shape := .interval (.at 5) false (.at 6) false }

/-- The bounds are in the wrong order. -/
def reversed : Condition := { source := "]5,3[", shape := .interval (.at 5) false (.at 3) false }

def infinitePoint : Condition where
  source := "[Inf,Inf]"
  shape := .interval .positiveInfinity true .positiveInfinity true

section

attribute [local instance] Stack.ample

/-- Neighbours have fractions between them, an infinity has no count, and a rule in the wrong order
is never the one for a count. -/
theorem isEmpty_exact_between_neighbours :
    ¬ fiveToSix.shape.IsInfinitePoint ∧ fiveToSix.isEmpty = false ∧ fiveToSix.IsMet ∧
      infinitePoint.shape.IsInfinitePoint ∧ ¬ infinitePoint.IsMet ∧
      Count.ofValue (.text "4.5") = .ok (.decimal (.finite false 45 (-1))) ∧
      (Template.withoutEmptyRules ⟨["apples"], [⟨reversed, "none"⟩], 2⟩).select
          (.decimal (.finite false 45 (-1))) "en" =
        Template.select ⟨["apples"], [⟨reversed, "none"⟩], 2⟩
          (.decimal (.finite false 45 (-1))) "en" := by
  have hroom : ¬ fiveToSix.shape.IsInfinitePoint := by
    intro h
    rcases h with h | h <;> cases h
  have hpoint : infinitePoint.shape.IsInfinitePoint := .inr rfl
  have hcount : Count.ofValue (.text "4.5") = .ok (.decimal (.finite false 45 (-1))) := by
    decide +kernel
  obtain ⟨hexact, -, hselect⟩ := isEmpty_exact_apart_from_infinity fiveToSix
  obtain ⟨-, hinfinite, -⟩ := isEmpty_exact_apart_from_infinity infinitePoint
  refine ⟨hroom, rfl, ?_, hpoint, (hinfinite hpoint).2, hcount, hselect _ _ _ "en" hcount⟩
  by_contra hmet
  cases (hexact hroom).mpr hmet

/-- The interval from infinity to itself is not reported empty, and no count meets it. -/
theorem infinite_point_not_reported :
    ∃ c, read "[Inf,Inf]" = .ok (some c) ∧ c.isEmpty = false ∧ ¬ c.IsMet := by
  have hread : read "[Inf,Inf]" = .ok (some infinitePoint) := by decide +kernel
  exact ⟨_, hread, rfl, not_isMet_of_points (points_of_isInfinitePoint (.inr rfl))⟩

end

end Condition

end Phrasebook
