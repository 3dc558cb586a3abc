import Phrasebook.Fault
import Mathlib.Data.List.Forall2

/-! What is known of an outcome without knowing it. An operation made of others fails by no other
faults than they do, so a bound on its faults is put together along its text. Two outcomes that
agree up to a relation give the same to whatever does not tell related results apart. A sequence of
operations succeeds exactly when each of them does. -/

namespace Phrasebook

/-- An outcome that fails, if it does, by a fault with a property. -/
def FailsBy {α : Type} (P : Fault → Prop) (e : Except Fault α) : Prop :=
  ∀ fault, e = .error fault → P fault

namespace FailsBy

variable {α β : Type} {P : Fault → Prop}

theorem ok (a : α) : FailsBy P (.ok a) := fun _ h => by cases h

theorem pure (a : α) : FailsBy P (Pure.pure a : Except Fault α) := ok a

theorem error {fault : Fault} (h : P fault) : FailsBy P (.error fault : Except Fault α) := by
  intro other hother
  obtain rfl := Except.error.inj hother
  exact h

theorem mono {Q : Fault → Prop} {e : Except Fault α} (he : FailsBy P e)
    (h : ∀ fault, P fault → Q fault) : FailsBy Q e :=
  fun fault hfault => h fault (he fault hfault)

theorem bind_of_ok {e : Except Fault α} {f : α → Except Fault β} (he : FailsBy P e)
    (hf : ∀ a, e = .ok a → FailsBy P (f a)) : FailsBy P (e >>= f) := by
  cases e with
  | error fault => exact error (he fault rfl)
  | ok a => exact hf a rfl

theorem bind {e : Except Fault α} {f : α → Except Fault β} (he : FailsBy P e)
    (hf : ∀ a, FailsBy P (f a)) : FailsBy P (e >>= f) :=
  he.bind_of_ok fun a _ => hf a

theorem map {e : Except Fault α} (f : α → β) (he : FailsBy P e) : FailsBy P (e.map f) := by
  cases e with
  | error fault => exact error (he fault rfl)
  | ok a => exact ok (f a)

theorem ite {p : Prop} [Decidable p] {e e' : Except Fault α} (h : FailsBy P e)
    (h' : FailsBy P e') : FailsBy P (if p then e else e') := by
  split
  · exact h
  · exact h'

theorem mapM {f : α → Except Fault β} {xs : List α} (h : ∀ x ∈ xs, FailsBy P (f x)) :
    FailsBy P (xs.mapM f) := by
  induction xs with
  | nil => exact pure []
  | cons x xs ih =>
    rw [List.mapM_cons]
    refine bind (h x List.mem_cons_self) fun y => ?_
    exact bind (ih fun z hz => h z (List.mem_cons_of_mem x hz)) fun ys => pure (y :: ys)

end FailsBy

/-- A result with one property, or a fault with another. -/
structure Ends {α : Type} (P : α → Prop) (Q : Fault → Prop) (e : Except Fault α) : Prop where
  result : ∀ a, e = .ok a → P a
  failsBy : FailsBy Q e

namespace Ends

variable {α β : Type} {P : α → Prop} {Q : Fault → Prop} {R : β → Prop}

theorem ok {a : α} (h : P a) : Ends P Q (.ok a) where
  result := by
    intro b hb
    obtain rfl := Except.ok.inj hb
    exact h
  failsBy := .ok a

theorem error {fault : Fault} (h : Q fault) : Ends P Q (.error fault) where
  result := fun _ hb => nomatch hb
  failsBy := .error h

theorem bind {e : Except Fault α} {f : α → Except Fault β} (he : Ends P Q e)
    (hf : ∀ a, P a → Ends R Q (f a)) : Ends R Q (e >>= f) := by
  cases e with
  | error fault => exact error (he.failsBy fault rfl)
  | ok a => exact hf a (he.result a rfl)

theorem map {e : Except Fault α} {f : α → β} (he : Ends P Q e) (hf : ∀ a, P a → R (f a)) :
    Ends R Q (e.map f) := by
  cases e with
  | error fault => exact error (he.failsBy fault rfl)
  | ok a => exact ok (hf a (he.result a rfl))

/-- A test with a result of its own, or what comes after it. -/
theorem test {T : Bool → Prop} {e : Except Fault Bool} {a : α} {rest : Except Fault α}
    (he : Ends T Q e) (ha : P a) (hrest : Ends P Q rest) :
    Ends P Q (do if ← e then return a else rest) := by
  refine he.bind fun holds _ => ?_
  split
  · exact ok ha
  · exact hrest

/-- Without a fault to end by there is a result. -/
theorem exists_ok {e : Except Fault α} (h : Ends P Q e) (hQ : ∀ fault, ¬ Q fault) :
    ∃ a, e = .ok a ∧ P a := by
  cases e with
  | error fault => exact absurd (h.failsBy fault rfl) (hQ fault)
  | ok a => exact ⟨a, rfl, h.result a rfl⟩

end Ends

/-- The same fault, or results that are related. -/
def Agree {α : Type} (R : α → α → Prop) : Except Fault α → Except Fault α → Prop
  | .ok a, .ok b => R a b
  | .error fault, .error other => fault = other
  | _, _ => False

namespace Agree

variable {α β : Type} {R : α → α → Prop}

theorem symm {e e' : Except Fault α} (hR : ∀ a b, R a b → R b a) (h : Agree R e e') :
    Agree R e' e := by
  match e, e', h with
  | .ok a, .ok b, h => exact hR a b h
  | .error _, .error _, h => exact Eq.symm h
  | .ok _, .error _, h => exact h.elim
  | .error _, .ok _, h => exact h.elim

theorem map {S : β → β → Prop} {f : α → β} {e e' : Except Fault α} (h : Agree R e e')
    (hf : ∀ a b, R a b → S (f a) (f b)) : Agree S (e.map f) (e'.map f) := by
  match e, e', h with
  | .ok a, .ok b, h => exact hf a b h
  | .error _, .error _, h => exact h
  | .ok _, .error _, h => exact h.elim
  | .error _, .ok _, h => exact h.elim

theorem bind {f f' : α → Except Fault β} {e e' : Except Fault α} (h : Agree R e e')
    (hf : ∀ a b, R a b → f a = f' b) : (e >>= f) = (e' >>= f') := by
  match e, e', h with
  | .ok a, .ok b, h => exact hf a b h
  | .error _, .error _, h => exact congrArg Except.error h
  | .ok _, .error _, h => exact h.elim
  | .error _, .ok _, h => exact h.elim

end Agree

/-! ## Sequences of readings -/

/-- One operation after another succeeds exactly when both do. -/
theorem bind_eq_ok_iff {α β : Type} {e : Except Fault α} {f : α → Except Fault β} {b : β} :
    (e >>= f) = .ok b ↔ ∃ a, e = .ok a ∧ f a = .ok b := by
  cases e <;> simp [bind, Except.bind]

/-- A fallible reading of a list succeeds exactly when it succeeds item by item. -/
theorem mapM_eq_ok_iff {α β : Type} {read : α → Except Fault β} {xs : List α} {ys : List β} :
    xs.mapM read = .ok ys ↔ List.Forall₂ (fun x y => read x = .ok y) xs ys := by
  induction xs generalizing ys with
  | nil =>
    constructor
    · intro h
      obtain rfl := Except.ok.inj h
      exact .nil
    · intro h
      cases h
      rfl
  | cons x xs ih =>
    rw [List.mapM_cons]
    constructor
    · intro h
      cases hx : read x with
      | error fault =>
        rw [hx] at h
        cases h
      | ok y =>
        cases hxs : xs.mapM read with
        | error fault =>
          rw [hx, hxs] at h
          cases h
        | ok rest =>
          rw [hx, hxs] at h
          obtain rfl := Except.ok.inj h
          exact .cons hx (ih.mp hxs)
    · intro h
      cases h with
      | cons hx hxs =>
        rw [hx, ih.mpr hxs]
        rfl

/-- A fallible reading of a list has a result exactly when every item has one. -/
theorem exists_mapM_iff {α β : Type} {read : α → Except Fault β} {xs : List α} :
    (∃ ys, xs.mapM read = .ok ys) ↔ ∀ x ∈ xs, ∃ y, read x = .ok y := by
  simp only [mapM_eq_ok_iff]
  constructor
  · rintro ⟨ys, hys⟩
    induction hys with
    | nil => exact fun x hx => nomatch hx
    | @cons first y rest ys hfirst _ ih =>
      intro x hx
      rcases List.mem_cons.mp hx with rfl | hx
      · exact ⟨y, hfirst⟩
      · exact ih x hx
  · intro h
    induction xs with
    | nil => exact ⟨[], .nil⟩
    | cons first rest ih =>
      obtain ⟨y, hy⟩ := h first List.mem_cons_self
      obtain ⟨ys, hys⟩ := ih fun x hx => h x (List.mem_cons_of_mem first hx)
      exact ⟨y :: ys, .cons hy hys⟩

theorem exists_mem_of_forall₂ {α β : Type} {R : α → β → Prop} {xs : List α} {ys : List β}
    (h : List.Forall₂ R xs ys) {y : β} (hy : y ∈ ys) : ∃ x ∈ xs, R x y := by
  induction h with
  | nil => cases hy
  | cons hxy _ ih =>
    rcases List.mem_cons.mp hy with rfl | hy
    · exact ⟨_, List.mem_cons_self, hxy⟩
    · obtain ⟨x, hx, hR⟩ := ih hy
      exact ⟨x, List.mem_cons_of_mem _ hx, hR⟩

end Phrasebook
