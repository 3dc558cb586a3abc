/-! Decimal digits of natural numbers, most significant first. A number is cut in halves of equal
digit count until one digit is left, which keeps the division of very long numbers cheap; writing
the digits and reading them back gives the number again. -/

namespace Phrasebook.Number

-- powers of numbers are the core library's, whatever else is in scope
attribute [local instance (high)] instPowNat

/-- The lowest `2 ^ depth` decimal digits. -/
def lowDigits : (depth n : Nat) → List Nat
  | 0, n => [n % 10]
  | depth + 1, n =>
    lowDigits depth (n / 10 ^ (2 ^ depth : Nat)) ++ lowDigits depth (n % 10 ^ (2 ^ depth : Nat))

/-- Enough halvings for every digit: a number of `b` bits has at most `b / 3 + 1` digits. -/
def digitDepth (n : Nat) : Nat := ((n.log2 + 1) / 3 + 1).log2 + 1

/-- The digits of a number, a single zero for zero. -/
def digits (n : Nat) : List Nat :=
  match (lowDigits (digitDepth n) n).dropWhile (· == 0) with
  | [] => [0]
  | d :: ds => d :: ds

def digitCount (n : Nat) : Nat := (digits n).length

/-- The number that digits denote. -/
def ofDigits (ds : List Nat) : Nat := ds.foldl (fun n d => 10 * n + d) 0

def digitChar (d : Nat) : Char := Char.ofNat (48 + d)

/-- The decimal text of a natural number. -/
def text (n : Nat) : List Char := (digits n).map digitChar

/-- The decimal text of an integer. -/
def signedText (n : Int) : List Char := if n < 0 then '-' :: text n.natAbs else text n.natAbs

/-! ## Reading back -/

theorem foldl_digits (ds : List Nat) (n : Nat) :
    ds.foldl (fun n d => 10 * n + d) n = n * 10 ^ ds.length + ofDigits ds := by
  induction ds generalizing n with
  | nil => simp [ofDigits]
  | cons d ds ih =>
    simp only [ofDigits, List.foldl_cons, List.length_cons]
    rw [ih, ih (10 * 0 + d), Nat.pow_succ]
    simp only [Nat.mul_zero, Nat.zero_add, Nat.add_mul, ← Nat.add_assoc]
    rw [Nat.mul_comm 10 n, Nat.mul_assoc n 10, Nat.mul_comm 10]

theorem ofDigits_append (ds es : List Nat) :
    ofDigits (ds ++ es) = ofDigits ds * 10 ^ es.length + ofDigits es := by
  rw [ofDigits, List.foldl_append, foldl_digits]
  rfl

theorem length_lowDigits (depth n : Nat) : (lowDigits depth n).length = 2 ^ depth := by
  induction depth generalizing n with
  | zero => rfl
  | succ depth ih => simp [lowDigits, ih, Nat.pow_succ, Nat.mul_two]

theorem ofDigits_lowDigits (depth n : Nat) :
    ofDigits (lowDigits depth n) = n % 10 ^ (2 ^ depth : Nat) := by
  induction depth generalizing n with
  | zero => simp [lowDigits, ofDigits]
  | succ depth ih =>
    rw [lowDigits, ofDigits_append, ih, ih, length_lowDigits, Nat.mod_mod, Nat.pow_succ 2 depth,
      Nat.mul_two, Nat.pow_add, Nat.mod_mul, Nat.mul_comm, Nat.add_comm]

theorem ofDigits_dropWhile_zero (ds : List Nat) :
    ofDigits (ds.dropWhile (· == 0)) = ofDigits ds := by
  induction ds with
  | nil => rfl
  | cons d ds ih =>
    by_cases hd : d = 0
    · simpa [hd, ofDigits] using ih
    · simp [hd]

theorem lt_ten_pow_digitDepth (n : Nat) : n < 10 ^ (2 ^ digitDepth n : Nat) := by
  have hbits : n < 2 ^ (n.log2 + 1) := Nat.lt_log2_self
  have hcount : (n.log2 + 1) / 3 + 1 < 2 ^ digitDepth n := Nat.lt_log2_self
  calc n < 2 ^ (n.log2 + 1) := hbits
    _ ≤ 2 ^ (3 * 2 ^ digitDepth n) := Nat.pow_le_pow_right (by decide) (by omega)
    _ = 8 ^ 2 ^ digitDepth n := by rw [Nat.pow_mul]
    _ ≤ 10 ^ 2 ^ digitDepth n := Nat.pow_le_pow_left (by decide) _

theorem ofDigits_digits (n : Nat) : ofDigits (digits n) = n := by
  have h : ofDigits ((lowDigits (digitDepth n) n).dropWhile (· == 0)) = n := by
    rw [ofDigits_dropWhile_zero, ofDigits_lowDigits, Nat.mod_eq_of_lt (lt_ten_pow_digitDepth n)]
  unfold digits
  split
  · rename_i hnil
    rw [hnil] at h
    exact h
  · rename_i hcons
    rw [hcons] at h
    exact h

/-! ## Size -/

theorem lt_ten_of_mem_lowDigits {depth n d : Nat} (h : d ∈ lowDigits depth n) : d < 10 := by
  induction depth generalizing n with
  | zero =>
    simp only [lowDigits, List.mem_singleton] at h
    omega
  | succ depth ih =>
    rcases List.mem_append.mp h with h | h
    · exact ih h
    · exact ih h

theorem lt_ten_of_mem_digits {n d : Nat} (h : d ∈ digits n) : d < 10 := by
  unfold digits at h
  split at h
  · simp only [List.mem_singleton] at h
    omega
  · rename_i hcons
    rw [← hcons] at h
    exact lt_ten_of_mem_lowDigits (List.dropWhile_sublist _ |>.mem h)

theorem ofDigits_lt {ds : List Nat} (h : ∀ d ∈ ds, d < 10) : ofDigits ds < 10 ^ ds.length := by
  induction ds with
  | nil => decide
  | cons d ds ih =>
    have hd := h d List.mem_cons_self
    have hds := ih fun e he => h e (List.mem_cons_of_mem d he)
    have hsplit : ofDigits (d :: ds) = d * 10 ^ ds.length + ofDigits ds := by
      rw [← List.singleton_append, ofDigits_append]
      simp [ofDigits]
    rw [hsplit, List.length_cons, Nat.pow_succ, Nat.mul_comm _ 10]
    have := Nat.mul_le_mul_right (10 ^ ds.length) (Nat.lt_succ_iff.mp hd)
    omega

theorem lt_ten_pow_digitCount (n : Nat) : n < 10 ^ digitCount n := by
  have h : ofDigits (digits n) < 10 ^ (digits n).length :=
    ofDigits_lt fun _ hd => lt_ten_of_mem_digits hd
  rwa [ofDigits_digits] at h

end Phrasebook.Number
