import Phrasebook.Proofs.Condition.Grammar
import Phrasebook.Proofs.Condition.Points

/-! What a text says as a condition. A text that begins with a spelled condition denotes the
integers written in it, in order; only an integer of too many digits, or with an information
separator next to it, keeps it from being read. A count then meets the text exactly when the
condition admits its number. -/

namespace Phrasebook

/-- The faults of converting a written integer. -/
def Fault.isConversion : Fault → Bool
  | longInteger (some _) | notInteger _ => true
  | _ => false

/-- The integer that a numeral denotes, however long. -/
def Numeral.integer (n : Numeral) : Int := Number.signed n.negative (Number.ofDigits n.digits)

/-- A numeral within the digit limit and with no information separator in its text. -/
def Numeral.Fits (n : Numeral) : Prop :=
  n.digits.length ≤ Fault.maxIntegerDigits ∧ n.text.any Text.isInformationSeparator = false

namespace Bound

def denoted : Bound Numeral → Bound Int
  | negativeInfinity => negativeInfinity
  | .at n => .at n.integer
  | positiveInfinity => positiveInfinity

def Fits : Bound Numeral → Prop
  | .at n => n.Fits
  | _ => True

end Bound

namespace ConditionShape

/-- The condition on the denoted integers. -/
def denoted : ConditionShape Numeral → ConditionShape Int
  | set members => set (members.map Numeral.integer)
  | interval left leftClosed right rightClosed =>
    interval left.denoted leftClosed right.denoted rightClosed

/-- Every numeral can be converted. -/
def Fits : ConditionShape Numeral → Prop
  | set members => ∀ n ∈ members, n.Fits
  | interval left _ right _ => left.Fits ∧ right.Fits

end ConditionShape

/-- A text begins with a condition, spelled by the given front. -/
def Condition.Opens (text : String) (front : List Char) (shape : ConditionShape Numeral) : Prop :=
  front <+: text.toList ∧ Written front shape

/-! ## Evaluating -/

theorem Numeral.value_of_fits {n : Numeral} (h : n.Fits) : n.value = .ok n.integer := by
  obtain ⟨hlength, htext⟩ := h
  have hblanks : (n.text.takeWhile Text.isBlank).any Text.isInformationSeparator = false := by
    rw [List.any_eq_false] at htext ⊢
    exact fun c hc => htext c ((List.takeWhile_prefix _).subset hc)
  have hnone : ¬ n.text.any Text.isInformationSeparator = true := by simp [htext]
  rw [value, hblanks, if_neg Bool.false_ne_true, if_neg (Nat.not_lt.mpr hlength), if_neg hnone]
  rfl

theorem Numeral.value_of_not_fits {n : Numeral} (h : ¬ n.Fits) :
    ∃ fault, fault.isConversion = true ∧ n.value = .error fault := by
  unfold value
  split
  · exact ⟨_, rfl, rfl⟩
  · split
    · exact ⟨_, rfl, rfl⟩
    · rename_i hlength
      refine ⟨n.refused, rfl, if_pos ?_⟩
      by_contra htext
      exact h ⟨Nat.not_lt.mp hlength, Bool.eq_false_of_not_eq_true htext⟩

theorem Bound.value_of_fits {b : Bound Numeral} (h : b.Fits) : b.value = .ok b.denoted := by
  cases b with
  | negativeInfinity => rfl
  | «at» n =>
    rw [value, Numeral.value_of_fits h]
    rfl
  | positiveInfinity => rfl

theorem Bound.value_of_not_fits {b : Bound Numeral} (h : ¬ b.Fits) :
    ∃ fault, fault.isConversion = true ∧ b.value = .error fault := by
  cases b with
  | negativeInfinity => exact absurd trivial h
  | «at» n =>
    obtain ⟨fault, hfault, hn⟩ := Numeral.value_of_not_fits h
    refine ⟨fault, hfault, ?_⟩
    rw [value, hn]
    rfl
  | positiveInfinity => exact absurd trivial h

theorem Numeral.mapM_value_of_fits {members : List Numeral} (h : ∀ n ∈ members, n.Fits) :
    members.mapM Numeral.value = .ok (members.map Numeral.integer) := by
  induction members with
  | nil => rfl
  | cons n rest ih =>
    have hrest := ih fun m hm => h m (List.mem_cons_of_mem n hm)
    rw [List.mapM_cons, value_of_fits (h n List.mem_cons_self), hrest]
    rfl

theorem Numeral.mapM_value_of_not_fits {members : List Numeral} (h : ¬ ∀ n ∈ members, n.Fits) :
    ∃ fault, fault.isConversion = true ∧ members.mapM Numeral.value = .error fault := by
  induction members with
  | nil => exact absurd (fun n hn => nomatch hn) h
  | cons n rest ih =>
    by_cases hn : n.Fits
    · have hrest : ¬ ∀ m ∈ rest, m.Fits := by
        intro hall
        apply h
        intro m hm
        rcases List.mem_cons.mp hm with rfl | hm
        · exact hn
        · exact hall m hm
      obtain ⟨fault, hfault, htail⟩ := ih hrest
      refine ⟨fault, hfault, ?_⟩
      rw [List.mapM_cons, value_of_fits hn, htail]
      rfl
    · obtain ⟨fault, hfault, hvalue⟩ := value_of_not_fits hn
      refine ⟨fault, hfault, ?_⟩
      rw [List.mapM_cons, hvalue]
      rfl

namespace ConditionShape

variable {shape : ConditionShape Numeral}

theorem evaluate_of_fits (h : shape.Fits) : shape.evaluate = .ok shape.denoted := by
  cases shape with
  | set members =>
    rw [evaluate, Numeral.mapM_value_of_fits h]
    rfl
  | interval left leftClosed right rightClosed =>
    rw [evaluate, Bound.value_of_fits h.1, Bound.value_of_fits h.2]
    rfl

/-- The only way for a recognised condition to have no integers. -/
theorem evaluate_of_not_fits (h : ¬ shape.Fits) :
    ∃ fault, fault.isConversion = true ∧ shape.evaluate = .error fault := by
  cases shape with
  | set members =>
    obtain ⟨fault, hfault, hmembers⟩ := Numeral.mapM_value_of_not_fits h
    refine ⟨fault, hfault, ?_⟩
    rw [evaluate, hmembers]
    rfl
  | interval left leftClosed right rightClosed =>
    by_cases hleft : left.Fits
    · obtain ⟨fault, hfault, hright⟩ := Bound.value_of_not_fits fun hright => h ⟨hleft, hright⟩
      refine ⟨fault, hfault, ?_⟩
      rw [evaluate, Bound.value_of_fits hleft, hright]
      rfl
    · obtain ⟨fault, hfault, hbound⟩ := Bound.value_of_not_fits hleft
      refine ⟨fault, hfault, ?_⟩
      rw [evaluate, hbound]
      rfl

end ConditionShape

/-! ## Reading -/

namespace Condition

theorem ofShape_of_fits {front rest : List Char} {shape : ConditionShape Numeral}
    (h : shape.Fits) :
    ofShape (front ++ rest) rest shape =
      .ok { source := String.ofList front, shape := shape.denoted } := by
  have hfront : (front ++ rest).take ((front ++ rest).length - rest.length) = front := by simp
  rw [ofShape, hfront, ConditionShape.evaluate_of_fits h]
  rfl

theorem ofShape_of_not_fits (cs rest : List Char) {shape : ConditionShape Numeral}
    (h : ¬ shape.Fits) :
    ∃ fault, fault.isConversion = true ∧ ofShape cs rest shape = .error fault := by
  obtain ⟨fault, hfault, hshape⟩ := ConditionShape.evaluate_of_not_fits h
  refine ⟨fault, hfault, ?_⟩
  rw [ofShape, hshape]
  rfl

theorem Opens.recognise? {text : String} {front : List Char} {shape : ConditionShape Numeral}
    (h : Opens text front shape) :
    ∃ rest, text.toList = front ++ rest ∧ recognise? text.toList = some (shape, rest) := by
  obtain ⟨⟨rest, hrest⟩, hfront⟩ := h
  exact ⟨rest, hrest.symm, recognise?_eq_some_iff.mpr ⟨front, hrest.symm, hfront⟩⟩

theorem Opens.unique {text : String} {front front' : List Char}
    {shape shape' : ConditionShape Numeral} (h : Opens text front shape)
    (h' : Opens text front' shape') : front = front' ∧ shape = shape' := by
  obtain ⟨⟨rest, hrest⟩, hfront⟩ := h
  obtain ⟨⟨rest', hrest'⟩, hfront'⟩ := h'
  exact hfront.unique hfront' (hrest.trans hrest'.symm)

theorem read_of_opens {text : String} {front : List Char} {shape : ConditionShape Numeral}
    (h : Opens text front shape) (hfits : shape.Fits) :
    read text = .ok (some { source := String.ofList front, shape := shape.denoted }) := by
  obtain ⟨rest, htext, hread⟩ := h.recognise?
  unfold read
  simp only [hread]
  rw [htext, ofShape_of_fits hfits]
  rfl

theorem read_of_opens_of_not_fits {text : String} {front : List Char}
    {shape : ConditionShape Numeral} (h : Opens text front shape) (hfits : ¬ shape.Fits) :
    ∃ fault, fault.isConversion = true ∧ read text = .error fault := by
  obtain ⟨rest, -, hread⟩ := h.recognise?
  obtain ⟨fault, hfault, hshape⟩ := ofShape_of_not_fits text.toList rest hfits
  refine ⟨fault, hfault, ?_⟩
  unfold read
  simp only [hread, hshape]
  rfl

theorem read_of_not_opens {text : String} (h : ¬ ∃ front shape, Opens text front shape) :
    read text = .ok none := by
  have hnone : recognise? text.toList = none := by
    refine recognise?_eq_none_iff.mpr ?_
    rintro ⟨front, rest, shape, htext, hfront⟩
    exact h ⟨front, shape, ⟨rest, htext.symm⟩, hfront⟩
  unfold read
  simp only [hnone]

/-- A text is read in one of three ways: as no condition, as the one that it begins with, or not at
all when an integer in that one cannot be converted. -/
theorem read_cases (text : String) :
    ((¬ ∃ front shape, Opens text front shape) ∧ read text = .ok none) ∨
    (∃ front shape, Opens text front shape ∧ shape.Fits ∧
      read text = .ok (some { source := String.ofList front, shape := shape.denoted })) ∨
    (∃ front shape fault, Opens text front shape ∧ ¬ shape.Fits ∧ fault.isConversion = true ∧
      read text = .error fault) := by
  by_cases hopens : ∃ front shape, Opens text front shape
  · obtain ⟨front, shape, hopens⟩ := hopens
    by_cases hfits : shape.Fits
    · exact .inr (.inl ⟨front, shape, hopens, hfits, read_of_opens hopens hfits⟩)
    · obtain ⟨fault, hfault, hread⟩ := read_of_opens_of_not_fits hopens hfits
      exact .inr (.inr ⟨front, shape, fault, hopens, hfits, hfault, hread⟩)
  · exact .inl ⟨hopens, read_of_not_opens hopens⟩

theorem textHolds_eq {text : String} {count : Count} (h : count.isFinite = true) :
    textHolds text count = (read text).map fun c? =>
      c?.any fun c => c.admits count := by
  unfold textHolds
  cases read text with
  | error fault => rfl
  | ok c? =>
    cases c? with
    | none => rfl
    | some c => exact holds_eq_admits h

theorem read_eq_none_iff {text : String} :
    read text = .ok none ↔ ¬ ∃ front shape, Opens text front shape := by
  refine ⟨?_, read_of_not_opens⟩
  intro hnone
  rcases read_cases text with ⟨hnot, -⟩ | ⟨_, _, _, _, hread⟩ | ⟨_, _, _, _, _, _, hread⟩
  · exact hnot
  · rw [hread] at hnone
    cases hnone
  · rw [hread] at hnone
    cases hnone

theorem read_eq_some_iff {text : String} {c : Condition} :
    read text = .ok (some c) ↔ ∃ front shape, Opens text front shape ∧ shape.Fits ∧
      c.source = String.ofList front ∧ c.shape = shape.denoted := by
  constructor
  · intro hc
    rcases read_cases text with ⟨-, hread⟩ | ⟨front, shape, hopens, hfits, hread⟩ |
      ⟨_, _, _, _, _, _, hread⟩
    · rw [hread] at hc
      cases hc
    · rw [hread] at hc
      cases hc
      exact ⟨front, shape, hopens, hfits, rfl, rfl⟩
    · rw [hread] at hc
      cases hc
  · rintro ⟨front, shape, hopens, hfits, hsource, hshape⟩
    rw [read_of_opens hopens hfits, ← hsource, ← hshape]

theorem opens_of_read_eq_error {text : String} {fault : Fault} (h : read text = .error fault) :
    fault.isConversion = true ∧ ∃ front shape, Opens text front shape ∧ ¬ shape.Fits := by
  rcases read_cases text with ⟨-, hread⟩ | ⟨_, _, _, _, hread⟩ |
    ⟨front, shape, other, hopens, hfits, hother, hread⟩
  · rw [hread] at h
    cases h
  · rw [hread] at h
    cases h
  · rw [hread] at h
    obtain rfl := Except.error.inj h
    exact ⟨hother, front, shape, hopens, hfits⟩

theorem read_eq_error_of_textHolds {text : String} {count : Count} {fault : Fault}
    (hcount : count.isFinite = true) (h : textHolds text count = .error fault) :
    read text = .error fault := by
  rw [textHolds_eq hcount] at h
  cases hread : read text with
  | error fault' =>
    rw [hread] at h
    rw [Except.error.inj h]
  | ok c? =>
    rw [hread] at h
    cases h

theorem textHolds_eq_ok_iff {text : String} {count : Count} {answer : Bool}
    (hcount : count.isFinite = true) (h : textHolds text count = .ok answer) :
    answer = true ↔ ∃ front shape, Opens text front shape ∧ count.value ∈ shape.denoted.points := by
  rw [textHolds_eq hcount] at h
  rcases read_cases text with ⟨hnot, hread⟩ | ⟨front, shape, hopens, -, hread⟩ |
    ⟨_, _, _, _, _, _, hread⟩
  · rw [hread] at h
    obtain rfl := Except.ok.inj h
    refine ⟨fun h => (Bool.false_ne_true h).elim, ?_⟩
    rintro ⟨front, shape, hopens, -⟩
    exact absurd ⟨front, shape, hopens⟩ hnot
  · rw [hread] at h
    obtain rfl := Except.ok.inj h
    simp only [Option.any_some, admits, decide_eq_true_eq]
    refine ⟨fun hmem => ⟨front, shape, hopens, hmem⟩, ?_⟩
    rintro ⟨front', shape', hopens', hmem⟩
    rwa [(hopens.unique hopens').2]
  · rw [hread] at h
    cases h

/-- Reading recognises exactly the grammar, the recognised front is the only one, and a finite
count meets a text exactly when the condition in front of it admits the number of the count. Only
an integer of too many digits in that condition, or with an information separator next to it, is a
fault. -/
theorem grammar_and_denotation (text : String) :
    (read text = .ok none ↔ ¬ ∃ front shape, Opens text front shape) ∧
    (∀ c, read text = .ok (some c) ↔ ∃ front shape, Opens text front shape ∧ shape.Fits ∧
      c.source = String.ofList front ∧ c.shape = shape.denoted) ∧
    (∀ fault, read text = .error fault →
      fault.isConversion = true ∧ ∃ front shape, Opens text front shape ∧ ¬ shape.Fits) ∧
    (∀ front front' shape shape', Opens text front shape → Opens text front' shape' →
      front = front' ∧ shape = shape') ∧
    (∀ count : Count, count.isFinite = true →
      (∀ fault, textHolds text count = .error fault → read text = .error fault) ∧
      ∀ answer, textHolds text count = .ok answer →
        (answer = true ↔
          ∃ front shape, Opens text front shape ∧ count.value ∈ shape.denoted.points)) := by
  refine ⟨read_eq_none_iff, fun _ => read_eq_some_iff, fun _ => opens_of_read_eq_error,
    fun _ _ _ _ h h' => h.unique h', ?_⟩
  intro count hcount
  exact ⟨fun _ => read_eq_error_of_textHolds hcount, fun _ => textHolds_eq_ok_iff hcount⟩

example : read " {1, -2 } or so" =
    .ok (some { source := " {1, -2 }", shape := .set [1, -2] }) := by decide +kernel

end Condition

end Phrasebook
