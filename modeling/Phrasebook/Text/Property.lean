/-! A property of characters given by its switch points: the ascending code points at which it
turns from false to true and back. A code point has the property when an odd number of switch
points lie at or below it, so one short list describes any union of ranges. -/

namespace Phrasebook.Text

/-- Whether the property with these switch points holds at a code point. -/
def switched : List Nat → Nat → Bool
  | [], _ => false
  | point :: later, code => if code < point then false else !switched later code

theorem switched_of_lt {point code : Nat} (later : List Nat) (h : code < point) :
    switched (point :: later) code = false := by
  simp [switched, h]

theorem switched_of_ge {point code : Nat} (later : List Nat) (h : point ≤ code) :
    switched (point :: later) code = !switched later code := by
  simp [switched, Nat.not_lt.mpr h]

end Phrasebook.Text
