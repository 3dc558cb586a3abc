import Phrasebook.Text.Property

/-! Digits of every script. The decimal digits form runs of ten that start at a zero; the wider
property also has the superscript, circled and otherwise styled digits, without a place value. -/

namespace Phrasebook.Text

def zeroDigits : List Nat := [
  48, 1632, 1776, 1984, 2406, 2534, 2662, 2790, 2918, 3046, 3174, 3302, 3430, 3558, 3664, 3792,
  3872, 4160, 4240, 6112, 6160, 6470, 6608, 6784, 6800, 6992, 7088, 7232, 7248, 42528, 43216,
  43264, 43472, 43504, 43600, 44016, 65296, 66720, 68912, 69734, 69872, 69942, 70096, 70384,
  70736, 70864, 71248, 71360, 71472, 71904, 72016, 72784, 73040, 73120, 92768, 92864, 93008,
  120782, 120792, 120802, 120812, 120822, 123200, 123632, 125264, 130032]

/-- The value of a decimal digit of any script. -/
def digitValue? (c : Char) : Option Nat :=
  (zeroDigits.find? fun low => low ≤ c.toNat && c.toNat < low + 10).map (c.toNat - ·)

def isDecimalDigit (c : Char) : Bool := (digitValue? c).isSome

theorem digitValue?_lt {c : Char} {d : Nat} (h : digitValue? c = some d) : d < 10 := by
  obtain ⟨low, hz, rfl⟩ := Option.map_eq_some_iff.mp h
  have := List.find?_some hz
  simp only [Bool.and_eq_true, decide_eq_true_eq] at this
  omega

def styledDigitSwitches : List Nat := [
  178, 180, 185, 186, 4969, 4978, 6618, 6619, 8304, 8305, 8308, 8314, 8320, 8330, 9312, 9321,
  9332, 9341, 9352, 9361, 9450, 9451, 9461, 9470, 9471, 9472, 10102, 10111, 10112, 10121, 10122,
  10131, 68160, 68164, 69216, 69225, 69714, 69723, 127232, 127243]

/-- Decimal digits and styled digits. -/
def isDigit (c : Char) : Bool := isDecimalDigit c || switched styledDigitSwitches c.toNat

end Phrasebook.Text
