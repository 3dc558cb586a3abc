import Phrasebook.Number.Digits
import Phrasebook.Text.Digit

/-! Number literals: an optional sign, digits with an optional point among them, and an optional
exponent. A literal denotes its coefficient times a power of ten, exactly. Literals are written in
ASCII digits; `plainDigits` brings a text in the digits of any script into that form. -/

namespace Phrasebook.Number

/-- The integer of a sign and a size. -/
def signed (negative : Bool) (size : Nat) : Int := if negative then -size else size

structure Literal where
  negative : Bool
  coefficient : Nat
  exponent : Int
  deriving DecidableEq, Repr

/-- The text with every decimal digit replaced by the ASCII digit of its value. -/
def plainDigits (cs : List Char) : List Char :=
  cs.map fun c => match Text.digitValue? c with
    | some d => digitChar d
    | none => c

def isPlainDigit (c : Char) : Bool := '0' ≤ c && c ≤ '9'

/-- The number written by ASCII digits. -/
def ofPlainDigits (cs : List Char) : Nat := ofDigits (cs.map fun c => c.toNat - 48)

/-- The sign at the start of a text, and the rest. -/
def readSign : List Char → Bool × List Char
  | '-' :: rest => (true, rest)
  | '+' :: rest => (false, rest)
  | cs => (false, cs)

/-- The exponent that makes up the rest of a literal: nothing, or a marked and signed number. -/
def readExponent : List Char → Option Int
  | [] => some 0
  | c :: rest =>
    let (negative, ds) := readSign rest
    if (c = 'e' || c = 'E') && !ds.isEmpty && ds.all isPlainDigit then
      some (signed negative (ofPlainDigits ds))
    else none

/-- The digits before and after an optional point, and the rest. -/
def readMantissa (cs : List Char) : List Char × List Char × List Char :=
  let whole := cs.takeWhile isPlainDigit
  match cs.dropWhile isPlainDigit with
  | '.' :: rest => (whole, rest.takeWhile isPlainDigit, rest.dropWhile isPlainDigit)
  | rest => (whole, [], rest)

/-- Reads the literal after its sign. -/
def Literal.readUnsigned? (negative : Bool) (cs : List Char) : Option Literal :=
  let (whole, fraction, rest) := readMantissa cs
  if whole.isEmpty && fraction.isEmpty then none
  else (readExponent rest).map fun e => {
    negative
    coefficient := ofPlainDigits (whole ++ fraction)
    exponent := e - fraction.length }

def Literal.read? (cs : List Char) : Option Literal :=
  let (negative, rest) := readSign cs
  readUnsigned? negative rest

end Phrasebook.Number
