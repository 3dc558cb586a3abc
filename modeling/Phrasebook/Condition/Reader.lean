import Phrasebook.Condition
import Phrasebook.Text.Blank
import Phrasebook.Text.Digit
import Phrasebook.Text.Quoted

/-! Reading conditions: `{1, 2}` for a set, `[0, 5[` or `]1, Inf]` for an interval. White space may
stand before a condition and around its numbers, digits may be of any script, and what follows the
condition is left over. Numerals are recognised first and evaluated later: a text either has the
form of a condition or not, and only a numeral of too many digits, or with an information separator
between it and a comma, makes evaluating it fail. -/

namespace Phrasebook

/-- An integer as written, and the text that is converted to it. -/
structure Numeral where
  negative : Bool
  digits : List Nat
  text : List Char
  deriving DecidableEq, Repr

namespace Numeral

/-- The fault of a text that is no integer; of a long text the beginning is shown. -/
def refused (n : Numeral) : Fault := .notInteger (String.ofList ((Text.quoted n.text).take 200))

/-- Converts a numeral from left to right. White space around it is dropped, but for information
separators. -/
def value (n : Numeral) : Except Fault Int :=
  if (n.text.takeWhile Text.isBlank).any Text.isInformationSeparator then .error n.refused
  else if Fault.maxIntegerDigits < n.digits.length then
    .error (.longInteger (some n.digits.length))
  else if n.text.any Text.isInformationSeparator then .error n.refused
  else .ok (Number.signed n.negative (Number.ofDigits n.digits))

def readDigits? (negative : Bool) (cs : List Char) : Option (Numeral × List Char) :=
  match cs.takeWhile Text.isDecimalDigit with
  | [] => none
  | ds => some ({
      negative
      digits := ds.filterMap Text.digitValue?
      text := if negative then '-' :: ds else ds }, cs.dropWhile Text.isDecimalDigit)

/-- Reads an optional minus sign and at least one digit. -/
def read? : List Char → Option (Numeral × List Char)
  | '-' :: rest => readDigits? true rest
  | cs => readDigits? false cs

/-- White space around a numeral becomes part of its text. -/
def padded (before after : List Char) (n : Numeral) : Numeral :=
  { n with text := before ++ (n.text ++ after) }

def trimStart (n : Numeral) : Numeral := { n with text := Text.trimStart n.text }

def trimEnd (n : Numeral) : Numeral := { n with text := Text.trimEnd n.text }

end Numeral

namespace Bound

def read? : List Char → Option (Bound Numeral × List Char)
  | 'I' :: 'n' :: 'f' :: rest => some (positiveInfinity, rest)
  | '+' :: 'I' :: 'n' :: 'f' :: rest => some (positiveInfinity, rest)
  | '-' :: 'I' :: 'n' :: 'f' :: rest => some (negativeInfinity, rest)
  | cs => (Numeral.read? cs).map fun (n, rest) => (.at n, rest)

def value : Bound Numeral → Except Fault (Bound Int)
  | negativeInfinity => .ok negativeInfinity
  | .at n => n.value.map .at
  | positiveInfinity => .ok positiveInfinity

end Bound

namespace ConditionShape

/-- Reads numerals up to the closing brace, each with the white space around it. The first argument
bounds their number. -/
def readMembers? : Nat → List Char → Option (List Numeral × List Char)
  | 0, _ => none
  | most + 1, cs => do
    let (n, rest) ← Numeral.read? (Text.trimStart cs)
    let first := n.padded (cs.takeWhile Text.isBlank) (rest.takeWhile Text.isBlank)
    match Text.trimStart rest with
    | '}' :: rest => some ([first], rest)
    | ',' :: rest => do
      let (others, rest) ← readMembers? most rest
      some (first :: others, rest)
    | _ => none

/-- White space next to the braces is part of no member. -/
def trimEnds (members : List Numeral) : List Numeral :=
  ((members.modifyHead Numeral.trimStart).reverse.modifyHead Numeral.trimEnd).reverse

/-- Reads both bounds and the right bracket. -/
def readBounds? (leftClosed : Bool) (cs : List Char) :
    Option (ConditionShape Numeral × List Char) := do
  let (left, rest) ← Bound.read? (Text.trimStart cs)
  match Text.trimStart rest with
  | ',' :: rest => do
    let (right, rest) ← Bound.read? (Text.trimStart rest)
    match Text.trimStart rest with
    | ']' :: rest => some (.interval left leftClosed right true, rest)
    | '[' :: rest => some (.interval left leftClosed right false, rest)
    | ')' :: rest => some (.interval left leftClosed right false, rest)
    | _ => none
  | _ => none

/-- Reads a condition at the very start of a text. -/
def read? : List Char → Option (ConditionShape Numeral × List Char)
  | '{' :: rest =>
    (readMembers? rest.length rest).map fun (members, rest) => (.set (trimEnds members), rest)
  | '[' :: rest => readBounds? true rest
  | ']' :: rest => readBounds? false rest
  | '(' :: rest => readBounds? false rest
  | _ => none

/-- Evaluates the numerals of a condition from left to right. -/
def evaluate : ConditionShape Numeral → Except Fault (ConditionShape Int)
  | set members => (members.mapM Numeral.value).map set
  | interval left leftClosed right rightClosed => do
    return interval (← left.value) leftClosed (← right.value) rightClosed

end ConditionShape

namespace Condition

/-- Recognises a condition at the start of a text, white space before it aside: its form and the
text after it. -/
def recognise? (cs : List Char) : Option (ConditionShape Numeral × List Char) :=
  ConditionShape.read? (Text.trimStart cs)

/-- The condition of a form that was recognised in a text. -/
def ofShape (cs rest : List Char) (shape : ConditionShape Numeral) : Except Fault Condition := do
  return {
    source := String.ofList (cs.take (cs.length - rest.length))
    shape := ← shape.evaluate }

/-- The condition that a text starts with, if it starts with one. -/
def read (text : String) : Except Fault (Option Condition) :=
  let cs := text.toList
  match recognise? cs with
  | none => .ok none
  | some (shape, rest) => (ofShape cs rest shape).map some

/-- Whether a count meets the condition that a text starts with; without one it does not. -/
def textHolds (text : String) (count : Count) : Except Fault Bool := do
  match ← read text with
  | none => return false
  | some c => c.holds count

end Condition

end Phrasebook
