import Phrasebook.Count
import Phrasebook.Value.Printer

/-! Counts from given values. Integers, finite floats and finite decimals are counts as they are; a
text is read as a decimal, exactly, and counts as an integer when it is one. Everything else, truth
values included, is refused. The count of a message is found among its parameters under one of two
keys. -/

namespace Phrasebook.Count

open Number

variable [Stack]

/-- The fault of a value that is no count. -/
def refuse (v : Value) : Fault :=
  match v.shownAt .count with
  | .ok given => .invalidCount given
  | .error fault => fault

/-- The count that a text denotes. -/
def ofText? (s : String) : Option Count :=
  match Decimal.read? s.toList with
  | none => none
  | some x =>
    if x.isFinite then some (match x.toInt? with
      | some n => int n
      | none => decimal x)
    else none

def ofValue? : Value → Option Count
  | .int n => some (int n)
  | .float x _ => if x.isFinite then some (float x) else none
  | .decimal x _ => if x.isFinite then some (decimal x) else none
  | .text s => ofText? s
  | _ => none

/-- The count that a value gives. -/
def ofValue (v : Value) : Except Fault Count :=
  match ofValue? v with
  | some count => .ok count
  | none => .error (refuse v)

/-- The number that a value is, of any kind and not necessarily finite. -/
def ofNumber? : Value → Option Count
  | .bool b => some (int b.toNat)
  | .int n => some (int n)
  | .float x _ => some (float x)
  | .decimal x _ => some (decimal x)
  | _ => none

/-- The value of a count. -/
def toValue : Count → Value
  | int n => .int n
  | float x => .float x 0
  | decimal x => .decimal x 0

/-- The keys under which parameters carry a count, in the order of their lookup. -/
def parameterKeys : List String := ["%count%", "\x7b\x7b count \x7d\x7d"]

def isGiven : Value → Bool
  | .null => false
  | .text s => !s.isEmpty
  | _ => true

/-- The first value given under one of the keys. -/
def givenIn? (entries : List (Value × Value)) (keys : List String) : Option Value :=
  keys.findSome? fun key => (OrderedMap.findIn (.text key) entries).filter isGiven

/-- The count among the parameters of a message, one without any. -/
def ofParameters (parameters : Value) : Except Fault Count :=
  if !parameters.isTruthy then .ok (int 1)
  else match parameters with
    | .map entries =>
      match givenIn? entries parameterKeys with
      | some v => ofValue v
      | none => .ok (int 1)
    | _ => .error .missingOperation

end Phrasebook.Count
