import Phrasebook.Diagnostic
import Phrasebook.Number.Digits

/-! Faults: every way in which an operation of this library can fail, by cause. A fault of the
catalogue or of a count carries a diagnostic; a fault of a given value carries a message; the
others are told by their kind alone. Shown values are already rendered, because rendering can fail
on its own account. -/

namespace Phrasebook

/-- What keeps data from being a catalogue: locale, domain, id and a non-empty template. -/
inductive Malformation where
  | notMapping (path kind : String)
  | keyNotText (path key : String)
  | templateNotText (path kind : String)
  | templateEmpty (path : String)
  | document (reason : String) (line : Nat)
  deriving DecidableEq, Repr

namespace Malformation

def message : Malformation → String
  | notMapping path kind => path ++ " must be a mapping, got " ++ kind
  | keyNotText path key => "Keys of " ++ path ++ " must be strings, got " ++ key
  | templateNotText path kind => "Template at " ++ path ++ " must be a string, got " ++ kind
  | templateEmpty path => "Template at " ++ path ++ " is empty"
  | document reason line =>
    "Serialized catalogue is not valid JSON: " ++ reason ++
      " (line " ++ String.ofList (Number.text line) ++ ")"

def hint : Malformation → String
  | document _ _ => "Serialize the catalogue with json.dumps()"
  | _ => "Expected locale -> domain -> id -> non-empty template string"

end Malformation

inductive Fault where
  /-- A fault in the words of the caller that raises it. -/
  | general (notice : Notice)
  /-- Catalogue data refused in the words of the loader that read it. -/
  | rejected (notice : Notice)
  | uninitialized
  | emptyCatalogue
  | malformed (cause : Malformation)
  | invalidLoadType (given : String)
  | invalidCount (given : String)
  | emptySeparator
  /-- An integer with more digits than are converted from or to text; the number of digits is
  known when it is read. -/
  | longInteger (digits : Option Nat)
  /-- A text that is no integer, by its beginning in quotes. -/
  | notInteger (given : String)
  /-- A remainder that would need more digits than decimal arithmetic allows. -/
  | precisionRange
  /-- A remainder of an infinite float. -/
  | outsideDomain
  | unknownOption (given : String)
  | repeatedOption (field : String)
  | invalidOption (field given : String)
  /-- A decimal operation on an operand that it does not admit. -/
  | invalidOperation
  /-- An integer too large for a float. -/
  | overflow
  | wrongType
  /-- A value without the operation asked of it. -/
  | missingOperation
  | missingFile
  | undecodableBytes
  /-- Values nested deeper than the stack allows. -/
  | nestedTooDeep
  /-- A decimal result beyond the greatest power of ten. -/
  | decimalOverflow
  /-- An error of a caller's own, of this kind. -/
  | raised (kind : String)
  deriving DecidableEq, Repr

namespace Fault

/-- Integers with more digits than this are not converted between numbers and text. -/
def maxIntegerDigits : Nat := 4300

def diagnostic? : Fault → Option Diagnostic
  | general notice | rejected notice => notice.diagnostic?
  | uninitialized => some {
      code := .catalogueNotInitialized
      message := "The catalogue is not initialized"
      hint := some "Load a catalogue or call add() before resolving messages" }
  | emptyCatalogue => some {
      code := .catalogueEmpty
      message := "The given catalogue is empty"
      hint := some "Pass a mapping of locale -> domain -> id -> template" }
  | malformed cause => some {
      code := .catalogueInvalid
      message := cause.message
      hint := some cause.hint }
  | invalidLoadType given => some {
      code := .loadTypeInvalid
      message := "Invalid load type: " ++ given
      hint := some "Use one of LoadType.CATALOGUE, LoadType.SERIALIZED, LoadType.LOADER" }
  | invalidCount given => some {
      code := .countInvalid
      message := "Invalid plural count: " ++ given
      hint := some "Pass an int, float, Decimal or numeric string" }
  | _ => none

/-- The text of a fault, when it is told by more than its kind. -/
def message? (fault : Fault) : Option String :=
  match fault with
  | general notice | rejected notice => some notice.text
  | emptySeparator => some "Plural separator cannot be empty"
  | longInteger digits =>
    let limit := "Exceeds the limit (4300 digits) for integer string conversion"
    let advice := "; use sys.set_int_max_str_digits() to increase the limit"
    match digits with
    | none => some (limit ++ advice)
    | some count =>
      some (limit ++ ": value has " ++ String.ofList (Number.text count) ++ " digits" ++ advice)
  | notInteger given => some ("invalid literal for int() with base 10: " ++ given)
  | precisionRange => some "valid range for prec is [1, MAX_PREC]"
  | outsideDomain => some "math domain error"
  | unknownOption given => some ("Unknown translator option: " ++ given)
  | repeatedOption field => some ("Translator option given twice: '" ++ field ++ "'")
  | invalidOption field given => some (field ++ " must be a non-empty string, got " ++ given)
  | fault => fault.diagnostic?.map Diagnostic.report

/-- Faults that lie in a given value being unfit for its purpose. -/
def isUnfitValue : Fault → Bool
  | rejected _ | malformed _ | invalidLoadType _ | invalidCount _ | emptySeparator
  | longInteger _ | notInteger _ | precisionRange | outsideDomain | unknownOption _
  | repeatedOption _ | invalidOption _ _ | undecodableBytes => true
  | _ => false

/-- Faults of what was given: these make a translation fall back to its id. The others come from
misuse of a value or from outside. -/
def isRecoverable : Fault → Bool
  | missingOperation | missingFile | nestedTooDeep | raised _ => false
  | _ => true

end Fault

end Phrasebook
