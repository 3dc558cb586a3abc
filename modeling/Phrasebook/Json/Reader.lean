import Phrasebook.Number.Literal
import Phrasebook.Text.Encoding
import Phrasebook.Value

/-! Reading JSON documents into values. Objects become mappings, where a repeated name keeps its
first place and its last value. A document that is not JSON is refused with a reason and the line
of the place where reading stopped; the text that is left at that place gives the line.

Recursion is bounded by twice the length of the document, which no document exceeds: every call
but the first of a pair has consumed a character. -/

namespace Phrasebook.Json

open Number

inductive Reason where
  | expectingValue
  | extraData
  | expectingName
  | expectingColon
  | expectingComma
  | unterminatedString
  | controlCharacter
  | invalidEscape
  | invalidUnicodeEscape
  | byteOrderMark
  deriving DecidableEq, Repr

def Reason.message : Reason → String
  | expectingValue => "Expecting value"
  | extraData => "Extra data"
  | expectingName => "Expecting property name enclosed in double quotes"
  | expectingColon => "Expecting ':' delimiter"
  | expectingComma => "Expecting ',' delimiter"
  | unterminatedString => "Unterminated string starting at"
  | controlCharacter => "Invalid control character at"
  | invalidEscape => "Invalid \\escape"
  | invalidUnicodeEscape => "Invalid \\uXXXX escape"
  | byteOrderMark => "Unexpected UTF-8 BOM (decode using utf-8-sig)"

/-- Why reading stopped: a reason with the text left at its place, or a fault of a value. -/
inductive Stop where
  | malformed (reason : Reason) (rest : List Char)
  | fault (fault : Fault)

/-- What was read with the text after it, or why reading stopped. -/
abbrev Reading := Except Stop

def isSpace (c : Char) : Bool := c = ' ' || c = '\t' || c = '\n' || c = '\r'

def skipSpace (cs : List Char) : List Char := cs.dropWhile isSpace

/-! ## Strings -/

def hexValue? (c : Char) : Option Nat :=
  if '0' ≤ c && c ≤ '9' then some (c.toNat - 48)
  else if 'a' ≤ c && c ≤ 'f' then some (c.toNat - 87)
  else if 'A' ≤ c && c ≤ 'F' then some (c.toNat - 55)
  else none

def hex4? (a b c d : Char) : Option Nat := do
  return (((← hexValue? a) * 16 + (← hexValue? b)) * 16 + (← hexValue? c)) * 16 + (← hexValue? d)

/-- The character of an escape of one letter. -/
def escaped? : Char → Option Char
  | '"' => some '"'
  | '\\' => some '\\'
  | '/' => some '/'
  | 'b' => some '\x08'
  | 'f' => some '\x0c'
  | 'n' => some '\n'
  | 'r' => some '\r'
  | 't' => some '\t'
  | _ => none

/-- The second surrogate of a pair, when an escape follows that could be it. An escape of digits is
complete only if the document goes on after it. -/
def nextSurrogate? : List Char → Option (Except Unit (Nat × List Char))
  | '\\' :: 'u' :: a :: b :: c :: d :: e :: rest =>
    match hex4? a b c d with
    | none => some (.error ())
    | some low => if Text.isLowSurrogate low then some (.ok (low, e :: rest)) else none
  | _ => none

/-- Puts a character in front of what is read. -/
def consChar (c : Char) (read : Reading (List Char × List Char)) :
    Reading (List Char × List Char) :=
  read.map fun (cs, rest) => (c :: cs, rest)

/-- The characters of a string up to its closing quote. The text from the opening quote on is where
a string without end is reported. -/
def readString (opening : List Char) : (most : Nat) → List Char → Reading (List Char × List Char)
  | 0, _ | _, [] => .error (.malformed .unterminatedString opening)
  | most + 1, c :: rest =>
    if c = '"' then .ok ([], rest)
    else if c = '\\' then
      match rest with
      | [] => .error (.malformed .unterminatedString opening)
      | 'u' :: a :: b :: c :: d :: e :: after =>
        match hex4? a b c d with
        | none => .error (.malformed .invalidUnicodeEscape rest)
        | some code =>
          if Text.isHighSurrogate code then
            match nextSurrogate? (e :: after) with
            | some (.ok (low, after)) =>
              consChar (Text.joinSurrogates code low) (readString opening most after)
            | some (.error ()) => .error (.malformed .invalidUnicodeEscape rest)
            | none => consChar (Text.charOf code) (readString opening most (e :: after))
          else consChar (Text.charOf code) (readString opening most (e :: after))
      | 'u' :: _ => .error (.malformed .invalidUnicodeEscape rest)
      | letter :: after =>
        match escaped? letter with
        | none => .error (.malformed .invalidEscape rest)
        | some c => consChar c (readString opening most after)
    else if c.toNat < 0x20 then .error (.malformed .controlCharacter (c :: rest))
    else consChar c (readString opening most rest)

/-- Reads a string after its opening quote. -/
def readText (cs : List Char) : Reading (String × List Char) :=
  (readString ('"' :: cs) cs.length cs).map fun (text, rest) => (String.ofList text, rest)

/-! ## Numbers and names -/

/-- The digits before the point: a zero stands alone. -/
def wholeDigits : List Char → List Char
  | '0' :: _ => ['0']
  | cs => cs.takeWhile isPlainDigit

/-- A point and the digits after it, nothing without digits. -/
def fractionPart : List Char → List Char
  | '.' :: rest =>
    match rest.takeWhile isPlainDigit with
    | [] => []
    | ds => '.' :: ds
  | _ => []

/-- An exponent with its mark and sign, nothing without digits. -/
def exponentPart : List Char → List Char
  | c :: rest =>
    if c = 'e' || c = 'E' then
      let sign := match rest with
        | '+' :: _ => ['+']
        | '-' :: _ => ['-']
        | _ => []
      match (rest.drop sign.length).takeWhile isPlainDigit with
      | [] => []
      | ds => c :: (sign ++ ds)
    else []
  | [] => []

/-- Reads a number after its sign; the text from the sign on is where a missing number is
reported. A number with a point or an exponent is a float. -/
def readMagnitude (start : List Char) (negative : Bool) (cs : List Char) :
    Reading (Value × List Char) :=
  let whole := wholeDigits cs
  let fraction := fractionPart (cs.drop whole.length)
  let exponent := exponentPart (cs.drop (whole ++ fraction).length)
  let rest := cs.drop (whole ++ fraction ++ exponent).length
  if whole.isEmpty then .error (.malformed .expectingValue start)
  else if fraction.isEmpty && exponent.isEmpty then
    if Fault.maxIntegerDigits < whole.length then
      .error (.fault (.longInteger (some whole.length)))
    else .ok (.int (signed negative (ofPlainDigits whole)), rest)
  else match Literal.readUnsigned? negative (whole ++ fraction ++ exponent) with
    | some l => .ok (.float (.ofLiteral l) 0, rest)
    | none => .error (.malformed .expectingValue start)

/-- The names of values. -/
def names : List (List Char × Value) := [
  ("null".toList, .null),
  ("true".toList, .bool true),
  ("false".toList, .bool false),
  ("NaN".toList, .float .nan 0),
  ("Infinity".toList, .float (.infinite false) 0),
  ("-Infinity".toList, .float (.infinite true) 0)]

/-- Reads a value that is neither a string nor made of others. -/
def readAtom (cs : List Char) : Reading (Value × List Char) :=
  match names.find? fun (name, _) => name.isPrefixOf cs with
  | some (name, v) => .ok (v, cs.drop name.length)
  | none =>
    match cs with
    | '-' :: rest => readMagnitude cs true rest
    | _ => readMagnitude cs false cs

/-! ## Values -/

mutual

/-- Reads a value. `most` bounds the recursion, `depth` the nesting that is left. -/
def readValue : (most depth : Nat) → List Char → Reading (Value × List Char)
  | 0, _, cs => .error (.malformed .expectingValue cs)
  | most + 1, depth, cs =>
    match cs with
    | '"' :: rest => (readText rest).map fun (s, rest) => (.text s, rest)
    | '[' :: rest =>
      match depth, skipSpace rest with
      | 0, _ => .error (.fault .nestedTooDeep)
      | _, ']' :: rest => .ok (.list [], rest)
      | depth + 1, rest =>
        (readItems most depth rest).map fun (items, rest) => (.list items, rest)
    | '{' :: rest =>
      match depth, skipSpace rest with
      | 0, _ => .error (.fault .nestedTooDeep)
      | _, '}' :: rest => .ok (.map [], rest)
      | depth + 1, rest =>
        (readMembers most depth rest).map fun (members, rest) =>
          (.map (OrderedMap.ofList members).entries, rest)
    | _ => readAtom cs

/-- Reads values up to the closing bracket. -/
def readItems : (most depth : Nat) → List Char → Reading (List Value × List Char)
  | 0, _, cs => .error (.malformed .expectingValue cs)
  | most + 1, depth, cs => do
    let (first, rest) ← readValue most depth cs
    match skipSpace rest with
    | ']' :: rest => return ([first], rest)
    | ',' :: rest => do
      let (others, rest) ← readItems most depth (skipSpace rest)
      return (first :: others, rest)
    | rest => throw (.malformed .expectingComma rest)

/-- Reads names and values up to the closing brace. -/
def readMembers : (most depth : Nat) → List Char → Reading (List (Value × Value) × List Char)
  | 0, _, cs => .error (.malformed .expectingName cs)
  | most + 1, depth, cs =>
    match cs with
    | '"' :: rest => do
      let (name, rest) ← readText rest
      match skipSpace rest with
      | ':' :: rest => do
        let (value, rest) ← readValue most depth (skipSpace rest)
        match skipSpace rest with
        | '}' :: rest => return ([(.text name, value)], rest)
        | ',' :: rest => do
          let (others, rest) ← readMembers most depth (skipSpace rest)
          return ((.text name, value) :: others, rest)
        | rest => throw (.malformed .expectingComma rest)
      | rest => throw (.malformed .expectingColon rest)
    | _ => .error (.malformed .expectingName cs)

end

/-- Reads a document that is one value, nested at most so deep. -/
def readDocument (depth : Nat) (cs : List Char) : Except Stop Value := do
  let (v, rest) ← readValue (2 * cs.length + 2) depth (skipSpace cs)
  match skipSpace rest with
  | [] => return v
  | rest => throw (.malformed .extraData rest)

/-- The line of the place in a document where some text is left. -/
def lineAt (document rest : List Char) : Nat := 1 + (document.count '\n' - rest.count '\n')

/-- The fault of a document at which reading stopped. -/
def faultOf (document : List Char) : Stop → Fault
  | .malformed reason rest => .malformed (.document reason.message (lineAt document rest))
  | .fault fault => fault

/-- Reads a document that was decoded from bytes. -/
def readDecoded (depth : Nat) (document : String) : Except Fault Value :=
  (readDocument depth document.toList).mapError (faultOf document.toList)

/-- Reads a document given as text, which has no byte order mark. -/
def read (depth : Nat) (document : String) : Except Fault Value :=
  match document.toList with
  | '\ufeff' :: _ => .error (.malformed (.document Reason.byteOrderMark.message 1))
  | _ => readDecoded depth document

end Phrasebook.Json
