/-! Text in bytes. A document may be in UTF-8, UTF-16 or UTF-32 of either byte order; a byte order
mark tells which, and without one the place of the zero bytes among the first four does, because a
document starts with an ASCII character. A surrogate that is not one of a pair is read as the
replacement character. -/

namespace Phrasebook.Text

inductive Encoding where
  | utf8
  | utf16 (bigEndian : Bool)
  | utf32 (bigEndian : Bool)
  deriving DecidableEq, Repr

/-- The encoding of a document that starts with a byte order mark, and the length of the mark. -/
def markedEncoding? : List UInt8 → Option (Encoding × Nat)
  | 0x00 :: 0x00 :: 0xfe :: 0xff :: _ => some (.utf32 true, 4)
  | 0xff :: 0xfe :: 0x00 :: 0x00 :: _ => some (.utf32 false, 4)
  | 0xfe :: 0xff :: _ => some (.utf16 true, 2)
  | 0xff :: 0xfe :: _ => some (.utf16 false, 2)
  | 0xef :: 0xbb :: 0xbf :: _ => some (.utf8, 3)
  | _ => none

/-- The encoding of a document without a byte order mark. -/
def plainEncoding : List UInt8 → Encoding
  | a :: b :: c :: d :: _ =>
    if a = 0 then if b = 0 then .utf32 true else .utf16 true
    else if b = 0 then if c = 0 && d = 0 then .utf32 false else .utf16 false
    else .utf8
  | [a, b] => if a = 0 then .utf16 true else if b = 0 then .utf16 false else .utf8
  | _ => .utf8

/-- Pairs of bytes as numbers, none when a byte is left over. -/
def units16? (bigEndian : Bool) : List UInt8 → Option (List Nat)
  | [] => some []
  | [_] => none
  | a :: b :: rest =>
    let unit := if bigEndian then a.toNat * 256 + b.toNat else b.toNat * 256 + a.toNat
    (units16? bigEndian rest).map (unit :: ·)

/-- Fours of bytes as numbers, none when bytes are left over. -/
def units32? (bigEndian : Bool) : List UInt8 → Option (List Nat)
  | [] => some []
  | a :: b :: c :: d :: rest =>
    let unit (p q r s : UInt8) : Nat :=
      ((p.toNat * 256 + q.toNat) * 256 + r.toNat) * 256 + s.toNat
    (units32? bigEndian rest).map ((if bigEndian then unit a b c d else unit d c b a) :: ·)
  | _ => none

def isHighSurrogate (unit : Nat) : Bool := 0xd800 ≤ unit && unit < 0xdc00

def isLowSurrogate (unit : Nat) : Bool := 0xdc00 ≤ unit && unit < 0xe000

/-- The character of a pair of surrogates. -/
def joinSurrogates (high low : Nat) : Char :=
  Char.ofNat (0x10000 + (high - 0xd800) * 0x400 + (low - 0xdc00))

/-- The character of a code point, the replacement character for a surrogate. -/
def charOf (code : Nat) : Char :=
  if isHighSurrogate code || isLowSurrogate code then '\ufffd' else Char.ofNat code

def ofUnits16 : List Nat → List Char
  | [] => []
  | [unit] => [charOf unit]
  | high :: low :: rest =>
    if isHighSurrogate high && isLowSurrogate low then joinSurrogates high low :: ofUnits16 rest
    else charOf high :: ofUnits16 (low :: rest)

def ofUnits32? (units : List Nat) : Option (List Char) :=
  if units.all (· < 0x110000) then some (units.map charOf) else none

/-- Whether three bytes are a surrogate written as a code point in UTF-8. -/
def isSurrogateTriple (a b c : UInt8) : Bool :=
  a = 0xed && 0xa0 ≤ b && b < 0xc0 && 0x80 ≤ c && c < 0xc0

/-- UTF-8 with the replacement character for every surrogate in it. -/
def replaceSurrogates : List UInt8 → List UInt8
  | a :: b :: c :: rest =>
    if isSurrogateTriple a b c then 0xef :: 0xbf :: 0xbd :: replaceSurrogates rest
    else a :: replaceSurrogates (b :: c :: rest)
  | bytes => bytes

/-- The text in bytes of a known encoding, none for bytes that are not text. -/
def decodeAs? (encoding : Encoding) (bytes : ByteArray) : Option String :=
  match encoding with
  | .utf8 => String.fromUTF8? (replaceSurrogates bytes.toList).toByteArray
  | .utf16 bigEndian =>
    (units16? bigEndian bytes.toList).map fun units => String.ofList (ofUnits16 units)
  | .utf32 bigEndian =>
    ((units32? bigEndian bytes.toList).bind ofUnits32?).map String.ofList

/-- The text of a document in bytes, its byte order mark left out. -/
def decode? (bytes : ByteArray) : Option String :=
  match markedEncoding? bytes.toList with
  | some (encoding, mark) => decodeAs? encoding (bytes.extract mark bytes.size)
  | none => decodeAs? (plainEncoding bytes.toList) bytes

/-- A text with every line end written as a line feed. -/
def unifyLineEnds : List Char → List Char
  | [] => []
  | '\r' :: '\n' :: rest => '\n' :: unifyLineEnds rest
  | '\r' :: rest => '\n' :: unifyLineEnds rest
  | c :: rest => c :: unifyLineEnds rest

/-- The text in UTF-8 bytes, with a line feed for every line end and a byte order mark kept. -/
def decodeLines? (bytes : ByteArray) : Option String :=
  (String.fromUTF8? bytes).map fun text => String.ofList (unifyLineEnds text.toList)

end Phrasebook.Text
