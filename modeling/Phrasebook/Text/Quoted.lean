import Phrasebook.Text.Printable
import Phrasebook.Number.Digits

/-! Quoted text and bytes, as messages show them. The quote is `'` unless the text holds that quote
and not the other one; the quote and the backslash are escaped, line ends and tabs have escapes of
their own, and what is not printable is shown by its code point. -/

namespace Phrasebook.Text

def hexDigit (d : Nat) : Char := if d < 10 then Char.ofNat (48 + d) else Char.ofNat (87 + d)

/-- The lowest hexadecimal digits of a number, a fixed count of them. -/
def hex : (count n : Nat) → List Char
  | 0, _ => []
  | count + 1, n => hex count (n / 16) ++ [hexDigit (n % 16)]

/-- The quote that needs the least escaping. -/
def quoteFor (has : Char → Bool) : Char := if has '\'' && !has '"' then '"' else '\''

/-- A code point by the shortest of its three escapes. -/
def codeEscape (code : Nat) : List Char :=
  if code < 0x100 then '\\' :: 'x' :: hex 2 code
  else if code < 0x10000 then '\\' :: 'u' :: hex 4 code
  else '\\' :: 'U' :: hex 8 code

def escapeChar (quote c : Char) : List Char :=
  if c = quote || c = '\\' then ['\\', c]
  else if c = '\t' then ['\\', 't']
  else if c = '\n' then ['\\', 'n']
  else if c = '\r' then ['\\', 'r']
  else if isPrintable c then [c]
  else codeEscape c.toNat

/-- A text in quotes. -/
def quoted (cs : List Char) : List Char :=
  let quote := quoteFor cs.contains
  quote :: (cs.flatMap (escapeChar quote) ++ [quote])

/-- Bytes in quotes: those of printable ASCII as characters, the others by number. -/
def quotedBytes (bytes : List UInt8) : List Char :=
  let quote := quoteFor fun c => bytes.contains (UInt8.ofNat c.toNat)
  let shown (b : UInt8) : List Char :=
    let c := Char.ofNat b.toNat
    if b.toNat < 0x7f then escapeChar quote c else '\\' :: 'x' :: hex 2 b.toNat
  'b' :: quote :: (bytes.flatMap shown ++ [quote])

end Phrasebook.Text
