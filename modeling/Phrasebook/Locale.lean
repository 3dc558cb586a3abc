import Phrasebook.Text.Case
import Phrasebook.Text.Digit
import Phrasebook.Text.Letter
import Phrasebook.Text.Split

/-! Locale codes. A code names a language, then optionally a script, a territory and a variant,
joined by underscores; hyphens are taken for underscores, and an encoding after a point or a
modifier after `@` is left aside. A code that does not have this form still has a language: its
text before the first underscore. -/

namespace Phrasebook.Locale

/-- A code with underscores in place of hyphens. -/
def normalize (code : List Char) : List Char := code.map fun c => if c = '-' then '_' else c

structure Tag where
  language : List Char
  territory : Option (List Char)
  deriving DecidableEq, Repr

def isWordOf (property : Char → Bool) (part : List Char) : Bool :=
  !part.isEmpty && part.all property

/-- Parts after an optional script of four letters. -/
def dropScript : List (List Char) → List (List Char)
  | [] => []
  | part :: parts =>
    if part.length = 4 && isWordOf Text.isLetter part then parts else part :: parts

/-- An optional territory, two letters or three digits, and the parts after it. -/
def takeTerritory : List (List Char) → Option (List Char) × List (List Char)
  | [] => (none, [])
  | part :: parts =>
    if part.length = 2 && isWordOf Text.isLetter part then (some (Text.upper part), parts)
    else if part.length = 3 && isWordOf Text.isDigit part then (some part, parts)
    else (none, part :: parts)

/-- Whether a part has the form of a variant. -/
def isVariant (part : List Char) : Bool :=
  match part with
  | [] => false
  | c :: _ => (part.length = 4 && Text.isDigit c) || (5 ≤ part.length && Text.isLetter c)

/-- Where the next part has the form of a variant, the last part is taken to be it. -/
def dropVariant (parts : List (List Char)) : List (List Char) :=
  match parts with
  | [] => []
  | part :: _ => if isVariant part then parts.dropLast else parts

/-- Reads a code in the given form, none for a code in another form. -/
def readTag? (code : List Char) : Option Tag :=
  let body := (code.takeWhile (· ≠ '@')).takeWhile (· ≠ '.')
  match Text.split ['_'] body with
  | [] => none
  | first :: parts =>
    let language := Text.lower first
    let (territory, rest) := takeTerritory (dropScript parts)
    if isWordOf Text.isLetter language && (dropVariant rest).isEmpty then
      some { language, territory }
    else none

/-- The language and territory of any code. -/
def tag (code : List Char) : Tag :=
  let code := normalize code
  match readTag? code with
  | some tag => tag
  | none => { language := Text.lower (code.takeWhile (· ≠ '_')), territory := none }

/-- The key of Brazilian Portuguese, whose plural rule differs from that of other Portuguese. -/
def brazilianKey : String := "xbr"

/-- The key of a code in a table of plural rules: the language, or its first two characters where
the table does not know it. -/
def pluralKey (known : List String) (code : String) : String :=
  let tag := tag code.toList
  let language := String.ofList tag.language
  if language = "pt" && tag.territory = some ['B', 'R'] then brazilianKey
  else if known.contains language then language
  else String.ofList (tag.language.take 2)

theorem normalize_cons (c : Char) (code : List Char) :
    normalize (c :: code) = (if c = '-' then '_' else c) :: normalize code := rfl

theorem normalize_append (code suffix : List Char) :
    normalize (code ++ suffix) = normalize code ++ normalize suffix := List.map_append

end Phrasebook.Locale
