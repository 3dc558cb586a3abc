import Phrasebook.Text.Property

/-! White space: the control characters that separate text, the space characters and the line and
paragraph separators. Joiners and the byte order mark are not white space. -/

namespace Phrasebook.Text

def blankSwitches : List Nat := [
  9, 14, 28, 33, 133, 134, 160, 161, 5760, 5761, 8192, 8203, 8232, 8234, 8239, 8240, 8287, 8288,
  12288, 12289]

def isBlank (c : Char) : Bool := switched blankSwitches c.toNat

/-- The information separators: white space that is not dropped when a text is converted to an
integer. -/
def isInformationSeparator (c : Char) : Bool := 28 ≤ c.toNat && c.toNat ≤ 31

/-- The text without the white space it begins with. -/
def trimStart (cs : List Char) : List Char := cs.dropWhile isBlank

/-- The text without the white space it ends with. -/
def trimEnd (cs : List Char) : List Char := (trimStart cs.reverse).reverse

/-- The text without the white space around it. -/
def trim (cs : List Char) : List Char := trimEnd (trimStart cs)

theorem takeWhile_append_trimStart (cs : List Char) : cs.takeWhile isBlank ++ trimStart cs = cs :=
  List.takeWhile_append_dropWhile

end Phrasebook.Text
