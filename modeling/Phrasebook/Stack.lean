import Phrasebook.Fault

/-! The stack that a caller leaves. Making the text of a value goes as deep as values are nested in
it, and so does reading a document, and neither can go deeper than the stack allows. What is left of
it is another amount for every caller and at every place, so nothing is fixed here: whatever may run
out of stack is told how much there is. -/

namespace Phrasebook

/-- Where the text of a given value is made. -/
inductive Place where
  /-- The place of a message that is inserted. -/
  | insertion
  /-- A key of catalogue data. -/
  | dataKey
  /-- A count that is refused. -/
  | count
  /-- A value put in place of a placeholder. -/
  | parameter
  /-- An option that is refused. -/
  | option
  /-- A kind of load that is refused. -/
  | loadKind
  /-- What is told of a message. -/
  | report
  /-- A catalogue or a translator as text. -/
  | description
  deriving DecidableEq, Repr

/-- What is left of the stack. -/
class Stack where
  /-- What there is for the values inside of one whose text is made. -/
  room : Place → Nat
  /-- How deep a document may be nested that is loaded as it is. -/
  document : Nat
  /-- How deep a document may be nested that a loader reads. -/
  loaderDocument : Nat

/-- A stack with the room that there commonly is. -/
abbrev Stack.ample : Stack where
  room _ := 980
  document := 990
  loaderDocument := 989

/-- Goes some way down the stack, so long as there is that much of it. -/
def descend {α : Type} (way room : Nat) (inside : Nat → Except Fault α) : Except Fault α :=
  if room < way then .error .nestedTooDeep else inside (room - way)

end Phrasebook
