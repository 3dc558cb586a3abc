import Phrasebook.Count.Reader
import Phrasebook.Plural.Family
import Phrasebook.Template

/-! Choosing the variant of a template for a count: the first explicit rule whose condition holds,
otherwise the standard variant at the plural position of the count, otherwise the first standard
variant. Only a template of rules alone can be left without a variant. -/

namespace Phrasebook.Template

/-- The text of the first rule that a count meets. -/
def ruleFor (count : Count) : List ExplicitRule → Except Fault (Option String)
  | [] => .ok none
  | r :: rest => do
    if ← r.condition.holds count then return some r.text
    ruleFor count rest

/-- The standard variant at a position, the first one beyond the end. -/
def standardAt (t : Template) (position : Nat) : Option String :=
  match t.standard[position]? with
  | some text => some text
  | none => t.standard.head?

/-- The variant for a count. The position is looked at only when no rule holds and there is a
standard variant, so a failure to find one matters only then. -/
def variant (t : Template) (count : Count) (position : Except Fault Nat) :
    Except Fault (Option String) := do
  match ← ruleFor count t.rules with
  | some text => return some text
  | none =>
    if t.standard.isEmpty then return none
    return t.standardAt (← position)

/-- The variant for a count in a locale. -/
def select (t : Template) (count : Count) (code : String) : Except Fault (Option String) :=
  t.variant count (pluralPosition count code)

/-- Resolves a template text to the variant for the count among the parameters. A text without the
separator is its own only variant. -/
def pluralize [Stack] (text : String) (parameters : Value) (code : String)
    (separator : String := defaultSeparator) : Except Fault (Option String) :=
  if Text.occurs separator.toList text.toList then do
    let count ← Count.ofParameters parameters
    let template ← read separator text
    template.select count code
  else .ok (some text)

end Phrasebook.Template
