import Phrasebook.Condition.Reader
import Phrasebook.OrderedMap
import Phrasebook.Text.Letter
import Phrasebook.Text.Split

/-! Message templates: variants joined by a separator. A variant that starts with a condition and
goes on is an explicit rule; the others are standard variants, chosen by position, and a label in
front of one is informational. Rules under the same condition text are one rule: it keeps the place
of the first and the text of the last. -/

namespace Phrasebook

/-- A variant under an explicit condition. -/
structure ExplicitRule where
  condition : Condition
  text : String
  deriving DecidableEq, Repr

structure Template where
  standard : List String
  rules : List ExplicitRule
  segmentCount : Nat
  deriving DecidableEq, Repr

/-- What one segment of a template is. -/
inductive Segment where
  | rule (rule : ExplicitRule)
  | standard (text : String)
  deriving DecidableEq, Repr

namespace Segment

/-- The variant text after a condition: one white space character in front of it is dropped. -/
def variantText : List Char → List Char
  | c :: d :: rest => if Text.isBlank c then d :: rest else c :: d :: rest
  | rest => rest

/-- The text after a label, a word and a colon, when there is any. White space in front of it is
dropped, up to its last character. -/
def afterLabel? (cs : List Char) : Option (List Char) :=
  match cs.takeWhile Text.isWord, cs.dropWhile Text.isWord with
  | _ :: _, ':' :: c :: rest =>
    match Text.trimStart (c :: rest) with
    | [] => some [(c :: rest).getLast (List.cons_ne_nil c rest)]
    | text => some text
  | _, _ => none

/-- The text of a standard variant. -/
def standardText (cs : List Char) : List Char := (afterLabel? cs).getD cs

def read (cs : List Char) : Except Fault Segment :=
  match Condition.recognise? cs with
  | some (shape, c :: rest) => do
    return .rule {
      condition := ← Condition.ofShape cs (c :: rest) shape
      text := String.ofList (variantText (c :: rest)) }
  | _ => .ok (.standard (String.ofList (standardText cs)))

def standardText? : Segment → Option String
  | standard text => some text
  | rule _ => none

def rule? : Segment → Option ExplicitRule
  | rule r => some r
  | standard _ => none

end Segment

namespace Template

/-- Rules in the order of their first condition texts, each with its last text. -/
def mergeRules (rules : List ExplicitRule) : List ExplicitRule :=
  (OrderedMap.ofList (rules.map fun r => (r.condition.source, r))).entries.map Prod.snd

def ofSegments (segments : List Segment) : Template where
  standard := segments.filterMap Segment.standardText?
  rules := mergeRules (segments.filterMap Segment.rule?)
  segmentCount := segments.length

/-- The segments of a template text, read from left to right. -/
def segments (separator text : String) : Except Fault (List Segment) :=
  (Text.split separator.toList text.toList).mapM Segment.read

def read (separator text : String) : Except Fault Template :=
  if separator.isEmpty then .error .emptySeparator
  else (segments separator text).map ofSegments

/-- Whether a template has more than one variant. -/
def isPlural (t : Template) : Bool := 1 < t.segmentCount

/-- Condition and variant texts of the rules, in order. -/
def ruleTexts (t : Template) : List (String × String) :=
  t.rules.map fun r => (r.condition.source, r.text)

/-- The separator of variants unless another one is set. -/
def defaultSeparator : String := "|"

end Template

end Phrasebook
