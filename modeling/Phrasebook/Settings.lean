import Phrasebook.Template
import Phrasebook.Value.Printer

/-! Settings of a translator: the locale it falls back to, the domain it looks in unless told, and
the separator of plural variants. No setting is ever empty. Settings are given by field, or as
options, where a field may go by its camel-case name but not by both names at once. -/

namespace Phrasebook

structure Settings where
  fallbackLocale : String := "en"
  defaultDomain : String := "messages"
  separator : String := Template.defaultSeparator
  fallbackLocale_ne : fallbackLocale ≠ "" := by decide
  defaultDomain_ne : defaultDomain ≠ "" := by decide
  separator_ne : separator ≠ "" := by decide
  deriving DecidableEq

namespace Settings

instance : Inhabited Settings := ⟨{}⟩

inductive Field where
  | fallbackLocale
  | defaultDomain
  | separator
  deriving DecidableEq, Repr

namespace Field

def all : List Field := [fallbackLocale, defaultDomain, separator]

def name : Field → String
  | fallbackLocale => "fallback_locale"
  | defaultDomain => "default_domain"
  | separator => "plural_separator"

def camelName : Field → String
  | fallbackLocale => "fallbackLocale"
  | defaultDomain => "defaultDomain"
  | separator => "pluralSeparator"

/-- The field of this name. -/
def named? (name : String) : Option Field := all.find? fun field => field.name == name

/-- The field that goes by this name as an option. -/
def ofOption? (name : String) : Option Field :=
  all.find? fun field => field.name == name || field.camelName == name

/-- The value of a field where none is given. -/
def default : Field → String
  | fallbackLocale => "en"
  | defaultDomain => "messages"
  | separator => Template.defaultSeparator

end Field

/-- The given values of fields. -/
abbrev Assignment := List (Field × Value)

/-- The value of a field, a text that is not empty. -/
def checkField [Stack] (field : Field) (v : Value) : Except Fault { s : String // s ≠ "" } :=
  let refused : Except Fault { s : String // s ≠ "" } := do
    throw (.invalidOption field.name (← v.shownAt .option))
  match v with
  | .text s => if h : s ≠ "" then .ok ⟨s, h⟩ else refused
  | _ => refused

/-- Settings with the given values over the defaults. Fields are checked in their own order. -/
def ofAssignment [Stack] (given : Assignment) : Except Fault Settings := do
  let value (field : Field) := (given.lookup field).getD (.text field.default)
  let fallbackLocale ← checkField .fallbackLocale (value .fallbackLocale)
  let defaultDomain ← checkField .defaultDomain (value .defaultDomain)
  let separator ← checkField .separator (value .separator)
  return {
    fallbackLocale := fallbackLocale.val
    defaultDomain := defaultDomain.val
    separator := separator.val
    fallbackLocale_ne := fallbackLocale.property
    defaultDomain_ne := defaultDomain.property
    separator_ne := separator.property }

/-- The field that an entry names, a fault without one. -/
def assignField : Value × Value → Except Fault (Field × Value)
  | (.text name, v) =>
    match Field.named? name with
    | some field => .ok (field, v)
    | none => .error .wrongType
  | _ => .error .wrongType

/-- Settings given by field. -/
def ofFields [Stack] : Value → Except Fault Settings
  | .map entries => do ofAssignment (← entries.mapM assignField)
  | _ => .error .wrongType

def optionField? : Value → Option Field
  | .text name => Field.ofOption? name
  | _ => none

/-- The fields that options name, in order, each once. -/
def assignOptions [Stack] (given : Assignment) : List (Value × Value) → Except Fault Assignment
  | [] => .ok given
  | (name, v) :: rest =>
    match optionField? name with
    | none => do throw (.unknownOption (← name.shownAt .option))
    | some field =>
      if (given.lookup field).isSome then .error (.repeatedOption field.name)
      else assignOptions (given ++ [(field, v)]) rest

/-- Settings given as options. -/
def ofOptions [Stack] : Value → Except Fault Settings
  | .map entries => do ofAssignment (← assignOptions [] entries)
  | _ => .error .missingOperation

end Settings

end Phrasebook
