/-! Diagnostics: what can go wrong with a catalogue, a lookup or a plural choice, as a numbered
code with a message, an optional hint and a severity. The report of a diagnostic is its only
rendering, so a logged warning and a raised error read alike. -/

namespace Phrasebook

inductive DiagnosticCode where
  | catalogueNotInitialized
  | catalogueEmpty
  | catalogueInvalid
  | loadTypeInvalid
  | messageNotFound
  | domainNotFound
  | localeNotFound
  | countInvalid
  | noVariants
  deriving DecidableEq, Repr

namespace DiagnosticCode

def all : List DiagnosticCode :=
  [catalogueNotInitialized, catalogueEmpty, catalogueInvalid, loadTypeInvalid, messageNotFound,
    domainNotFound, localeNotFound, countInvalid, noVariants]

/-- Codes of one thousand belong together: life cycle, lookup, plural choice. -/
def number : DiagnosticCode → Nat
  | catalogueNotInitialized => 1001
  | catalogueEmpty => 1002
  | catalogueInvalid => 1003
  | loadTypeInvalid => 1004
  | messageNotFound => 2001
  | domainNotFound => 2002
  | localeNotFound => 2003
  | countInvalid => 3001
  | noVariants => 3002

def name : DiagnosticCode → String
  | catalogueNotInitialized => "CATALOGUE_NOT_INITIALIZED"
  | catalogueEmpty => "CATALOGUE_EMPTY"
  | catalogueInvalid => "CATALOGUE_INVALID"
  | loadTypeInvalid => "LOAD_TYPE_INVALID"
  | messageNotFound => "MESSAGE_NOT_FOUND"
  | domainNotFound => "DOMAIN_NOT_FOUND"
  | localeNotFound => "LOCALE_NOT_FOUND"
  | countInvalid => "COUNT_INVALID"
  | noVariants => "NO_VARIANTS"

def ofName? (name : String) : Option DiagnosticCode := all.find? fun code => code.name == name

theorem mem_all (code : DiagnosticCode) : code ∈ all := by cases code <;> decide

theorem ofName?_name (code : DiagnosticCode) : ofName? code.name = some code := by
  cases code <;> decide

end DiagnosticCode

inductive Severity where
  | error
  | warning
  deriving DecidableEq, Repr

def Severity.name : Severity → String
  | error => "error"
  | warning => "warning"

structure Diagnostic where
  code : DiagnosticCode
  message : String
  hint : Option String := none
  severity : Severity := .error
  deriving DecidableEq, Repr

namespace Diagnostic

/-- The headline, and the hint on a line of its own unless it is empty. -/
def report (d : Diagnostic) : String :=
  let headline := d.severity.name ++ "[" ++ d.code.name ++ "]: " ++ d.message
  match d.hint with
  | none => headline
  | some hint => if hint.isEmpty then headline else headline ++ "\n  = help: " ++ hint

/-! ## Conditions that are reported and not raised -/

def localeNotFound (locale : String) : Diagnostic where
  code := .localeNotFound
  message := "Skipped locale '" ++ locale ++ "' as it is not in the current catalogue"
  hint := some "Check the locale code; catalogue keys are case-sensitive"
  severity := .warning

def domainNotFound (domain locale : String) : Diagnostic where
  code := .domainNotFound
  message := "'" ++ domain ++ "' does not exist in the catalogue for the '" ++ locale ++ "' locale"
  severity := .warning

/-- The locale is given in its shown form, also when none was requested. -/
def messageNotFound (id domain locale : String) : Diagnostic where
  code := .messageNotFound
  message :=
    "Untranslated message '" ++ id ++ "' (domain=" ++ domain ++ ", locale=" ++ locale ++ ")"
  hint := some "The message id is used as the text"
  severity := .warning

def noVariants (id locale : String) : Diagnostic where
  code := .noVariants
  message := "Message '" ++ id ++ "' has no plural variant for " ++ locale ++ "; using raw template"
  hint := some "Add a standard variant or an explicit rule covering the count"
  severity := .warning

end Diagnostic

/-- What a fault raised by a caller has to say: words of its own, or a diagnostic. -/
inductive Notice where
  | plain (text : String)
  | structured (diagnostic : Diagnostic)
  deriving DecidableEq, Repr

namespace Notice

def text : Notice → String
  | plain text => text
  | structured diagnostic => diagnostic.report

def diagnostic? : Notice → Option Diagnostic
  | plain _ => none
  | structured diagnostic => some diagnostic

end Notice

end Phrasebook
