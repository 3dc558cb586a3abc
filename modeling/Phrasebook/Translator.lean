import Phrasebook.Catalogue.Document
import Phrasebook.Placeholder
import Phrasebook.Settings
import Phrasebook.Template.Selection

/-! Translators. A translator finds the template of a message in its catalogue, in the requested
locale or else in the fallback locale, chooses the variant for the count, and puts the parameters
in. It has no catalogue until one is loaded or a message is added.

An action is a step of a translator: it may fail, and it changes the translator and leaves events
behind whether it fails or not. Only loading, adding and setting the current locale change what
later actions find; the set of templates read before is kept because reading one is recorded the
first time only. -/

namespace Phrasebook

/-- A message that neither the requested nor the fallback locale holds. -/
structure Untranslated where
  id : Value
  domain : Value
  locale : Value

/-- What is told of an untranslated message; a text is the failure of a notifier. -/
abbrev Notifier := Untranslated → Option String

inductive Level where
  | debug
  | info
  | warning
  | error
  deriving DecidableEq, Repr

namespace Level

def name : Level → String
  | debug => "DEBUG"
  | info => "INFO"
  | warning => "WARNING"
  | error => "ERROR"

def all : List Level := [debug, info, warning, error]

def ofName? (name : String) : Option Level := all.find? fun level => level.name == name

theorem ofName?_name (level : Level) : ofName? level.name = some level := by
  cases level <;> decide

def rank : Level → Nat
  | debug => 10
  | info => 20
  | warning => 30
  | error => 40

end Level

/-- The part of the library that a record comes from. -/
inductive Channel where
  | translator
  | template
  deriving DecidableEq, Repr

structure LogRecord where
  level : Level
  channel : Channel
  message : String
  deriving DecidableEq, Repr

/-- What an action leaves behind besides its result. -/
inductive Event where
  | logged (record : LogRecord)
  | notified (message : Untranslated)

structure Translator where
  settings : Settings
  catalogue : Option Catalogue := none
  currentLocale : Value := .null
  notifier : Option Notifier := none
  /-- Separators and texts of the templates read before. -/
  readBefore : List (String × String) := []

structure Session where
  translator : Translator
  events : List Event := []

abbrev Action := ExceptT Fault (StateM Session)

/-- How a load takes its source. -/
inductive LoadKind where
  | catalogue
  | serialized
  | loader
  deriving DecidableEq, Repr

namespace LoadKind

def name : LoadKind → String
  | catalogue => "catalogue"
  | serialized => "serialized"
  | loader => "loader"

def all : List LoadKind := [catalogue, serialized, loader]

def ofName? (name : String) : Option LoadKind := all.find? fun kind => kind.name == name

theorem ofName?_name (kind : LoadKind) : ofName? kind.name = some kind := by
  cases kind <;> decide

/-- The kind that a value names. -/
def ofValue [Stack] (v : Value) : Except Fault LoadKind :=
  let refused : Except Fault LoadKind := do throw (.invalidLoadType (← v.shownAt .loadKind))
  match v with
  | .text name =>
    match ofName? name with
    | some kind => .ok kind
    | none => refused
  | _ => refused

end LoadKind

namespace Translator

variable [Stack]

/-- The locale used when none is named. -/
def locale (t : Translator) : Value := t.currentLocale.orElse (.text t.settings.fallbackLocale)

def isInitialized (t : Translator) : Bool := t.catalogue.isSome

def shown (t : Translator) : Except Fault String := do
  return "Translator(locale=" ++ (← t.locale.shownAt .description) ++ ", fallback_locale=" ++
    (← (Value.text t.settings.fallbackLocale).shownAt .description) ++ ", initialized=" ++
    (if t.isInitialized then "True" else "False") ++ ")"

/-! ## Effects -/

def current : Action Translator := do return (← get).translator

def update (change : Translator → Translator) : Action Unit :=
  modify fun s => { s with translator := change s.translator }

def emit (event : Event) : Action Unit :=
  modify fun s => { s with events := s.events ++ [event] }

/-- Records a message; one that cannot be shown is not recorded. -/
def log (level : Level) (message : Except Fault String) (channel : Channel := .translator) :
    Action Unit :=
  match message with
  | .ok message => emit (.logged { level, channel, message })
  | .error _ => return ()

def requireCatalogue : Action Catalogue := do
  match (← current).catalogue with
  | some c => return c
  | none => throw .uninitialized

/-! ## Loading and adding -/

/-- The catalogue that a source gives, and the name of the source. -/
def readSource (source : Value) : LoadKind → Except Fault (Catalogue × String)
  | .catalogue => do
    let data := match source with
      | .catalogue data _ => data
      | data => data
    return (← Catalogue.ofValue data, "<catalogue>")
  | .serialized => do return (← Catalogue.ofDocument Stack.document source, "<serialized>")
  | .loader =>
    match source with
    | .loader loader _ => do return (← loader.load Stack.loaderDocument, ← loader.describe)
    | _ => .error .missingOperation

def loadedMessage (c : Catalogue) (source : String) : String :=
  "Catalogue loaded from " ++ source ++ ": " ++ String.ofList (Number.text c.locales.length) ++
    " locale(s), " ++ String.ofList (Number.text c.size) ++ " message(s)"

/-- Replaces the catalogue by one that is not empty. -/
def load (source : Value) (kind : LoadKind) : Action Unit := do
  let (c, name) ← readSource source kind
  if c.isEmpty then throw .emptyCatalogue
  update fun t => { t with catalogue := some c }
  log .info (.ok (loadedMessage c name))

/-- Inserts or overwrites a message, in the current locale and default domain unless told. A first
catalogue is kept only if the insertion succeeds. -/
def add (id template domain locale : Value) : Action Unit := do
  let t ← current
  let locale := locale.orElse t.locale
  let domain := domain.orElse (.text t.settings.defaultDomain)
  let (outcome, c) := (t.catalogue.getD .empty).set locale domain id template
  if outcome.isOk || t.isInitialized then update fun t => { t with catalogue := some c }
  outcome
  log .debug do
    return "Added message '" ++ (← id.toTextAt .report) ++ "' to " ++
      (← locale.toTextAt .report) ++ "/" ++
      (← domain.toTextAt .report)

/-! ## Looking up -/

def logMiss (miss : Lookup) : Action Unit :=
  log .debug do
    match miss.status with
    | .localeMissing => return (← miss.locale.toTextAt .report) ++ " not in catalogue"
    | .domainMissing =>
      return "domain " ++ (← miss.domain.toTextAt .report) ++ " not in " ++
        (← miss.locale.toTextAt .report)
    | _ =>
      return "id " ++ (← miss.id.toTextAt .report) ++ " not in " ++
        (← miss.locale.toTextAt .report) ++ "/" ++
        (← miss.domain.toTextAt .report)

/-- Whether a message exists in exactly one locale. -/
def hasMessage (id domain locale : Value) : Action Bool := do
  let c ← requireCatalogue
  let t ← current
  let found ← c.lookup (locale.orElse t.locale)
    (domain.orElse (.text t.settings.defaultDomain)) id
  unless found.status.isFound do logMiss found
  return found.status.isFound

/-- The locales to look in: the requested one and the fallback, each that is given, once. -/
def candidates (requested fallback : Value) : Except Fault (List Value) :=
  if requested.isTruthy then do
    let requested ← requested.asKey
    return if requested == fallback then [requested] else [requested, fallback]
  else .ok [fallback]

/-- The first template found in some locales, with a record of every miss. -/
def searchIn (c : Catalogue) (domain id : Value) : List Value → Action (Option String)
  | [] => return none
  | locale :: rest => do
    let found ← c.lookup locale domain id
    match found.status with
    | .found template => return some template
    | _ =>
      logMiss found
      searchIn c domain id rest

/-- Tells the notifier, whose failure goes no further than a record. -/
def notify (message : Untranslated) : Action Unit := do
  match (← current).notifier with
  | none => return ()
  | some notifier =>
    emit (.notified message)
    match notifier message with
    | none => return ()
    | some failure => log .warning (.ok ("Untranslated-message notifier failed: " ++ failure))

/-- The template of a message in the requested locale or else in the fallback locale. An
untranslated message is reported once and is its own template. -/
def getMessage (id domain locale : Value) : Action Value := do
  let c ← requireCatalogue
  let t ← current
  let domain := domain.orElse (.text t.settings.defaultDomain)
  let requested := locale.orElse t.currentLocale
  let locales ← candidates requested (.text t.settings.fallbackLocale)
  match ← searchIn c domain id locales with
  | some template => return .text template
  | none =>
    let diagnostic := Diagnostic.messageNotFound (← id.toTextAt .report) (← domain.toTextAt .report)
      (← requested.toTextAt .report)
    log .info (.ok diagnostic.report)
    notify { id, domain, locale := requested }
    return id

def getDomains (locale : Value) : Action (List Value) := do
  let c ← requireCatalogue
  c.domains (locale.orElse (← current).locale)

/-- The items of a request: one text, several values, or the default. -/
def requestedItems (v : Value) (default : String) : List Value :=
  match v with
  | .text s => [.text s]
  | v =>
    match v.items with
    | .ok items => items
    | .error _ => [.text default]

/-- What is said of a part of the catalogue that was asked for and is missing. -/
def skippedDiagnostic (miss : Lookup) : Except Fault Diagnostic := do
  match miss.status with
  | .localeMissing => return .localeNotFound (← miss.locale.toTextAt .report)
  | _ => return .domainNotFound (← miss.domain.toTextAt .report) (← miss.locale.toTextAt .report)

def warnSkipped : List Lookup → Action Unit
  | [] => return ()
  | miss :: rest => do
    let diagnostic ← skippedDiagnostic miss
    log .warning (.ok diagnostic.report)
    warnSkipped rest

/-- A copy of the part of the catalogue in some domains and locales. -/
def getCatalogue (domains locales : Value) : Action Catalogue := do
  let c ← requireCatalogue
  let t ← current
  let (selected, skipped) ← c.restrict (requestedItems domains t.settings.defaultDomain)
    (requestedItems locales t.settings.fallbackLocale)
  warnSkipped skipped
  return selected

/-! ## Resolving -/

/-- The plural position of a count, which needs a locale that is a code. -/
def positionIn (count : Count) : Value → Except Fault Nat
  | .text code => pluralPosition count code
  | .bytes _ => .error .wrongType
  | v => if v.isKey then .error .missingOperation else .error .wrongType

/-- Reads a template, and records the first reading of one with several variants. -/
def readTemplate (text : String) : Action Template := do
  let t ← current
  let separator := t.settings.separator
  let template ← Template.read separator text
  unless t.readBefore.contains (separator, text) do
    update fun t => { t with readBefore := (separator, text) :: t.readBefore }
    if template.isPlural then
      log .debug (.ok ("Parsed plural template: " ++
        String.ofList (Number.text template.rules.length) ++ " explicit rule(s), " ++
        String.ofList (Number.text template.standard.length) ++ " standard variant(s)")) .template
  return template

/-- The variant of a template for the count among the parameters. A template without the separator
is its own only variant, also when it is no text, which an untranslated id need not be; with the
separator among its items it cannot be read. -/
def pluralize (template parameters locale : Value) : Action (Option Value) := do
  let t ← current
  if ← template.holdsText t.settings.separator then
    let count ← Count.ofParameters parameters
    match template with
    | .text text =>
      let read ← readTemplate text
      let variant ← read.variant count (positionIn count (locale.orElse t.locale))
      return variant.map .text
    | _ => throw (if template.isKey then .missingOperation else .wrongType)
  else return some template

/-- The message before failures are taken care of. -/
def resolve (id parameters domain locale : Value) : Action Value := do
  let template ← getMessage id domain locale
  let message ← match ← pluralize template parameters locale with
    | some message => pure message
    | none => do
      let diagnostic := Diagnostic.noVariants (← id.toTextAt .report) (← locale.toTextAt .report)
      log .warning (.ok diagnostic.report)
      pure template
  Placeholder.replaceIn message parameters

/-- Translates a message. Whatever fails in a message or its parameters, the id is the answer. The
record of a translation shows the beginning of it, which it must have. -/
def translate (id parameters domain locale : Value) : Action Value := do
  let locale := locale.orElse (← current).locale
  let outcome : Option Value ← tryCatch
    (return some (← resolve id parameters domain locale))
    fun fault => do
      unless fault.isRecoverable do throw fault
      log .warning do
        return "Translation of '" ++ (← id.toTextAt .report) ++ "' failed: " ++
          (fault.message?.getD "")
      return none
  match outcome with
  | none => return id
  | some message =>
    let beginning ← message.take 50
    log .debug do
      return "Translated '" ++ (← id.toTextAt .report) ++ "': " ++ (← beginning.toTextAt .report)
    return message

/-- A new translator, with a catalogue loaded at once if one is given. -/
def start (data : Value) : Action Unit :=
  match data with
  | .null => return ()
  | data => load data .catalogue

end Translator

end Phrasebook
