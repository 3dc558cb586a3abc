import Phrasebook.Translator

/-! Steps of a translator as data, what each of them answers, and runs of calls, each of which does
a step with the stack that it has. A failed step does not end a run. -/

namespace Phrasebook

inductive Step where
  | load (source kind : Value)
  | loadAs (source : Value) (kind : LoadKind)
  | add (id template domain locale : Value)
  | has (id domain locale : Value)
  | get (id domain locale : Value)
  | domainsOf (locale : Value)
  | excerpt (domains locales : Value)
  | pluralize (template parameters locale : Value)
  | replace (message parameters : Value)
  | translate (id parameters domain locale : Value)
  | setLocale (locale : Value)
  | currentLocale
  | effectiveLocale
  | initialized
  | settings
  | shown

/-- What a step answers: a value, or the settings. -/
inductive Answer where
  | value (v : Value)
  | settings (s : Settings)

namespace Step

open Translator

variable [Stack]

/-- Does one step. -/
def perform : Step → Action Answer
  | load source kind => do
    Translator.load source (← LoadKind.ofValue kind)
    return .value (.bool true)
  | loadAs source kind => do
    Translator.load source kind
    return .value (.bool true)
  | add id template domain locale => do
    Translator.add id template domain locale
    return .value (.bool true)
  | has id domain locale => return .value (.bool (← hasMessage id domain locale))
  | get id domain locale => return .value (← getMessage id domain locale)
  | domainsOf locale => return .value (.list (← getDomains locale))
  | excerpt domains locales => return .value (← getCatalogue domains locales).toValue
  | pluralize template parameters locale => do
    match ← Translator.pluralize template parameters locale with
    | some message => return .value message
    | none => return .value .null
  | replace message parameters => return .value (← Placeholder.replaceIn message parameters)
  | translate id parameters domain locale =>
    return .value (← Translator.translate id parameters domain locale)
  | setLocale locale => do
    update fun t => { t with currentLocale := locale }
    return .value (← current).locale
  | currentLocale => return .value (← current).currentLocale
  | effectiveLocale => return .value (← current).locale
  | initialized => return .value (.bool (← current).isInitialized)
  | settings => return .settings (← current).settings
  | shown => return .value (.text (← (← current).shown))

/-- What came of a step. -/
structure Outcome (α : Type) where
  result : Except Fault α
  events : List Event

/-- Runs an action on a translator and gives the translator afterwards. -/
def runAction {α : Type} (action : Action α) (t : Translator) : Outcome α × Translator :=
  let (result, session) := action.run.run { translator := t }
  ({ result, events := session.events }, session.translator)

end Step

/-- A step, and what is left of the stack where it is done. -/
structure Call where
  stack : Stack
  step : Step

namespace Call

def perform (call : Call) : Action Answer := @Step.perform call.stack call.step

/-- Makes calls one after another, whether they fail or not. -/
def run (t : Translator) : List Call → List (Step.Outcome Answer) × Translator
  | [] => ([], t)
  | call :: rest =>
    let (outcome, t) := Step.runAction call.perform t
    let (outcomes, t) := run t rest
    (outcome :: outcomes, t)

end Call

end Phrasebook
