import Phrasebook.Value.Printer

/-! Message catalogues: templates under a message id, within a domain, within a locale. A look-up
says which level was missing. Levels keep the order of first insertion and may be empty.

Keys are whatever values callers use; a key that is no value to look up by is refused when it is
looked at, and not before. Inserting checks the template first and then makes one level after
another, so an insertion refused at an inner key leaves the outer levels that it made. -/

namespace Phrasebook

structure Catalogue where
  levels : OrderedMap Value (OrderedMap Value (OrderedMap Value String))

inductive LookupStatus where
  | found (template : String)
  | localeMissing
  | domainMissing
  | messageMissing
  deriving DecidableEq, Repr

namespace LookupStatus

def name : LookupStatus → String
  | found _ => "found"
  | localeMissing => "locale_missing"
  | domainMissing => "domain_missing"
  | messageMissing => "message_missing"

def template? : LookupStatus → Option String
  | found template => some template
  | _ => none

def isFound (status : LookupStatus) : Bool := status.template?.isSome

end LookupStatus

/-- What was looked up and what came of it. -/
structure Lookup where
  locale : Value
  domain : Value
  id : Value
  status : LookupStatus

namespace Catalogue

def empty : Catalogue := ⟨.empty⟩

instance : Inhabited Catalogue := ⟨empty⟩

def isEmpty (c : Catalogue) : Bool := c.levels.isEmpty

/-- Number of messages in all locales and domains. -/
def size (c : Catalogue) : Nat :=
  c.levels.entries.foldl (fun n (_, domains) =>
    domains.entries.foldl (fun n (_, messages) => n + messages.size) n) 0

def locales (c : Catalogue) : List Value := c.levels.keys

def hasLocale (c : Catalogue) (locale : Value) : Except Fault Bool :=
  locale.asKey.map c.levels.contains

/-- The domains of a locale, none of a missing one. -/
def domains (c : Catalogue) (locale : Value) : Except Fault (List Value) := do
  match c.levels.find? (← locale.asKey) with
  | none => return []
  | some domains => return domains.keys

/-- The message ids of a domain, none where a level is missing. -/
def messageIds (c : Catalogue) (locale domain : Value) : Except Fault (List Value) := do
  let locale ← locale.asKey
  let domain ← domain.asKey
  match (c.levels.find? locale).bind (·.find? domain) with
  | none => return []
  | some messages => return messages.keys

/-- The status of a message; inner keys are looked at only where the outer levels exist. -/
def status (c : Catalogue) (locale domain id : Value) : Except Fault LookupStatus := do
  match c.levels.find? (← locale.asKey) with
  | none => return .localeMissing
  | some domains =>
    match domains.find? (← domain.asKey) with
    | none => return .domainMissing
    | some messages =>
      match messages.find? (← id.asKey) with
      | none => return .messageMissing
      | some template => return .found template

def lookup (c : Catalogue) (locale domain id : Value) : Except Fault Lookup := do
  return { locale, domain, id, status := ← c.status locale domain id }

def contains (c : Catalogue) (locale domain id : Value) : Except Fault Bool :=
  (c.status locale domain id).map LookupStatus.isFound

/-! ## Growing -/

/-- A template in its place in the data: a text that is not empty. -/
def checkTemplate (path : String) : Value → Except Fault String
  | .text s => if s.isEmpty then .error (.malformed (.templateEmpty path)) else .ok s
  | v => .error (.malformed (.templateNotText path v.kind))

/-- The place of a message in the data. -/
def messagePath [Stack] (locale domain id : Value) : Except Fault String := do
  return "catalogue[" ++ (← locale.shownAt .insertion) ++ "][" ++ (← domain.shownAt .insertion) ++
    "][" ++ (← id.shownAt .insertion) ++ "]"

/-- The domains of a locale, an empty level where it is missing. -/
def domainsOf (c : Catalogue) (locale : Value) : OrderedMap Value (OrderedMap Value String) :=
  (c.levels.find? locale).getD .empty

/-- Puts the domains of a locale in place. -/
def withDomains (c : Catalogue) (locale : Value)
    (domains : OrderedMap Value (OrderedMap Value String)) : Catalogue :=
  ⟨c.levels.insert locale domains⟩

/-- Puts the messages of a domain in place. -/
def withMessages (c : Catalogue) (locale domain : Value) (messages : OrderedMap Value String) :
    Catalogue :=
  c.withDomains locale ((c.domainsOf locale).insert domain messages)

/-- The messages of a domain, an empty level where it is missing. -/
def messagesOf (c : Catalogue) (locale domain : Value) : OrderedMap Value String :=
  ((c.domainsOf locale).find? domain).getD .empty

/-- Inserts a template under keys that can be looked up by. -/
def insert (c : Catalogue) (locale domain id : Value) (template : String) : Catalogue :=
  c.withMessages locale domain ((c.messagesOf locale domain).insert id template)

/-- Inserts or overwrites a template, and gives the catalogue as it is afterwards, also after a
failure. -/
def set [Stack] (c : Catalogue) (locale domain id template : Value) :
    Except Fault Unit × Catalogue :=
  match messagePath locale domain id >>= fun path => checkTemplate path template with
  | .error fault => (.error fault, c)
  | .ok template =>
    if !locale.isKey then (.error .wrongType, c)
    else if !domain.isKey then
      (.error .wrongType, c.withDomains locale (c.domainsOf locale))
    else if !id.isKey then
      (.error .wrongType, c.withMessages locale domain (c.messagesOf locale domain))
    else (.ok (), c.insert locale domain id template)

/-! ## Parts and wholes -/

/-- Copies the domains asked for of one locale, and notes the missing ones. -/
def restrictDomains (locale : Value) (available : OrderedMap Value (OrderedMap Value String)) :
    List Value → OrderedMap Value (OrderedMap Value String) × List Lookup →
    Except Fault (OrderedMap Value (OrderedMap Value String) × List Lookup)
  | [], done => .ok done
  | domain :: rest, (selected, skipped) => do
    match available.find? (← domain.asKey) with
    | some messages =>
      restrictDomains locale available rest (selected.insert domain messages, skipped)
    | none =>
      let miss := { locale, domain, id := .text "", status := .domainMissing }
      restrictDomains locale available rest (selected, skipped ++ [miss])

/-- Copies the part of a catalogue that lies in the given domains of the given locales. What is
missing is reported in the order of the request, and a locale of which nothing is left is left
out. -/
def restrict (c : Catalogue) (domains : List Value) :
    List Value → Except Fault (Catalogue × List Lookup)
  | locales => go locales (empty, [])
where
  go : List Value → Catalogue × List Lookup → Except Fault (Catalogue × List Lookup)
    | [], done => .ok done
    | locale :: rest, (selected, skipped) => do
      match c.levels.find? (← locale.asKey) with
      | none =>
        let miss := { locale, domain := .text "", id := .text "", status := .localeMissing }
        go rest (selected, skipped ++ [miss])
      | some available =>
        let (part, missing) ←
          restrictDomains locale available domains (selected.domainsOf locale, [])
        let selected := if part.isEmpty then selected else selected.withDomains locale part
        go rest (selected, skipped ++ missing)

/-- A catalogue as nested mappings. -/
def toValue (c : Catalogue) : Value :=
  .map (c.levels.entries.map fun (locale, domains) =>
    (locale, .map (domains.entries.map fun (domain, messages) =>
      (domain, .map (messages.entries.map fun (id, template) => (id, .text template))))))

/-- A catalogue by its locales and the number of its messages. -/
def shown [Stack] (c : Catalogue) : Except Fault String :=
  (Value.catalogue c.toValue 0).shownAt .description

end Catalogue

end Phrasebook
