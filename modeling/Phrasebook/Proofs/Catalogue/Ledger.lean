import Phrasebook.Proofs.Catalogue.EqualKeys
import Phrasebook.Proofs.OrderedMap.Level

/-! What was put into a catalogue since it was last taken as a whole. A ledger has the catalogue at
the start and the messages inserted since, under any keys. It tells by itself what the catalogue has
to answer: the template under some keys is the one that was put last under keys equal to them, or
else the one at the start, and the keys of a level are those at the start, followed by the others in
the order in which they were first put. One more insertion is one more message in the ledger, so the
catalogue of every ledger answers as it tells. -/

namespace Phrasebook

/-- A template with its place. -/
structure Message where
  locale : Value
  domain : Value
  id : Value
  template : String

/-- Whether a message is found under some keys. -/
def Message.isAt (m : Message) (locale domain id : Value) : Bool :=
  m.locale == locale && m.domain == domain && m.id == id

namespace OrderedMap

variable {β : Type} (m : OrderedMap Value β)

theorem contains_eq_any (key : Value) : m.contains key = m.keys.any (· == key) := by
  rw [Bool.eq_iff_iff, List.any_eq_true, contains, Option.isSome_iff_ne_none, ne_eq,
    find?_eq_none_iff]
  simp

/-- What cannot be a key is not found. -/
theorem find?_of_not_isKey {v : Value} (h : v.isKey = false) : m.find? v = none := by
  refine find?_eq_none_iff.mpr fun other _ => Bool.eq_false_iff.mpr fun hbeq => ?_
  obtain ⟨atoms, -, hatoms⟩ := Value.beq_iff.mp hbeq
  rw [Value.isKey, hatoms] at h
  cases h

end OrderedMap

namespace Catalogue

/-- The template that a look-up finds. -/
def found? (c : Catalogue) (locale domain id : Value) : Option String :=
  (c.status locale domain id).toOption.bind LookupStatus.template?

theorem found?_eq (c : Catalogue) (locale domain id : Value) :
    c.found? locale domain id = (c.messagesOf locale domain).find? id := by
  unfold found? status messagesOf domainsOf Value.asKey
  cases hlocale : locale.isKey with
  | false => simp [OrderedMap.find?_of_not_isKey _ hlocale, bind, Except.bind, Except.toOption]
  | true =>
    simp only [if_true, bind, Except.bind]
    cases c.levels.find? locale with
    | none => rfl
    | some domains =>
      cases hdomain : domain.isKey with
      | false => simp [OrderedMap.find?_of_not_isKey _ hdomain, Except.toOption]
      | true =>
        simp only [if_true, Option.getD_some]
        cases domains.find? domain with
        | none => rfl
        | some messages =>
          cases hid : id.isKey with
          | false => simp [OrderedMap.find?_of_not_isKey _ hid, Except.toOption]
          | true =>
            simp only [if_true, Option.getD_some]
            cases messages.find? id <;> rfl

section

variable (c : Catalogue) (m : Message) (locale domain : Value)

theorem domainsOf_congr {locale other : Value} (h : (locale == other) = true) :
    c.domainsOf locale = c.domainsOf other := by
  rw [domainsOf, domainsOf, OrderedMap.find?_congr _ h]

theorem messagesOf_congr {locale other domain otherDomain : Value}
    (h : (locale == other) = true) (h' : (domain == otherDomain) = true) :
    c.messagesOf locale domain = c.messagesOf other otherDomain := by
  rw [messagesOf, messagesOf, c.domainsOf_congr h, OrderedMap.find?_congr _ h']

/-- Puts a message in its place. -/
def put (m : Message) : Catalogue := c.insert m.locale m.domain m.id m.template

theorem locales_put : (c.put m).locales =
    if c.locales.any (· == m.locale) then c.locales else c.locales ++ [m.locale] := by
  unfold locales
  rw [← OrderedMap.contains_eq_any]
  exact OrderedMap.keys_insert _ _ _

theorem domainsOf_put : (c.put m).domainsOf locale =
    if m.locale == locale then
      (c.domainsOf m.locale).insert m.domain
        ((c.messagesOf m.locale m.domain).insert m.id m.template)
    else c.domainsOf locale := by
  simp only [put, insert, withMessages, withDomains, domainsOf]
  rw [OrderedMap.find?_insert]
  split <;> rfl

theorem messagesOf_put : (c.put m).messagesOf locale domain =
    if m.locale == locale && m.domain == domain then
      (c.messagesOf m.locale m.domain).insert m.id m.template
    else c.messagesOf locale domain := by
  rw [messagesOf, domainsOf_put]
  cases hlocale : m.locale == locale with
  | false => rfl
  | true =>
    rw [if_pos rfl, OrderedMap.find?_insert, Bool.true_and]
    cases hdomain : m.domain == domain with
    | false => rw [c.domainsOf_congr hlocale, messagesOf]; rfl
    | true => rfl

end

end Catalogue

/-- A catalogue, and the messages that were put into it since. -/
structure Ledger where
  start : Catalogue
  messages : List Message

namespace Ledger

/-- One more message. -/
def add (ledger : Ledger) (m : Message) : Ledger :=
  { ledger with messages := ledger.messages ++ [m] }

/-- The catalogue with the messages in it. -/
def catalogue (ledger : Ledger) : Catalogue := ledger.messages.foldl Catalogue.put ledger.start

/-! ## What a ledger tells -/

/-- Keys, and more of them unless an equal one is there. -/
def extend (keys more : List Value) : List Value :=
  more.foldl (fun keys key => if keys.any (· == key) then keys else keys ++ [key]) keys

def locales (ledger : Ledger) : List Value :=
  extend ledger.start.locales (ledger.messages.map Message.locale)

def domains (ledger : Ledger) (locale : Value) : List Value :=
  extend (ledger.start.domainsOf locale).keys
    ((ledger.messages.filter fun m => m.locale == locale).map Message.domain)

def ids (ledger : Ledger) (locale domain : Value) : List Value :=
  extend (ledger.start.messagesOf locale domain).keys
    ((ledger.messages.filter fun m => m.locale == locale && m.domain == domain).map Message.id)

/-- The template that was put last, or else the one at the start. -/
def template? (ledger : Ledger) (locale domain id : Value) : Option String :=
  match ledger.messages.reverse.find? (·.isAt locale domain id) with
  | some m => some m.template
  | none => ledger.start.found? locale domain id

/-- A catalogue has the keys and the templates that a ledger tells. -/
structure Tells (ledger : Ledger) (c : Catalogue) : Prop where
  locales : c.locales = ledger.locales
  domains : ∀ locale, (c.domainsOf locale).keys = ledger.domains locale
  ids : ∀ locale domain, (c.messagesOf locale domain).keys = ledger.ids locale domain
  template : ∀ locale domain id, c.found? locale domain id = ledger.template? locale domain id

/-! ## One more message -/

theorem extend_concat (keys more : List Value) (key : Value) :
    extend keys (more ++ [key]) =
      if (extend keys more).any (· == key) then extend keys more
      else extend keys more ++ [key] := by
  rw [extend, List.foldl_concat]
  rfl

/-- The keys of a map, told with one key more. -/
theorem keys_insert_of_extend {β : Type} {map : OrderedMap Value β} {keys more : List Value}
    (h : map.keys = extend keys more) (key : Value) (value : β) :
    (map.insert key value).keys = extend keys (more ++ [key]) := by
  rw [OrderedMap.keys_insert, OrderedMap.contains_eq_any, h, extend_concat]

theorem Tells.put {ledger : Ledger} {c : Catalogue} (hc : ledger.Tells c) (m : Message) :
    (ledger.add m).Tells (c.put m) where
  locales := by
    rw [Catalogue.locales_put, hc.locales, Ledger.locales, Ledger.locales, add, List.map_append,
      List.map_singleton, extend_concat]
  domains := by
    intro locale
    rw [Catalogue.domainsOf_put, Ledger.domains, add, List.filter_append, List.map_append]
    cases hlocale : m.locale == locale with
    | false => simpa [hlocale, Ledger.domains] using hc.domains locale
    | true =>
      rw [if_pos rfl, c.domainsOf_congr hlocale, List.filter_singleton, hlocale]
      exact keys_insert_of_extend (hc.domains locale) _ _
  ids := by
    intro locale domain
    rw [Catalogue.messagesOf_put, Ledger.ids, add, List.filter_append, List.map_append]
    cases hat : m.locale == locale && m.domain == domain with
    | false => simpa [hat, Ledger.ids] using hc.ids locale domain
    | true =>
      obtain ⟨hlocale, hdomain⟩ := Bool.and_eq_true_iff.mp hat
      rw [if_pos rfl, c.messagesOf_congr hlocale hdomain, List.filter_singleton, hat]
      exact keys_insert_of_extend (hc.ids locale domain) _ _
  template := by
    intro locale domain id
    have hbefore := hc.template locale domain id
    rw [Catalogue.found?_eq] at hbefore
    rw [Catalogue.found?_eq, Catalogue.messagesOf_put, template?, add, List.reverse_append,
      List.reverse_singleton, List.singleton_append, List.find?_cons, Message.isAt]
    cases hat : m.locale == locale && m.domain == domain with
    | false => exact hbefore
    | true =>
      obtain ⟨hlocale, hdomain⟩ := Bool.and_eq_true_iff.mp hat
      rw [if_pos rfl, OrderedMap.find?_insert, c.messagesOf_congr hlocale hdomain, Bool.true_and]
      cases m.id == id with
      | false => exact hbefore
      | true => rfl

theorem catalogue_add (ledger : Ledger) (m : Message) :
    (ledger.add m).catalogue = ledger.catalogue.put m := by
  rw [catalogue, add, List.foldl_concat]
  rfl

/-- The catalogue of a ledger answers as the ledger tells. -/
theorem tells_catalogue (ledger : Ledger) : ledger.Tells ledger.catalogue := by
  obtain ⟨start, messages⟩ := ledger
  -- the last message first: the ledger before it tells its catalogue, by induction
  induction messages using List.reverseRecOn with
  | nil => exact ⟨rfl, fun _ => rfl, fun _ _ => rfl, fun _ _ _ => rfl⟩
  | append_singleton messages m ih =>
    have hput := ih.put m
    rwa [← catalogue_add] at hput

end Ledger

end Phrasebook
