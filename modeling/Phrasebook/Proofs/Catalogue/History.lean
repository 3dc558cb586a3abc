import Phrasebook.Proofs.Catalogue.Data

/-! Where a catalogue comes from. A history is the data that were read first, if any, and the
messages that were inserted since, all of them under texts. It tells by itself what a catalogue has
to answer: a key was inserted when it is in the data or in a later message, keys stand in the order
in which they first appear, and the last template under a locale, a domain and an id is the one that
stands there. A catalogue that answers so goes on to do so when a message is inserted, and hence at
the end of every history of data that can be read. -/

namespace Phrasebook

/-- A message under texts, with a template that is not empty. -/
structure Write where
  locale : String
  domain : String
  id : String
  template : String
  template_ne : template ≠ ""

namespace Write

def insertion (w : Write) : Insertion where
  locale := .text w.locale
  domain := .text w.domain
  id := .text w.id
  template := .text w.template

def isAt (w : Write) (locale domain id : String) : Bool :=
  w.locale == locale && w.domain == domain && w.id == id

theorem isAt_iff {w : Write} {locale domain id : String} :
    w.isAt locale domain id = true ↔ locale = w.locale ∧ domain = w.domain ∧ id = w.id := by
  simp only [isAt, Bool.and_eq_true, beq_iff_eq, and_assoc]
  exact ⟨fun ⟨h, h', h''⟩ => ⟨h.symm, h'.symm, h''.symm⟩,
    fun ⟨h, h', h''⟩ => ⟨h.symm, h'.symm, h''.symm⟩⟩

end Write

structure History where
  /-- What was read first, nothing where the catalogue began empty. -/
  data : Option Value
  writes : List Write

namespace History

def start [Stack] (h : History) : Except Fault Catalogue :=
  match h.data with
  | none => .ok .empty
  | some data => Catalogue.ofValue data

/-- The catalogue at the end. -/
def catalogue [Stack] (h : History) : Except Fault Catalogue := do
  (← h.start).setAll (h.writes.map Write.insertion)

/-- One more message. -/
def write (h : History) (w : Write) : History := { h with writes := h.writes ++ [w] }

/-! ## What a history tells -/

/-- The data at the start. -/
def given (h : History) : Value := h.data.getD (.map [])

/-- The texts under which domains were put, as often as this happened. -/
def localesPut (h : History) : List String := h.given.textKeys ++ h.writes.map Write.locale

def domainsPut (h : History) (locale : String) : List String :=
  (h.given.under? locale).elim [] Value.textKeys ++
    (h.writes.filter fun w => w.locale == locale).map Write.domain

def idsPut (h : History) (locale domain : String) : List String :=
  ((h.given.under? locale).bind (·.under? domain)).elim [] Value.textKeys ++
    (h.writes.filter fun w => w.locale == locale && w.domain == domain).map Write.id

/-- The keys in the order in which they were first put. -/
def locales (h : History) : List String := h.localesPut.eraseDups

def domains (h : History) (locale : String) : List String := (h.domainsPut locale).eraseDups

def ids (h : History) (locale domain : String) : List String := (h.idsPut locale domain).eraseDups

/-- The template that was given last, by a message or else by the data. -/
def template? (h : History) (locale domain id : String) : Option String :=
  match h.writes.reverse.find? (·.isAt locale domain id) with
  | some w => some w.template
  | none =>
    (((h.given.under? locale).bind (·.under? domain)).bind (·.under? id)).bind Value.text?

/-- Where a template was put: every such place once. -/
def stored (h : History) : List (String × String × String) :=
  h.locales.flatMap fun locale => (h.domains locale).flatMap fun domain =>
    (h.ids locale domain).map fun id => (locale, domain, id)

/-! ## One more message -/

section

variable (h : History) (w : Write) (locale domain id : String)

theorem localesPut_write : (h.write w).localesPut = h.localesPut ++ [w.locale] := by
  simp [localesPut, write, given]

theorem domainsPut_write : (h.write w).domainsPut locale =
    if locale = w.locale then h.domainsPut locale ++ [w.domain] else h.domainsPut locale := by
  by_cases hlocale : locale = w.locale
  · subst hlocale
    simp [domainsPut, write, given, List.filter_append]
  · simp [domainsPut, write, given, List.filter_append, hlocale, Ne.symm hlocale]

theorem idsPut_write : (h.write w).idsPut locale domain =
    if locale = w.locale ∧ domain = w.domain then h.idsPut locale domain ++ [w.id]
    else h.idsPut locale domain := by
  by_cases hat : locale = w.locale ∧ domain = w.domain
  · obtain ⟨rfl, rfl⟩ := hat
    simp [idsPut, write, given, List.filter_append]
  · have hfilter : (w.locale == locale && w.domain == domain) = false := by
      rw [Bool.eq_false_iff, ne_eq, Bool.and_eq_true, beq_iff_eq, beq_iff_eq]
      exact fun ⟨hlocale, hdomain⟩ => hat ⟨hlocale.symm, hdomain.symm⟩
    simp [idsPut, write, given, List.filter_append, hfilter, hat]

theorem template?_write : (h.write w).template? locale domain id =
    if locale = w.locale ∧ domain = w.domain ∧ id = w.id then some w.template
    else h.template? locale domain id := by
  simp only [template?, write, given, List.reverse_append, List.reverse_singleton,
    List.singleton_append, List.find?_cons]
  by_cases hat : locale = w.locale ∧ domain = w.domain ∧ id = w.id
  · rw [Write.isAt_iff.mpr hat, if_pos hat]
  · rw [if_neg hat, Bool.eq_false_iff.mpr (mt Write.isAt_iff.mp hat)]

end

/-! ## Catalogues that answer as told -/

/-- A catalogue has the keys of a history, in order, and its templates. -/
structure Told (h : History) (c : Catalogue) : Prop where
  locales : c.locales = h.locales.map .text
  domains : ∀ locale, (c.domainsOf (.text locale)).keys = (h.domains locale).map .text
  ids : ∀ locale domain,
    (c.messagesOf (.text locale) (.text domain)).keys = (h.ids locale domain).map .text
  template : ∀ locale domain id, c.template? locale domain id = h.template? locale domain id

section

variable {h : History} {c : Catalogue}

theorem ofValue_given [Stack] (hstart : h.start = .ok c) : Catalogue.ofValue h.given = .ok c := by
  obtain ⟨data, writes⟩ := h
  cases data with
  | none =>
    obtain rfl := Except.ok.inj hstart
    rfl
  | some data => exact hstart

theorem told_start [Stack] (hstart : h.start = .ok c) (hwrites : h.writes = []) : h.Told c where
  locales := by
    rw [Catalogue.locales_ofValue (ofValue_given hstart), locales, localesPut, hwrites,
      List.map_nil, List.append_nil]
  domains := by
    intro locale
    rw [Catalogue.keys_domainsOf_ofValue (ofValue_given hstart), domains, domainsPut, hwrites,
      List.filter_nil, List.map_nil, List.append_nil]
  ids := by
    intro locale domain
    rw [Catalogue.keys_messagesOf_ofValue (ofValue_given hstart), ids, idsPut, hwrites,
      List.filter_nil, List.map_nil, List.append_nil]
  template := by
    intro locale domain id
    rw [Catalogue.template?_ofValue (ofValue_given hstart), template?, hwrites]
    rfl

/-- Inserting a message keeps a catalogue as told. -/
theorem Told.insert (hc : h.Told c) (w : Write) :
    (h.write w).Told (c.insert (.text w.locale) (.text w.domain) (.text w.id) w.template) where
  locales := by
    rw [History.locales, localesPut_write]
    exact OrderedMap.keys_insert_text hc.locales _ _
  domains := by
    intro locale
    rw [Catalogue.domainsOf_insert, History.domains, domainsPut_write]
    by_cases hlocale : locale = w.locale
    · subst hlocale
      rw [if_pos rfl, if_pos rfl]
      exact OrderedMap.keys_insert_text (hc.domains _) _ _
    · rw [if_neg hlocale, if_neg hlocale]
      exact hc.domains locale
  ids := by
    intro locale domain
    rw [Catalogue.messagesOf_insert, History.ids, idsPut_write]
    by_cases hat : locale = w.locale ∧ domain = w.domain
    · obtain ⟨rfl, rfl⟩ := hat
      rw [if_pos ⟨rfl, rfl⟩, if_pos ⟨rfl, rfl⟩]
      exact OrderedMap.keys_insert_text (hc.ids _ _) _ _
    · rw [if_neg hat, if_neg hat]
      exact hc.ids locale domain
  template := by
    intro locale domain id
    rw [Catalogue.template?_insert, template?_write, hc.template]

end

/-- A history goes on with one more message. -/
theorem catalogue_write [Stack] {h : History} {c : Catalogue} (hcatalogue : h.catalogue = .ok c)
    (w : Write) : (h.write w).catalogue =
      .ok (c.insert (.text w.locale) (.text w.domain) (.text w.id) w.template) := by
  obtain ⟨start, hstart, hrun⟩ := bind_eq_ok_iff.mp hcatalogue
  refine bind_eq_ok_iff.mpr ⟨start, hstart, ?_⟩
  rw [write, List.map_append, List.map_singleton]
  exact Catalogue.setAll_concat hrun (Catalogue.set_text c _ _ _ w.template_ne)

/-- A history of data that can be read ends with a catalogue that answers as it tells. -/
theorem exists_told [Stack] {start : Catalogue} (data : Option Value) (writes : List Write)
    (hstart : (History.mk data writes).start = .ok start) :
    ∃ c, (History.mk data writes).catalogue = .ok c ∧ (History.mk data writes).Told c := by
  -- the last message first: the history before it ends with a catalogue as told, by induction
  induction writes using List.reverseRecOn with
  | nil =>
    refine ⟨start, ?_, told_start hstart rfl⟩
    rw [catalogue, hstart]
    rfl
  | append_singleton writes w ih =>
    obtain ⟨c, hcatalogue, htold⟩ := ih hstart
    exact ⟨_, catalogue_write hcatalogue w, htold.insert w⟩

end History

end Phrasebook
