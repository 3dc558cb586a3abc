import Phrasebook.Proofs.Catalogue.History

/-! The views of a catalogue. Look-ups, membership, iteration, the size and the nested mappings are
each another way through the same three levels, and each of them is fixed by the keys and templates
that its history tells. What one more message does to the keys of a history is said first: each
level keeps its keys where they are, and a new key comes last. -/

namespace Phrasebook

namespace Catalogue

theorem lookup_eq_ok_iff {c : Catalogue} {locale domain id : Value} {status : LookupStatus} :
    c.lookup locale domain id = .ok ⟨locale, domain, id, status⟩ ↔
      c.status locale domain id = .ok status := by
  rw [lookup, bind_eq_ok_iff]
  simp [pure, Except.pure]

theorem foldl_add_length {α β : Type} (items : α → List β) (xs : List α) (n : Nat) :
    xs.foldl (fun n x => n + (items x).length) n = n + (xs.flatMap items).length := by
  induction xs generalizing n with
  | nil => simp
  | cons x xs ih =>
    rw [List.foldl_cons, ih, List.flatMap_cons, List.length_append]
    omega

/-- The size is the number of entries of the innermost levels. -/
theorem size_eq (c : Catalogue) : c.size =
    (c.levels.entries.flatMap fun (_, domains) =>
      domains.entries.flatMap fun (_, messages) => messages.entries).length := by
  simp only [size, OrderedMap.size, foldl_add_length, Nat.zero_add]

end Catalogue

namespace History

/-! ## Keys after one more message -/

section

variable (h : History) (w : Write) (locale domain : String)

theorem locales_write : (h.write w).locales =
    if w.locale ∈ h.locales then h.locales else h.locales ++ [w.locale] := by
  rw [locales, localesPut_write, eraseDups_concat]
  simp only [locales, List.mem_eraseDups]

theorem domains_write : (h.write w).domains locale =
    if locale = w.locale ∧ w.domain ∉ h.domains locale then h.domains locale ++ [w.domain]
    else h.domains locale := by
  rw [domains, domainsPut_write]
  by_cases hlocale : locale = w.locale
  · rw [if_pos hlocale, eraseDups_concat]
    by_cases hdomain : w.domain ∈ h.domainsPut locale <;> simp [domains, hlocale ▸ hdomain, hlocale]
  · simp [domains, hlocale]

theorem ids_write : (h.write w).ids locale domain =
    if (locale = w.locale ∧ domain = w.domain) ∧ w.id ∉ h.ids locale domain then
      h.ids locale domain ++ [w.id]
    else h.ids locale domain := by
  rw [ids, idsPut_write]
  by_cases hat : locale = w.locale ∧ domain = w.domain
  · rw [if_pos hat, eraseDups_concat]
    obtain ⟨rfl, rfl⟩ := hat
    by_cases hid : w.id ∈ h.idsPut w.locale w.domain <;> simp [ids, hid]
  · simp [ids, hat]

end

/-! ## All views -/

/-- The nested mappings that a history tells. -/
def toValue (h : History) : Value :=
  .map (h.locales.map fun locale => (.text locale,
    .map ((h.domains locale).map fun domain => (.text domain,
      .map ((h.ids locale domain).map fun id =>
        (.text id, .text ((h.template? locale domain id).getD "")))))))

/-- A catalogue answers by every view as a history tells. -/
structure Answers (h : History) (c : Catalogue) : Prop where
  locales : c.locales = h.locales.map .text
  domains : ∀ locale, c.domains (.text locale) = .ok ((h.domains locale).map .text)
  messageIds : ∀ locale domain,
    c.messageIds (.text locale) (.text domain) = .ok ((h.ids locale domain).map .text)
  found : ∀ locale domain id template,
    c.lookup (.text locale) (.text domain) (.text id) =
        .ok ⟨.text locale, .text domain, .text id, .found template⟩ ↔
      h.template? locale domain id = some template
  localeMissing : ∀ locale domain id,
    c.lookup (.text locale) (.text domain) (.text id) =
        .ok ⟨.text locale, .text domain, .text id, .localeMissing⟩ ↔
      locale ∉ h.locales
  domainMissing : ∀ locale domain id,
    c.lookup (.text locale) (.text domain) (.text id) =
        .ok ⟨.text locale, .text domain, .text id, .domainMissing⟩ ↔
      locale ∈ h.locales ∧ domain ∉ h.domains locale
  messageMissing : ∀ locale domain id,
    c.lookup (.text locale) (.text domain) (.text id) =
        .ok ⟨.text locale, .text domain, .text id, .messageMissing⟩ ↔
      domain ∈ h.domains locale ∧ id ∉ h.ids locale domain
  contains : ∀ locale domain id, c.contains (.text locale) (.text domain) (.text id) =
    .ok (h.template? locale domain id).isSome
  hasLocale : ∀ locale, c.hasLocale (.text locale) = .ok (decide (locale ∈ h.locales))
  /-- What is met when the catalogue is gone through. -/
  items : ∀ mark, (Value.catalogue c.toValue mark).items = .ok (h.locales.map .text)
  toValue : c.toValue = h.toValue
  size : c.size = h.stored.length

namespace Told

variable {h : History} {c : Catalogue} (hc : h.Told c)

include hc

theorem mem_locales {locale : String} : Value.text locale ∈ c.locales ↔ locale ∈ h.locales := by
  rw [hc.locales]
  simp

theorem mem_domains {locale domain : String} :
    Value.text domain ∈ (c.domainsOf (.text locale)).keys ↔ domain ∈ h.domains locale := by
  rw [hc.domains]
  simp

theorem mem_ids {locale domain id : String} :
    Value.text id ∈ (c.messagesOf (.text locale) (.text domain)).keys ↔
      id ∈ h.ids locale domain := by
  rw [hc.ids]
  simp

theorem levels_entries : c.levels.entries =
    h.locales.map fun locale => (.text locale, c.domainsOf (.text locale)) :=
  OrderedMap.entries_eq_map hc.locales (nodup_eraseDups _) .empty

theorem domainsOf_entries (locale : String) : (c.domainsOf (.text locale)).entries =
    (h.domains locale).map fun domain =>
      (.text domain, c.messagesOf (.text locale) (.text domain)) :=
  OrderedMap.entries_eq_map (hc.domains locale) (nodup_eraseDups _) .empty

theorem messagesOf_entries (locale domain : String) :
    (c.messagesOf (.text locale) (.text domain)).entries =
      (h.ids locale domain).map fun id =>
        (.text id, (h.template? locale domain id).getD "") := by
  simp only [← hc.template, Catalogue.template?_eq]
  exact OrderedMap.entries_eq_map (hc.ids locale domain) (nodup_eraseDups _) ""

theorem toValue_eq : c.toValue = h.toValue := by
  simp only [Catalogue.toValue, History.toValue, hc.levels_entries, hc.domainsOf_entries,
    hc.messagesOf_entries, List.map_map, Function.comp_def]

theorem size_eq : c.size = h.stored.length := by
  rw [Catalogue.size_eq, hc.levels_entries]
  simp only [stored, List.flatMap_map, hc.domainsOf_entries, hc.messagesOf_entries,
    List.length_flatMap, List.length_map]

theorem answers : h.Answers c where
  locales := hc.locales
  domains := fun locale => by rw [Catalogue.domains_text, hc.domains]
  messageIds := fun locale domain => by rw [Catalogue.messageIds_text, hc.ids]
  found := fun locale domain id template => by
    rw [Catalogue.lookup_eq_ok_iff, Catalogue.status_eq_found_iff, hc.template]
  localeMissing := fun locale domain id => by
    rw [Catalogue.lookup_eq_ok_iff, Catalogue.status_eq_localeMissing_iff, hc.mem_locales]
  domainMissing := fun locale domain id => by
    rw [Catalogue.lookup_eq_ok_iff, Catalogue.status_eq_domainMissing_iff, hc.mem_locales,
      hc.mem_domains]
  messageMissing := fun locale domain id => by
    rw [Catalogue.lookup_eq_ok_iff, Catalogue.status_eq_messageMissing_iff, hc.mem_domains,
      hc.mem_ids]
  contains := fun locale domain id => by
    obtain ⟨status, hstatus, htemplate⟩ := c.exists_status locale domain id
    rw [Catalogue.contains, hstatus, ← hc.template, ← htemplate]
    rfl
  hasLocale := fun locale => by
    refine congrArg Except.ok (Bool.eq_iff_iff.mpr ?_)
    rw [decide_eq_true_iff, ← hc.mem_locales]
    exact OrderedMap.contains_text
  items := fun mark => by
    rw [← hc.locales]
    simp [Value.items, Catalogue.toValue, Value.entries?, Catalogue.locales, OrderedMap.keys]
  toValue := hc.toValue_eq
  size := hc.size_eq

/-- A place is stored when there is a template for it. -/
theorem mem_stored {locale domain id : String} :
    (locale, domain, id) ∈ h.stored ↔ (h.template? locale domain id).isSome = true := by
  have hid : id ∈ h.ids locale domain ↔ (h.template? locale domain id).isSome = true := by
    rw [← hc.mem_ids, ← hc.template, Option.isSome_iff_ne_none, ne_eq,
      Catalogue.template?_eq_none_iff, not_not]
  simp only [stored, List.mem_flatMap, List.mem_map, Prod.mk.injEq]
  constructor
  · rintro ⟨_, -, _, -, _, hmem, rfl, rfl, rfl⟩
    exact hid.mp hmem
  · intro hsome
    obtain ⟨template, htemplate⟩ := Option.isSome_iff_exists.mp hsome
    rw [← hc.template] at htemplate
    obtain ⟨hlocale, hdomain⟩ := Catalogue.mem_of_template? htemplate
    exact ⟨locale, hc.mem_locales.mp hlocale, domain, hc.mem_domains.mp hdomain, id,
      hid.mpr hsome, rfl, rfl, rfl⟩

end Told

/-- Lists of items that are told apart by a tag, one list after another. -/
theorem nodup_flatMap_of_tag {β : Type} {texts : List String} {items : String → List β}
    (tag : β → String) (htexts : texts.Nodup) (hitems : ∀ s, (items s).Nodup)
    (htag : ∀ s, ∀ x ∈ items s, tag x = s) : (texts.flatMap items).Nodup := by
  refine List.nodup_flatMap.mpr ⟨fun s _ => hitems s, htexts.imp fun hne => ?_⟩
  intro x hx hx'
  exact hne ((htag _ x hx).symm.trans (htag _ x hx'))

theorem nodup_stored (h : History) : h.stored.Nodup := by
  refine nodup_flatMap_of_tag (fun place => place.1) (nodup_eraseDups _) ?_ ?_
  · intro locale
    refine nodup_flatMap_of_tag (fun place => place.2.1) (nodup_eraseDups _) ?_ ?_
    · intro domain
      exact (nodup_eraseDups _).map fun _ _ heq => (Prod.mk.inj (Prod.mk.inj heq).2).2
    · intro domain place hplace
      obtain ⟨id, -, rfl⟩ := List.mem_map.mp hplace
      rfl
  · intro locale place hplace
    obtain ⟨domain, -, hplace⟩ := List.mem_flatMap.mp hplace
    obtain ⟨id, -, rfl⟩ := List.mem_map.mp hplace
    rfl

/-! ## What a message leaves as it was -/

/-- Putting a message into a catalogue changes no other template and moves no key; where there was a
template before, no key is added either. -/
structure Keeps (w : Write) (c c' : Catalogue) : Prop where
  templates : ∀ locale domain id, w.isAt locale domain id = false →
    (c'.status (.text locale) (.text domain) (.text id)).map LookupStatus.template? =
      (c.status (.text locale) (.text domain) (.text id)).map LookupStatus.template?
  locales : c.locales <+: c'.locales
  domains : ∀ locale, ∃ before after, c.domains (.text locale) = .ok before ∧
    c'.domains (.text locale) = .ok after ∧ before <+: after
  messageIds : ∀ locale domain, ∃ before after,
    c.messageIds (.text locale) (.text domain) = .ok before ∧
    c'.messageIds (.text locale) (.text domain) = .ok after ∧ before <+: after
  overwriting : c.contains (.text w.locale) (.text w.domain) (.text w.id) = .ok true →
    c'.locales = c.locales ∧
    (∀ locale, c'.domains (.text locale) = c.domains (.text locale)) ∧
    ∀ locale domain,
      c'.messageIds (.text locale) (.text domain) = c.messageIds (.text locale) (.text domain)

theorem Told.keeps {h : History} {c c' : Catalogue} {w : Write} (hc : h.Told c)
    (hc' : (h.write w).Told c') : Keeps w c c' where
  templates := by
    intro locale domain id hne
    obtain ⟨status, hstatus, htemplate⟩ := c.exists_status locale domain id
    obtain ⟨status', hstatus', htemplate'⟩ := c'.exists_status locale domain id
    have hother : ¬ (locale = w.locale ∧ domain = w.domain ∧ id = w.id) := by
      rw [← Write.isAt_iff, hne]
      exact Bool.false_ne_true
    rw [hstatus, hstatus', Except.map, Except.map, htemplate, htemplate', hc.template, hc'.template,
      template?_write, if_neg hother]
  locales := by
    rw [hc.locales, hc'.locales, locales_write]
    split <;> simp
  domains := by
    intro locale
    refine ⟨_, _, hc.answers.domains locale, hc'.answers.domains locale, ?_⟩
    rw [domains_write]
    split <;> simp
  messageIds := by
    intro locale domain
    refine ⟨_, _, hc.answers.messageIds locale domain, hc'.answers.messageIds locale domain, ?_⟩
    rw [ids_write]
    split <;> simp
  overwriting := by
    intro hcontains
    rw [hc.answers.contains, Except.ok.injEq, ← hc.mem_stored] at hcontains
    -- where a template stands, no level gets a new key
    obtain ⟨hlocale, hdomain, hid⟩ : w.locale ∈ h.locales ∧ w.domain ∈ h.domains w.locale ∧
        w.id ∈ h.ids w.locale w.domain := by
      simp only [stored, List.mem_flatMap, List.mem_map, Prod.mk.injEq] at hcontains
      obtain ⟨_, hlocale, _, hdomain, _, hid, rfl, rfl, rfl⟩ := hcontains
      exact ⟨hlocale, hdomain, hid⟩
    refine ⟨?_, fun locale => ?_, fun locale domain => ?_⟩
    · rw [hc'.locales, hc.locales, locales_write, if_pos hlocale]
    · rw [hc'.answers.domains, hc.answers.domains, domains_write, if_neg]
      rintro ⟨rfl, hnew⟩
      exact hnew hdomain
    · rw [hc'.answers.messageIds, hc.answers.messageIds, ids_write, if_neg]
      rintro ⟨⟨rfl, rfl⟩, hnew⟩
      exact hnew hid

/-- A catalogue that was read from data, or began empty, and then had messages inserted is a finite
map with the last template for each place, and all its views agree. Its keys stand in the order in
which they were first put and are listed once; one more message is inserted always, and leaves the
other templates and the order of the keys as they were. -/
theorem catalogue_is_last_write_map [Stack] {start : Catalogue} (h : History)
    (hstart : h.start = .ok start) :
    ∃ c, h.catalogue = .ok c ∧ h.Answers c ∧
      (h.locales.Nodup ∧ (∀ locale, (h.domains locale).Nodup) ∧
        ∀ locale domain, (h.ids locale domain).Nodup) ∧
      (h.stored.Nodup ∧ ∀ locale domain id,
        (locale, domain, id) ∈ h.stored ↔ (h.template? locale domain id).isSome = true) ∧
      ∀ w : Write, ∃ c', (h.write w).catalogue = .ok c' ∧
        c.set (.text w.locale) (.text w.domain) (.text w.id) (.text w.template) = (.ok (), c') ∧
        (h.write w).Answers c' ∧ Keeps w c c' := by
  obtain ⟨c, hcatalogue, htold⟩ := exists_told h.data h.writes hstart
  refine ⟨c, hcatalogue, htold.answers, ⟨nodup_eraseDups _, fun _ => nodup_eraseDups _,
    fun _ _ => nodup_eraseDups _⟩, ⟨h.nodup_stored, fun _ _ _ => htold.mem_stored⟩, fun w => ?_⟩
  exact ⟨_, catalogue_write hcatalogue w, Catalogue.set_text c _ _ _ w.template_ne,
    (htold.insert w).answers, htold.keeps (htold.insert w)⟩

section

attribute [local instance] Stack.ample

/-- A message of a catalogue that was read is overwritten in its place, and another one is put into
a domain that was empty. -/
theorem catalogue_overwritten_and_extended :
    let data : Value := .map [(.text "en", .map [
      (.text "messages", .map [(.text "hello", .text "Hello"), (.text "bye", .text "Bye")]),
      (.text "errors", .map [])])]
    let h : History := ⟨some data, [⟨"en", "messages", "hello", "Hi", by decide⟩,
      ⟨"en", "errors", "lost", "Not found", by decide⟩]⟩
    (∃ start, h.start = .ok start) ∧ ∃ c, h.catalogue = .ok c ∧
      c.lookup (.text "en") (.text "messages") (.text "hello") =
        .ok ⟨.text "en", .text "messages", .text "hello", .found "Hi"⟩ ∧
      c.messageIds (.text "en") (.text "messages") = .ok [.text "hello", .text "bye"] ∧
      c.size = 3 := by
  intro data h
  obtain ⟨c, hcatalogue, hanswers, -⟩ := catalogue_is_last_write_map h rfl
  refine ⟨⟨_, rfl⟩, c, hcatalogue, ?_, ?_, ?_⟩
  · exact (hanswers.found _ _ _ _).mpr (by decide +kernel)
  · have hids : h.ids "en" "messages" = ["hello", "bye"] := by decide +kernel
    rw [hanswers.messageIds, hids]
    rfl
  · rw [hanswers.size]
    decide +kernel

end

end History

end Phrasebook
