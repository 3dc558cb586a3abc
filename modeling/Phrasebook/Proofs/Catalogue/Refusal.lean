import Phrasebook.Proofs.Catalogue.Insertion

/-! Refused insertions. An insertion is done or refused. A message with a bad template or with a key
that cannot be shown, or with keys that can all be looked up by, is refused with nothing done. A key
that cannot be looked up by is met only when its own level is reached, and by then the levels above
it are there: what was missing of them stays behind, empty, at the end of its level. No template
comes, goes or changes in any of this. -/

namespace Phrasebook

namespace Catalogue

section

variable {c : Catalogue} {locale : Value}

theorem domainsOf_of_missing (h : c.levels.find? locale = none) : c.domainsOf locale = .empty := by
  rw [domainsOf, h]
  rfl

theorem domainsOf_of_find? {domains : OrderedMap Value (OrderedMap Value String)}
    (h : c.levels.find? locale = some domains) : c.domainsOf locale = domains := by
  rw [domainsOf, h]
  rfl

theorem withDomains_of_missing (h : c.levels.find? locale = none)
    (domains : OrderedMap Value (OrderedMap Value String)) :
    c.withDomains locale domains = ⟨⟨c.levels.entries ++ [(locale, domains)]⟩⟩ :=
  congrArg mk (OrderedMap.insert_of_find?_eq_none h domains)

theorem withDomains_of_find? {domains : OrderedMap Value (OrderedMap Value String)}
    (h : c.levels.find? locale = some domains) : c.withDomains locale domains = c :=
  congrArg mk (OrderedMap.insert_of_find? h)

end

variable [Stack]

/-- What a refused insertion leaves behind. -/
inductive Leaves (c : Catalogue) (locale domain id template : Value) : Catalogue → Prop
  | untouched (h : ¬ Touches locale domain id template) : Leaves c locale domain id template c
  /-- The locale of a domain that cannot be looked up by was there. -/
  | hadLocale (h : Touches locale domain id template) (hdomain : domain.isKey = false)
      (hfound : (c.levels.find? locale).isSome = true) : Leaves c locale domain id template c
  /-- The domain of an id that cannot be looked up by was there. -/
  | hadDomain (h : Touches locale domain id template) (hdomain : domain.isKey = true)
      (hid : id.isKey = false)
      (hfound : ((c.levels.find? locale).bind (·.find? domain)).isSome = true) :
      Leaves c locale domain id template c
  /-- The missing locale of a domain that cannot be looked up by. -/
  | locale (h : Touches locale domain id template) (hdomain : domain.isKey = false)
      (hmissing : c.levels.find? locale = none) :
      Leaves c locale domain id template ⟨⟨c.levels.entries ++ [(locale, .empty)]⟩⟩
  /-- The missing locale, with the domain, of an id that cannot be looked up by. -/
  | localeAndDomain (h : Touches locale domain id template) (hdomain : domain.isKey = true)
      (hid : id.isKey = false) (hmissing : c.levels.find? locale = none) :
      Leaves c locale domain id template
        ⟨⟨c.levels.entries ++ [(locale, ⟨[(domain, .empty)]⟩)]⟩⟩
  /-- The missing domain, in its locale, of an id that cannot be looked up by. -/
  | domain (h : Touches locale domain id template) (hdomain : domain.isKey = true)
      (hid : id.isKey = false)
      {before after : List (Value × OrderedMap Value (OrderedMap Value String))} {key : Value}
      {domains : OrderedMap Value (OrderedMap Value String)}
      (hentries : c.levels.entries = before ++ (key, domains) :: after)
      (hfound : c.levels.find? locale = some domains)
      (hkey : (key == locale) = true) (hmissing : domains.find? domain = none) :
      Leaves c locale domain id template
        ⟨⟨before ++ (key, ⟨domains.entries ++ [(domain, .empty)]⟩) :: after⟩⟩

section

variable {c c' : Catalogue} {locale domain id template : Value}

/-- Refused at the domain. -/
theorem leaves_withDomains (h : Touches locale domain id template)
    (hdomain : domain.isKey = false) :
    Leaves c locale domain id template (c.withDomains locale (c.domainsOf locale)) := by
  cases hfind : c.levels.find? locale with
  | none =>
    rw [domainsOf_of_missing hfind, withDomains_of_missing hfind]
    exact .locale h hdomain hfind
  | some domains =>
    rw [domainsOf_of_find? hfind, withDomains_of_find? hfind]
    exact .hadLocale h hdomain (by rw [hfind]; rfl)

/-- Refused at the id. -/
theorem leaves_withMessages (h : Touches locale domain id template)
    (hdomain : domain.isKey = true) (hid : id.isKey = false) :
    Leaves c locale domain id template
      (c.withMessages locale domain (c.messagesOf locale domain)) := by
  unfold withMessages messagesOf
  cases hfind : c.levels.find? locale with
  | none =>
    rw [domainsOf_of_missing hfind, withDomains_of_missing hfind]
    exact .localeAndDomain h hdomain hid hfind
  | some domains =>
    rw [domainsOf_of_find? hfind]
    cases hmessages : domains.find? domain with
    | none =>
      -- the locale is there, so its level is overwritten in place by one with the domain
      obtain ⟨before, key, after, hentries, hkey, hinsert⟩ := OrderedMap.exists_split_of_find? hfind
      have hlevels := OrderedMap.ext (hinsert (domains.insert domain .empty))
      rw [Option.getD_none, withDomains, hlevels, OrderedMap.insert_of_find?_eq_none hmessages]
      exact .domain h hdomain hid hentries hfind hkey hmessages
    | some messages =>
      rw [Option.getD_some, OrderedMap.insert_of_find? hmessages, withDomains_of_find? hfind]
      exact .hadDomain h hdomain hid (by rw [hfind, Option.bind_some, hmessages]; rfl)

/-- An insertion that is refused leaves the catalogue as it was, or with the missing levels of the
keys before the one that it was refused at. -/
theorem leaves_of_set {fault : Fault} (h : c.set locale domain id template = (.error fault, c')) :
    Leaves c locale domain id template c' := by
  rcases set_cases c locale domain id template with ⟨htouches, fault', hset⟩ |
    ⟨s, -, -, htouches, hset⟩
  · obtain rfl := (Prod.mk.inj (h.symm.trans hset)).2
    exact .untouched htouches
  · rcases hset with ⟨hdomain, hset⟩ | ⟨hdomain, hid, hset⟩ | ⟨-, -, hset⟩
    · obtain rfl := (Prod.mk.inj (h.symm.trans hset)).2
      exact leaves_withDomains htouches hdomain
    · obtain rfl := (Prod.mk.inj (h.symm.trans hset)).2
      exact leaves_withMessages htouches hdomain hid
    · cases (Prod.mk.inj (h.symm.trans hset)).1

namespace Leaves

/-- Keys that can all be looked up by leave nothing behind. -/
theorem eq_of_isKey (h : Leaves c locale domain id template c') (hdomain : domain.isKey = true)
    (hid : id.isKey = true) : c' = c := by
  cases h with
  | untouched _ | hadLocale _ _ _ | hadDomain _ _ _ _ => rfl
  | locale _ hno _ => exact absurd (hno.symm.trans hdomain) Bool.false_ne_true
  | localeAndDomain _ _ hno _ => exact absurd (hno.symm.trans hid) Bool.false_ne_true
  | domain _ _ hno _ _ _ _ => exact absurd (hno.symm.trans hid) Bool.false_ne_true

/-- What does not get as far as the catalogue leaves nothing behind. -/
theorem eq_of_not_touches (h : Leaves c locale domain id template c')
    (htouches : ¬ Touches locale domain id template) : c' = c := by
  cases h with
  | untouched _ | hadLocale _ _ _ | hadDomain _ _ _ _ => rfl
  | locale h _ _ | localeAndDomain h _ _ _ | domain h _ _ _ _ _ _ => exact absurd h htouches

/-- Every template is found as before, and no other. -/
theorem find?_eq (h : Leaves c locale domain id template c') (l d m : Value) :
    ((c'.levels.find? l).bind (·.find? d)).bind (·.find? m) =
      ((c.levels.find? l).bind (·.find? d)).bind (·.find? m) := by
  cases h with
  | untouched _ | hadLocale _ _ _ | hadDomain _ _ _ _ => rfl
  | locale _ _ _ => rw [OrderedMap.find?_concat, OrderedMap.or_empty_bind_find?]
  | localeAndDomain _ _ _ _ =>
    rw [OrderedMap.find?_concat]
    cases c.levels.find? l with
    | none =>
      split
      · exact OrderedMap.or_empty_bind_find? none (domain == d) m
      · rfl
    | some domains => rfl
  | @domain _ _ _ before after key domains hentries _ _ _ =>
    have hlevels : c.levels = ⟨before ++ (key, domains) :: after⟩ := OrderedMap.ext hentries
    rw [hlevels]
    rcases OrderedMap.find?_replace before after key l domains
      ⟨domains.entries ++ [(domain, .empty)]⟩ with hsame | ⟨hold, hnew⟩
    · rw [hsame]
    · rw [hold, hnew, Option.bind_some, Option.bind_some, OrderedMap.find?_concat,
        OrderedMap.or_empty_bind_find?]

theorem found_iff (h : Leaves c locale domain id template c') (l d m : Value) (s : String) :
    c'.status l d m = .ok (.found s) ↔ c.status l d m = .ok (.found s) := by
  rw [status_eq_found_iff_bind, status_eq_found_iff_bind, h.find?_eq]

end Leaves

end

/-- What a refusal comes to: the levels that it leaves, when it leaves none, and that every template
is found as before. -/
structure Refused (c : Catalogue) (locale domain id template : Value) (c' : Catalogue) : Prop where
  leaves : Leaves c locale domain id template c'
  unchanged_of_keys : domain.isKey = true → id.isKey = true → c' = c
  unchanged_of_not_touches : ¬ Touches locale domain id template → c' = c
  found : ∀ l d m s, c'.status l d m = .ok (.found s) ↔ c.status l d m = .ok (.found s)

theorem refused_of_set {c c' : Catalogue} {locale domain id template : Value} {fault : Fault}
    (h : c.set locale domain id template = (.error fault, c')) :
    c.Refused locale domain id template c' where
  leaves := leaves_of_set h
  unchanged_of_keys := (leaves_of_set h).eq_of_isKey
  unchanged_of_not_touches := (leaves_of_set h).eq_of_not_touches
  found := (leaves_of_set h).found_iff

/-- An insertion that is done has put the template where it was to go. -/
theorem found_of_set {c c' : Catalogue} {locale domain id template : Value}
    (h : c.set locale domain id template = (.ok (), c')) :
    ∃ s, template = .text s ∧ c'.status locale domain id = .ok (.found s) := by
  obtain ⟨s, ht, -, ⟨hlocale, hdomain, hid⟩, rfl⟩ := of_set_eq_ok h
  refine ⟨s, ht, status_eq_found_iff_bind.mpr ⟨⟨hlocale, hdomain, hid⟩, ?_⟩⟩
  simp only [insert, withMessages, withDomains, Option.bind_some,
    OrderedMap.find?_insert_of_beq_self _ (Value.beq_self_of_isKey hlocale),
    OrderedMap.find?_insert_of_beq_self _ (Value.beq_self_of_isKey hdomain),
    OrderedMap.find?_insert_of_beq_self _ (Value.beq_self_of_isKey hid)]

end Catalogue

end Phrasebook
