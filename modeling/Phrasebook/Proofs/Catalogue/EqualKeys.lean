import Phrasebook.Proofs.Catalogue.Lookup

/-! Looking up by texts in a locale that any value may name. Values that are equal as keys find the
same, whichever of them a catalogue has, so an insertion is seen under every locale that is equal to
its own and under no other. -/

namespace Phrasebook

namespace Value

theorem beq_iff {v w : Value} :
    (v == w) = true ↔ ∃ atoms, v.key? = some atoms ∧ w.key? = some atoms := by
  unfold BEq.beq instBEq
  cases hv : v.key? with
  | none => simp [hv]
  | some atoms =>
    cases hw : w.key? with
    | none => simp [hv, hw]
    | some others =>
      simp only [hv, hw, beq_iff_eq, Option.some.injEq]
      exact ⟨fun h => ⟨atoms, rfl, h.symm⟩, fun ⟨_, h, h'⟩ => h.trans h'.symm⟩

instance : PartialEquivBEq Value where
  symm := by
    intro v w h
    obtain ⟨atoms, hv, hw⟩ := beq_iff.mp h
    exact beq_iff.mpr ⟨atoms, hw, hv⟩
  trans := by
    intro v w u h h'
    obtain ⟨atoms, hv, hw⟩ := beq_iff.mp h
    obtain ⟨others, hw', hu⟩ := beq_iff.mp h'
    rw [Option.some.inj (hw.symm.trans hw')] at hv
    exact beq_iff.mpr ⟨others, hv, hu⟩

end Value

namespace OrderedMap

variable {α β : Type} [BEq α] [PartialEquivBEq α] (m : OrderedMap α β)

/-- Equal keys find the same. -/
theorem find?_congr {key other : α} (h : (key == other) = true) :
    m.find? key = m.find? other := by
  obtain ⟨entries⟩ := m
  simp only [find?]
  induction entries with
  | nil => rfl
  | cons entry rest ih => rw [findIn, findIn, ih, BEq.congr_right h]

theorem find?_insert_of_beq_eq_false {key other : α} (h : (key == other) = false) (value : β) :
    (m.insert key value).find? other = m.find? other := by
  obtain ⟨entries⟩ := m
  simp only [find?, insert]
  induction entries with
  | nil => simp [insertIn, findIn, h]
  | cons entry rest ih =>
    obtain ⟨first, old⟩ := entry
    cases hfirst : first == key with
    | true =>
      -- the entry that is overwritten stands under a key equal to `key`, and not to `other`
      have hother : (first == other) = false := (BEq.congr_left hfirst).trans h
      simp [insertIn, findIn, hfirst, hother]
    | false => simp [insertIn, findIn, hfirst, ih]

theorem find?_insert (key other : α) (value : β) :
    (m.insert key value).find? other = if key == other then some value else m.find? other := by
  cases h : key == other with
  | true =>
    have hself : (key == key) = true := BEq.trans h (BEq.symm h)
    rw [if_pos rfl, ← find?_congr _ h, find?_insert_of_beq_self m hself]
  | false => exact find?_insert_of_beq_eq_false m h value

end OrderedMap

namespace Catalogue

section

variable (c : Catalogue) (locale : Value) (domain id : String)

theorem templateAt_congr {locale other : Value} (h : (locale == other) = true) :
    c.templateAt locale domain id = c.templateAt other domain id := by
  rw [templateAt, templateAt, OrderedMap.find?_congr _ h]

/-- In a locale that can be looked up by, texts are always answered. -/
theorem exists_status_of_isKey {locale : Value} (h : locale.isKey = true) :
    ∃ status, c.status locale (.text domain) (.text id) = .ok status ∧
      status.template? = c.templateAt locale domain id := by
  have hkey : locale.asKey = .ok locale := if_pos h
  simp only [status, hkey, Value.asKey_text, bind, Except.bind, templateAt]
  cases c.levels.find? locale with
  | none => exact ⟨_, rfl, rfl⟩
  | some domains =>
    simp only [Option.bind_some]
    cases domains.find? (.text domain) with
    | none => exact ⟨_, rfl, rfl⟩
    | some messages =>
      simp only [Option.bind_some]
      cases messages.find? (.text id) <;> exact ⟨_, rfl, rfl⟩

theorem templateAt_insert (template : String) (other : Value) (otherDomain otherId : String) :
    (c.insert locale (.text domain) (.text id) template).templateAt other otherDomain otherId =
      if (locale == other) = true ∧ otherDomain = domain ∧ otherId = id then some template
      else c.templateAt other otherDomain otherId := by
  simp only [insert, withMessages, withDomains, templateAt]
  rw [OrderedMap.find?_insert]
  cases hlocale : locale == other with
  | false => simp
  | true =>
    rw [if_pos rfl, Option.bind_some, OrderedMap.find?_insert_text, ← templateAt,
      ← templateAt_congr c otherDomain otherId hlocale, templateAt_eq]
    by_cases hdomain : otherDomain = domain
    · subst hdomain
      rw [if_pos rfl, Option.bind_some, OrderedMap.find?_insert_text]
      simp
    · rw [if_neg hdomain]
      simp only [hdomain, false_and, and_false, if_false, messagesOf]
      cases (c.domainsOf locale).find? (.text otherDomain) <;> rfl

end

end Catalogue

end Phrasebook
