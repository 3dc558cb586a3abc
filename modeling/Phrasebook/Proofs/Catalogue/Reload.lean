import Phrasebook.Proofs.Catalogue.Data

/-! Reading a catalogue back from its nested mappings. A level is read back as it was when its keys
are texts. Insertions take any key that can be looked up by, so a catalogue can be read back when
every key that it was given is a text; its templates are texts that are not empty in any case. -/

namespace Phrasebook

open OrderedMap

namespace Value

theorem IsText.isKey {v : Value} (h : v.IsText) : v.isKey = true := by
  obtain ⟨s, rfl⟩ := h
  rfl

end Value

namespace Catalogue

/-! ## A level and its mapping -/

/-- The mapping of a level, with the values as data. -/
def levelValue {β : Type} (toData : β → Value) (m : OrderedMap Value β) : Value :=
  .map (m.entries.map fun entry => (entry.1, toData entry.2))

theorem toValue_eq_levelValue (c : Catalogue) :
    c.toValue = levelValue (levelValue (levelValue .text)) c.levels := rfl

theorem exists_underTexts {β : Type} {entries : List (Value × β)}
    (h : ∀ entry ∈ entries, entry.1.IsText) : ∃ texts, entries = underTexts texts := by
  induction entries with
  | nil => exact ⟨[], rfl⟩
  | cons entry rest ih =>
    obtain ⟨s, hs⟩ := h entry List.mem_cons_self
    obtain ⟨texts, rfl⟩ := ih fun e he => h e (List.mem_cons_of_mem entry he)
    exact ⟨(s, entry.2) :: texts, congrArg (· :: underTexts texts) (Prod.ext hs rfl)⟩

section

variable [Stack] {β : Type} {path : String} {readEntry : String → Value → Except Fault β}
  {toData : β → Value} {m : OrderedMap Value β} {V : β → Prop}

/-- A level of texts whose values are read back is read back. -/
theorem readLevel_levelValue (hm : m.Level Value.IsText V)
    (hread : ∀ inner b, V b → readEntry inner (toData b) = .ok b) :
    readLevel path readEntry (levelValue toData m) = .ok m := by
  have hkeys : ∀ entry ∈ m.entries, entry.1.IsText :=
    fun entry hentry => hm.keys entry.1 (List.mem_map_of_mem hentry)
  obtain ⟨texts, htexts⟩ := exists_underTexts hkeys
  refine readLevel_eq_ok_iff.mpr ⟨texts.map fun e => ⟨e.1, toData e.2, e.2⟩, ?_, ?_, ?_⟩
  · simp [levelValue, htexts, underTexts]
  · intro e he
    obtain ⟨x, hx, rfl⟩ := List.mem_map.mp he
    refine hread _ _ (hm.values (.text x.1, x.2) ?_)
    rw [htexts]
    exact List.mem_map_of_mem hx
  · rw [List.map_map]
    change m = ofList (underTexts (texts.map fun e => (e.1, e.2)))
    rw [List.map_id', ← htexts, hm.ofList_entries]

end

/-! ## Catalogues -/

/-- A catalogue of keys with a property, and of templates that are not empty. -/
def Keyed (K : Value → Prop) (c : Catalogue) : Prop :=
  c.levels.Level K (OrderedMap.Level K (OrderedMap.Level K (· ≠ "")))

section

variable [Stack] {c : Catalogue} {data : Value}

theorem keyed_of_ofValue (h : ofValue data = .ok c) : c.Keyed Value.IsText :=
  level_of_readLevel (ofValue_eq_ok_iff.mp h) fun _ _ _ hdomains =>
    level_of_readLevel hdomains fun _ _ _ hmessages =>
      level_of_readLevel hmessages fun _ _ _ htemplate => (checkTemplate_eq_ok_iff.mp htemplate).2

theorem ofValue_toValue (h : c.Keyed Value.IsText) : ofValue c.toValue = .ok c := by
  rw [ofValue_eq_ok_iff, toValue_eq_levelValue]
  exact readLevel_levelValue h fun _ _ hdomains =>
    readLevel_levelValue hdomains fun _ _ hmessages =>
      readLevel_levelValue hmessages fun _ _ hs => checkTemplate_eq_ok_iff.mpr ⟨rfl, hs⟩

end

/-! ## Insertions -/

namespace Keyed

variable {c c' : Catalogue} {K K' : Value → Prop} {locale domain id : Value} {template : String}

theorem empty : Keyed K .empty := Level.empty

theorem imp (h : c.Keyed K) (hkeys : ∀ key, K key → K' key) : c.Keyed K' :=
  Level.imp h hkeys fun _ hdomains =>
    hdomains.imp hkeys fun _ hmessages => hmessages.imp hkeys fun _ => id

theorem domainsOf (h : c.Keyed K) (locale : Value) :
    (c.domainsOf locale).Level K (OrderedMap.Level K (· ≠ "")) :=
  Level.getD h Level.empty locale

theorem messagesOf (h : c.Keyed K) (locale domain : Value) :
    (c.messagesOf locale domain).Level K (· ≠ "") :=
  Level.getD (h.domainsOf locale) Level.empty domain

theorem insert (h : c.Keyed K) (hlocale : K locale) (hdomain : K domain) (hid : K id)
    (htemplate : template ≠ "") : (c.insert locale domain id template).Keyed K :=
  Level.insert h hlocale ((h.domainsOf locale).insert hdomain
    ((h.messagesOf locale domain).insert hid htemplate))

/-- A run of insertions whose keys have a property if they can be looked up by keeps it. -/
theorem setAll [Stack] {calls : List Insertion} (hc : c.Keyed K)
    (hcalls : ∀ i ∈ calls, i.Keys (·.isKey = true) → i.Keys K) (h : c.setAll calls = .ok c') :
    c'.Keyed K := by
  induction calls generalizing c with
  | nil =>
    obtain rfl := Except.ok.inj h
    exact hc
  | cons i rest ih =>
    obtain ⟨next, hset, hrest⟩ := setAll_cons h
    obtain ⟨s, -, hs, hkeys, rfl⟩ := of_set_eq_ok hset
    obtain ⟨hlocale, hdomain, hid⟩ := hcalls i List.mem_cons_self hkeys
    exact ih (hc.insert hlocale hdomain hid hs) (fun j hj => hcalls j (List.mem_cons_of_mem i hj))
      hrest

end Keyed

/-- A catalogue before anything is inserted: empty, or read from data. -/
inductive Begins [Stack] : Catalogue → Prop
  | empty : Begins .empty
  | read {data : Value} {c : Catalogue} (h : ofValue data = .ok c) : Begins c

section

variable [Stack] {start c : Catalogue} {calls : List Insertion}

theorem Begins.keyed (h : Begins c) : c.Keyed Value.IsText := by
  cases h with
  | empty => exact .empty
  | read h => exact keyed_of_ofValue h

/-- After a run of insertions every key is one that can be looked up by. -/
theorem keyed_of_setAll (hstart : Begins start) (h : start.setAll calls = .ok c) :
    c.Keyed (·.isKey = true) :=
  (hstart.keyed.imp fun _ => Value.IsText.isKey).setAll (fun _ _ hkeys => hkeys) h

/-- After a run of insertions under texts the keys are texts. -/
theorem keyed_isText_of_setAll (hstart : Begins start) (h : start.setAll calls = .ok c)
    (hcalls : ∀ i ∈ calls, i.Keys Value.IsText) : c.Keyed Value.IsText :=
  hstart.keyed.setAll (fun i hi _ => hcalls i hi) h

end

end Catalogue

end Phrasebook
