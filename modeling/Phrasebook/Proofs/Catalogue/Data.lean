import Phrasebook.Catalogue.Format
import Phrasebook.Proofs.Catalogue.Insertion

/-! Catalogue data, and what a catalogue that is read from them answers. Data are looked through
like a catalogue: the texts among the keys of a mapping, and the value under a text, which is the
last one where a text is repeated. A level that is read has the keys of its data, each once, and
under each of them what is read from the value there. -/

namespace Phrasebook

open OrderedMap

namespace Value

def text? : Value → Option String
  | text s => some s
  | _ => none

/-- The texts among the keys of a mapping. -/
def textKeys (v : Value) : List String :=
  (v.entries?.getD []).filterMap fun entry => entry.1.text?

/-- The last value that a mapping has under a text. -/
def under? (v : Value) (key : String) : Option Value :=
  ((v.entries?.getD []).reverse.find? fun entry => entry.1 == text key).map Prod.snd

def IsText (v : Value) : Prop := ∃ s, v = text s

theorem textKeys_underTexts (entries : List (String × Value)) :
    (map (underTexts entries)).textKeys = entries.map Prod.fst := by
  simp [textKeys, entries?, underTexts, List.filterMap_map, text?]

theorem under?_underTexts (entries : List (String × Value)) (key : String) :
    (map (underTexts entries)).under? key =
      (entries.reverse.find? fun entry => entry.1 == key).map Prod.snd := by
  simp only [under?, entries?, Option.getD_some, underTexts, ← List.map_reverse, List.find?_map,
    Function.comp_def, beq_text, Option.map_map]

end Value

namespace Catalogue

/-! ## Levels -/

variable [Stack]

theorem checkKey_eq_ok_iff {path : String} {key : Value} {s : String} :
    checkKey path key = .ok s ↔ key = .text s := by
  cases key with
  | text t => simp [checkKey]
  | _ =>
    simp only [checkKey, bind_eq_ok_iff, reduceCtorEq, iff_false]
    rintro ⟨shown, -, h⟩
    cases h

theorem checkLevel_eq_ok_iff {path : String} {data : Value} {entries : List (String × Value)} :
    checkLevel path data = .ok entries ↔ data = .map (underTexts entries) := by
  cases data with
  | map given =>
    have hentry : ∀ (e : Value × Value) (x : String × Value),
        (do return (← checkKey path e.1, e.2)) = Except.ok x ↔ e = (.text x.1, x.2) := by
      rintro ⟨key, value⟩ ⟨s, value'⟩
      simp only [bind_eq_ok_iff, checkKey_eq_ok_iff, pure, Except.pure, Except.ok.injEq,
        Prod.mk.injEq]
      constructor
      · rintro ⟨t, hkey, rfl, hvalue⟩
        exact ⟨hkey, hvalue⟩
      · rintro ⟨hkey, hvalue⟩
        exact ⟨s, hkey, rfl, hvalue⟩
    rw [checkLevel, mapM_eq_ok_iff, Value.map.injEq, underTexts, ← List.forall₂_eq_eq_eq,
      List.forall₂_map_right_iff]
    exact ⟨fun h => h.imp fun e x => (hentry e x).mp, fun h => h.imp fun e x => (hentry e x).mpr⟩
  | _ => simp [checkLevel]

/-- What was read of a level: each text among its keys, the value there, and what it reads as. -/
structure LevelEntry (β : Type) where
  key : String
  given : Value
  read : β

section

variable {β : Type} {path : String} {readEntry : String → Value → Except Fault β} {data : Value}
  {m : OrderedMap Value β}

omit [Stack] in
/-- Entries that were read one by one. -/
theorem exists_levelEntries {given : List (String × Value)} {read : List (Value × β)}
    (h : List.Forall₂ (fun (x : String × Value) (y : Value × β) =>
      (do return (Value.text x.1, ← readEntry (place path x.1) x.2)) = Except.ok y) given read) :
    ∃ entries : List (LevelEntry β), given = entries.map (fun e => (e.key, e.given)) ∧
      (∀ e ∈ entries, readEntry (place path e.key) e.given = .ok e.read) ∧
      read = underTexts (entries.map fun e => (e.key, e.read)) := by
  induction h with
  | nil => exact ⟨[], rfl, fun _ h => (List.not_mem_nil h).elim, rfl⟩
  | @cons x y given read hxy _ ih =>
    obtain ⟨b, hb, hy⟩ := bind_eq_ok_iff.mp hxy
    obtain rfl := Except.ok.inj hy
    obtain ⟨entries, rfl, hread, rfl⟩ := ih
    refine ⟨⟨x.1, x.2, b⟩ :: entries, rfl, ?_, rfl⟩
    intro e he
    rcases List.mem_cons.mp he with rfl | he
    · exact hb
    · exact hread e he

/-- A level is read from a mapping under texts, entry by entry. -/
theorem readLevel_eq_ok_iff : readLevel path readEntry data = .ok m ↔
    ∃ entries : List (LevelEntry β),
      data = .map (underTexts (entries.map fun e => (e.key, e.given))) ∧
      (∀ e ∈ entries, readEntry (place path e.key) e.given = .ok e.read) ∧
      m = .ofList (underTexts (entries.map fun e => (e.key, e.read))) := by
  unfold readLevel
  constructor
  · intro h
    obtain ⟨given, hgiven, h⟩ := bind_eq_ok_iff.mp h
    obtain ⟨read, hread, h⟩ := bind_eq_ok_iff.mp h
    obtain rfl := Except.ok.inj h
    obtain ⟨entries, rfl, hentries, rfl⟩ := exists_levelEntries (mapM_eq_ok_iff.mp hread)
    exact ⟨entries, checkLevel_eq_ok_iff.mp hgiven, hentries, rfl⟩
  · rintro ⟨entries, hdata, hentries, rfl⟩
    refine bind_eq_ok_iff.mpr ⟨_, checkLevel_eq_ok_iff.mpr hdata, ?_⟩
    refine bind_eq_ok_iff.mpr ⟨_, mapM_eq_ok_iff.mpr ?_, rfl⟩
    rw [underTexts, List.map_map, List.forall₂_map_left_iff, List.forall₂_map_right_iff,
      List.forall₂_same]
    intro e he
    exact bind_eq_ok_iff.mpr ⟨e.read, hentries e he, rfl⟩

theorem keys_of_readLevel (h : readLevel path readEntry data = .ok m) :
    m.keys = data.textKeys.eraseDups.map .text := by
  obtain ⟨entries, rfl, -, rfl⟩ := readLevel_eq_ok_iff.mp h
  rw [keys_ofList_underTexts, Value.textKeys_underTexts, List.map_map, List.map_map]
  rfl

/-- Under a text there is nothing, or what the value there reads as. -/
theorem find?_of_readLevel (h : readLevel path readEntry data = .ok m) (key : String) :
    (data.under? key = none ∧ m.find? (.text key) = none) ∨
    ∃ given inner read, data.under? key = some given ∧ readEntry inner given = .ok read ∧
      m.find? (.text key) = some read := by
  obtain ⟨entries, rfl, hentries, rfl⟩ := readLevel_eq_ok_iff.mp h
  rw [find?_ofList_underTexts, Value.under?_underTexts]
  simp only [← List.map_reverse, List.find?_map, Function.comp_def, Option.map_map]
  -- data and map are of the same entries, so the last one under the key is the same
  cases hfind : entries.reverse.find? fun e => e.key == key with
  | none => exact .inl ⟨rfl, rfl⟩
  | some e =>
    have hmem := List.mem_reverse.mp (List.mem_of_find?_eq_some hfind)
    exact .inr ⟨e.given, _, e.read, rfl, hentries e hmem, rfl⟩

theorem level_of_readLevel {V : β → Prop} (h : readLevel path readEntry data = .ok m)
    (hread : ∀ inner given read, readEntry inner given = .ok read → V read) :
    m.Level Value.IsText V := by
  obtain ⟨entries, -, hentries, rfl⟩ := readLevel_eq_ok_iff.mp h
  refine .ofList ?_ ?_
  · intro entry hentry
    obtain ⟨e, -, rfl⟩ := List.mem_map.mp hentry
    exact ⟨e.1, rfl⟩
  · intro entry hentry
    obtain ⟨pair, hpair, rfl⟩ := List.mem_map.mp hentry
    obtain ⟨e, he, rfl⟩ := List.mem_map.mp hpair
    exact hread _ _ _ (hentries e he)

end

/-! ## Catalogues -/

section

variable {data : Value} {c : Catalogue}

theorem ofValue_eq_ok_iff : ofValue data = .ok c ↔
    readLevel "catalogue" (fun path => readLevel path fun path => readLevel path checkTemplate)
      data = .ok c.levels := by
  unfold ofValue
  cases readLevel "catalogue" (fun path => readLevel path fun path => readLevel path checkTemplate)
      data with
  | error fault => simp [Except.map]
  | ok levels =>
    obtain ⟨levels'⟩ := c
    simp [Except.map]

/-- What is read of the domains of a locale. -/
theorem domainsOf_cases (h : ofValue data = .ok c) (locale : String) :
    (data.under? locale = none ∧ c.domainsOf (.text locale) = .empty) ∨
    ∃ given path, data.under? locale = some given ∧
      readLevel path (fun path => readLevel path checkTemplate) given =
        .ok (c.domainsOf (.text locale)) := by
  rcases find?_of_readLevel (ofValue_eq_ok_iff.mp h) locale with ⟨hnone, hfind⟩ |
    ⟨given, path, domains, hgiven, hread, hfind⟩
  · exact .inl ⟨hnone, by rw [domainsOf, hfind]; rfl⟩
  · refine .inr ⟨given, path, hgiven, ?_⟩
    rw [domainsOf, hfind]
    exact hread

/-- What is read of the messages of a domain. -/
theorem messagesOf_cases (h : ofValue data = .ok c) (locale domain : String) :
    ((data.under? locale).bind (·.under? domain) = none ∧
      c.messagesOf (.text locale) (.text domain) = .empty) ∨
    ∃ given path, (data.under? locale).bind (·.under? domain) = some given ∧
      readLevel path checkTemplate given = .ok (c.messagesOf (.text locale) (.text domain)) := by
  rcases domainsOf_cases h locale with ⟨hnone, hempty⟩ | ⟨given, path, hgiven, hread⟩
  · exact .inl ⟨by rw [hnone]; rfl, by rw [messagesOf, hempty]; rfl⟩
  · rw [hgiven, Option.bind_some]
    rcases find?_of_readLevel hread domain with ⟨hnone, hfind⟩ |
      ⟨inner, path, messages, hinner, hread, hfind⟩
    · exact .inl ⟨hnone, by rw [messagesOf, hfind]; rfl⟩
    · refine .inr ⟨inner, path, hinner, ?_⟩
      rw [messagesOf, hfind]
      exact hread

/-- The locales of data, their domains and ids, and their templates are those of the catalogue. -/
theorem locales_ofValue (h : ofValue data = .ok c) :
    c.locales = data.textKeys.eraseDups.map .text :=
  keys_of_readLevel (ofValue_eq_ok_iff.mp h)

theorem keys_domainsOf_ofValue (h : ofValue data = .ok c) (locale : String) :
    (c.domainsOf (.text locale)).keys =
      ((data.under? locale).elim [] Value.textKeys).eraseDups.map .text := by
  rcases domainsOf_cases h locale with ⟨hnone, hempty⟩ | ⟨given, path, hgiven, hread⟩
  · rw [hnone, hempty]
    rfl
  · rw [hgiven]
    exact keys_of_readLevel hread

theorem keys_messagesOf_ofValue (h : ofValue data = .ok c) (locale domain : String) :
    (c.messagesOf (.text locale) (.text domain)).keys =
      (((data.under? locale).bind (·.under? domain)).elim [] Value.textKeys).eraseDups.map
        .text := by
  rcases messagesOf_cases h locale domain with ⟨hnone, hempty⟩ | ⟨given, path, hgiven, hread⟩
  · rw [hnone, hempty]
    rfl
  · rw [hgiven]
    exact keys_of_readLevel hread

theorem template?_ofValue (h : ofValue data = .ok c) (locale domain id : String) :
    c.template? locale domain id =
      (((data.under? locale).bind (·.under? domain)).bind (·.under? id)).bind Value.text? := by
  rw [template?_eq]
  rcases messagesOf_cases h locale domain with ⟨hnone, hempty⟩ | ⟨given, path, hgiven, hread⟩
  · rw [hnone, hempty]
    rfl
  · rw [hgiven, Option.bind_some]
    rcases find?_of_readLevel hread id with ⟨hnone, hfind⟩ |
      ⟨inner, path, template, hinner, hcheck, hfind⟩
    · rw [hnone, hfind]
      rfl
    · obtain ⟨rfl, -⟩ := checkTemplate_eq_ok_iff.mp hcheck
      rw [hinner, hfind]
      rfl

end

end Catalogue

end Phrasebook
