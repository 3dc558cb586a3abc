import Phrasebook.Proofs.Catalogue.Reload

/-! The format of catalogue data. Data have it when they are a mapping of texts to mappings of texts
to mappings of texts to texts that are not empty, whatever is in between and however little. Data
are read exactly when they have the format, and then nothing of them is lost: the catalogue is the
same nested mappings, key for key in their order. All other data are refused: as malformed, or for
a key that is no text and cannot be shown. -/

namespace Phrasebook

open OrderedMap

/-- A fault of what was given in place of a catalogue. -/
def Fault.IsMalformed (fault : Fault) : Prop := ∃ cause, fault = .malformed cause

namespace Value

/-- A mapping of texts to values with a property. -/
def IsLevelOf (P : Value → Prop) (v : Value) : Prop :=
  ∃ entries, v = map entries ∧ ∀ entry ∈ entries, entry.1.IsText ∧ P entry.2

def IsTemplate (v : Value) : Prop := ∃ s, v = text s ∧ s ≠ ""

/-- The format: locales, domains and ids as texts, with templates below them. -/
def IsCatalogueData : Value → Prop := IsLevelOf (IsLevelOf (IsLevelOf IsTemplate))

/-- Every mapping, as far as they are reached through mappings, has entries with a property. -/
inductive EveryMapping (P : List (Value × Value) → Prop) : Value → Prop
  | map {entries : List (Value × Value)} (h : P entries)
      (hvalues : ∀ entry ∈ entries, EveryMapping P entry.2) : EveryMapping P (map entries)
  | plain {v : Value} (h : v.entries? = none) : EveryMapping P v

/-- The keys of every mapping are told apart, as they are in any mapping that was built. -/
abbrev KeysApart : Value → Prop :=
  EveryMapping fun entries =>
    (entries.map Prod.fst).Pairwise fun key other => (key == other) = false

/-- A key of a mapping, so far as mappings are reached through mappings. -/
inductive HasKey : Value → Value → Prop
  | outer {entries : List (Value × Value)} {key : Value} (h : key ∈ entries.map Prod.fst) :
      HasKey (map entries) key
  | inner {entries : List (Value × Value)} {entry : Value × Value} {key : Value}
      (hentry : entry ∈ entries) (h : HasKey entry.2 key) : HasKey (map entries) key

theorem EveryMapping.entries {P : List (Value × Value) → Prop}
    {entries : List (Value × Value)} (h : (Value.map entries).EveryMapping P) :
    P entries ∧ ∀ entry ∈ entries, entry.2.EveryMapping P := by
  cases h with
  | map hP hvalues => exact ⟨hP, hvalues⟩
  | plain hplain => cases hplain

end Value

namespace Catalogue

/-! ## Levels -/

section

variable [Stack] {β : Type} {path : String} {readEntry : String → Value → Except Fault β}
  {data : Value} {m : OrderedMap Value β}

/-- A level is read exactly when it is one and its values are read. -/
theorem exists_readLevel_iff {P : Value → Prop}
    (hread : ∀ inner v, (∃ b, readEntry inner v = .ok b) ↔ P v) :
    (∃ m, readLevel path readEntry data = .ok m) ↔ data.IsLevelOf P := by
  have hentry (x : String × Value) :
      (∃ y, (do return (Value.text x.1, ← readEntry (place path x.1) x.2)) = Except.ok y) ↔
        P x.2 := by
    rw [← hread (place path x.1)]
    constructor
    · rintro ⟨y, hy⟩
      obtain ⟨b, hb, -⟩ := bind_eq_ok_iff.mp hy
      exact ⟨b, hb⟩
    · rintro ⟨b, hb⟩
      exact ⟨_, bind_eq_ok_iff.mpr ⟨b, hb, rfl⟩⟩
  constructor
  · rintro ⟨m, hm⟩
    obtain ⟨entries, hcheck, hm⟩ := bind_eq_ok_iff.mp hm
    obtain ⟨read, hmap, -⟩ := bind_eq_ok_iff.mp hm
    refine ⟨_, checkLevel_eq_ok_iff.mp hcheck, fun entry hmem => ?_⟩
    obtain ⟨x, hx, rfl⟩ := List.mem_map.mp hmem
    exact ⟨⟨x.1, rfl⟩, (hentry x).mp (exists_mapM_iff.mp ⟨read, hmap⟩ x hx)⟩
  · rintro ⟨entries, rfl, hentries⟩
    obtain ⟨texts, rfl⟩ := exists_underTexts fun entry hmem => (hentries entry hmem).1
    have hvalues : ∀ x ∈ texts, P x.2 :=
      fun x hx => (hentries _ (List.mem_map_of_mem hx)).2
    obtain ⟨read, hmap⟩ := exists_mapM_iff.mpr fun x hx => (hentry x).mpr (hvalues x hx)
    exact ⟨_, bind_eq_ok_iff.mpr
      ⟨texts, checkLevel_eq_ok_iff.mpr rfl, bind_eq_ok_iff.mpr ⟨read, hmap, rfl⟩⟩⟩

omit [Stack] in
/-- Entries whose keys are told apart stay as they are when they are inserted in order. -/
theorem ofList_of_apart {entries : List (Value × β)}
    (h : (entries.map Prod.fst).Pairwise fun key other => (key == other) = false) :
    OrderedMap.ofList entries = ⟨entries⟩ :=
  Level.ofList_entries (m := ⟨entries⟩) (K := fun _ => True) (V := fun _ => True)
    ⟨h, fun _ _ => trivial, fun _ _ => trivial⟩

/-- A level is the mapping that it was read from, if its values are what they were read from. -/
theorem levelValue_of_readLevel {toData : β → Value} (hdata : data.KeysApart)
    (h : readLevel path readEntry data = .ok m)
    (hread : ∀ inner v b, v.KeysApart → readEntry inner v = .ok b → toData b = v) :
    levelValue toData m = data := by
  obtain ⟨entries, rfl, hentries, rfl⟩ := readLevel_eq_ok_iff.mp h
  obtain ⟨hapart, hvalues⟩ := hdata.entries
  have hkeys : (underTexts (entries.map fun e => (e.key, e.read))).map Prod.fst =
      (underTexts (entries.map fun e => (e.key, e.given))).map Prod.fst := by
    simp [underTexts]
  rw [ofList_of_apart (hkeys ▸ hapart)]
  simp only [levelValue, underTexts, List.map_map, Value.map.injEq]
  refine List.map_congr_left fun e he => ?_
  have hgiven : e.given.KeysApart :=
    hvalues (.text e.key, e.given) (List.mem_map_of_mem (List.mem_map_of_mem he))
  exact Prod.ext rfl (hread _ e.given e.read hgiven (hentries e he))

/-! ## Refusals -/

/-- Why data are refused: they are malformed, or a key in them is no text and cannot be shown. -/
def Refuses (data : Value) (fault : Fault) : Prop :=
  fault.IsMalformed ∨ ∃ key, data.HasKey key ∧ ¬ key.IsText ∧ key.Unshown .dataKey fault

theorem refuses_checkTemplate (path : String) (v : Value) :
    FailsBy (Refuses v) (checkTemplate path v) := by
  cases v with
  | text s => exact .ite (.error (.inl ⟨_, rfl⟩)) (.ok s)
  | _ => exact .error (.inl ⟨_, rfl⟩)

theorem failsBy_checkKey (path : String) (key : Value) :
    FailsBy (fun fault => fault.IsMalformed ∨ ¬ key.IsText ∧ key.Unshown .dataKey fault)
      (checkKey path key) := by
  have hrefused (h : ¬ key.IsText) :
      FailsBy (fun fault => fault.IsMalformed ∨ ¬ key.IsText ∧ key.Unshown .dataKey fault)
        (do throw (.malformed (.keyNotText path (← key.shownAt .dataKey))) :
          Except Fault String) := by
    cases hshown : key.shownAt .dataKey with
    | error fault => exact .error (.inr ⟨h, Value.unshown_iff.mpr hshown⟩)
    | ok s => exact .error (.inl ⟨_, rfl⟩)
  cases key with
  | text s => exact .ok s
  | _ => exact hrefused fun ⟨_, h⟩ => nomatch h

theorem refuses_checkLevel : FailsBy (Refuses data) (checkLevel path data) := by
  cases data with
  | map entries =>
    refine .mapM fun entry hentry => .bind ?_ fun _ => .pure _
    exact (failsBy_checkKey path entry.1).mono fun fault =>
      Or.imp_right fun h => ⟨entry.1, .outer (List.mem_map_of_mem hentry), h⟩
  | _ => exact .error (.inl ⟨_, rfl⟩)

theorem refuses_readLevel (hread : ∀ path v, FailsBy (Refuses v) (readEntry path v))
    (path : String) (data : Value) : FailsBy (Refuses data) (readLevel path readEntry data) := by
  refine refuses_checkLevel.bind_of_ok fun entries hcheck =>
    .bind (.mapM fun entry hentry => .bind ?_ fun _ => .pure _) fun _ => .pure _
  rw [checkLevel_eq_ok_iff.mp hcheck]
  exact (hread _ entry.2).mono fun fault => Or.imp_right fun ⟨key, hkey, h⟩ =>
    ⟨key, .inner (List.mem_map_of_mem (f := fun e => (Value.text e.1, e.2)) hentry :
      (Value.text entry.1, entry.2) ∈ underTexts entries) hkey, h⟩

end

/-! ## Catalogues -/

section

variable [Stack] {data : Value} {c : Catalogue}

theorem refuses_ofValue (data : Value) : FailsBy (Refuses data) (ofValue data) :=
  .map mk (refuses_readLevel (fun path v => refuses_readLevel (fun path v =>
    refuses_readLevel refuses_checkTemplate path v) path v) _ data)

omit [Stack] in
theorem exists_checkTemplate_iff (path : String) (v : Value) :
    (∃ s, checkTemplate path v = .ok s) ↔ v.IsTemplate := by
  simp only [checkTemplate_eq_ok_iff]
  rfl

theorem exists_ofValue_iff : (∃ c, ofValue data = .ok c) ↔ data.IsCatalogueData := by
  have hlevels : (∃ c, ofValue data = .ok c) ↔ ∃ levels,
      readLevel "catalogue" (fun path => readLevel path fun path => readLevel path checkTemplate)
        data = .ok levels :=
    ⟨fun ⟨c, h⟩ => ⟨c.levels, ofValue_eq_ok_iff.mp h⟩,
      fun ⟨levels, h⟩ => ⟨⟨levels⟩, ofValue_eq_ok_iff.mpr h⟩⟩
  rw [hlevels]
  exact exists_readLevel_iff fun _ _ => exists_readLevel_iff fun _ _ =>
    exists_readLevel_iff exists_checkTemplate_iff

/-- What was read is the data that it was read from. -/
theorem toValue_of_ofValue (hdata : data.KeysApart) (h : ofValue data = .ok c) :
    c.toValue = data := by
  rw [toValue_eq_levelValue]
  refine levelValue_of_readLevel hdata (ofValue_eq_ok_iff.mp h) fun _ _ _ hdomains hread =>
    levelValue_of_readLevel hdomains hread fun _ _ _ hmessages hread =>
      levelValue_of_readLevel hmessages hread fun _ _ _ _ hread => ?_
  exact (checkTemplate_eq_ok_iff.mp hread).1.symm

/-- Data are read exactly when they have the format, and the catalogue is then the data, in content
and order; it is read back as it is. Without the format they are refused, as malformed unless a key
in them is no text and cannot be shown. -/
theorem reads_catalogue_format_alone (data : Value) :
    ((∃ c, ofValue data = .ok c) ↔ data.IsCatalogueData) ∧
    (∀ c, ofValue data = .ok c →
      (data.KeysApart → c.toValue = data) ∧ ofValue c.toValue = .ok c) ∧
    (∀ fault, ofValue data = .error fault → fault.IsMalformed ∨
      ∃ key, data.HasKey key ∧ ¬ key.IsText ∧ key.Unshown .dataKey fault) ∧
    ((∀ key, data.HasKey key → ¬ key.IsText → key.Shown .dataKey) →
      ¬ data.IsCatalogueData → ∃ cause, ofValue data = .error (.malformed cause)) := by
  refine ⟨exists_ofValue_iff, fun c h => ?_, refuses_ofValue data, fun hkeys hformat => ?_⟩
  · exact ⟨fun hdata => toValue_of_ofValue hdata h, ofValue_toValue (keyed_of_ofValue h)⟩
  · cases hread : ofValue data with
    | ok c => exact absurd (exists_ofValue_iff.mp ⟨c, hread⟩) hformat
    | error fault =>
      rcases refuses_ofValue data fault hread with ⟨cause, rfl⟩ | ⟨key, hkey, htext, hunshown⟩
      · exact ⟨cause, rfl⟩
      · obtain ⟨s, hs⟩ := hkeys key hkey htext
        cases hs.symm.trans hunshown.shownAt_eq

/-- A key within more values than there is room for is refused for its depth. -/
theorem ofValue_nested {levels : Nat} (h : Stack.room .dataKey < levels) (v w : Value) :
    ofValue (.map [(.nested levels v, w)]) = .error .nestedTooDeep := by
  have hshown := (Value.unshown_nested h v).shownAt_eq
  cases levels with
  | zero => cases h
  | succ levels =>
    have hkey : checkKey "catalogue" (.nested (levels + 1) v) = .error .nestedTooDeep := by
      rw [Value.nested] at hshown ⊢
      rw [checkKey, hshown]
      · rfl
      · intro s hs
        cases hs
    simp only [ofValue, readLevel, checkLevel, List.mapM_cons, hkey]
    rfl

end

section

attribute [local instance] Stack.ample

/-- A locale without domains is kept in its place, and a number as a locale is refused. -/
theorem reads_empty_locale_and_refuses_number :
    let data : Value := .map [(.text "fr", .map []),
      (.text "en", .map [(.text "messages", .map [(.text "hello", .text "Hello")])])]
    let other : Value := .map [(.int 1, .map [])]
    (data.IsCatalogueData ∧ data.KeysApart ∧
      ∃ c, ofValue data = .ok c ∧ c.toValue = data ∧ ofValue c.toValue = .ok c) ∧
    (∀ key, other.HasKey key → ¬ key.IsText → key.Shown .dataKey) ∧
      ¬ other.IsCatalogueData ∧ ∃ cause, ofValue other = .error (.malformed cause) := by
  intro data other
  have hempty : (Value.map []).KeysApart := .map .nil fun _ h => nomatch h
  have hmessages : (Value.map [(.text "hello", .text "Hello")]).KeysApart :=
    .map (List.pairwise_singleton _ _) (by simpa using .plain rfl)
  have hdomains :
      (Value.map [(.text "messages", .map [(.text "hello", .text "Hello")])]).KeysApart :=
    .map (List.pairwise_singleton _ _) (by simpa using hmessages)
  have hapart : data.KeysApart :=
    .map (by simp [Value.beq_text]) (by simpa using ⟨hempty, hdomains⟩)
  have hkeys : ∀ key, other.HasKey key → ¬ key.IsText → key.Shown .dataKey := by
    intro key hkey _
    change (Value.map [(.int 1, .map [])]).HasKey key at hkey
    cases hkey with
    | outer h =>
      obtain rfl := List.mem_singleton.mp h
      exact ⟨"1", by rfl⟩
    | inner hentry h =>
      obtain rfl := List.mem_singleton.mp hentry
      cases h with
      | outer h => cases h
      | inner hentry _ => cases hentry
  obtain ⟨hread, hdata, -⟩ := reads_catalogue_format_alone data
  obtain ⟨hother, -, -, hrefused⟩ := reads_catalogue_format_alone other
  have hformat : ¬ other.IsCatalogueData := fun h => nomatch hother.mpr h
  have hc : ofValue data = .ok _ := rfl
  exact ⟨⟨hread.mp ⟨_, hc⟩, hapart, _, hc, (hdata _ hc).1 hapart, (hdata _ hc).2⟩, hkeys, hformat,
    hrefused hkeys hformat⟩

/-- A key nested too deep to be shown is refused, but not as malformed. -/
theorem key_nested_too_deep :
    (Value.nested 1500 (.text "x")).isKey = true ∧
      ofValue (.map [(.nested 1500 (.text "x"), .map [])]) = .error .nestedTooDeep ∧
      ¬ Fault.nestedTooDeep.IsMalformed :=
  ⟨Value.isKey_nested rfl 1500, ofValue_nested (by decide) (.text "x") (.map []),
    fun ⟨_, h⟩ => nomatch h⟩

end

end Catalogue

end Phrasebook
