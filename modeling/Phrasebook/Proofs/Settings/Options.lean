import Phrasebook.Proofs.Value.Shown
import Phrasebook.Settings

/-! Settings out of options. Options are a mapping of anything to anything. They are refused one
entry after another as they are read, and by the values of fields only after that, so which fault
comes first hangs on their order; whether there is one does not. The entries read so far name
fields, each field by one key, and a look-up among the fields finds what is under that key. -/

namespace Phrasebook

/-! ## Faults that show a value -/

/-- A fault that shows a value, or the fault that says why the value cannot be shown. -/
inductive Fault.Shows [Stack] (v : Value) (cause : String → Fault) : Fault → Prop
  | shown {given : String} (h : v.shownAt .option = .ok given) : Shows v cause (cause given)
  | unshown {fault : Fault} (h : v.Unshown .option fault) : Shows v cause fault

theorem ends_shows [Stack] {α : Type} {P : α → Prop} {Q : Fault → Prop} {v : Value}
    {cause : String → Fault} (h : ∀ fault, Fault.Shows v cause fault → Q fault) :
    Ends P Q (do throw (cause (← v.shownAt .option))) := by
  cases hshown : v.shownAt .option with
  | error fault => exact .error (h _ (.unshown (Value.unshown_iff.mpr hshown)))
  | ok given => exact .error (h _ (.shown hshown))

namespace Settings

/-- The value of a field. -/
def value (s : Settings) : Field → String
  | .fallbackLocale => s.fallbackLocale
  | .defaultDomain => s.defaultDomain
  | .separator => s.separator

theorem value_ne (s : Settings) (field : Field) : s.value field ≠ "" := by
  cases field with
  | fallbackLocale => exact s.fallbackLocale_ne
  | defaultDomain => exact s.defaultDomain_ne
  | separator => exact s.separator_ne

theorem ext_value {s s' : Settings} (h : ∀ field, s.value field = s'.value field) : s = s' := by
  obtain ⟨fallbackLocale, defaultDomain, separator, _, _, _⟩ := s
  obtain rfl : fallbackLocale = s'.fallbackLocale := h .fallbackLocale
  obtain rfl : defaultDomain = s'.defaultDomain := h .defaultDomain
  obtain rfl : separator = s'.separator := h .separator
  rfl

/-- What a field is without a value is what it is in the default settings. -/
theorem value_default (field : Field) : ({} : Settings).value field = field.default := by
  cases field <;> rfl

theorem Field.default_ne (field : Field) : field.default ≠ "" :=
  value_default field ▸ value_ne {} field

/-! ## Names of fields -/

/-- A key that is one of the names of a field. -/
def Field.GoesBy (field : Field) (key : Value) : Prop :=
  key = .text field.name ∨ key = .text field.camelName

theorem Field.name_ne_camelName (field : Field) : field.name ≠ field.camelName := by
  cases field <;> decide

theorem Field.ofOption?_eq_some_iff {field : Field} {name : String} :
    ofOption? name = some field ↔ name = field.name ∨ name = field.camelName := by
  constructor
  · intro h
    have hname := List.find?_some h
    rw [Bool.or_eq_true, beq_iff_eq, beq_iff_eq] at hname
    exact hname.imp Eq.symm Eq.symm
  · rintro (rfl | rfl) <;> cases field <;> decide

theorem optionField?_eq_some_iff {field : Field} {key : Value} :
    optionField? key = some field ↔ field.GoesBy key := by
  cases key with
  | text name => simp [optionField?, Field.GoesBy, Field.ofOption?_eq_some_iff]
  | _ => simp [optionField?, Field.GoesBy]

theorem optionField?_eq_none_iff {key : Value} :
    optionField? key = none ↔ ∀ field : Field, ¬ field.GoesBy key := by
  simp only [Option.eq_none_iff_forall_ne_some, ne_eq, optionField?_eq_some_iff]

theorem Field.GoesBy.unique {field other : Field} {key : Value} (h : field.GoesBy key)
    (h' : other.GoesBy key) : field = other :=
  Option.some.inj ((optionField?_eq_some_iff.mpr h).symm.trans (optionField?_eq_some_iff.mpr h'))

/-! ## Options -/

/-- Options under their keys, as the entries of a mapping. -/
abbrev Options := List (Value × Value)

/-- A field that is given under both of its names. -/
def NamedTwice (options : Options) (field : Field) : Prop :=
  .text field.name ∈ options.map Prod.fst ∧ .text field.camelName ∈ options.map Prod.fst

/-- A value that a field can have. -/
def Fills (v : Value) : Prop := ∃ s, v = .text s ∧ s ≠ ""

/-- Options that name fields, none under both names, and give each a text that is not empty. -/
structure Acceptable (options : Options) : Prop where
  named : ∀ entry ∈ options, ∃ field : Field, field.GoesBy entry.1
  once : ∀ field, ¬ NamedTwice options field
  filled : ∀ entry ∈ options, Fills entry.2

/-- Settings with the values that options give, and those of the default settings elsewhere. -/
structure GivenBy (options : Options) (s : Settings) : Prop where
  given : ∀ entry ∈ options, ∀ field : Field, field.GoesBy entry.1 →
    entry.2 = .text (s.value field)
  unnamed : ∀ field : Field, (∀ entry ∈ options, ¬ field.GoesBy entry.1) →
    s.value field = ({} : Settings).value field

/-- What is wrong with options, as a fault tells it. -/
inductive Offends [Stack] (options : Options) : Fault → Prop
  | unknown {entry : Value × Value} {fault : Fault} (hentry : entry ∈ options)
      (hname : ∀ field : Field, ¬ field.GoesBy entry.1)
      (hfault : Fault.Shows entry.1 .unknownOption fault) : Offends options fault
  | repeated {field : Field} (h : NamedTwice options field) :
      Offends options (.repeatedOption field.name)
  | invalid {entry : Value × Value} {field : Field} {fault : Fault} (hentry : entry ∈ options)
      (hname : field.GoesBy entry.1) (hvalue : ¬ Fills entry.2)
      (hfault : Fault.Shows entry.2 (.invalidOption field.name) fault) : Offends options fault

/-- Options with a key or a value that cannot be shown where it is refused. -/
def HoldsUnshown [Stack] (options : Options) (fault : Fault) : Prop :=
  ∃ entry ∈ options, entry.1.Unshown .option fault ∨ entry.2.Unshown .option fault

section

variable {options reordered : Options} {s s' : Settings} {fault : Fault}

theorem Offends.not_acceptable [Stack] (h : Offends options fault) : ¬ Acceptable options := by
  intro hacceptable
  cases h with
  | unknown hentry hname _ =>
    obtain ⟨field, hfield⟩ := hacceptable.named _ hentry
    exact hname field hfield
  | repeated h => exact hacceptable.once _ h
  | invalid hentry _ hvalue _ => exact hvalue (hacceptable.filled _ hentry)

/-- What offends is told as unfit, unless it cannot be shown. -/
theorem Offends.isUnfitValue [Stack] (h : Offends options fault) :
    fault.isUnfitValue = true ∨ HoldsUnshown options fault := by
  cases h with
  | unknown hentry _ hfault =>
    cases hfault with
    | shown _ => exact .inl rfl
    | unshown h => exact .inr ⟨_, hentry, .inl h⟩
  | repeated _ => exact .inl rfl
  | invalid hentry _ _ hfault =>
    cases hfault with
    | shown _ => exact .inl rfl
    | unshown h => exact .inr ⟨_, hentry, .inr h⟩

theorem GivenBy.unique (h : GivenBy options s) (h' : GivenBy options s') : s = s' := by
  refine ext_value fun field => ?_
  by_cases hnamed : ∃ entry ∈ options, field.GoesBy entry.1
  · obtain ⟨entry, hentry, hfield⟩ := hnamed
    exact Value.text.inj
      ((h.given entry hentry field hfield).symm.trans (h'.given entry hentry field hfield))
  · simp only [not_exists, not_and] at hnamed
    rw [h.unnamed field hnamed, h'.unnamed field hnamed]

theorem Acceptable.of_perm (h : Acceptable options) (hperm : reordered.Perm options) :
    Acceptable reordered where
  named := fun entry hentry => h.named entry (hperm.mem_iff.mp hentry)
  once := fun field htwice => h.once field
    ⟨(hperm.map Prod.fst).mem_iff.mp htwice.1, (hperm.map Prod.fst).mem_iff.mp htwice.2⟩
  filled := fun entry hentry => h.filled entry (hperm.mem_iff.mp hentry)

theorem GivenBy.of_perm (h : GivenBy options s) (hperm : reordered.Perm options) :
    GivenBy reordered s where
  given := fun entry hentry => h.given entry (hperm.mem_iff.mp hentry)
  unnamed := fun field hnamed =>
    h.unnamed field fun entry hentry => hnamed entry (hperm.mem_iff.mpr hentry)

end

/-! ## Fields among options -/

/-- What is known of an assignment once options are read: every option names a field, no field is
named twice, and what is assigned to a field is what the options give it. -/
structure Assigned (options : Options) (given : Assignment) : Prop where
  named : ∀ entry ∈ options, ∃ field : Field, field.GoesBy entry.1
  once : ∀ field, ¬ NamedTwice options field
  lookup_iff : ∀ field v, given.lookup field = some v ↔
    ∃ entry ∈ options, field.GoesBy entry.1 ∧ entry.2 = v

section

variable {options before : Options} {given : Assignment} {field : Field} {key v : Value}

theorem Assigned.nil : Assigned [] [] where
  named := fun _ h => nomatch h
  once := fun _ h => nomatch h.1
  lookup_iff := fun field v => by simp

theorem Assigned.lookup_eq_none_iff (h : Assigned options given) :
    given.lookup field = none ↔ ∀ entry ∈ options, ¬ field.GoesBy entry.1 := by
  constructor
  · intro hnone entry hentry hfield
    have hsome := (h.lookup_iff field entry.2).mpr ⟨entry, hentry, hfield, rfl⟩
    rw [hnone] at hsome
    cases hsome
  · intro hnamed
    cases hlookup : given.lookup field with
    | none => rfl
    | some v =>
      obtain ⟨entry, hentry, hfield, -⟩ := (h.lookup_iff field v).mp hlookup
      exact absurd hfield (hnamed entry hentry)

/-- A field that was not named yet is assigned to. -/
theorem Assigned.concat (h : Assigned options given) (hkey : field.GoesBy key)
    (hnone : given.lookup field = none) (v : Value) :
    Assigned (options ++ [(key, v)]) (given ++ [(field, v)]) where
  named := by
    intro entry hentry
    rcases List.mem_append.mp hentry with hentry | hentry
    · exact h.named entry hentry
    · obtain rfl := List.mem_singleton.mp hentry
      exact ⟨field, hkey⟩
  once := by
    rintro other ⟨hname, hcamel⟩
    -- a field that was named before is not the new one, so one key of the two was there before
    have hbefore {key' : Value} (hother : other.GoesBy key') (hmem : key' ∈ options.map Prod.fst) :
        ¬ other.GoesBy key := by
      obtain ⟨entry, hentry, rfl⟩ := List.mem_map.mp hmem
      intro hsame
      obtain rfl := hkey.unique hsame
      exact h.lookup_eq_none_iff.mp hnone entry hentry hother
    rw [List.map_append, List.mem_append, List.map_singleton, List.mem_singleton] at hname hcamel
    rcases hname with hname | rfl
    · rcases hcamel with hcamel | rfl
      · exact h.once other ⟨hname, hcamel⟩
      · exact hbefore (.inl rfl) hname (.inr rfl)
    · rcases hcamel with hcamel | hcamel
      · exact hbefore (.inr rfl) hcamel (.inl rfl)
      · exact other.name_ne_camelName (Value.text.inj hcamel).symm
  lookup_iff := by
    intro other w
    have hentries : (∃ entry ∈ options ++ [(key, v)], other.GoesBy entry.1 ∧ entry.2 = w) ↔
        given.lookup other = some w ∨ other.GoesBy key ∧ v = w := by
      simp only [List.mem_append, List.mem_singleton, or_and_right, exists_or, exists_eq_left,
        h.lookup_iff]
    rw [hentries, List.lookup_append]
    by_cases heq : other = field
    · subst heq
      simp [hnone, hkey]
    · have hother : ¬ other.GoesBy key := fun hsame => heq (hsame.unique hkey)
      have hlast : [(field, v)].lookup other = none :=
        List.lookup_eq_none_iff.mpr (by simpa using heq)
      rw [hlast, Option.or_none]
      simp only [hother, false_and, or_false]

/-! ## Reading options -/

/-- A field that goes by two keys goes by both of its names. -/
theorem namedTwice_of_goesBy {other : Value} (h : field.GoesBy key) (h' : field.GoesBy other)
    (hne : key ≠ other) (hmem : key ∈ options.map Prod.fst)
    (hmem' : other ∈ options.map Prod.fst) : NamedTwice options field := by
  rcases h with rfl | rfl <;> rcases h' with rfl | rfl
  · exact absurd rfl hne
  · exact ⟨hmem, hmem'⟩
  · exact ⟨hmem', hmem⟩
  · exact absurd rfl hne

/-- Reading one option after another names all fields, or ends at an option that offends. -/
theorem ends_assignOptions [Stack] (h : Assigned before given)
    (hdistinct : ((before ++ options).map Prod.fst).Nodup) :
    Ends (Assigned (before ++ options)) (Offends (before ++ options))
      (assignOptions given options) := by
  induction options generalizing before given with
  | nil =>
    rw [List.append_nil]
    exact .ok h
  | cons entry rest ih =>
    obtain ⟨key, v⟩ := entry
    have hmem : (key, v) ∈ before ++ (key, v) :: rest := by simp
    rw [assignOptions]
    cases hfield : optionField? key with
    | none =>
      exact ends_shows fun _ hfault =>
        .unknown hmem (optionField?_eq_none_iff.mp hfield) hfault
    | some field =>
      have hkey := optionField?_eq_some_iff.mp hfield
      dsimp only
      cases hlookup : given.lookup field with
      | some w =>
        obtain ⟨earlier, hearlier, hsame, -⟩ := (h.lookup_iff field w).mp hlookup
        rw [List.map_append] at hdistinct
        have hne : earlier.1 ≠ key :=
          (List.nodup_append.mp hdistinct).2.2 _ (List.mem_map_of_mem hearlier) key (by simp)
        have hbefore : earlier ∈ before ++ (key, v) :: rest := List.mem_append_left _ hearlier
        rw [if_pos Option.isSome_some]
        exact .error (.repeated (namedTwice_of_goesBy hsame hkey hne
          (List.mem_map_of_mem hbefore) (List.mem_map_of_mem hmem)))
      | none =>
        rw [if_neg (by simp)]
        have hrest := ih (h.concat hkey hlookup v) (by simpa using hdistinct)
        rwa [List.append_assoc] at hrest

/-! ## Reading fields -/

/-- The value of a field among given ones, or its default. -/
def valueIn (given : Assignment) (field : Field) : Value :=
  (given.lookup field).getD (.text field.default)

theorem ends_checkField [Stack] {Q : Fault → Prop} (field : Field) (v : Value)
    (h : ¬ Fills v → ∀ fault, Fault.Shows v (.invalidOption field.name) fault → Q fault) :
    Ends (fun s => v = .text s.val) Q (checkField field v) := by
  by_cases hv : Fills v
  · obtain ⟨s, rfl, hs⟩ := hv
    rw [checkField, dif_pos hs]
    exact .ok rfl
  · cases v with
    | text s =>
      have hs : ¬ s ≠ "" := fun hne => hv ⟨s, rfl, hne⟩
      rw [checkField, dif_neg hs]
      exact ends_shows (h hv)
    | _ => exact ends_shows (h hv)

/-- A default is never refused, so a value that is refused was given. -/
theorem ends_checkField_valueIn [Stack] (h : Assigned options given) (field : Field) :
    Ends (fun s => valueIn given field = .text s.val) (Offends options)
      (checkField field (valueIn given field)) := by
  cases hlookup : given.lookup field with
  | none =>
    rw [valueIn, hlookup, Option.getD_none]
    exact ends_checkField field _ fun hvalue => absurd ⟨_, rfl, field.default_ne⟩ hvalue
  | some v =>
    rw [valueIn, hlookup, Option.getD_some]
    obtain ⟨entry, hentry, hname, rfl⟩ := (h.lookup_iff field v).mp hlookup
    exact ends_checkField field _ fun hvalue _ hfault => .invalid hentry hname hvalue hfault

theorem ends_ofAssignment [Stack] (h : Assigned options given) :
    Ends (fun s : Settings => ∀ field, valueIn given field = .text (s.value field))
      (Offends options) (ofAssignment given) := by
  refine (ends_checkField_valueIn h .fallbackLocale).bind fun fallbackLocale hfallbackLocale => ?_
  refine (ends_checkField_valueIn h .defaultDomain).bind fun defaultDomain hdefaultDomain => ?_
  refine (ends_checkField_valueIn h .separator).bind fun separator hseparator => .ok fun field => ?_
  cases field with
  | fallbackLocale => exact hfallbackLocale
  | defaultDomain => exact hdefaultDomain
  | separator => exact hseparator

/-- What fields have been checked to be is what the options give. -/
theorem Assigned.acceptable_givenBy {s : Settings} (h : Assigned options given)
    (hs : ∀ field, valueIn given field = .text (s.value field)) :
    Acceptable options ∧ GivenBy options s := by
  have hgiven (entry : Value × Value) (hentry : entry ∈ options) (field : Field)
      (hname : field.GoesBy entry.1) : entry.2 = .text (s.value field) := by
    rw [← hs field, valueIn, (h.lookup_iff field entry.2).mpr ⟨entry, hentry, hname, rfl⟩,
      Option.getD_some]
  refine ⟨⟨h.named, h.once, fun entry hentry => ?_⟩, ⟨hgiven, fun field hnamed => ?_⟩⟩
  · obtain ⟨field, hname⟩ := h.named entry hentry
    exact ⟨_, hgiven entry hentry field hname, s.value_ne field⟩
  · have hvalue := hs field
    rw [valueIn, h.lookup_eq_none_iff.mpr hnamed, Option.getD_none] at hvalue
    rw [value_default, Value.text.inj hvalue]

end

/-! ## Settings -/

section

variable [Stack] {options : Options}

theorem ends_ofOptions (hdistinct : (options.map Prod.fst).Nodup) :
    Ends (fun s => Acceptable options ∧ GivenBy options s) (Offends options)
      (ofOptions (.map options)) := by
  have hread : Ends (Assigned options) (Offends options) (assignOptions [] options) :=
    ends_assignOptions .nil hdistinct
  refine hread.bind fun given hgiven => ?_
  have hchecked := ends_ofAssignment hgiven
  exact ⟨fun s hs => hgiven.acceptable_givenBy (hchecked.result s hs), hchecked.failsBy⟩

/-- Acceptable options are the settings that they give, and no other options are any. -/
theorem ofOptions_eq_ok_iff (hdistinct : (options.map Prod.fst).Nodup) {s : Settings} :
    ofOptions (.map options) = .ok s ↔ Acceptable options ∧ GivenBy options s := by
  have hends := ends_ofOptions hdistinct
  refine ⟨hends.result s, ?_⟩
  rintro ⟨hacceptable, hgiven⟩
  cases hread : ofOptions (.map options) with
  | error fault => exact absurd hacceptable (hends.failsBy fault hread).not_acceptable
  | ok other => rw [(hends.result other hread).2.unique hgiven]

/-- Options are settings exactly when every key is one of the names of a field, no field is given
under both of its names, and every value is a text that is not empty; each field then has the value
that it is given, or its default. All other options are refused, by a fault that tells of one of
these causes: as unfit, unless it is that the key or the value in question cannot be shown. The
order of the options makes no difference to the settings, nor to whether there are any. -/
theorem options_in_any_order (hdistinct : (options.map Prod.fst).Nodup) :
    ((∃ s, ofOptions (.map options) = .ok s) ↔ Acceptable options) ∧
    (∀ s, ofOptions (.map options) = .ok s → GivenBy options s) ∧
    (∀ fault, ofOptions (.map options) = .error fault →
      Offends options fault ∧ (fault.isUnfitValue = true ∨ HoldsUnshown options fault)) ∧
    ∀ reordered : Options, reordered.Perm options → ∀ s,
      ofOptions (.map reordered) = .ok s ↔ ofOptions (.map options) = .ok s := by
  have hends := ends_ofOptions hdistinct
  refine ⟨⟨?_, fun hacceptable => ?_⟩, fun s hs => (hends.result s hs).2, fun fault hfault => ?_,
    fun reordered hperm s => ?_⟩
  · rintro ⟨s, hs⟩
    exact (hends.result s hs).1
  · cases hread : ofOptions (.map options) with
    | error fault => exact absurd hacceptable (hends.failsBy fault hread).not_acceptable
    | ok s => exact ⟨s, rfl⟩
  · have hoffends := hends.failsBy fault hfault
    exact ⟨hoffends, hoffends.isUnfitValue⟩
  · have hreordered := (hperm.map Prod.fst).nodup_iff.mpr hdistinct
    rw [ofOptions_eq_ok_iff hreordered, ofOptions_eq_ok_iff hdistinct]
    constructor
    · rintro ⟨hacceptable, hgiven⟩
      exact ⟨hacceptable.of_perm hperm.symm, hgiven.of_perm hperm.symm⟩
    · rintro ⟨hacceptable, hgiven⟩
      exact ⟨hacceptable.of_perm hperm, hgiven.of_perm hperm⟩

/-- A fallback locale within more values than there is room for. -/
theorem ofOptions_nested {levels : Nat} (h : Stack.room .option < levels) (v : Value) :
    ofOptions (.map [(.text "fallbackLocale", .nested levels v)]) = .error .nestedTooDeep := by
  have hshown := (Value.unshown_nested h v).shownAt_eq
  cases levels with
  | zero => cases h
  | succ levels =>
    have hfield : checkField .fallbackLocale (.nested (levels + 1) v) = .error .nestedTooDeep := by
      rw [Value.nested] at hshown ⊢
      rw [checkField, hshown]
      · rfl
      · intro s hs
        cases hs
    show checkField .fallbackLocale (.nested (levels + 1) v) >>= _ = _
    rw [hfield]
    rfl

end

section

attribute [local instance] Stack.ample

/-- Two fields by a name of either kind, and one field by both of its names, in either order. -/
theorem options_in_any_order_under_either_name :
    let options : Options :=
      [(.text "fallbackLocale", .text "de"), (.text "default_domain", .text "app")]
    let twice : Options :=
      [(.text "fallbackLocale", .text "fr"), (.text "fallback_locale", .text "de")]
    ((options.map Prod.fst).Nodup ∧ ofOptions (.map options.reverse) =
      .ok { fallbackLocale := "de", defaultDomain := "app" }) ∧
    (twice.map Prod.fst).Nodup ∧ ∀ s, ofOptions (.map twice.reverse) ≠ .ok s := by
  intro options twice
  have hoptions : (options.map Prod.fst).Nodup := by simp [options]
  have htwice : (twice.map Prod.fst).Nodup := by simp [twice]
  have hread : ofOptions (.map options) =
      .ok { fallbackLocale := "de", defaultDomain := "app" } := rfl
  have hnamed : NamedTwice twice .fallbackLocale := by
    simp [NamedTwice, twice, Field.name, Field.camelName]
  obtain ⟨-, -, -, horder⟩ := options_in_any_order hoptions
  obtain ⟨haccepted, -, -, horder'⟩ := options_in_any_order htwice
  refine ⟨⟨hoptions, (horder _ (List.reverse_perm _) _).mpr hread⟩, htwice, fun s hs => ?_⟩
  have hacceptable := haccepted.mp ⟨s, (horder' _ (List.reverse_perm _) s).mp hs⟩
  exact hacceptable.once .fallbackLocale hnamed

/-- A value nested too deep to be shown is refused, but not as unfit. -/
theorem option_nested_too_deep :
    ofOptions (.map [(.text "fallbackLocale", .nested 1500 (.text "x"))]) =
      .error .nestedTooDeep ∧ Fault.nestedTooDeep.isUnfitValue = false :=
  ⟨ofOptions_nested (by decide) (.text "x"), rfl⟩

end

end Settings

end Phrasebook
