import Phrasebook.Proofs.Catalogue.Refusal
import Phrasebook.Proofs.Catalogue.Reload

/-! Restricting a catalogue to some domains of some locales. Both are asked for by lists that may
repeat themselves and name what is not there. What is there is copied, in the order in which it is
asked for first; what is not is reported once for each time that it is asked for. The invariant of
the loop over the locales says what is copied after some of them, and a locale asked for again only
overwrites what is copied of it by the same. -/

namespace Phrasebook

open OrderedMap

namespace Catalogue

/-- What was asked for and is not there: a locale, or a domain of a locale that is there. -/
inductive Gap where
  | ofLocale (locale : String)
  | ofDomain (locale domain : String)
  deriving DecidableEq, Repr

/-- A gap as it is reported. -/
def Gap.lookup : Gap → Lookup
  | ofLocale locale => {
      locale := .text locale, domain := .text "", id := .text "", status := .localeMissing }
  | ofDomain locale domain => {
      locale := .text locale, domain := .text domain, id := .text "", status := .domainMissing }

section

variable (c : Catalogue) (domains : List String)

/-- Whether a locale has a domain. -/
def hasDomain (locale domain : String) : Bool :=
  (c.domainsOf (.text locale)).contains (.text domain)

/-- The domains of a locale among those asked for. -/
def kept (locale : String) : List String := domains.filter (c.hasDomain locale)

/-- The gaps of one locale. -/
def gapsOf (locale : String) : List Gap :=
  if c.levels.contains (.text locale) then
    (domains.filter fun domain => !c.hasDomain locale domain).map (.ofDomain locale)
  else [.ofLocale locale]

/-- The gaps of a request, in its order. -/
def gaps (locales : List String) : List Gap := locales.flatMap (c.gapsOf domains)

/-- What is copied for a request: exactly the domains asked for of the locales asked for, with their
messages as they are, and no locale without any of them; all in the order of the request. -/
structure Restricts (asked : List String) (selected : Catalogue) : Prop where
  locales : selected.locales =
    (asked.filter fun locale => !(c.kept domains locale).isEmpty).eraseDups.map .text
  keys : ∀ locale, (selected.domainsOf (.text locale)).keys =
    if locale ∈ asked then (c.kept domains locale).eraseDups.map .text else []
  messages : ∀ locale domain messages,
    (selected.domainsOf (.text locale)).find? (.text domain) = some messages ↔
      locale ∈ asked ∧ domain ∈ domains ∧
        (c.domainsOf (.text locale)).find? (.text domain) = some messages

end

/-! ## The domains of one locale -/

section

variable {available start part : OrderedMap Value (OrderedMap Value String)} {domains : List String}

/-- What is copied of one locale on top of what was copied of it before. -/
structure Copies (available start part : OrderedMap Value (OrderedMap Value String))
    (domains : List String) : Prop where
  keys : ∀ texts : List String, start.keys = texts.eraseDups.map .text →
    part.keys =
      (texts ++ domains.filter fun domain => available.contains (.text domain)).eraseDups.map .text
  find? : ∀ domain, part.find? (.text domain) =
    if domain ∈ domains then (available.find? (.text domain)).or (start.find? (.text domain))
    else start.find? (.text domain)
  level : ∀ V, available.Level Value.IsText V → start.Level Value.IsText V →
    part.Level Value.IsText V

theorem Copies.nil : Copies available start start [] where
  keys := fun texts h => by simpa using h
  find? := fun domain => by simp
  level := fun _ _ h => h

theorem Copies.cons_missing {domain : String} (h : Copies available start part domains)
    (hmissing : available.find? (.text domain) = none) :
    Copies available start part (domain :: domains) where
  keys := by
    intro texts hstart
    rw [h.keys texts hstart, List.filter_cons_of_neg (by simp [OrderedMap.contains, hmissing])]
  find? := by
    intro other
    rw [h.find? other]
    by_cases hother : other = domain
    · simp [hother, hmissing]
    · simp [hother]
  level := h.level

theorem Copies.cons_found {domain : String} {messages : OrderedMap Value String}
    (h : Copies available (start.insert (.text domain) messages) part domains)
    (hfound : available.find? (.text domain) = some messages) :
    Copies available start part (domain :: domains) where
  keys := by
    intro texts hstart
    rw [h.keys _ (keys_insert_text hstart domain messages),
      List.filter_cons_of_pos (by simp [OrderedMap.contains, hfound]), List.append_assoc,
      List.singleton_append]
  find? := by
    intro other
    rw [h.find? other, find?_insert_text]
    by_cases hother : other = domain
    · simp [hother, hfound]
    · simp [hother]
  level := fun V havailable hstart =>
    h.level V havailable (hstart.insert ⟨domain, rfl⟩ (havailable.find? hfound))

/-- The domains that are there are copied, and the others are reported, one for one. -/
theorem exists_copies (locale : String)
    (available start : OrderedMap Value (OrderedMap Value String)) (skipped : List Lookup)
    (domains : List String) :
    ∃ part, restrictDomains (.text locale) available (domains.map .text) (start, skipped) =
        .ok (part, skipped ++ (domains.filter fun domain => !available.contains (.text domain)).map
          fun domain => (Gap.ofDomain locale domain).lookup) ∧
      Copies available start part domains := by
  induction domains generalizing start skipped with
  | nil => exact ⟨start, by simp [restrictDomains], .nil⟩
  | cons domain rest ih =>
    cases hfind : available.find? (.text domain) with
    | none =>
      obtain ⟨part, hrun, hpart⟩ := ih start (skipped ++ [(Gap.ofDomain locale domain).lookup])
      refine ⟨part, ?_, hpart.cons_missing hfind⟩
      rw [List.append_assoc, List.singleton_append] at hrun
      rw [List.filter_cons_of_pos (by simp [OrderedMap.contains, hfind])]
      simp only [List.map_cons, ← hrun, restrictDomains, Value.asKey_text, bind, Except.bind,
        hfind]
      rfl
    | some messages =>
      obtain ⟨part, hrun, hpart⟩ := ih (start.insert (.text domain) messages) skipped
      refine ⟨part, ?_, hpart.cons_found hfind⟩
      rw [List.filter_cons_of_neg (by simp [OrderedMap.contains, hfind]), ← hrun]
      simp only [List.map_cons, restrictDomains, Value.asKey_text, bind, Except.bind, hfind]

end

/-! ## The locales -/

section

variable {c selected : Catalogue} {domains asked : List String} {locale : String}

theorem kept_of_missing (h : c.levels.find? (.text locale) = none) :
    c.kept domains locale = [] := by
  refine List.filter_eq_nil_iff.mpr fun domain _ => ?_
  rw [hasDomain, domainsOf_of_missing h]
  exact Bool.false_ne_true

namespace Restricts

theorem nil : c.Restricts domains [] .empty where
  locales := rfl
  keys := fun locale => rfl
  messages := fun locale domain messages => by simp [domainsOf, empty]

/-- A locale that is not there adds nothing. -/
theorem concat_missing (h : c.Restricts domains asked selected)
    (hmissing : c.levels.find? (.text locale) = none) :
    c.Restricts domains (asked ++ [locale]) selected where
  locales := by
    rw [h.locales, List.filter_append, List.filter_cons_of_neg (by simp [kept_of_missing hmissing])]
    simp
  keys := by
    intro other
    rw [h.keys other]
    by_cases hother : other = locale
    · simp [hother, kept_of_missing hmissing]
    · simp [hother]
  messages := by
    intro other domain messages
    rw [h.messages]
    by_cases hother : other = locale
    · simp [hother, domainsOf_of_missing hmissing]
    · simp [hother]

/-- What was copied of a locale before, and is copied of it now, is what it has of the request. -/
theorem keys_copies {available part : OrderedMap Value (OrderedMap Value String)}
    (h : c.Restricts domains asked selected)
    (hfind : c.levels.find? (.text locale) = some available)
    (hpart : Copies available (selected.domainsOf (.text locale)) part domains) :
    part.keys = (c.kept domains locale).eraseDups.map .text := by
  have hkept : (domains.filter fun domain => available.contains (.text domain)) =
      c.kept domains locale := by
    rw [kept, ← domainsOf_of_find? hfind]
    rfl
  have hbefore := h.keys locale
  by_cases hasked : locale ∈ asked
  · rw [if_pos hasked] at hbefore
    rw [hpart.keys _ hbefore, hkept, eraseDups_append_self]
  · rw [if_neg hasked] at hbefore
    rw [hpart.keys [] (by simpa using hbefore), hkept, List.nil_append]

/-- A locale with a domain of the request is put in its place, and left out without one. -/
theorem domainsOf_place {available part : OrderedMap Value (OrderedMap Value String)}
    (h : c.Restricts domains asked selected)
    (hfind : c.levels.find? (.text locale) = some available)
    (hpart : Copies available (selected.domainsOf (.text locale)) part domains) (other : String) :
    (if part.isEmpty then selected else selected.withDomains (.text locale) part).domainsOf
        (.text other) = if other = locale then part else selected.domainsOf (.text other) := by
  split
  · rename_i hempty
    split
    · rename_i hother
      subst hother
      -- nothing of the locale was copied before either, so both levels are empty
      have hkept : c.kept domains other = [] := by
        simpa [isEmpty_of_keys (h.keys_copies hfind hpart)] using hempty
      have hbefore : (selected.domainsOf (.text other)).keys = [] := by
        rw [h.keys, hkept]
        simp
      have hafter : part.keys = [] := by
        rw [h.keys_copies hfind hpart, hkept]
        simp
      exact OrderedMap.ext ((List.map_eq_nil_iff.mp hbefore).trans
        (List.map_eq_nil_iff.mp hafter).symm)
    · rfl
  · rw [domainsOf, withDomains, find?_insert_text]
    split <;> rfl

/-- A locale that is there adds what it has of the request. -/
theorem concat_found {available part : OrderedMap Value (OrderedMap Value String)}
    (h : c.Restricts domains asked selected)
    (hfind : c.levels.find? (.text locale) = some available)
    (hpart : Copies available (selected.domainsOf (.text locale)) part domains) :
    c.Restricts domains (asked ++ [locale])
      (if part.isEmpty then selected else selected.withDomains (.text locale) part) where
  locales := by
    rw [isEmpty_of_keys (h.keys_copies hfind hpart), List.filter_append]
    cases hkept : (c.kept domains locale).isEmpty with
    | true => rw [if_pos rfl, h.locales, List.filter_cons_of_neg (by simp [hkept])]; simp
    | false =>
      rw [if_neg Bool.false_ne_true, List.filter_cons_of_pos (by simp [hkept])]
      exact keys_insert_text h.locales locale part
  keys := by
    intro other
    rw [h.domainsOf_place hfind hpart]
    by_cases hother : other = locale
    · rw [if_pos hother, h.keys_copies hfind hpart, hother]
      simp
    · rw [if_neg hother, h.keys]
      simp [hother]
  messages := by
    intro other domain messages
    rw [h.domainsOf_place hfind hpart]
    by_cases hother : other = locale
    · rw [if_pos hother, hpart.find?, hother, domainsOf_of_find? hfind]
      have hbefore := h.messages locale domain messages
      rw [domainsOf_of_find? hfind] at hbefore
      by_cases hdomain : domain ∈ domains
      · rw [if_pos hdomain]
        cases hfound : available.find? (.text domain) with
        | none => simpa [hfound] using hbefore
        | some found => simp [hdomain]
      · rw [if_neg hdomain, hbefore]
        simp [hdomain]
    · rw [if_neg hother, h.messages]
      simp [hother]

/-- A locale of which something was copied has a domain. -/
theorem keys_ne_nil (h : c.Restricts domains asked selected)
    (hlocale : Value.text locale ∈ selected.locales) :
    (selected.domainsOf (.text locale)).keys ≠ [] := by
  rw [h.locales] at hlocale
  obtain ⟨code, hcode, heq⟩ := List.mem_map.mp hlocale
  obtain rfl := Value.text.inj heq
  obtain ⟨hasked, hkept⟩ := List.mem_filter.mp (List.mem_eraseDups.mp hcode)
  obtain ⟨domain, hdomain⟩ := List.exists_mem_of_ne_nil (c.kept domains code) (by simpa using hkept)
  rw [h.keys, if_pos hasked]
  exact List.ne_nil_of_mem (List.mem_map_of_mem (List.mem_eraseDups.mpr hdomain))

end Restricts

theorem Keyed.place {part : OrderedMap Value (OrderedMap Value String)}
    (h : selected.Keyed Value.IsText)
    (hpart : part.Level Value.IsText (OrderedMap.Level Value.IsText (· ≠ ""))) :
    (if part.isEmpty then selected else selected.withDomains (.text locale) part).Keyed
      Value.IsText := by
  split
  · exact h
  · exact Level.insert h ⟨locale, rfl⟩ hpart

/-- The run over the locales of a request, from what is copied of those before them. -/
theorem exists_restricts (hc : c.Keyed Value.IsText) (locales : List String)
    (skipped : List Lookup) (h : c.Restricts domains asked selected)
    (hselected : selected.Keyed Value.IsText) :
    ∃ after, restrict.go c (domains.map .text) (locales.map .text) (selected, skipped) =
        .ok (after, skipped ++ (c.gaps domains locales).map Gap.lookup) ∧
      c.Restricts domains (asked ++ locales) after ∧ after.Keyed Value.IsText := by
  induction locales generalizing asked selected skipped with
  | nil =>
    refine ⟨selected, ?_, by simpa using h, hselected⟩
    simp [restrict.go, gaps]
  | cons locale rest ih =>
    rw [gaps, List.flatMap_cons, ← gaps, List.map_append, ← List.append_assoc]
    have hasked : asked ++ locale :: rest = asked ++ [locale] ++ rest := by simp
    rw [hasked]
    cases hfind : c.levels.find? (.text locale) with
    | none =>
      obtain ⟨after, hrun, hafter⟩ :=
        ih (skipped ++ [(Gap.ofLocale locale).lookup]) (h.concat_missing hfind) hselected
      refine ⟨after, ?_, hafter⟩
      have hgaps : c.gapsOf domains locale = [.ofLocale locale] := by
        simp [gapsOf, OrderedMap.contains, hfind]
      rw [hgaps, List.map_singleton, ← hrun, List.map_cons, restrict.go]
      simp only [Value.asKey_text, bind, Except.bind, hfind]
      rfl
    | some available =>
      obtain ⟨part, hpart, hcopies⟩ :=
        exists_copies locale available (selected.domainsOf (.text locale)) [] domains
      have hlevel := hcopies.level _ (Level.find? hc hfind) (hselected.domainsOf _)
      obtain ⟨after, hrun, hafter⟩ :=
        ih (skipped ++ (c.gapsOf domains locale).map Gap.lookup) (h.concat_found hfind hcopies)
          (hselected.place hlevel)
      refine ⟨after, ?_, hafter⟩
      have hgaps : (c.gapsOf domains locale).map Gap.lookup =
          (domains.filter fun domain => !available.contains (.text domain)).map
            fun domain => (Gap.ofDomain locale domain).lookup := by
        simp [gapsOf, OrderedMap.contains, hfind, hasDomain, domainsOf]
      rw [← hrun, List.map_cons, restrict.go]
      simp only [Value.asKey_text, bind, Except.bind, hfind, hpart, List.nil_append, hgaps]

end

end Catalogue

end Phrasebook
