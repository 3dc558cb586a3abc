import Phrasebook.Proofs.Catalogue.Restriction
import Phrasebook.Proofs.Translator.Reading

/-! A part of the catalogue of a translator. What was asked for and is there is copied, and every
gap is warned of by itself, in the order in which the gaps are met. -/

namespace Phrasebook

/-- What is said of a gap. -/
def Catalogue.Gap.diagnostic : Catalogue.Gap → Diagnostic
  | ofLocale locale => .localeNotFound locale
  | ofDomain locale domain => .domainNotFound domain locale

def Catalogue.Gap.warning (gap : Catalogue.Gap) : Event :=
  .logged { level := .warning, channel := .translator, message := gap.diagnostic.report }

namespace Translator

open Catalogue (Gap)

theorem skippedDiagnostic_lookup [Stack] (gap : Gap) :
    skippedDiagnostic gap.lookup = .ok gap.diagnostic := by
  cases gap <;> rfl

/-- One warning for each gap. -/
theorem run_warnSkipped [Stack] (gaps : List Gap) (s : Session) :
    (warnSkipped (gaps.map Gap.lookup)).run.run s =
      (.ok (), { s with events := s.events ++ gaps.map Gap.warning }) := by
  induction gaps generalizing s with
  | nil => simp only [List.map_nil, List.append_nil]; rfl
  | cons gap rest ih =>
    have hlog : (log .warning (.ok gap.diagnostic.report) : Action Unit).run.run s =
        (.ok (), { s with events := s.events ++ [gap.warning] }) := rfl
    rw [List.map_cons, warnSkipped, skippedDiagnostic_lookup, run_lift_bind, run_bind_of_ok _ hlog,
      ih, List.append_assoc, List.map_cons, List.singleton_append]

section

variable {t : Translator} {c selected : Catalogue} {gaps : List Gap}

theorem runAction_getCatalogue [Stack] {domains locales : Value} (hcatalogue : t.catalogue = some c)
    (h : c.restrict (requestedItems domains t.settings.defaultDomain)
        (requestedItems locales t.settings.fallbackLocale) =
      .ok (selected, gaps.map Gap.lookup)) :
    Step.runAction (getCatalogue domains locales) t =
      ({ result := .ok selected, events := gaps.map Gap.warning }, t) := by
  have hrequire := run_requireCatalogue { translator := t }
  rw [hcatalogue] at hrequire
  refine runAction_of_run (s := { translator := t, events := gaps.map Gap.warning }) ?_
  rw [getCatalogue, run_bind_of_ok _ hrequire, run_current_bind, h, run_lift_bind,
    run_bind_of_ok _ (run_warnSkipped gaps { translator := t })]
  rfl

/-- Restricting a catalogue under texts copies exactly the domains that are asked for and there,
and reports every gap once for each time that it is asked for. What is copied has no locale without
domains and is read back as it is; a translator gives it with a warning for each gap. -/
theorem excerpt_accounts_for_request [Stack] (hc : c.Keyed Value.IsText)
    (domains locales : List String) :
    ∃ selected,
      c.restrict (domains.map .text) (locales.map .text) =
        .ok (selected, (c.gaps domains locales).map Gap.lookup) ∧
      c.Restricts domains locales selected ∧
      (∀ locale ∈ selected.locales, (selected.domainsOf locale).keys ≠ []) ∧
      Catalogue.ofValue selected.toValue = .ok selected ∧
      ∀ (t : Translator) (domainsGiven localesGiven : Value), t.catalogue = some c →
        requestedItems domainsGiven t.settings.defaultDomain = domains.map .text →
        requestedItems localesGiven t.settings.fallbackLocale = locales.map .text →
        Step.runAction (getCatalogue domainsGiven localesGiven) t =
          ({ result := .ok selected, events := (c.gaps domains locales).map Gap.warning }, t) := by
  have hnothing : c.Restricts domains [] .empty := .nil
  obtain ⟨selected, hrun, hrestricts, hkeyed⟩ :=
    Catalogue.exists_restricts hc locales [] hnothing .empty
  rw [List.nil_append] at hrun hrestricts
  refine ⟨selected, hrun, hrestricts, ?_, Catalogue.ofValue_toValue hkeyed, ?_⟩
  · intro locale hlocale
    obtain ⟨code, rfl⟩ := hkeyed.keys locale hlocale
    exact hrestricts.keys_ne_nil hlocale
  · intro t domainsGiven localesGiven hcatalogue hdomains hlocales
    refine runAction_getCatalogue hcatalogue ?_
    rw [hdomains, hlocales]
    exact hrun

section

attribute [local instance] Stack.ample

/-- A locale that is asked for twice is copied once, and its missing domain is reported twice. -/
theorem excerpt_accounts_for_repeated_locale :
    let c := Catalogue.empty.insert (.text "en") (.text "messages") (.text "hello") "Hello"
    let t : Translator := { settings := default, catalogue := some c }
    let gaps := [Gap.ofLocale "fr", .ofDomain "en" "forms", .ofDomain "en" "forms"]
    c.Keyed Value.IsText ∧
      Step.runAction (getCatalogue (.list [.text "forms", .text "messages"])
        (.list [.text "fr", .text "en", .text "en"])) t =
          ({ result := .ok c, events := gaps.map Gap.warning }, t) := by
  intro c t gaps
  have hc : c.Keyed Value.IsText := Catalogue.Keyed.empty.insert ⟨"en", rfl⟩ ⟨"messages", rfl⟩
    ⟨"hello", rfl⟩ (by simp)
  obtain ⟨selected, hrestrict, -, -, -, hexcerpt⟩ :=
    excerpt_accounts_for_request hc ["forms", "messages"] ["fr", "en", "en"]
  have hgaps : c.gaps ["forms", "messages"] ["fr", "en", "en"] = gaps := by decide +kernel
  have hselected : selected = c := by
    have hrun : c.restrict [.text "forms", .text "messages"]
        [.text "fr", .text "en", .text "en"] = .ok (c, gaps.map Gap.lookup) := by rfl
    exact congrArg Prod.fst (Except.ok.inj (hrestrict.symm.trans hrun))
  rw [hselected, hgaps] at hexcerpt
  exact ⟨hc, hexcerpt t _ _ rfl rfl rfl⟩

end

end

end Translator

end Phrasebook
