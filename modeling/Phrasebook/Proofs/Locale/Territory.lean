import Phrasebook.Proofs.Locale.Language
import Phrasebook.Proofs.Number.Value

/-! The two rules of Portuguese. A territory counts only in a code that is read as a whole. After
it there may be one variant and then an encoding or a modifier; any other part, such as an
extension, leaves the code unread, and with it the territory unknown. So Brazilian codes have the
Brazilian rule, by which zero takes the singular, just when they are read, and all other codes of
Portuguese have the European one. -/

namespace Phrasebook

namespace Locale

open Text

/-- What stands between a language and a territory: a separator, or a script between two. -/
inductive Joint : List Char → Prop
  | separator {c : Char} (hc : isSeparator c = true) : Joint [c]
  | script {first second : Char} {script : List Char} (hfirst : isSeparator first = true)
      (hsecond : isSeparator second = true) (hlength : script.length = 4)
      (hletters : isWordOf isLetter script = true) : Joint (first :: (script ++ [second]))

/-- A territory of two letters. -/
def IsCountry (part : List Char) : Prop := part.length = 2 ∧ isWordOf isLetter part = true

instance (part : List Char) : Decidable (IsCountry part) := inferInstanceAs (Decidable (_ ∧ _))

/-- What may follow a territory in a code that is read: at most a variant, before anything else
that is not looked at. -/
def Completes (tail : List Char) : Prop :=
  Parts tail [] ∨ ∃ variant, isVariant variant = true ∧ Parts tail [variant]

/-- By the rule of a code, zero takes the form of one. -/
def ZeroIsSingular (code : String) : Prop :=
  pluralPosition (.int 1) code = .ok 0 ∧
    ∀ count : Count, count.isFinite = true → count.value = 0 → pluralPosition count code = .ok 0

/-! ## Territories among parts -/

theorem isEmpty_dropVariant_iff {parts : List (List Char)} :
    (dropVariant parts).isEmpty = true ↔
      parts = [] ∨ ∃ variant, isVariant variant = true ∧ parts = [variant] := by
  match parts with
  | [] => simp [dropVariant]
  | [part] => cases h : isVariant part <;> simp [dropVariant, h]
  | part :: next :: rest => cases h : isVariant part <;> simp [dropVariant, h]

section

variable {territory : List Char} {parts : List (List Char)}

theorem territoryIn_country (h : IsCountry territory) :
    territoryIn (territory :: parts) =
      if (dropVariant parts).isEmpty then some (upper territory) else none := by
  simp [territoryIn, dropScript, takeTerritory, h.1, h.2]

theorem territoryIn_script {script : List Char} (hlength : script.length = 4)
    (hletters : isWordOf isLetter script = true) (h : IsCountry territory) :
    territoryIn (script :: territory :: parts) = territoryIn (territory :: parts) := by
  simp [territoryIn, dropScript, hlength, hletters, h.1]

/-- A territory of two letters is found when nothing or a variant follows it, and not found when
anything else does. -/
theorem exists_parts_joint {joint suffix : List Char} (hjoint : Joint joint)
    (hterritory : IsCountry territory) (hsuffix : Parts suffix parts) :
    ∃ all, Parts (joint ++ (territory ++ suffix)) all ∧ territoryIn all =
      if (dropVariant parts).isEmpty then some (upper territory) else none := by
  have hplain := isPlain_of_letters hterritory.2
  cases hjoint with
  | @separator c hc =>
    have hparts := Parts.part hc hplain hsuffix
    exact ⟨territory :: parts, hparts, territoryIn_country hterritory⟩
  | @script first second script hfirst hsecond hlength hletters =>
    have hscript := isPlain_of_letters hletters
    refine ⟨script :: territory :: parts, ?_, ?_⟩
    · have hafter := Parts.part hfirst hscript (.part hsecond hplain hsuffix)
      simpa using hafter
    · rw [territoryIn_script hlength hletters hterritory, territoryIn_country hterritory]

end

/-! ## Rules of Portuguese -/

section

variable {language joint territory suffix code : String}

theorem pluralKey_portuguese {found : Option (List Char)}
    (h : tag code.toList = { language := "pt".toList, territory := found }) :
    pluralKey PluralFamily.knownKeys code =
      if found = some ['B', 'R'] then brazilianKey else "pt" := by
  have hcontains : PluralFamily.knownKeys.contains "pt" = true := by decide
  simp only [pluralKey, h, String.ofList_toList, decide_true, Bool.true_and, decide_eq_true_eq,
    hcontains, if_true]

theorem zeroIsSingular_of_brazilianKey
    (h : pluralKey PluralFamily.knownKeys code = brazilianKey) : ZeroIsSingular code := by
  have hfamily : PluralFamily.ofLocale code = .zeroOneOther := by
    rw [PluralFamily.ofLocale, h]
    decide
  have hposition (count : Count) : pluralPosition count code = do
      if ← count.equalsEither 0 1 then return 0
      return 1 := by
    rw [pluralPosition, hfamily]
    rfl
  refine ⟨by rw [hposition]; rfl, fun count hfinite hzero => ?_⟩
  rw [hposition, Count.equalsEither, Count.equals_eq hfinite, hzero]
  rfl

theorem ofLocale_of_pt (h : pluralKey PluralFamily.knownKeys code = "pt") :
    PluralFamily.ofLocale code = .oneOther := by
  rw [PluralFamily.ofLocale, h]
  decide

theorem not_zeroIsSingular_of_pt (h : pluralKey PluralFamily.knownKeys code = "pt") :
    ¬ ZeroIsSingular code := by
  rintro ⟨-, hzero⟩
  have hposition : pluralPosition (.int 0) code = .ok 1 := by
    rw [pluralPosition, ofLocale_of_pt h]
    rfl
  have hsame := hposition.symm.trans (hzero (.int 0) rfl Int.cast_zero)
  cases hsame

theorem pluralKey_country (hlanguage : lower language.toList = "pt".toList)
    (hjoint : Joint joint.toList) (hterritory : IsCountry territory.toList)
    {parts : List (List Char)} (hsuffix : Parts suffix.toList parts) :
    pluralKey PluralFamily.knownKeys (language ++ joint ++ territory ++ suffix) =
      if (dropVariant parts).isEmpty = true ∧ upper territory.toList = ['B', 'R'] then brazilianKey
      else "pt" := by
  obtain ⟨all, hall, hfound⟩ := exists_parts_joint hjoint hterritory hsuffix
  have hparts : Parts (joint ++ (territory ++ suffix)).toList all := by
    rw [String.toList_append, String.toList_append]
    exact hall
  have htag := tag_append_of_lower (by decide) hlanguage hparts
  rw [hfound] at htag
  rw [String.append_assoc, String.append_assoc, pluralKey_portuguese htag]
  cases (dropVariant parts).isEmpty <;> simp

end

end Locale

open Phrasebook.Locale

/-- A code of Portuguese with the territory of Brazil, in any letter case and with a script or
without, has the Brazilian rule when at most a variant and then an encoding or a modifier follow.
With anything else after the territory it has the European rule, as has the language alone or with
any other territory of two letters. -/
theorem portuguese_rules {language : String}
    (hlanguage : Text.lower language.toList = "pt".toList) :
    (pluralKey PluralFamily.knownKeys language = "pt" ∧
      PluralFamily.ofLocale language = .oneOther) ∧
    ∀ joint territory suffix : String, Joint joint.toList → IsCountry territory.toList →
      Follows suffix.toList →
      let code := language ++ joint ++ territory ++ suffix
      (Text.upper territory.toList = ['B', 'R'] → Completes suffix.toList →
        pluralKey PluralFamily.knownKeys code = brazilianKey ∧ ZeroIsSingular code) ∧
      (¬ (Text.upper territory.toList = ['B', 'R'] ∧ Completes suffix.toList) →
        pluralKey PluralFamily.knownKeys code = "pt" ∧
          PluralFamily.ofLocale code = .oneOther) := by
  refine ⟨?_, fun joint territory suffix hjoint hterritory hsuffix => ⟨?_, ?_⟩⟩
  · have hparts : Parts "".toList [] := .done fun c hc => nomatch hc
    have htag := tag_append_of_lower (by decide) hlanguage hparts
    rw [String.append_empty] at htag
    have hkey : pluralKey PluralFamily.knownKeys language = "pt" := pluralKey_portuguese htag
    exact ⟨hkey, ofLocale_of_pt hkey⟩
  · intro hbrazil hcompletes
    obtain ⟨parts, hparts, hread⟩ : ∃ parts, Parts suffix.toList parts ∧
        (dropVariant parts).isEmpty = true := by
      rcases hcompletes with h | ⟨variant, hvariant, h⟩
      · exact ⟨[], h, rfl⟩
      · exact ⟨[variant], h, isEmpty_dropVariant_iff.mpr (.inr ⟨variant, hvariant, rfl⟩)⟩
    have hkey := pluralKey_country hlanguage hjoint hterritory hparts
    rw [if_pos ⟨hread, hbrazil⟩] at hkey
    exact ⟨hkey, zeroIsSingular_of_brazilianKey hkey⟩
  · intro hother
    obtain ⟨parts, hparts⟩ := exists_parts hsuffix
    have hkey := pluralKey_country hlanguage hjoint hterritory hparts
    rw [if_neg] at hkey
    · exact ⟨hkey, ofLocale_of_pt hkey⟩
    · rintro ⟨hread, hbrazil⟩
      refine hother ⟨hbrazil, ?_⟩
      rcases isEmpty_dropVariant_iff.mp hread with rfl | ⟨variant, hvariant, rfl⟩
      · exact .inl hparts
      · exact .inr ⟨variant, hvariant, hparts⟩

/-- A Brazilian code with everything that may stand in one that is read. -/
theorem portuguese_rules_of_brazil :
    Text.lower "PT".toList = "pt".toList ∧ Joint "-Latn_".toList ∧ IsCountry "Br".toList ∧
      Follows "-abl1943.utf8@x-y".toList ∧ Text.upper "Br".toList = ['B', 'R'] ∧
      Completes "-abl1943.utf8@x-y".toList ∧
      pluralKey PluralFamily.knownKeys "PT-Latn_Br-abl1943.utf8@x-y" = brazilianKey ∧
      ZeroIsSingular "PT-Latn_Br-abl1943.utf8@x-y" := by
  have hlanguage : Text.lower "PT".toList = "pt".toList := by decide +kernel
  have hjoint : Joint "-Latn_".toList :=
    @Joint.script '-' '_' "Latn".toList rfl rfl rfl (by decide +kernel)
  have hterritory : IsCountry "Br".toList := by decide +kernel
  have hsuffix : Follows "-abl1943.utf8@x-y".toList := fun c hc => Option.some.inj hc ▸ rfl
  have hbrazil : Text.upper "Br".toList = ['B', 'R'] := by decide +kernel
  have hparts : Parts "-abl1943.utf8@x-y".toList ["abl1943".toList] :=
    @Parts.part '-' "abl1943".toList ".utf8@x-y".toList [] rfl (by decide)
      (.done fun c hc => Option.some.inj hc ▸ rfl)
  have hcompletes : Completes "-abl1943.utf8@x-y".toList :=
    .inr ⟨"abl1943".toList, by decide +kernel, hparts⟩
  obtain ⟨hkey, hzero⟩ := ((portuguese_rules hlanguage).2 "-Latn_" "Br" "-abl1943.utf8@x-y"
    hjoint hterritory hsuffix).1 hbrazil hcompletes
  exact ⟨hlanguage, hjoint, hterritory, hsuffix, hbrazil, hcompletes, hkey, hzero⟩

/-- An extension after the territory hides it, and zero does not take the singular. -/
theorem extension_hides_territory :
    Joint "-".toList ∧ IsCountry "BR".toList ∧ Follows "-u-ca-gregory".toList ∧
      pluralKey PluralFamily.knownKeys "pt-BR-u-ca-gregory" ≠ brazilianKey ∧
      ¬ ZeroIsSingular "pt-BR-u-ca-gregory" := by
  have hkey : pluralKey PluralFamily.knownKeys "pt-BR-u-ca-gregory" = "pt" := by decide +kernel
  refine ⟨.separator rfl, by decide +kernel, fun c hc => Option.some.inj hc ▸ rfl, ?_, ?_⟩
  · rw [hkey]
    decide
  · exact not_zeroIsSingular_of_pt hkey

end Phrasebook
