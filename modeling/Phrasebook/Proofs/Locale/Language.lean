import Phrasebook.Plural.Family
import Phrasebook.Proofs.Text.Run

/-! The language of a locale code. Whatever follows the language, the code is either read part by
part or taken up to its first separator, and both find the same language, since nothing after a
point or an at sign is looked at. So the key of a language whose rule does not depend on the
territory is the key of every code of that language. -/

namespace Phrasebook

namespace Locale

open Text

/-! ## Parts of a code -/

def isSeparator (c : Char) : Bool := c = '-' || c = '_'

/-- The characters after which a code says nothing about the locale itself. -/
def isAside (c : Char) : Bool := c = '.' || c = '@'

def isMark (c : Char) : Bool := isSeparator c || isAside c

/-- The characters of a part of a code. -/
def IsPlain (part : List Char) : Prop := ∀ c ∈ part, isMark c = false

/-- A text that may follow a part: none, or one that begins with a mark. -/
def Follows (tail : List Char) : Prop := ∀ c ∈ tail.head?, isMark c = true

instance (part : List Char) : Decidable (IsPlain part) :=
  List.decidableBAll (fun c => isMark c = false) part

/-- What no mark has tells a character from the marks. -/
theorem isMark_eq_false {P : Char → Prop} (hmarks : ¬ P '-' ∧ ¬ P '_' ∧ ¬ P '.' ∧ ¬ P '@')
    {c : Char} (h : P c) : isMark c = false := by
  cases hmark : isMark c with
  | false => rfl
  | true =>
    have hcases : c = '-' ∨ c = '_' ∨ c = '.' ∨ c = '@' := by
      simpa [isMark, isSeparator, isAside, or_assoc] using hmark
    obtain ⟨hhyphen, hunderscore, hpoint, hat⟩ := hmarks
    rcases hcases with rfl | rfl | rfl | rfl
    · exact absurd h hhyphen
    · exact absurd h hunderscore
    · exact absurd h hpoint
    · exact absurd h hat

theorem isPlain_of_letters {part : List Char} (h : isWordOf isLetter part = true) :
    IsPlain part := by
  have hmarks : ¬ isLetter '-' = true ∧ ¬ isLetter '_' = true ∧ ¬ isLetter '.' = true ∧
      ¬ isLetter '@' = true := by decide
  rw [isWordOf, Bool.and_eq_true, List.all_eq_true] at h
  exact fun c hc => isMark_eq_false (P := fun c => isLetter c = true) hmarks (h.2 c hc)

/-- How a text after a part of a code goes on: by further parts, each behind a separator. -/
inductive Parts : List Char → List (List Char) → Prop
  | done {tail : List Char} (htail : ∀ c ∈ tail.head?, isAside c = true) : Parts tail []
  | part {separator : Char} {part tail : List Char} {parts : List (List Char)}
      (hseparator : isSeparator separator = true) (hpart : IsPlain part)
      (htail : Parts tail parts) : Parts (separator :: (part ++ tail)) (part :: parts)

/-- What follows a part always goes on in some way. -/
theorem exists_parts {tail : List Char} (h : Follows tail) : ∃ parts, Parts tail parts := by
  induction hn : tail.length using Nat.strongRecOn generalizing tail with
  | ind n ih =>
    subst hn
    cases tail with
    | nil => exact ⟨[], .done fun c hc => nomatch hc⟩
    | cons c rest =>
      cases hseparator : isSeparator c with
      | false =>
        have hmark : isMark c = true := h c rfl
        rw [isMark, hseparator, Bool.false_or] at hmark
        exact ⟨[], .done fun d hd => Option.some.inj hd ▸ hmark⟩
      | true =>
        have hlength := (List.dropWhile_suffix (fun c => !isMark c) (l := rest)).length_le
        have hafter : Follows (rest.dropWhile fun c => !isMark c) := fun d hd => by
          simpa using stops_dropWhile (fun c => !isMark c) rest d hd
        obtain ⟨parts, hparts⟩ := ih _ (Nat.lt_succ_of_le hlength) hafter rfl
        have hplain : IsPlain (rest.takeWhile fun c => !isMark c) := fun d hd => by
          simpa using List.all_eq_true.mp List.all_takeWhile d hd
        have hpart := Parts.part hseparator hplain hparts
        rw [List.takeWhile_append_dropWhile] at hpart
        exact ⟨_, hpart⟩

/-! ## Reading a code by its parts -/

/-- What of a code is looked at. -/
def body (code : List Char) : List Char := (code.takeWhile (· ≠ '@')).takeWhile (· ≠ '.')

section

variable {part tail : List Char}

theorem IsPlain.ne (h : IsPlain part) {c d : Char} (hc : c ∈ part) (hd : isMark d = true) :
    c ≠ d := by
  rintro rfl
  rw [h c hc] at hd
  cases hd

theorem IsPlain.normalize (h : IsPlain part) : normalize part = part := by
  refine (List.map_congr_left fun c hc => ?_).trans part.map_id'
  rw [if_neg (h.ne hc (by decide))]

theorem body_append (h : IsPlain part) : body (part ++ tail) = part ++ body tail := by
  unfold body
  rw [List.takeWhile_append_of_pos fun c hc => decide_eq_true (h.ne hc (by decide)),
    List.takeWhile_append_of_pos fun c hc => decide_eq_true (h.ne hc (by decide))]

/-- A part in front of other parts is split off. -/
theorem split_append_parts (h : IsPlain part) {parts : List (List Char)}
    (htail : split ['_'] (body tail) = [] :: parts) :
    split ['_'] (body (part ++ tail)) = part :: parts := by
  have hin : ∀ c ∈ part, c ∉ ['_'] := fun c hc hmem =>
    h.ne hc (by decide) (List.mem_singleton.mp hmem)
  rw [body_append h, split_append_left (by decide) hin htail, List.append_nil]

theorem normalize_separator {separator : Char} (h : isSeparator separator = true) :
    normalize (separator :: tail) = '_' :: normalize tail := by
  rw [normalize_cons]
  split
  · rfl
  · rename_i hne
    rw [isSeparator, decide_eq_false hne, Bool.false_or, decide_eq_true_eq] at h
    rw [h]

theorem split_of_parts {parts : List (List Char)} (h : Parts tail parts) :
    split ['_'] (body (normalize tail)) = [] :: parts := by
  induction h with
  | @done tail htail =>
    cases tail with
    | nil => rfl
    | cons c rest =>
      have hc := htail c rfl
      rw [isAside, Bool.or_eq_true, decide_eq_true_eq, decide_eq_true_eq] at hc
      rcases hc with rfl | rfl <;> rfl
  | @part separator part tail parts hseparator hpart _ ih =>
    rw [normalize_separator hseparator, normalize_append, hpart.normalize]
    show split ['_'] (['_'] ++ body (part ++ _)) = _
    rw [split_append _ _ (by decide), split_append_parts hpart ih]

/-- The territory among the parts after a language, if nothing but a variant is left behind it. -/
def territoryIn (parts : List (List Char)) : Option (List Char) :=
  let (territory, rest) := takeTerritory (dropScript parts)
  if (dropVariant rest).isEmpty then territory else none

/-- The language of a code is what stands before its other parts, whether these are read or not. -/
theorem tag_append {language : List Char} {parts : List (List Char)} (hlanguage : IsPlain language)
    (hletters : isWordOf isLetter (lower language) = true) (h : Parts tail parts) :
    tag (language ++ tail) = { language := lower language, territory := territoryIn parts } := by
  have hnormal : normalize (language ++ tail) = language ++ normalize tail := by
    rw [normalize_append, hlanguage.normalize]
  have hsplit : split ['_'] (body (normalize (language ++ tail))) = language :: parts := by
    rw [hnormal]
    exact split_append_parts hlanguage (split_of_parts h)
  have hread : readTag? (normalize (language ++ tail)) =
      if (dropVariant (takeTerritory (dropScript parts)).2).isEmpty then
        some { language := lower language, territory := (takeTerritory (dropScript parts)).1 }
      else none := by
    rw [body] at hsplit
    simp only [readTag?, hsplit, hletters, Bool.true_and]
  -- a code that is not read has further parts, so its first separator ends the language
  have htake (hparts : parts ≠ []) :
      (normalize (language ++ tail)).takeWhile (· ≠ '_') = language := by
    cases h with
    | done => exact absurd rfl hparts
    | part hseparator =>
      rw [hnormal, normalize_separator hseparator]
      refine takeWhile_run (fun c hc => ?_) (stops_cons.mpr (by decide))
      exact decide_eq_true (hlanguage.ne hc (by decide))
  unfold tag territoryIn
  dsimp only
  rw [hread]
  cases hrest : (dropVariant (takeTerritory (dropScript parts)).2).isEmpty with
  | true => rfl
  | false =>
    have hparts : parts ≠ [] := by
      rintro rfl
      cases hrest
    simp only [Bool.false_eq_true, if_false, htake hparts]

end

/-! ## Languages with a rule -/

/-- Lowering a text hides none of its marks. -/
theorem isPlain_of_lower {word : List Char} (h : IsPlain (lower word)) : IsPlain word := by
  have hnot {d : Char} (hlowered : IsLowered d) (hmark : isMark d = true) : d ∉ word :=
    fun hword => absurd rfl (h.ne (mem_lower hlowered hword) hmark)
  exact fun c hc => isMark_eq_false (P := (· ∈ word)) ⟨hnot (by decide) rfl,
    hnot (by decide) rfl, hnot (by decide) rfl, hnot (by decide) rfl⟩ hc

def isSmall (c : Char) : Bool := 97 ≤ c.toNat && c.toNat < 123

theorem isLetter_of_isSmall {c : Char} (h : isSmall c = true) : isLetter c = true := by
  rw [isSmall, Bool.and_eq_true, decide_eq_true_eq, decide_eq_true_eq] at h
  rw [isLetter, letterSwitches, switched_of_ge _ (by omega), switched_of_ge _ (by omega),
    switched_of_ge _ h.1, switched_of_lt _ h.2]
  rfl

theorem isLowered_of_isSmall {c : Char} (h : isSmall c = true) : IsLowered c := by
  rw [isSmall, Bool.and_eq_true, decide_eq_true_eq, decide_eq_true_eq] at h
  unfold IsLowered
  omega

theorem all_knownKeys_isSmall :
    (PluralFamily.knownKeys.all fun key => isWordOf isSmall key.toList) = true := by
  decide +kernel

/-- Keys are words of small letters. -/
theorem knownKeys_spelling {key : String} (h : key ∈ PluralFamily.knownKeys) :
    isWordOf isLetter key.toList = true ∧ lower key.toList = key.toList := by
  have hkey := List.all_eq_true.mp all_knownKeys_isSmall key h
  rw [isWordOf, Bool.and_eq_true, List.all_eq_true] at hkey
  rw [isWordOf, Bool.and_eq_true, List.all_eq_true]
  exact ⟨⟨hkey.1, fun c hc => isLetter_of_isSmall (hkey.2 c hc)⟩,
    lower_of_isLowered fun c hc => isLowered_of_isSmall (hkey.2 c hc)⟩

section

variable {key word suffix : String}

theorem tag_append_of_lower (hkey : key ∈ PluralFamily.knownKeys)
    (hword : lower word.toList = key.toList) {parts : List (List Char)}
    (h : Parts suffix.toList parts) :
    tag (word ++ suffix).toList = { language := key.toList, territory := territoryIn parts } := by
  have hletters := (knownKeys_spelling hkey).1
  rw [← hword] at hletters ⊢
  rw [String.toList_append]
  exact tag_append (isPlain_of_lower (isPlain_of_letters hletters)) hletters h

/-- The key of a language other than Portuguese is the key of every code of that language. -/
theorem pluralKey_append (hkey : key ∈ PluralFamily.knownKeys) (hportuguese : key ≠ "pt")
    (hword : lower word.toList = key.toList) (hsuffix : Follows suffix.toList) :
    pluralKey PluralFamily.knownKeys (word ++ suffix) = key := by
  obtain ⟨parts, hparts⟩ := exists_parts hsuffix
  have hcontains : PluralFamily.knownKeys.contains key = true := List.contains_iff_mem.mpr hkey
  simp only [pluralKey, tag_append_of_lower hkey hword hparts, String.ofList_toList, hportuguese,
    decide_false, Bool.false_and, Bool.false_eq_true, if_false, hcontains, if_true]

end

end Locale

open Phrasebook.Locale

/-- Neither letter case nor anything that follows the language in a code changes the plural rule of
a language other than Portuguese, whether the code can be read or not. -/
theorem language_decides_rule {key word suffix : String} (hkey : key ∈ PluralFamily.knownKeys)
    (hportuguese : key ≠ "pt") (hword : Text.lower word.toList = key.toList)
    (hsuffix : Follows suffix.toList) :
    pluralKey PluralFamily.knownKeys (word ++ suffix) = key ∧
      (∀ count, pluralPosition count (word ++ suffix) = pluralPosition count key) ∧
      pluralFormCount (word ++ suffix) = pluralFormCount key := by
  have hwith : pluralKey PluralFamily.knownKeys (word ++ suffix) = key :=
    pluralKey_append hkey hportuguese hword hsuffix
  have halone : pluralKey PluralFamily.knownKeys key = key := by
    have hlower := (knownKeys_spelling hkey).2
    have hempty : Follows "".toList := fun c hc => nomatch hc
    simpa using pluralKey_append hkey hportuguese hlower hempty
  have hfamily : PluralFamily.ofLocale (word ++ suffix) = PluralFamily.ofLocale key := by
    rw [PluralFamily.ofLocale, PluralFamily.ofLocale, hwith, halone]
  refine ⟨hwith, fun count => ?_, ?_⟩
  · rw [pluralPosition, pluralPosition, hfamily]
  · rw [pluralFormCount, pluralFormCount, hfamily]

/-- A Kelvin sign is lowered to a letter of the Latin alphabet, and the code cannot be read. -/
theorem language_decides_rule_of_kurdish :
    "ku" ∈ PluralFamily.knownKeys ∧ "ku" ≠ "pt" ∧
      Text.lower "\u212aU".toList = "ku".toList ∧ Follows "-x--.@".toList ∧
      readTag? (normalize "\u212aU-x--.@".toList) = none ∧
      pluralKey PluralFamily.knownKeys "\u212aU-x--.@" = "ku" ∧
      pluralFormCount "\u212aU-x--.@" = 2 := by
  have hkey : "ku" ∈ PluralFamily.knownKeys := by decide
  have hportuguese : "ku" ≠ "pt" := by decide
  have hword : Text.lower "\u212aU".toList = "ku".toList := by decide +kernel
  have hsuffix : Follows "-x--.@".toList := fun c hc => Option.some.inj hc ▸ rfl
  obtain ⟨hsame, -, hforms⟩ := language_decides_rule hkey hportuguese hword hsuffix
  exact ⟨hkey, hportuguese, hword, hsuffix, by decide +kernel, hsame,
    hforms.trans (by decide +kernel)⟩

end Phrasebook
