import Phrasebook.Count
import Phrasebook.Locale

/-! Plural families: languages that choose among the variants of a message by one rule. A rule maps
a count to the position of its variant; the last position is the general form. Rules are stated on
the count and on its last one or two digits, taken by a remainder that keeps the sign, so no ending
of a negative count is ever met. -/

namespace Phrasebook

inductive PluralFamily where
  | invariable
  | oneOther
  | zeroOneOther
  | slavic
  | czech
  | irish
  | lithuanian
  | slovenian
  | macedonian
  | maltese
  | latvian
  | polish
  | welsh
  | romanian
  | arabic
  deriving DecidableEq, Repr

namespace PluralFamily

def all : List PluralFamily :=
  [invariable, oneOther, zeroOneOther, slavic, czech, irish, lithuanian, slovenian, macedonian,
    maltese, latvian, polish, welsh, romanian, arabic]

theorem mem_all (family : PluralFamily) : family ∈ all := by cases family <;> decide

/-- The keys of the languages of a family. -/
def languages : PluralFamily → List String
  | invariable =>
    ["bo", "dz", "id", "ja", "jv", "ka", "km", "kn", "ko", "ms", "th", "tr", "vi", "zh"]
  | oneOther =>
    ["af", "az", "bn", "bg", "ca", "da", "de", "el", "en", "eo", "es", "et", "eu", "fa", "fi", "fo",
      "fur", "fy", "gl", "gu", "ha", "he", "hu", "is", "it", "ku", "lb", "ml", "mn", "mr", "nah",
      "nb", "ne", "nl", "nn", "no", "om", "or", "pa", "pap", "ps", "pt", "so", "sq", "sv", "sw",
      "ta", "te", "tk", "ur", "zu"]
  | zeroOneOther => ["am", "bh", "fil", "fr", "gun", "hi", "ln", "mg", "nso", "xbr", "ti", "wa"]
  | slavic => ["be", "bs", "hr", "ru", "sr", "uk"]
  | czech => ["cs", "sk"]
  | irish => ["ga"]
  | lithuanian => ["lt"]
  | slovenian => ["sl"]
  | macedonian => ["mk"]
  | maltese => ["mt"]
  | latvian => ["lv"]
  | polish => ["pl"]
  | welsh => ["cy"]
  | romanian => ["ro"]
  | arabic => ["ar"]

/-- The keys of every family. -/
def knownKeys : List String := all.flatMap languages

/-- The number of variants that a complete message has. -/
def formCount : PluralFamily → Nat
  | invariable => 1
  | oneOther | zeroOneOther | macedonian => 2
  | slavic | czech | irish | lithuanian | latvian | polish | romanian => 3
  | slovenian | maltese | welsh => 4
  | arabic => 6

/-- The family of a key; a key of no family has one form. -/
def ofKey (key : String) : PluralFamily :=
  (all.find? fun family => family.languages.contains key).getD invariable

/-- The family of a locale code. -/
def ofLocale (code : String) : PluralFamily := ofKey (Locale.pluralKey knownKeys code)

open Phrasebook.Count

/-- The position of the variant for a count. -/
def position (family : PluralFamily) (n : Count) : Except Fault Nat :=
  match family with
  | invariable => return 0
  | oneOther => do
    if ← n.equals 1 then return 0
    return 1
  | zeroOneOther => do
    if ← n.equalsEither 0 1 then return 0
    return 1
  | slavic => do
    let last ← n.remainder 10
    let lastTwo ← n.remainder 100
    if ← both (last.equals 1) ((lastTwo.equals 11).map not) then return 0
    if ← both (last.isWithin 2 4) (either (lastTwo.isBelow 10) (lastTwo.isAtLeast 20)) then
      return 1
    return 2
  | czech => do
    if ← n.equals 1 then return 0
    if ← n.isWithin 2 4 then return 1
    return 2
  | irish => do
    if ← n.equals 1 then return 0
    if ← n.equals 2 then return 1
    return 2
  | lithuanian => do
    let last ← n.remainder 10
    let lastTwo ← n.remainder 100
    if ← both (last.equals 1) ((lastTwo.equals 11).map not) then return 0
    if ← both (last.isAtLeast 2) (either (lastTwo.isBelow 10) (lastTwo.isAtLeast 20)) then return 1
    return 2
  | slovenian => do
    let lastTwo ← n.remainder 100
    if ← lastTwo.equals 1 then return 0
    if ← lastTwo.equals 2 then return 1
    if ← lastTwo.equalsEither 3 4 then return 2
    return 3
  | macedonian => do
    let last ← n.remainder 10
    if ← last.equals 1 then return 0
    return 1
  | maltese => do
    let lastTwo ← n.remainder 100
    if ← n.equals 1 then return 0
    if ← either (n.equals 0) (both (lastTwo.isAbove 1) (lastTwo.isBelow 11)) then return 1
    if ← both (lastTwo.isAbove 10) (lastTwo.isBelow 20) then return 2
    return 3
  | latvian => do
    if ← n.equals 0 then return 0
    let last ← n.remainder 10
    let lastTwo ← n.remainder 100
    if ← both (last.equals 1) ((lastTwo.equals 11).map not) then return 1
    return 2
  | polish => do
    let last ← n.remainder 10
    let lastTwo ← n.remainder 100
    if ← n.equals 1 then return 0
    if ← both (last.isWithin 2 4) (either (lastTwo.isBelow 12) (lastTwo.isAbove 14)) then return 1
    return 2
  | welsh => do
    if ← n.equals 1 then return 0
    if ← n.equals 2 then return 1
    if ← n.equalsEither 8 11 then return 2
    return 3
  | romanian => do
    if ← n.equals 1 then return 0
    let lastTwo ← n.remainder 100
    if ← either (n.equals 0) (both (lastTwo.isAbove 0) (lastTwo.isBelow 20)) then return 1
    return 2
  | arabic => do
    if ← n.equals 0 then return 0
    if ← n.equals 1 then return 1
    if ← n.equals 2 then return 2
    if ← n.isWithin 3 10 then return 3
    if ← n.isWithin 11 99 then return 4
    return 5

end PluralFamily

/-- The position of the variant for a count in a locale. -/
def pluralPosition (count : Count) (code : String) : Except Fault Nat :=
  (PluralFamily.ofLocale code).position count

/-- The number of variants that a complete message has in a locale. -/
def pluralFormCount (code : String) : Nat := (PluralFamily.ofLocale code).formCount

end Phrasebook
