import Phrasebook.Text.Blank
import Phrasebook.Text.Case
import Phrasebook.Text.Digit
import Phrasebook.Text.Encoding
import Phrasebook.Text.Letter
import Phrasebook.Text.Printable
import Phrasebook.Text.Quoted
import Phrasebook.Text.Split
import Phrasebook.Number.Digits
import Phrasebook.Number.Literal
import Phrasebook.Number.Decimal
import Phrasebook.Number.Decimal.Remainder
import Phrasebook.Number.Binary64
import Phrasebook.Number.Binary64.Shortest
import Phrasebook.Diagnostic
import Phrasebook.Diagnostic.Printer
import Phrasebook.Fault
import Phrasebook.Stack
import Phrasebook.OrderedMap
import Phrasebook.Value
import Phrasebook.Value.Printer
import Phrasebook.Count
import Phrasebook.Count.Reader
import Phrasebook.Locale
import Phrasebook.Plural.Family
import Phrasebook.Condition
import Phrasebook.Condition.Reader
import Phrasebook.Template
import Phrasebook.Template.Selection
import Phrasebook.Placeholder
import Phrasebook.Catalogue
import Phrasebook.Catalogue.Format
import Phrasebook.Catalogue.Document
import Phrasebook.Json.Reader
import Phrasebook.Settings
import Phrasebook.Translator
import Phrasebook.Translator.Step
import Phrasebook.Proofs.Text.Run
import Phrasebook.Proofs.Condition.Grammar
import Phrasebook.Proofs.Number.Value
import Phrasebook.Proofs.Number.DigitCount
import Phrasebook.Proofs.Number.TrailingZeros
import Phrasebook.Proofs.Number.Magnitude
import Phrasebook.Proofs.Number.Remainder
import Phrasebook.Proofs.Number.Written
import Phrasebook.Proofs.Number.Recognised
import Phrasebook.Proofs.Condition.Points
import Phrasebook.Proofs.Condition.Meaning
import Phrasebook.Proofs.Count.Given
import Phrasebook.Proofs.Count.SameNumber
import Phrasebook.Proofs.Count.Denotation
import Phrasebook.Proofs.Count.Texts
import Phrasebook.Proofs.Fault.Outcome
import Phrasebook.Proofs.Value.Shown
import Phrasebook.Proofs.Fault.Recoverable
import Phrasebook.Proofs.Template.Segment
import Phrasebook.Proofs.Template.Resolution
import Phrasebook.Proofs.Template.SameNumber
import Phrasebook.Proofs.Template.Classification
import Phrasebook.Proofs.OrderedMap.Level
import Phrasebook.Proofs.OrderedMap.TextKeys
import Phrasebook.Proofs.Catalogue.Lookup
import Phrasebook.Proofs.Catalogue.EqualKeys
import Phrasebook.Proofs.Catalogue.Ledger
import Phrasebook.Proofs.Catalogue.Insertion
import Phrasebook.Proofs.Catalogue.Data
import Phrasebook.Proofs.Catalogue.History
import Phrasebook.Proofs.Catalogue.Views
import Phrasebook.Proofs.Catalogue.Refusal
import Phrasebook.Proofs.Catalogue.Reload
import Phrasebook.Proofs.Catalogue.Format
import Phrasebook.Proofs.Catalogue.Restriction
import Phrasebook.Proofs.Translator.Effect
import Phrasebook.Proofs.Translator.Lookup
import Phrasebook.Proofs.Translator.Translation
import Phrasebook.Proofs.Translator.Adding
import Phrasebook.Proofs.Translator.Loading
import Phrasebook.Proofs.Translator.Reading
import Phrasebook.Proofs.Translator.Excerpt
import Phrasebook.Proofs.Translator.Lifecycle
import Phrasebook.Proofs.Translator.Fallback
import Phrasebook.Proofs.Translator.Frame
import Phrasebook.Proofs.Plural.Position
import Phrasebook.Proofs.Plural.Table
import Phrasebook.Proofs.Plural.Negative
import Phrasebook.Proofs.Locale.Language
import Phrasebook.Proofs.Locale.Territory
import Phrasebook.Proofs.Placeholder.Delimited
import Phrasebook.Proofs.Template.Totality
import Phrasebook.Proofs.Template.Written
import Phrasebook.Proofs.Template.EmptyRules
import Phrasebook.Proofs.Translator.Untranslated
import Phrasebook.Proofs.Translator.Misses
import Phrasebook.Proofs.Count.Truncation
import Phrasebook.Proofs.Json.Depth
import Phrasebook.Proofs.Catalogue.Decoding
import Phrasebook.Proofs.Catalogue.Routes
import Phrasebook.Proofs.Catalogue.Serialized
import Phrasebook.Proofs.Settings.Options
