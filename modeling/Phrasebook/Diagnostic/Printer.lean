import Phrasebook.Diagnostic
import Phrasebook.Number.Digits
import Phrasebook.Text.Quoted

/-! Diagnostics as values in messages, with all their fields. -/

namespace Phrasebook

def DiagnosticCode.shown (code : DiagnosticCode) : String :=
  "<DiagnosticCode." ++ code.name ++ ": " ++ String.ofList (Number.text code.number) ++ ">"

namespace Diagnostic

def quoted (s : String) : String := String.ofList (Text.quoted s.toList)

/-- A diagnostic where a value is expected. -/
def shown (d : Diagnostic) : String :=
  "Diagnostic(code=" ++ d.code.shown ++ ", message=" ++ quoted d.message ++ ", hint=" ++
    (d.hint.map quoted).getD "None" ++ ", severity=" ++ quoted d.severity.name ++ ")"

end Diagnostic

end Phrasebook
