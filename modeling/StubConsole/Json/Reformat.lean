import StubConsole.Json.Printer
import StubConsole.Json.Reader

/-!
# Reformat — JSON text made readable
-/

namespace StubConsole

/-- The text in pretty form; a text that is no JSON stays as it is. -/
def Json.reformat (text : String) : String :=
  match Json.parse? text with
  | some doc => doc.pretty
  | none => text

end StubConsole
