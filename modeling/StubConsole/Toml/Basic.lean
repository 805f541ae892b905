/-!
# Toml — values of a configuration file

* `Toml` — a value;
* `Toml.get?` — the value of a key in a table.
-/

namespace StubConsole

inductive Toml where
  | text (s : String)
  | whole (n : Int)
  | bool (b : Bool)
  /-- A fraction, a date or a time; the console has no use for them. -/
  | other
  | array (items : List Toml)
  | table (entries : List (String × Toml))
  deriving Repr

namespace Toml

instance : Inhabited Toml := ⟨.other⟩

def get? (key : String) : Toml → Option Toml
  | .table entries => entries.lookup key
  | _ => none

end Toml

end StubConsole
