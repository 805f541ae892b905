import StubConsole.Text.Lines

/-!
# Key — what the user presses

* `KeyCode`, `Key` — keys with and without the control key;
* `Key.ofName?` — keys by name.
-/

namespace StubConsole

inductive KeyCode where
  | char (c : Char)
  | enter
  | escape
  | tab
  | backTab
  | up
  | down
  | left
  | right
  | home
  | atEnd
  | backspace
  | delete
  | pageUp
  | pageDown
  | function (n : Nat)
  deriving DecidableEq, Repr

/-- A key, with or without the control key held down. -/
structure Key where
  code : KeyCode
  ctrl : Bool
  deriving DecidableEq, Repr

namespace Key

def plain (code : KeyCode) : Key := ⟨code, false⟩

def ofChar (c : Char) : Key := plain (.char c)

/-! ## Names -/

/-- The names of the keys that type no character. -/
def codeNames : List (String × KeyCode) :=
  [("<enter>", .enter), ("<esc>", .escape), ("<tab>", .tab), ("<backtab>", .backTab),
   ("<up>", .up), ("<down>", .down), ("<left>", .left), ("<right>", .right), ("<home>", .home),
   ("<end>", .atEnd), ("<backspace>", .backspace), ("<delete>", .delete), ("<pageup>", .pageUp),
   ("<pagedown>", .pageDown), ("<f1>", .function 1)]

def codeOfName? (name : String) : Option KeyCode :=
  match name.toList with
  | [c] => some (.char c)
  | _ => codeNames.lookup name

/-- The key of a name; `ctrl+` in front of it stands for the control key. -/
def ofName? (name : String) : Option Key :=
  match Text.dropPrefix? name.toList "ctrl+".toList with
  | some code => (codeOfName? (String.ofList code)).map (⟨·, true⟩)
  | none => (codeOfName? name).map plain

end Key

end StubConsole
