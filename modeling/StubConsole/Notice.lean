/-!
# Notice — a line of text for the user
-/

namespace StubConsole

inductive Tone where
  | info
  | success
  | error
  deriving DecidableEq, Repr

structure Notice where
  tone : Tone
  text : String
  deriving DecidableEq, Repr

namespace Notice

def info (text : String) : Notice := ⟨.info, text⟩

def success (text : String) : Notice := ⟨.success, text⟩

def error (text : String) : Notice := ⟨.error, text⟩

end Notice

end StubConsole
