/-!
# Printer — texts in a configuration file

A text is written in the plainest form that needs no escapes: between double quotes; between
single quotes if it holds a double quote or a backslash; over several lines if it holds a line
feed.  Only a text with control characters, or with too many quotes of either kind, is written
with escapes.

* `Toml.Quoting` — the forms;
* `Toml.quotingFor` — the form of a text;
* `Toml.quoted` — its written form.
-/

namespace StubConsole

namespace Toml

inductive Quoting where
  | basic
  | literal
  | basicLines
  | literalLines
  deriving DecidableEq, Repr

/-- The longest run of `mark` in a text. -/
def longestRun (mark : Char) (s : List Char) : Nat :=
  (s.foldl
    (fun (run : Nat × Nat) c =>
      if c = mark then (run.1 + 1, max run.2 (run.1 + 1)) else (0, run.2))
    (0, 0)).2

/-- Control characters that have no unescaped form. -/
def needsEscape (c : Char) : Bool :=
  (c.toNat < 0x20 && c ≠ '\t' && c ≠ '\n') || c.toNat = 0x7F

def quotingFor (s : List Char) : Quoting :=
  let marked := s.contains '"' || s.contains '\\'
  let lines := s.contains '\n'
  let singles := longestRun '\x27' s
  if s.any needsEscape then (if lines then .basicLines else .basic)
  else if lines then
    if marked && singles < 3 then .literalLines else .basicLines
  else if !marked then .basic
  else if singles = 0 then .literal
  else if !s.contains '\\' && longestRun '"' s < 3 then .basicLines
  else if singles < 3 then .literalLines
  else .basic

def hexDigits (n : Nat) : List Char :=
  let digits := (Nat.toDigits 16 n).map Char.toUpper
  List.replicate (4 - digits.length) '0' ++ digits

/-- One character between double quotes.  Over several lines a line feed stands for itself, and
so do two double quotes in a row; `quotes` counts those just written. -/
def escape (lines : Bool) (quotes : Nat) (c : Char) : List Char :=
  if c = '"' then (if lines && quotes < 2 then ['"'] else ['\\', '"'])
  else if c = '\\' then ['\\', '\\']
  else if c = '\n' then (if lines then ['\n'] else ['\\', 'n'])
  else if c = '\t' then ['\\', 't']
  else if c = '\r' then ['\\', 'r']
  else if c = '\x08' then ['\\', 'b']
  else if c = '\x0c' then ['\\', 'f']
  else if c.toNat < 0x20 || c.toNat = 0x7F then '\\' :: 'u' :: hexDigits c.toNat
  else [c]

def escapeAll (lines : Bool) (quotes : Nat) : List Char → List Char
  | [] => []
  | c :: rest =>
      let next := if c = '"' && lines && quotes < 2 then quotes + 1 else 0
      escape lines quotes c ++ escapeAll lines next rest

/-- A text over several lines starts on a line of its own. -/
def lineStart (s : List Char) : List Char :=
  if s.contains '\n' then ['\n'] else []

def quoted (s : List Char) : List Char :=
  let double := ['"', '"', '"']
  let single := ['\x27', '\x27', '\x27']
  match quotingFor s with
  | .basic => '"' :: escapeAll false 0 s ++ ['"']
  | .literal => '\x27' :: s ++ ['\x27']
  | .basicLines => double ++ lineStart s ++ escapeAll true 0 s ++ double
  | .literalLines => single ++ lineStart s ++ s ++ single

end Toml

end StubConsole
