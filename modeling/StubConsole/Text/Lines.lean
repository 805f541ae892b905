import StubConsole.Text.Blank

/-!
# Lines — cutting a text at separators

* `lines` — the lines of a text: cut at each line feed, without a carriage return that stands
  directly before it; a final line feed adds no line, a lone carriage return cuts nothing;
* `splitAt?` — what stands before and after the first separator;
* `splitOn` — all parts between separators;
* `occursIn` — one text is a contiguous part of another;
* `padEnd`, `padStart` — a text of at least so many characters.
-/

namespace StubConsole

namespace Text

/-! ## Separators -/

/-- The parts before and after the first `sep`. -/
def splitAt? (sep : Char) : List Char → Option (List Char × List Char)
  | [] => none
  | c :: rest =>
      if c = sep then some ([], rest)
      else (splitAt? sep rest).map fun (a, b) => (c :: a, b)

/-- All parts between occurrences of `sep`; there is one more of them than separators. -/
def splitOn (sep : Char) : List Char → List (List Char)
  | [] => [[]]
  | c :: rest =>
      if c = sep then [] :: splitOn sep rest
      else
        match splitOn sep rest with
        | [] => [[c]]
        | part :: parts => (c :: part) :: parts

/-- At most `n + 1` parts: the last one keeps the separators that remain. -/
def splitUpTo (sep : Char) : Nat → List Char → List (List Char)
  | 0, s => [s]
  | n + 1, s =>
      match splitAt? sep s with
      | none => [s]
      | some (a, b) => a :: splitUpTo sep n b

def joinWith (sep : List Char) : List (List Char) → List Char
  | [] => []
  | [part] => part
  | part :: parts => part ++ sep ++ joinWith sep parts

/-! ## Lines -/

/-- A line as it stood before its line feed: one carriage return at its end belongs to the
line ending. -/
def dropReturn (line : List Char) : List Char :=
  if line.getLast? = some '\r' then line.dropLast else line

/-- Cuts `s` at its line feeds; `acc` holds the characters of the current line, last first. -/
def linesFrom (acc : List Char) : List Char → List (List Char)
  | [] => if acc.isEmpty then [] else [acc.reverse]
  | c :: rest =>
      if c = '\n' then dropReturn acc.reverse :: linesFrom [] rest
      else linesFrom (c :: acc) rest

def linesOf (s : List Char) : List (List Char) :=
  linesFrom [] s

def lines (s : String) : List String :=
  (linesOf s.toList).map String.ofList

/-! ## Parts -/

/-- The first text without the second in front of it. -/
def dropPrefix? : List Char → List Char → Option (List Char)
  | s, [] => some s
  | [], _ :: _ => none
  | c :: s, p :: ps => if c = p then dropPrefix? s ps else none

def startsWith (s start : List Char) : Bool :=
  (dropPrefix? s start).isSome

/-- `part` stands somewhere in the text. -/
def occursIn (part : List Char) : List Char → Bool
  | [] => part.isEmpty
  | c :: rest => startsWith (c :: rest) part || occursIn part rest

def contains (s part : String) : Bool :=
  occursIn part.toList s.toList

def beginsWith (s start : String) : Bool :=
  startsWith s.toList start.toList

/-- Every occurrence of one character replaced by another. -/
def replaceChar (old new : Char) (s : String) : String :=
  String.ofList (s.toList.map fun c => if c = old then new else c)

def join (sep : String) (parts : List String) : String :=
  String.ofList (joinWith sep.toList (parts.map String.toList))

/-! ## Columns -/

/-- The text with spaces behind it, up to the given number of characters. -/
def padEnd (length : Nat) (s : String) : String :=
  s ++ String.ofList (List.replicate (length - s.length) ' ')

/-- The text with spaces before it, up to the given number of characters. -/
def padStart (length : Nat) (s : String) : String :=
  String.ofList (List.replicate (length - s.length) ' ') ++ s

end Text

end StubConsole
