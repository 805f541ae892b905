import StubConsole.Json.Reader
import StubConsole.Toml.Basic

/-!
# Reader — configuration files from text

A file is a list of lines: headers of tables, keys with values, comments.  The lines are read
first; a second pass puts the values at their places and refuses a key or a table that is defined
twice.

* `Toml.Line` — what a line says;
* `Toml.readLines?` — the lines of a file;
* `Toml.Node` — a table under construction, which knows how each part came to be;
* `Toml.parse?` — the table that a file describes.
-/

namespace StubConsole

namespace Toml

/-! ## Blanks and comments -/

def isSpace (c : Char) : Bool := c = ' ' || c = '\t'

def skipSpace (s : List Char) : List Char := s.dropWhile isSpace

/-- Control characters that may stand nowhere. -/
def isRefused (c : Char) : Bool :=
  (c.toNat < 0x20 && c ≠ '\t') || c.toNat = 0x7F

/-- What follows a line ending. -/
def newLine? : List Char → Option (List Char)
  | '\n' :: rest => some rest
  | '\r' :: '\n' :: rest => some rest
  | _ => none

/-- A comment up to its line ending; without one the text is returned as it is. -/
def skipComment? : List Char → Option (List Char)
  | '#' :: rest =>
      let body := rest.takeWhile fun c => c ≠ '\n'
      let back := rest.dropWhile fun c => c ≠ '\n'
      -- the carriage return before a line feed is part of the line ending
      let body := if body.getLast? = some '\r' && !back.isEmpty then body.dropLast else body
      if body.any isRefused then none else some back
  | s => some s

/-- Blanks, comments and line endings, as between the items of an array. -/
def skipFiller? : Nat → List Char → Option (List Char)
  | 0, s => some s
  | fuel + 1, s => do
      let s ← skipComment? (skipSpace s)
      match newLine? s with
      | some rest => skipFiller? fuel rest
      | none => some s

/-! ## Texts -/

def hexRun? (n : Nat) (s : List Char) : Option (Nat × List Char) :=
  let digits := (s.take n).mapM Json.hexValue?
  if (s.take n).length = n then digits.map fun ds => (ds.foldl (16 * · + ·) 0, s.drop n) else none

def scalar? (n : Nat) : Option Char :=
  if h : n.isValidChar then some (Char.ofNatAux n h) else none

/-- The character of an escape whose backslash has been read. -/
def readEscape? : List Char → Option (Char × List Char)
  | 'b' :: rest => some ('\x08', rest)
  | 't' :: rest => some ('\t', rest)
  | 'n' :: rest => some ('\n', rest)
  | 'f' :: rest => some ('\x0c', rest)
  | 'r' :: rest => some ('\r', rest)
  | 'e' :: rest => some ('\x1b', rest)
  | '"' :: rest => some ('"', rest)
  | '\\' :: rest => some ('\\', rest)
  | 'x' :: rest => do
      let (n, rest) ← hexRun? 2 rest
      return (← scalar? n, rest)
  | 'u' :: rest => do
      let (n, rest) ← hexRun? 4 rest
      return (← scalar? n, rest)
  | 'U' :: rest => do
      let (n, rest) ← hexRun? 8 rest
      return (← scalar? n, rest)
  | _ => none

/-- A text between double quotes on one line, behind the first quote. -/
def readBasic? : Nat → List Char → Option (List Char × List Char)
  | 0, _ => none
  | _, [] => none
  | fuel + 1, c :: rest =>
      if c = '"' then some ([], rest)
      else if c = '\\' then do
        let (e, rest) ← readEscape? rest
        let (s, rest) ← readBasic? fuel rest
        return (e :: s, rest)
      else if isRefused c then none
      else do
        let (s, rest) ← readBasic? fuel rest
        return (c :: s, rest)

def readLiteral? (s : List Char) : Option (List Char × List Char) :=
  let body := s.takeWhile fun c => c ≠ '\x27'
  match s.dropWhile fun c => c ≠ '\x27' with
  | [] => none
  | _ :: rest => if body.any isRefused then none else some (body, rest)

/-- How many quotes stand at the front. -/
def quoteRun (mark : Char) (s : List Char) : Nat :=
  (s.takeWhile (· = mark)).length

/-- The quotes that end a text over several lines: up to two belong to the text. -/
def closing? (mark : Char) (s : List Char) : Option (List Char × List Char) :=
  let n := quoteRun mark s
  -- three quotes close, the ones before them belong to the text
  if n < 3 || n > 5 then none else some (List.replicate (n - 3) mark, s.drop n)

/-- A backslash at the end of a line joins it to the next text. -/
def joinedLine? (s : List Char) : Option (List Char) :=
  match newLine? (skipSpace s) with
  | none => none
  | some rest => some (rest.dropWhile fun c => isSpace c || c = '\n' || c = '\r')

/-- The characters of a text over several lines, behind the first quotes. -/
def readMultiline? (mark : Char) : Nat → List Char → Option (List Char × List Char)
  | 0, _ => none
  | _, [] => none
  | fuel + 1, c :: rest =>
      if c = mark && quoteRun mark (c :: rest) ≥ 3 then closing? mark (c :: rest)
      -- a literal text has no escapes
      else if c = '\\' && mark = '"' then
        match joinedLine? rest with
        | some rest => readMultiline? mark fuel rest
        | none => do
            let (e, rest) ← readEscape? rest
            let (s, rest) ← readMultiline? mark fuel rest
            return (e :: s, rest)
      else if c = '\r' then
        -- a carriage return stands only before a line feed
        if rest.head? = some '\n' then do
          let (s, rest) ← readMultiline? mark fuel rest
          return (c :: s, rest)
        else none
      else if isRefused c && c ≠ '\n' then none
      else do
        let (s, rest) ← readMultiline? mark fuel rest
        return (c :: s, rest)

/-- A line ending right behind the first quotes does not count. -/
def dropFirstNewLine (s : List Char) : List Char :=
  (newLine? s).getD s

def readText? (s : List Char) : Option (List Char × List Char) :=
  match s with
  | '"' :: '"' :: '"' :: rest => readMultiline? '"' (rest.length + 1) (dropFirstNewLine rest)
  | '\x27' :: '\x27' :: '\x27' :: rest =>
      readMultiline? '\x27' (rest.length + 1) (dropFirstNewLine rest)
  | '"' :: rest => readBasic? (rest.length + 1) rest
  | '\x27' :: rest => readLiteral? rest
  | _ => none

/-! ## Keys -/

def isBare (c : Char) : Bool := c.isAlphanum || c = '_' || c = '-'

def readKeyPart? (s : List Char) : Option (String × List Char) :=
  match s with
  | '"' :: rest => (readBasic? (rest.length + 1) rest).map fun (k, r) => (String.ofList k, r)
  | '\x27' :: rest => (readLiteral? rest).map fun (k, r) => (String.ofList k, r)
  | _ =>
      let bare := s.takeWhile isBare
      if bare.isEmpty then none else some (String.ofList bare, s.dropWhile isBare)

/-- A key of several parts with points between them. -/
def readKey? : Nat → List Char → Option (List String × List Char)
  | 0, _ => none
  | fuel + 1, s => do
      let (part, rest) ← readKeyPart? (skipSpace s)
      match skipSpace rest with
      | '.' :: more =>
          let (parts, rest) ← readKey? fuel more
          return (part :: parts, rest)
      | rest => return ([part], rest)

/-! ## Numbers and dates -/

/-- Digits with single underscores between them. -/
def readGrouped? (isDigit : Char → Bool) (s : List Char) : Option (List Char) :=
  let digits := s.filter (· ≠ '_')
  -- no two underscores side by side
  let between := (s.zip (s.drop 1)).all fun (a, b) => a ≠ '_' || b ≠ '_'
  if digits.isEmpty || !digits.all isDigit || !between
    || s.head? = some '_' || s.getLast? = some '_' then none
  else some digits

def valueInBase (base : Nat) (digits : List Char) : Nat :=
  digits.foldl (fun n c => base * n + (Json.hexValue? c).getD 0) 0

def splitSign (s : List Char) : Option Bool × List Char :=
  match s with
  | '+' :: rest => (some false, rest)
  | '-' :: rest => (some true, rest)
  | _ => (none, s)

/-- A decimal whole number without leading zeros. -/
def readDecimal? (s : List Char) : Option Nat := do
  let digits ← readGrouped? Char.isDigit s
  -- a single zero is a number, a zero in front of others is not
  if digits.length > 1 && digits.head? = some '0' then none
  else return valueInBase 10 digits

def readWhole? (s : List Char) : Option Int :=
  match s with
  | '0' :: 'x' :: rest =>
      (readGrouped? (fun c => (Json.hexValue? c).isSome) rest).map fun d => valueInBase 16 d
  | '0' :: 'o' :: rest =>
      (readGrouped? (fun c => '0' ≤ c && c ≤ '7') rest).map fun d => valueInBase 8 d
  | '0' :: 'b' :: rest =>
      (readGrouped? (fun c => c = '0' || c = '1') rest).map fun d => valueInBase 2 d
  | _ =>
      let (sign, digits) := splitSign s
      (readDecimal? digits).map fun n => if sign = some true then -(n : Int) else n

def isExponent (s : List Char) : Bool :=
  (readGrouped? Char.isDigit (splitSign s).2).isSome

def isFraction (s : List Char) : Bool :=
  let body := (splitSign s).2
  if body = "inf".toList || body = "nan".toList then true
  else
    let whole := body.takeWhile fun c => c.isDigit || c = '_'
    -- a fraction needs digits in front of the point
    if (readDecimal? whole).isNone then false
    else
      match body.dropWhile fun c => c.isDigit || c = '_' with
      | '.' :: rest =>
          let places := rest.takeWhile fun c => c.isDigit || c = '_'
          (readGrouped? Char.isDigit places).isSome &&
            match rest.dropWhile fun c => c.isDigit || c = '_' with
            | [] => true
            | e :: more => (e = 'e' || e = 'E') && isExponent more
      | e :: more => (e = 'e' || e = 'E') && isExponent more
      | [] => false

/-- The digits of a pattern stand where it has a `d`, its other characters stand for
themselves. -/
def fits : List Char → List Char → Option (List Char)
  | [], s => some s
  | 'd' :: pattern, c :: s => if c.isDigit then fits pattern s else none
  | p :: pattern, c :: s => if p = c then fits pattern s else none
  | _, _ => none

/-- What follows a time of day. -/
def afterTime? (s : List Char) : Option (List Char) := do
  let rest ← fits "dd:dd".toList s
  -- seconds may be left out
  let rest := match fits ":dd".toList rest with
    | some more => more
    | none => rest
  match rest with
  | '.' :: more =>
      if more.head?.any Char.isDigit then some (more.dropWhile Char.isDigit) else none
  | _ => some rest

def isOffset (s : List Char) : Bool :=
  match s with
  | [] => true
  | ['Z'] => true
  | ['z'] => true
  | c :: rest => (c = '+' || c = '-') && fits "dd:dd".toList rest = some []

def isDate (s : List Char) : Bool :=
  match fits "dddd-dd-dd".toList s with
  | none => afterTime? s = some []
  | some [] => true
  | some (c :: rest) =>
      (c = 'T' || c = 't' || c = ' ') && (afterTime? rest).any isOffset

/-- The characters of numbers, words, dates and times. -/
def isScalarChar (c : Char) : Bool :=
  isBare c || c = '+' || c = '.' || c = ':'

/-- A date and a time may have a blank between them. -/
def scalarText (s : List Char) : List Char × List Char :=
  let front := s.takeWhile isScalarChar
  let back := s.dropWhile isScalarChar
  match back with
  | ' ' :: d :: rest =>
      if fits "dddd-dd-dd".toList front = some [] && d.isDigit then
        (front ++ ' ' :: (d :: rest).takeWhile isScalarChar, (d :: rest).dropWhile isScalarChar)
      else (front, back)
  | _ => (front, back)

def readScalar? (s : List Char) : Option (Toml × List Char) :=
  let (word, rest) := scalarText s
  if word = "true".toList then some (.bool true, rest)
  else if word = "false".toList then some (.bool false, rest)
  else
    match readWhole? word with
    | some n => some (.whole n, rest)
    | none => if isFraction word || isDate word then some (.other, rest) else none

/-! ## Values -/

/-- Puts a value under a key of several parts into the entries of an inline table. -/
def insertInline? (key : List String) (value : Toml) (entries : List (String × Toml × Bool)) :
    Option (List (String × Toml × Bool)) :=
  match key with
  | [] => none
  | [name] =>
      if (entries.lookup name).isSome then none else some (entries ++ [(name, value, false)])
  | name :: rest =>
      match entries.lookup name with
      | none =>
          (insertInline? rest value []).map fun inner =>
            entries ++ [(name, .table (inner.map fun e => (e.1, e.2.1)), true)]
      -- only a table that keys of several parts made can be added to
      | some (.table inner, true) =>
          (insertInline? rest value (inner.map fun e => (e.1, e.2, true))).map fun inner =>
            entries.map fun e =>
              if e.1 = name then (name, .table (inner.map fun e => (e.1, e.2.1)), true) else e
      | some _ => none

mutual

def readValue? : Nat → List Char → Option (Toml × List Char)
  | 0, _ => none
  | fuel + 1, s =>
      match s with
      | '"' :: _ => (readText? s).map fun (t, rest) => (.text (String.ofList t), rest)
      | '\x27' :: _ => (readText? s).map fun (t, rest) => (.text (String.ofList t), rest)
      | '[' :: rest => (readItems? fuel rest).map fun (items, rest) => (.array items, rest)
      | '\x7b' :: rest =>
          (readEntries? fuel [] rest).map fun (entries, rest) =>
            (.table (entries.map fun e => (e.1, e.2.1)), rest)
      | _ => readScalar? s

/-- The items of an array; a comma may follow the last one. -/
def readItems? : Nat → List Char → Option (List Toml × List Char)
  | 0, _ => none
  | fuel + 1, s => do
      let s ← skipFiller? s.length s
      match s with
      | ']' :: rest => return ([], rest)
      | _ =>
          let (item, rest) ← readValue? fuel s
          let rest ← skipFiller? rest.length rest
          match rest with
          | ',' :: more =>
              let (items, rest) ← readItems? fuel more
              return (item :: items, rest)
          | ']' :: more => return ([item], more)
          | _ => none

/-- The entries of an inline table; a comma may follow the last one. -/
def readEntries? : Nat → List (String × Toml × Bool) → List Char →
    Option (List (String × Toml × Bool) × List Char)
  | 0, _, _ => none
  | fuel + 1, done, s => do
      let s ← skipFiller? s.length s
      match s with
      | '\x7d' :: rest => return (done, rest)
      | _ =>
          let (key, rest) ← readKey? s.length s
          match rest with
          | '=' :: more =>
              let (value, rest) ← readValue? fuel (skipSpace more)
              let done ← insertInline? key value done
              let rest ← skipFiller? rest.length rest
              match rest with
              | ',' :: more => readEntries? fuel done more
              | '\x7d' :: more => return (done, more)
              | _ => none
          | _ => none

end

/-! ## Lines -/

inductive Line where
  | table (path : List String)
  | tables (path : List String)
  | entry (key : List String) (value : Toml)

def readLine? (s : List Char) : Option (Option Line × List Char) :=
  match s with
  | [] => some (none, [])
  | '[' :: '[' :: rest => do
      let (path, rest) ← readKey? rest.length rest
      match rest with
      | ']' :: ']' :: rest => return (some (.tables path), rest)
      | _ => none
  | '[' :: rest => do
      let (path, rest) ← readKey? rest.length rest
      match rest with
      | ']' :: rest => return (some (.table path), rest)
      | _ => none
  | c :: _ =>
      -- nothing on the line but a comment
      if c = '#' || c = '\n' || c = '\r' then some (none, s)
      else do
        let (key, rest) ← readKey? s.length s
        match rest with
        | '=' :: more =>
            let (value, rest) ← readValue? (2 * s.length) (skipSpace more)
            return (some (.entry key value), rest)
        | _ => none

/-- The lines of a text; each ends with a line ending or with the text. -/
def readLines? : Nat → List Char → Option (List Line)
  | 0, _ => none
  | fuel + 1, s => do
      let (line, rest) ← readLine? (skipSpace s)
      let rest ← skipComment? (skipSpace rest)
      let lines ← match rest with
        | [] => some []
        | _ =>
            match newLine? rest with
            | some more => readLines? fuel more
            | none => none
      return match line with
        | some line => line :: lines
        | none => lines

/-! ## Tables -/

/-- How a table came to be: by a header of its own, by a longer header, or by a key of several
parts. -/
inductive Origin where
  | header
  | implied
  | dotted
  deriving DecidableEq, Repr

inductive Node where
  | value (v : Toml)
  | table (origin : Origin) (entries : List (String × Node))
  | tables (items : List (List (String × Node)))

def Node.lookup (name : String) (entries : List (String × Node)) : Option Node :=
  entries.lookup name

/-- Replaces the node of a name, or adds it. -/
def Node.put (name : String) (node : Node) (entries : List (String × Node)) :
    List (String × Node) :=
  match entries with
  | [] => [(name, node)]
  | (n, old) :: rest => if n = name then (n, node) :: rest else (n, old) :: put name node rest

/-- Opens the table that a header names. -/
def openTable? : List String → List (String × Node) → Option (List (String × Node))
  | [], _ => none
  | [name], entries =>
      match Node.lookup name entries with
      | none => some (Node.put name (.table .header []) entries)
      -- a longer header made it before, so it may still get one of its own
      | some (.table .implied inner) => some (Node.put name (.table .header inner) entries)
      | some _ => none
  | name :: path, entries =>
      match Node.lookup name entries with
      | none => (openTable? path []).map fun t => Node.put name (.table .implied t) entries
      | some (.table origin inner) =>
          (openTable? path inner).map fun t => Node.put name (.table origin t) entries
      | some (.tables items) =>
          match items.getLast? with
          | none => none
          -- a header goes on in the last table of a list
          | some last =>
              (openTable? path last).map fun t =>
                Node.put name (.tables (items.dropLast ++ [t])) entries
      | some (.value _) => none

/-- Adds a table to the list of tables that a header names. -/
def addTable? : List String → List (String × Node) → Option (List (String × Node))
  | [], _ => none
  | [name], entries =>
      match Node.lookup name entries with
      | none => some (Node.put name (.tables [[]]) entries)
      | some (.tables items) => some (Node.put name (.tables (items ++ [[]])) entries)
      | some _ => none
  | name :: path, entries =>
      match Node.lookup name entries with
      | none => (addTable? path []).map fun t => Node.put name (.table .implied t) entries
      | some (.table origin inner) =>
          (addTable? path inner).map fun t => Node.put name (.table origin t) entries
      | some (.tables items) =>
          match items.getLast? with
          | none => none
          | some last =>
              (addTable? path last).map fun t =>
                Node.put name (.tables (items.dropLast ++ [t])) entries
      | some (.value _) => none

/-- Sets a key below an open table.  A key of several parts may only reach into tables that such
keys have made. -/
def setKey? : List String → Toml → List (String × Node) → Option (List (String × Node))
  | [], _, _ => none
  | [name], value, entries =>
      match Node.lookup name entries with
      | none => some (Node.put name (.value value) entries)
      | some _ => none
  | name :: key, value, entries =>
      match Node.lookup name entries with
      | none => (setKey? key value []).map fun t => Node.put name (.table .dotted t) entries
      | some (.table origin inner) =>
          if origin = .header || (origin = .implied && key.length = 1) then none
          else (setKey? key value inner).map fun t => Node.put name (.table origin t) entries
      | some _ => none

/-- Changes the entries of the table at a path. -/
def within? (change : List (String × Node) → Option (List (String × Node))) :
    List String → List (String × Node) → Option (List (String × Node))
  | [], entries => change entries
  | name :: path, entries =>
      match Node.lookup name entries with
      | some (.table origin inner) =>
          (within? change path inner).map fun t => Node.put name (.table origin t) entries
      | some (.tables items) =>
          match items.getLast? with
          | none => none
          | some last =>
              (within? change path last).map fun t =>
                Node.put name (.tables (items.dropLast ++ [t])) entries
      | _ => none

/-- The table so far, and the path of the table that is open. -/
abbrev Draft := List (String × Node) × List String

def addLine? (draft : Draft) : Line → Option Draft
  | .table path => (openTable? path draft.1).map (·, path)
  | .tables path => (addTable? path draft.1).map (·, path)
  | .entry key value => (within? (setKey? key value) draft.2 draft.1).map (·, draft.2)

mutual

def Node.toToml : Node → Toml
  | .value v => v
  | .table _ entries => .table (Node.allToToml entries)
  | .tables items => .array (Node.itemsToToml items)

def Node.allToToml : List (String × Node) → List (String × Toml)
  | [] => []
  | (name, node) :: rest => (name, node.toToml) :: Node.allToToml rest

def Node.itemsToToml : List (List (String × Node)) → List Toml
  | [] => []
  | entries :: rest => .table (Node.allToToml entries) :: Node.itemsToToml rest

end

/-- A byte order mark in front of the text does not count. -/
def dropMark : List Char → List Char
  | c :: rest => if c.toNat = 0xFEFF then rest else c :: rest
  | [] => []

def parse? (text : String) : Option Toml := do
  let chars := dropMark text.toList
  let lines ← readLines? (chars.length + 1) chars
  let (entries, _) ← lines.foldlM addLine? ([], [])
  return .table (Node.allToToml entries)

end Toml

end StubConsole
