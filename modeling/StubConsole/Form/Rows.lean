import StubConsole.Form.Basic

/-!
# Rows — tables and numbers as texts

Tables are edited as one row a line.  Blank lines do not count, blanks around a row and around
its parts do not either; the first row that is malformed decides the error.

* `rowsOf` — the trimmed lines that are not blank;
* `readRows` — every row read by the same rule;
* `readPairs`, `writePairs` — rows `name=value`;
* `optionalText`, `optionalNat`, `optionalInt`, `readMetadata` — optional values.
-/

namespace StubConsole

namespace Rows

/-- The lines that are not blank, trimmed. -/
def rowsOf (text : String) : List (List Char) :=
  ((Text.linesOf text.toList).map Text.trimChars).filter fun row => !row.isEmpty

def readRows {α : Type} (readRow : List Char → Except FieldError α) (text : String) :
    Except FieldError (List α) :=
  (rowsOf text).mapM readRow

/-! ## Pairs -/

def trimmed (s : List Char) : String := String.ofList (Text.trimChars s)

/-- `name=value`, cut at the first `=`; the name is not blank. -/
def readPair (row : List Char) : Except FieldError (String × String) :=
  match Text.splitAt? '=' row with
  | some (name, value) =>
      if name.all Text.isBlank then .error (.noPair (String.ofList row))
      else .ok (trimmed name, trimmed value)
  | none => .error (.noPair (String.ofList row))

def readPairs (text : String) : Except FieldError (List (String × String)) :=
  readRows readPair text

def writePairs (pairs : List (String × String)) : String :=
  Text.join "\n" (pairs.map fun p => p.1 ++ "=" ++ p.2)

def readTable (text : String) : Except FieldError (SortedMap String) :=
  (readPairs text).map SortedMap.ofList

/-! ## Optional values -/

/-- The trimmed text, nothing if it is blank. -/
def optionalText (text : String) : Option String := Text.nonBlank? text

/-- A number read by `read?`, nothing if the text is blank. -/
def optionalNumber {α : Type} (read? : List Char → Option α) (error : FieldError)
    (text : String) : Except FieldError (Option α) :=
  let chars := Text.trimChars text.toList
  if chars.isEmpty then .ok none
  else
    match read? chars with
    | some n => .ok (some n)
    | none => .error error

def readPriority (text : String) : Except FieldError (Option Int) :=
  optionalNumber (Text.intBetween? (-2147483648) 2147483647) .badPriority text

/-- A JSON object, nothing if the text is blank. -/
def readMetadata (text : String) : Except FieldError (Option Json) :=
  if Text.allBlank text then .ok none
  else
    match Json.parse? text with
    | some doc => if doc.isObject then .ok (some doc) else .error .metadataNoObject
    | none => .error .metadataNoObject

def writeMetadata : Option Json → String
  | some doc => doc.pretty
  | none => ""

def yesNo (b : Bool) : String := if b then "Yes" else "No"

def intText : Option Int → String
  | some n => Text.ofInt n
  | none => ""

def natText : Option Nat → String
  | some n => Text.ofNat n
  | none => ""

end Rows

end StubConsole
