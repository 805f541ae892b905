import StubConsole.Json.Printer
import StubConsole.Json.Reader
import StubConsole.Key
import StubConsole.Text.Lines
import StubConsole.Text.Utf8

/-!
# TextBuffer — a text with a cursor

Every text the user edits is held in a buffer: the content, and a cursor that counts the bytes
before it.  The operations work on the two parts of the content, before and behind the cursor.

* `TextBuffer.before`, `TextBuffer.behind` — the two parts;
* `TextBuffer.place` — line and column of the cursor;
* insertions, deletions and movements; a movement or deletion that has nothing to do says so;
* `TextBuffer.handleKey` — what a key does.
-/

namespace StubConsole

structure TextBuffer where
  content : String
  /-- Bytes before the cursor. -/
  cursor : Nat
  multiline : Bool
  dirty : Bool
  deriving DecidableEq, Repr

namespace TextBuffer

/-! ## Construction -/

def ofContent (content : String) (multiline : Bool) : TextBuffer :=
  ⟨content, Text.byteLength content.toList, multiline, false⟩

/-- A buffer of one line, the cursor at its end; line feeds become spaces. -/
def singleLine (content : String) : TextBuffer :=
  ofContent (Text.replaceChar '\n' ' ' content) false

def multiLine (content : String) : TextBuffer :=
  ofContent content true

instance : Inhabited TextBuffer := ⟨singleLine ""⟩

/-! ## The two parts -/

def parts (b : TextBuffer) : List Char × List Char :=
  Text.splitAtByte b.cursor b.content.toList

def before (b : TextBuffer) : List Char := b.parts.1

def behind (b : TextBuffer) : List Char := b.parts.2

theorem before_append_behind (b : TextBuffer) : b.before ++ b.behind = b.content.toList :=
  Text.splitAtByte_append b.cursor b.content.toList

/-- The buffer with these two parts. -/
def withParts (b : TextBuffer) (before behind : List Char) : TextBuffer :=
  { b with
    content := String.ofList (before ++ behind)
    cursor := Text.byteLength before
    dirty := true }

/-- The cursor behind the given first part of the content. -/
def moveBehind (b : TextBuffer) (before : List Char) : TextBuffer :=
  { b with cursor := Text.byteLength before }

/-! ## Lines -/

def isLineFeed (c : Char) : Bool := c = '\n'

/-- What stands behind the last line feed. -/
def lastLine (s : List Char) : List Char :=
  (s.reverse.takeWhile fun c => !isLineFeed c).reverse

/-- Everything up to the last line feed, which is included. -/
def linesAbove (s : List Char) : List Char :=
  (s.reverse.dropWhile fun c => !isLineFeed c).reverse

def firstLine (s : List Char) : List Char :=
  s.takeWhile fun c => !isLineFeed c

/-- The line feed that ends the first line, and what follows it. -/
def linesBelow (s : List Char) : List Char :=
  s.dropWhile fun c => !isLineFeed c

/-- Line and column of the cursor, both counted from zero; the column counts characters. -/
def place (b : TextBuffer) : Nat × Nat :=
  (b.before.count '\n', (lastLine b.before).length)

/-! ## Changes -/

def clear (b : TextBuffer) : TextBuffer :=
  b.withParts [] []

/-- Another content, with the cursor at its end. -/
def setContent (b : TextBuffer) (content : String) : TextBuffer :=
  { b with content, cursor := Text.byteLength content.toList, dirty := true }

def insert (b : TextBuffer) (s : List Char) : TextBuffer :=
  b.withParts (b.before ++ s) b.behind

/-- A buffer of one line takes no line feed. -/
def insertChar (b : TextBuffer) (c : Char) : TextBuffer :=
  if isLineFeed c && !b.multiline then b else b.insert [c]

/-- Curly quotes become straight ones, so that pasted JSON stays readable. -/
def straighten (c : Char) : Char :=
  if c.toNat = 0x201C || c.toNat = 0x201D then '"'
  else if c.toNat = 0x2018 || c.toNat = 0x2019 then '\x27'
  else c

/-- What a character becomes on its way into the buffer: on a single line, line endings are
spaces. -/
def normalize (multiline : Bool) (c : Char) : Char :=
  let c := straighten c
  if !multiline && (c = '\n' || c = '\r') then ' ' else c

def insertText (b : TextBuffer) (s : List Char) : TextBuffer :=
  b.insert (s.map (normalize b.multiline))

/-- Deletes the character before the cursor. -/
def deleteBefore? (b : TextBuffer) : Option TextBuffer :=
  if b.before.isEmpty then none else some (b.withParts b.before.dropLast b.behind)

/-- Deletes the character behind the cursor, which stays where it is. -/
def deleteBehind? (b : TextBuffer) : Option TextBuffer :=
  if b.behind.isEmpty then none else some (b.withParts b.before b.behind.tail)

/-- What remains of a text without the spaces at its end and the word before them. -/
def dropWord (s : List Char) : List Char :=
  -- spaces first, then everything up to a blank or a line
  let trimmed := s.reverse.dropWhile (· = ' ')
  (trimmed.dropWhile fun c => c ≠ ' ' && c ≠ '\n').reverse

/-- Deletes the word before the cursor, and the spaces between them. -/
def deleteWord? (b : TextBuffer) : Option TextBuffer :=
  let kept := dropWord b.before
  if kept.length = b.before.length then none else some (b.withParts kept b.behind)

/-! ## Movements -/

def moveLeft? (b : TextBuffer) : Option TextBuffer :=
  if b.before.isEmpty then none else some (b.moveBehind b.before.dropLast)

def moveRight? (b : TextBuffer) : Option TextBuffer :=
  match b.behind with
  | [] => none
  | c :: _ => some (b.moveBehind (b.before ++ [c]))

/-- To the same column of the line above, or to its end. -/
def moveUp? (b : TextBuffer) : Option TextBuffer :=
  let above := linesAbove b.before
  if above.isEmpty then none
  else
    -- without the line feed that ends the line above
    let text := above.dropLast
    some (b.moveBehind (linesAbove text ++ (lastLine text).take (lastLine b.before).length))

/-- To the same column of the line below, or to its end. -/
def moveDown? (b : TextBuffer) : Option TextBuffer :=
  match linesBelow b.behind with
  | [] => none
  | feed :: rest =>
      some (b.moveBehind (b.before ++ firstLine b.behind ++ [feed]
        ++ (firstLine rest).take (lastLine b.before).length))

def moveToLineStart (b : TextBuffer) : TextBuffer :=
  b.moveBehind (linesAbove b.before)

def moveToLineEnd (b : TextBuffer) : TextBuffer :=
  b.moveBehind (b.before ++ firstLine b.behind)

/-! ## JSON -/

/-- The content in pretty form, if it is JSON; the message says what is wrong. -/
def formatJson (b : TextBuffer) : Except String TextBuffer :=
  match Json.parse b.content with
  | .ok doc => .ok (b.setContent doc.pretty)
  | .error message => .error ("Invalid JSON: " ++ message)

/-! ## Keys -/

/-- The buffer after a key; nothing if the key does nothing here.  Of the keys that wait behind a
character, as a terminal sends them for a pasted text, nothing is known here: each of them is a key
of its own, and what they insert together is an `insertText`. -/
def pressKey? (b : TextBuffer) (key : Key) : Option TextBuffer :=
  match key.code with
  | .backspace => b.deleteBefore?
  | .delete => b.deleteBehind?
  | .left => b.moveLeft?
  | .right => b.moveRight?
  | .up => if b.multiline then b.moveUp? else none
  | .down => if b.multiline then b.moveDown? else none
  | .home => some b.moveToLineStart
  | .atEnd => some b.moveToLineEnd
  | .enter => if b.multiline then some (b.insertChar '\n') else none
  | .tab => if b.multiline then some (b.insertText [' ', ' ']) else none
  | .char c =>
      if !key.ctrl then some (b.insertText [c])
      else if c = 'a' then some b.moveToLineStart
      else if c = 'e' then some b.moveToLineEnd
      else if c = 'w' then b.deleteWord?
      else if c = 'l' then some b.clear
      else none
  | _ => none

/-- The buffer after a key, and whether the key did anything. -/
def handleKey (b : TextBuffer) (key : Key) : TextBuffer × Bool :=
  match b.pressKey? key with
  | some after => (after, true)
  | none => (b, false)

end TextBuffer

end StubConsole
