/-!
# Blank — white space at the ends of a text

The console trims what the user types and what a server sends.  White space means the
characters with the Unicode property `White_Space`: the no-break space and the ideographic space
count, the zero-width space and the byte order mark do not.

* `isBlank` — the property;
* `trimStart`, `trim` — a text without the blanks at its ends;
* `allBlank` — a text that holds nothing but blanks.
-/

namespace StubConsole

namespace Text

/-- A character with the Unicode property `White_Space`. -/
def isBlank (c : Char) : Bool :=
  let n := c.toNat
  (9 ≤ n && n ≤ 13) || n == 0x20 || n == 0x85 || n == 0xA0 || n == 0x1680
    || (0x2000 ≤ n && n ≤ 0x200A) || n == 0x2028 || n == 0x2029 || n == 0x202F
    || n == 0x205F || n == 0x3000

def dropBlanks (s : List Char) : List Char :=
  s.dropWhile isBlank

def dropBlanksEnd (s : List Char) : List Char :=
  (s.reverse.dropWhile isBlank).reverse

def trimChars (s : List Char) : List Char :=
  dropBlanksEnd (dropBlanks s)

def trimStart (s : String) : String :=
  String.ofList (dropBlanks s.toList)

def trim (s : String) : String :=
  String.ofList (trimChars s.toList)

/-- The text is empty once it is trimmed. -/
def allBlank (s : String) : Bool :=
  s.toList.all isBlank

/-- The trimmed text, or nothing when it is blank. -/
def nonBlank? (s : String) : Option String :=
  if allBlank s then none else some (trim s)

end Text

end StubConsole
