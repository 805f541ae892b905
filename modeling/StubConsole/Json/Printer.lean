import StubConsole.Decimal.Shortest
import StubConsole.Json.Basic
import StubConsole.Text.Integer

/-!
# Printer — the written forms of a document

A document is written compact, without any blank, or pretty, with two spaces per level, one
member or item a line and `[]` and `{}` for empty ones.

* `Json.Number.text` — whole numbers in decimal, fractions with the fewest digits that read back;
* `Json.quoted` — a text between quotes, control characters escaped;
* `Json.compact`, `Json.pretty` — the two written forms.
-/

namespace StubConsole

namespace Json

/-! ## Numbers -/

/-- Where a number with fraction is written positionally: the exponents of its leading digit
from `leastExponent` up to, without it, `exponentLimit`. -/
structure NumberLayout where
  leastExponent : Int
  exponentLimit : Int
  deriving DecidableEq, Repr

/-- Documents write `0.00001` and `1000000000000000.0`, but `1e-6` and `1e+16`. -/
def layout : NumberLayout := ⟨-5, 16⟩

def positional (digits : List Char) (lead : Int) : List Char :=
  if lead < 0 then
    ['0', '.'] ++ List.replicate (-lead - 1).toNat '0' ++ digits
  else
    let whole := lead.toNat + 1
    let front := digits.take whole
    let back := digits.drop whole
    front ++ List.replicate (whole - front.length) '0' ++ ['.']
      ++ if back.isEmpty then ['0'] else back

def exponential (digits : List Char) (lead : Int) : List Char :=
  let mantissa := match digits with
    | [] => []
    | [d] => [d]
    | d :: rest => d :: '.' :: rest
  mantissa ++ ['e', if lead < 0 then '-' else '+'] ++ Text.decimal lead.natAbs

def magnitudeText (b : Decimal.Binary) : List Char :=
  if b.significand = 0 then ['0', '.', '0']
  else
    let (k, e) := Decimal.shortest b
    let digits := Text.decimal k
    let lead := e + digits.length - 1
    if layout.leastExponent ≤ lead && lead < layout.exponentLimit then positional digits lead
    else exponential digits lead

def Number.text : Number → List Char
  | .whole n => Text.decimalInt n
  | .float bits =>
      match Decimal.Binary.ofBits? bits with
      | none => ['n', 'u', 'l', 'l']
      | some (negative, b) => (if negative then ['-'] else []) ++ magnitudeText b

/-! ## Texts -/

def hexDigit (n : Nat) : Char :=
  Nat.digitChar (n % 16)

/-- The written form of one character of a text. -/
def escape (c : Char) : List Char :=
  if c = '"' then ['\\', '"']
  else if c = '\\' then ['\\', '\\']
  else if c = '\n' then ['\\', 'n']
  else if c = '\r' then ['\\', 'r']
  else if c = '\t' then ['\\', 't']
  else if c = '\x08' then ['\\', 'b']
  else if c = '\x0c' then ['\\', 'f']
  else if c.toNat < 0x20 then ['\\', 'u', '0', '0', hexDigit (c.toNat / 16), hexDigit c.toNat]
  else [c]

def quoted (s : String) : List Char :=
  '"' :: s.toList.flatMap escape ++ ['"']

/-! ## Compact form -/

mutual

def compactChars : Json → List Char
  | .null => ['n', 'u', 'l', 'l']
  | .bool true => ['t', 'r', 'u', 'e']
  | .bool false => ['f', 'a', 'l', 's', 'e']
  | .num n => n.text
  | .str s => quoted s
  | .arr items => '[' :: compactItems items ++ [']']
  | .obj members => '\x7b' :: compactMembers members ++ ['\x7d']

def compactItems : List Json → List Char
  | [] => []
  | [item] => item.compactChars
  | item :: next :: rest => item.compactChars ++ ',' :: compactItems (next :: rest)

def compactMembers : List (String × Json) → List Char
  | [] => []
  | [(key, value)] => quoted key ++ ':' :: value.compactChars
  | (key, value) :: next :: rest =>
      quoted key ++ ':' :: value.compactChars ++ ',' :: compactMembers (next :: rest)

end

def compact (j : Json) : String :=
  String.ofList j.compactChars

/-! ## Pretty form -/

def newLine (level : Nat) : List Char :=
  '\n' :: List.replicate (2 * level) ' '

mutual

def prettyChars (level : Nat) : Json → List Char
  | .arr [] => ['[', ']']
  | .arr (item :: rest) =>
      '[' :: prettyItems (level + 1) (item :: rest) ++ newLine level ++ [']']
  | .obj [] => ['\x7b', '\x7d']
  | .obj (member :: rest) =>
      '\x7b' :: prettyMembers (level + 1) (member :: rest) ++ newLine level ++ ['\x7d']
  | .null => compactChars .null
  | .bool b => compactChars (.bool b)
  | .num n => n.text
  | .str s => quoted s

def prettyItems (level : Nat) : List Json → List Char
  | [] => []
  | [item] => newLine level ++ item.prettyChars level
  | item :: next :: rest =>
      newLine level ++ item.prettyChars level ++ ',' :: prettyItems level (next :: rest)

def prettyMembers (level : Nat) : List (String × Json) → List Char
  | [] => []
  | [(key, value)] => newLine level ++ quoted key ++ ':' :: ' ' :: value.prettyChars level
  | (key, value) :: next :: rest =>
      newLine level ++ quoted key ++ ':' :: ' ' :: value.prettyChars level
        ++ ',' :: prettyMembers level (next :: rest)

end

def pretty (j : Json) : String :=
  String.ofList (j.prettyChars 0)

end Json

end StubConsole
