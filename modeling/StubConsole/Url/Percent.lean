import StubConsole.Text.Utf8

/-!
# Percent — bytes that may not stand in an address

Each part of an address has a set of characters that stand for themselves; all others are written
as a percent sign and two hexadecimal digits for each byte of their UTF-8 form.

* `Percent.encode` — a text, given the test for the characters that have to be written so;
* `Percent.control`, `fragment`, `path`, `query`, `specialQuery`, `userInfo` — these tests;
* `Percent.decode` — the bytes that a text stands for;
* `Percent.formEncode` — the stricter form of names and values in a query.
-/

namespace StubConsole

namespace Percent

def hexDigit (n : Nat) : Char :=
  (Nat.digitChar (n % 16)).toUpper

def encodeByte (b : UInt8) : List Char :=
  ['%', hexDigit (b.toNat / 16), hexDigit b.toNat]

def encodeChar (c : Char) : List Char :=
  (String.utf8EncodeChar c).flatMap encodeByte

def encode (special : Char → Bool) (s : List Char) : List Char :=
  s.flatMap fun c => if special c then encodeChar c else [c]

/-! ## Characters that need encoding -/

/-- Controls and everything that is not ASCII. -/
def control (c : Char) : Bool :=
  c.toNat < 0x20 || c.toNat ≥ 0x7F

def fragment (c : Char) : Bool :=
  control c || c = ' ' || c = '"' || c = '<' || c = '>' || c = Char.ofNat 0x60

def path (c : Char) : Bool :=
  fragment c || c = '#' || c = '?' || c = '\x7b' || c = '\x7d'

def query (c : Char) : Bool :=
  control c || c = ' ' || c = '"' || c = '#' || c = '<' || c = '>'

/-- In an address that names a server, a query encodes the single quote as well. -/
def specialQuery (c : Char) : Bool :=
  query c || c = '\x27'

def userInfo (c : Char) : Bool :=
  path c || c = '/' || c = ':' || c = ';' || c = '=' || c = '@' || c = '[' || c = '\\'
    || c = ']' || c = '^' || c = '|'

/-! ## Decoding -/

def hexValue? (c : Char) : Option Nat :=
  if c.isDigit then some (c.toNat - '0'.toNat)
  else if 'a' ≤ c && c ≤ 'f' then some (c.toNat - 'a'.toNat + 10)
  else if 'A' ≤ c && c ≤ 'F' then some (c.toNat - 'A'.toNat + 10)
  else none

/-- The bytes of a text in which `%` and two hexadecimal digits stand for one byte; any other
percent sign stands for itself. -/
def decode : List Char → List UInt8
  | '%' :: a :: b :: rest =>
      match hexValue? a, hexValue? b with
      | some x, some y => UInt8.ofNat (16 * x + y) :: decode rest
      | _, _ => UInt8.ofNat '%'.toNat :: decode (a :: b :: rest)
  | c :: rest => String.utf8EncodeChar c ++ decode rest
  | [] => []

/-! ## Forms -/

def formPlain (c : Char) : Bool :=
  c.isAlphanum || c = '*' || c = '-' || c = '.' || c = '_'

/-- A name or value of a query: a space is a plus sign. -/
def formEncode (s : List Char) : List Char :=
  s.flatMap fun c => if c = ' ' then ['+'] else if formPlain c then [c] else encodeChar c

end Percent

end StubConsole
