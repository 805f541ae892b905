import StubConsole.Text.Integer
import StubConsole.Text.Lines
import StubConsole.Text.Lowercase
import StubConsole.Url.Percent
import StubConsole.Url.Punycode

/-!
# Host — who an address speaks to

A host is a name in small letters, four numbers of a byte each, or eight numbers of two bytes in
brackets.  Names that end in a number have to be the second, in any of its short, octal or
hexadecimal forms.

* `Host.readIpv4?`, `Host.readIpv6?` — the numeric forms;
* `Host.read` — the host of a server address, written in its one normal form, which for names
  beyond ASCII is an approximation (see `Host.normalName`);
* `Host.readOpaque` — the host of any other address, kept as it is.
-/

namespace StubConsole

/-- Why a text is no address. -/
inductive UrlError where
  | relativeWithoutBase
  | emptyHost
  | invalidPort
  | invalidIpv4
  | invalidIpv6
  | invalidName
  | invalidNameCharacter
  deriving DecidableEq, Repr

def UrlError.message : UrlError → String
  | .relativeWithoutBase => "relative URL without a base"
  | .emptyHost => "empty host"
  | .invalidPort => "invalid port number"
  | .invalidIpv4 => "invalid IPv4 address"
  | .invalidIpv6 => "invalid IPv6 address"
  | .invalidName => "invalid international domain name"
  | .invalidNameCharacter => "invalid domain character"

namespace Host

def valueInBase (base : Nat) (digits : List Char) : Nat :=
  digits.foldl (fun n c => base * n + (Percent.hexValue? c).getD 0) 0

/-! ## Four numbers -/

/-- What a part of a dotted name is as a number: none, or one that may be too large. -/
def ipv4Number? (part : List Char) : Option Nat :=
  let octal := fun c => '0' ≤ c && c ≤ '7'
  let hex := fun c => (Percent.hexValue? c).isSome
  match part with
  | [] => none
  -- a leading zero announces another base
  | '0' :: x :: rest =>
      if x = 'x' || x = 'X' then
        if rest.all hex then some (valueInBase 16 rest) else none
      else if (x :: rest).all octal then some (valueInBase 8 (x :: rest)) else none
  | _ => if part.all Char.isDigit then some (valueInBase 10 part) else none

/-- The parts of a dotted name; one dot at the end does not count. -/
def labels (name : List Char) : List (List Char) :=
  let parts := Text.splitOn '.' name
  if parts.length > 1 && parts.getLast? = some [] then parts.dropLast else parts

/-- A name whose last part is a number has to be an address of four bytes. -/
def endsInNumber (name : List Char) : Bool :=
  match (labels name).getLast? with
  | none => false
  | some last =>
      !last.isEmpty && (last.all Char.isDigit || (ipv4Number? last).isSome)

/-- All numbers but the last fill one byte each, the last one fills the bytes that remain. -/
def readIpv4? (name : List Char) : Option Nat := do
  let parts := labels name
  if parts.length > 4 then none
  else
    let numbers ← parts.mapM ipv4Number?
    let last ← numbers.getLast?
    let front := numbers.dropLast
    -- the last number takes the place of all bytes that have none of their own
    let room := Nat.pow 256 (4 - front.length)
    if last ≥ room || front.any (· > 255) then none
    else
      let high := front.foldl (fun n byte => 256 * n + byte) 0
      return high * room + last

def writeIpv4 (address : Nat) : List Char :=
  Text.joinWith ['.'] <|
    [0x1000000, 0x10000, 0x100, 1].map fun unit => Text.decimal (address / unit % 256)

/-! ## Eight numbers -/

/-- Four decimal bytes as the last two numbers. -/
def ipv6Tail? (s : List Char) : Option (List Nat) := do
  let bytes ← (Text.splitOn '.' s).mapM fun part =>
    if part.length > 1 && part.head? = some '0' then none
    else (Text.readDigits? part).filter (· ≤ 255)
  match bytes with
  | [a, b, c, d] => some [256 * a + b, 256 * c + d]
  | _ => none

/-- Numbers between colons; the last part may be four decimal bytes. -/
def ipv6Group? : List (List Char) → Option (List Nat)
  | [] => some []
  | part :: rest =>
      -- only the last part may be written in decimal bytes
      if rest.isEmpty && part.contains '.' then ipv6Tail? part
      else if part.isEmpty || part.length > 4 || !part.all fun c => (Percent.hexValue? c).isSome
      then none
      else (ipv6Group? rest).map (valueInBase 16 part :: ·)

/-- The parts before and after the first `::`. -/
def splitAtGap : List Char → List Char → List Char × Option (List Char)
  | acc, [] => (acc.reverse, none)
  | acc, ':' :: ':' :: rest => (acc.reverse, some rest)
  | acc, c :: rest => splitAtGap (c :: acc) rest

def groupOf (s : List Char) : List (List Char) :=
  if s.isEmpty then [] else Text.splitOn ':' s

def readIpv6? (s : List Char) : Option (List Nat) := do
  match splitAtGap [] s with
  | (all, none) =>
      let numbers ← ipv6Group? (groupOf all)
      if numbers.length = 8 then some numbers else none
  | (front, some back) =>
      if front.contains '.' then none
      else
        let high ← ipv6Group? (groupOf front)
        let low ← ipv6Group? (groupOf back)
        -- the gap stands for one number at least
        if high.length + low.length > 7 then none
        else some (high ++ List.replicate (8 - high.length - low.length) 0 ++ low)

/-- Length of the run of zeros at the front. -/
def zeroRun (numbers : List Nat) : Nat :=
  (numbers.takeWhile (· == 0)).length

/-- Start and length of the first longest run of two zeros or more. -/
def longestGap (numbers : List Nat) : Option (Nat × Nat) :=
  (List.range numbers.length).foldl
    (fun best i =>
      let n := zeroRun (numbers.drop i)
      match best with
      | none => if n ≥ 2 then some (i, n) else none
      | some (_, m) => if n > m then some (i, n) else best)
    none

def hexText (n : Nat) : List Char := Nat.toDigits 16 n

def writeIpv6 (numbers : List Nat) : List Char :=
  let group := fun (l : List Nat) => Text.joinWith [':'] (l.map hexText)
  match longestGap numbers with
  | none => group numbers
  | some (i, n) => group (numbers.take i) ++ [':', ':'] ++ group (numbers.drop (i + n))

def readBracketed (s : List Char) : Except UrlError (List Char) :=
  match s with
  | '[' :: rest =>
      if rest.getLast? = some ']' then
        match readIpv6? rest.dropLast with
        | some numbers => .ok ('[' :: writeIpv6 numbers ++ [']'])
        | none => .error .invalidIpv6
      else .error .invalidIpv6
  | _ => .error .invalidIpv6

/-! ## Names -/

/-- Characters that no name of a server holds. -/
def forbidden (c : Char) : Bool :=
  c.toNat ≤ 0x20 || c.toNat = 0x7F
    || ['%', '#', '/', ':', '<', '>', '?', '@', '[', '\\', ']', '^', '|'].contains c

/-- Characters that a name may be written with but that are no part of it: soft hyphens, spaces
without width, variation selectors. -/
def ignored : List (Nat × Nat) :=
  [(0xAD, 0xAD), (0x34F, 0x34F), (0x180B, 0x180D), (0x180F, 0x180F), (0x200B, 0x200B),
   (0x2060, 0x2060), (0x2064, 0x2064), (0xFE00, 0xFE0F), (0xFEFF, 0xFEFF), (0xE0100, 0xE01EF)]

/-- The ASCII character that an East Asian full stop or a wide form of a character stands for. -/
def narrowForm (c : Char) : Char :=
  let n := c.toNat
  if n = 0x3002 || n = 0xFF61 then '.'
  else if 0xFF01 ≤ n && n ≤ 0xFF5E then Char.ofNat (n - 0xFEE0)
  else c

/-- A name as it is compared: in small letters, and every character in its one form.  Of the forms
that Unicode has for names (UTS 46) these are the wide forms of ASCII only.  No other character is
mapped to the one that it stands for, composed forms are not made, and a label that is already
written behind `xn--` is taken as it is, so names are accepted here that are refused there. -/
def normalName (name : List Char) : List Char :=
  Text.lowerFrom [] ((name.filter fun c => !Text.inRanges ignored c).map narrowForm)

/-- A label of a name in ASCII: other labels are written in digits and small letters behind
`xn--`. -/
def asciiLabel (label : List Char) : List Char :=
  if label.all fun c => c.toNat < 0x80 then label else "xn--".toList ++ Punycode.encode label

def asciiName (name : List Char) : List Char :=
  Text.joinWith ['.'] ((Text.splitOn '.' (normalName name)).map asciiLabel)

/-- The host of a server address.  Percent signs are decoded first. -/
def read (s : List Char) : Except UrlError (List Char) :=
  if s.head? = some '[' then readBracketed s
  else
    match String.fromUTF8? (ByteArray.mk (Percent.decode s).toArray) with
    | none => .error .invalidName
    | some decoded =>
        let name := asciiName decoded.toList
        if name.any forbidden then .error .invalidName
        else if name.isEmpty then .error .emptyHost
        else if endsInNumber name then
          match readIpv4? name with
          | some address => .ok (writeIpv4 address)
          | none => .error .invalidIpv4
        else .ok name

/-- Characters that end a host that is kept as it is, or may not stand in one. -/
def forbiddenOpaque (c : Char) : Bool :=
  [Char.ofNat 0, '\t', '\n', '\r', ' ', '#', '/', ':', '<', '>', '?', '@', '[', '\\', ']', '^',
    '|'].contains c

def readOpaque (s : List Char) : Except UrlError (List Char) :=
  if s.head? = some '[' then readBracketed s
  else if s.any forbiddenOpaque then .error .invalidNameCharacter
  else .ok (Percent.encode Percent.control s)

end Host

end StubConsole
