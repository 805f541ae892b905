import StubConsole.Json.Basic
import StubConsole.Text.Integer
import StubConsole.Text.Utf8

/-!
# Reader — documents from text

The reader goes through the text once and stops at the first fault, of which it knows the line
and the column.  It is told in advance what the document is read for: a member that nobody looks
at is passed over, so it may be nested deeper and hold numbers and surrogates that no value could.

* `Json.Shape` — which parts of a document are kept;
* `Json.Fault`, `Json.Failure` — what is wrong, and where;
* `Json.read` — the whole text as one document;
* `Json.parse?` — the value of a text, faults aside.
-/

namespace StubConsole

namespace Json

/-! ## What is kept -/

/-- What a document is read for.  Under `record`, named members have a shape of their own; the
others are kept if `keepsOthers`, else passed over.  An array under `record` holds the named
members in order. -/
inductive Shape where
  | any
  | skipped
  | record (fields : List (String × Shape)) (keepsOthers : Bool)
  | each (item : Shape)
  deriving Repr

namespace Shape

instance : Inhabited Shape := ⟨.any⟩

def ofItem (index : Nat) : Shape → Shape
  | .any => .any
  | .skipped => .skipped
  | .record fields _ => (fields[index]?.map (·.2)).getD .any
  | .each item => item

def ofMember (key : String) : Shape → Shape
  | .any => .any
  | .skipped => .skipped
  | .record fields keepsOthers =>
      (fields.lookup key).getD (if keepsOthers then .any else .skipped)
  | .each item => item

def isSkipped : Shape → Bool
  | .skipped => true
  | _ => false

end Shape

/-! ## Faults -/

inductive Fault where
  | endInValue
  | endInList
  | endInObject
  | endInText
  | noValue
  | badWord
  | badKey
  | noColon
  | noCommaOrBrace
  | noCommaOrBracket
  | trailingComma
  | trailingText
  | badNumber
  | numberOutOfRange
  | badEscape
  | brokenSurrogate
  | loneSurrogate
  | rawControl
  | tooDeep
  deriving DecidableEq, Repr

def Fault.message : Fault → String
  | .endInValue => "EOF while parsing a value"
  | .endInList => "EOF while parsing a list"
  | .endInObject => "EOF while parsing an object"
  | .endInText => "EOF while parsing a string"
  | .noValue => "expected value"
  | .badWord => "expected ident"
  | .badKey => "key must be a string"
  | .noColon => "expected " ++ String.ofList [Char.ofNat 0x60, ':', Char.ofNat 0x60]
  | .noCommaOrBrace =>
      let tick := Char.ofNat 0x60
      "expected " ++ String.ofList [tick, ',', tick] ++ " or "
        ++ String.ofList [tick, '\x7d', tick]
  | .noCommaOrBracket =>
      let tick := Char.ofNat 0x60
      "expected " ++ String.ofList [tick, ',', tick] ++ " or " ++ String.ofList [tick, ']', tick]
  | .trailingComma => "trailing comma"
  | .trailingText => "trailing characters"
  | .badNumber => "invalid number"
  | .numberOutOfRange => "number out of range"
  | .badEscape => "invalid escape"
  | .brokenSurrogate => "unexpected end of hex escape"
  | .loneSurrogate => "lone leading surrogate in hex escape"
  | .rawControl => "control character (\\u0000-\\u001F) found while parsing a string"
  | .tooDeep => "recursion limit exceeded"

/-- A fault, and how many bytes stand behind the byte that shows it. -/
structure Failure where
  fault : Fault
  behind : Nat
  deriving DecidableEq, Repr

/-- The next byte shows the fault; at the end of the text there is none. -/
def failAt {α : Type} (fault : Fault) (rest : List Char) : Except Failure α :=
  .error ⟨fault, Text.byteLength rest - 1⟩

/-- The byte just passed shows the fault. -/
def failBefore {α : Type} (fault : Fault) (rest : List Char) : Except Failure α :=
  .error ⟨fault, Text.byteLength rest⟩

/-- Line and column of the byte with number `n`, counted from one: a line feed counts as
column 0 of the line it begins. -/
def position (text : List Char) (n : Nat) : Nat × Nat :=
  let step := fun (place : Nat × Nat) (b : UInt8) =>
    -- the byte of a line feed
    if b = 10 then (place.1 + 1, 0) else (place.1, place.2 + 1)
  ((Text.bytes text).take n).foldl step (1, 0)

def Failure.message (text : List Char) (f : Failure) : String :=
  let (line, column) := position text (Text.byteLength text - f.behind)
  f.fault.message ++ " at line " ++ Text.ofNat line ++ " column " ++ Text.ofNat column

/-! ## Blanks and words -/

def isSpace (c : Char) : Bool :=
  c = ' ' || c = '\n' || c = '\t' || c = '\r'

def skipSpace (s : List Char) : List Char :=
  s.dropWhile isSpace

def readWord (value : Json) : List Char → List Char → Except Failure (Json × List Char)
  | [], s => .ok (value, s)
  | _ :: _, [] => failAt .endInValue []
  | w :: ws, c :: s => if c = w then readWord value ws s else failAt .badWord (c :: s)

/-! ## Numbers -/

/-- The largest number that 64 bits hold. -/
def maxWord : Nat := 0xFFFFFFFFFFFFFFFF

/-- The power of ten that exponents are reduced by when they lie below the range of doubles. -/
def tenTo (n : Nat) : Float :=
  Float.ofScientific 1 false n

/-- `significand · 10 ^ exponent`, rounded once when the significand becomes a double and once
when the power of ten is applied; nothing when it is too large.  Far below the range of doubles
the power is applied in steps of `10 ^ 308`. -/
def scaled? (fuel : Nat) (x : Float) (exponent : Int) : Option Float :=
  if exponent.natAbs ≤ 308 then
    if exponent ≥ 0 then
      let y := x * tenTo exponent.toNat
      if y.isInf then none else some y
    else some (x / tenTo exponent.natAbs)
  -- zero stays zero under any exponent
  else if x == 0.0 then some x
  else if exponent ≥ 0 then none
  else
    match fuel with
    | 0 => some 0.0
    | fuel + 1 => scaled? fuel (x / tenTo 308) (exponent + 308)

/-- The digits at the front of a text, and what follows them. -/
def spanDigits (s : List Char) : List Char × List Char :=
  (s.takeWhile Char.isDigit, s.dropWhile Char.isDigit)

/-- Takes digits into the significand as long as it fits a word; tells how many it took, and
what is left. -/
def takeDigits (significand count : Nat) : List Char → Nat × Nat × List Char
  | [] => (significand, count, [])
  | c :: rest =>
      if c.isDigit then
        let next := 10 * significand + (c.toNat - '0'.toNat)
        -- the digit that does not fit is left for the exponent to count
        if next ≤ maxWord then takeDigits next (count + 1) rest
        else (significand, count, c :: rest)
      else (significand, count, c :: rest)

/-- A number read so far: its sign, the significand and the exponent that goes with it. -/
structure Magnitude where
  negative : Bool
  significand : Nat
  exponent : Int
  deriving DecidableEq, Repr

def signed (negative : Bool) (x : Float) : Number :=
  .float (if negative then (-x).toBits else x.toBits)

/-- The fraction a magnitude stands for; a number that is passed over need not be in range. -/
def Magnitude.finish (m : Magnitude) (kept : Bool) (rest : List Char) :
    Except Failure (Number × List Char) :=
  match scaled? 8 (Float.ofNat m.significand) m.exponent with
  | some x => .ok (signed m.negative x, rest)
  | none => if kept then failBefore .numberOutOfRange rest else .ok (.whole 0, rest)

/-- Exponents are counted up to `2 ^ 31 - 1`; the digit that exceeds it ends the reading of a
number other than zero.  Gives the exponent, or what follows that digit. -/
def readExponentDigits (acc : Nat) : List Char → (Nat ⊕ List Char) × List Char
  | [] => (.inl acc, [])
  | c :: rest =>
      if c.isDigit then
        let next := 10 * acc + (c.toNat - '0'.toNat)
        if next < 0x80000000 then readExponentDigits next rest
        -- the fault is shown behind this digit, but reading goes on behind the last one
        else (.inr rest, rest.dropWhile Char.isDigit)
      else (.inl acc, c :: rest)

/-- Reads on after the `e` of a number. -/
def readExponent (m : Magnitude) (kept : Bool) (s : List Char) :
    Except Failure (Number × List Char) :=
  let (down, s) := match s with
    | '+' :: rest => (false, rest)
    | '-' :: rest => (true, rest)
    | _ => (false, s)
  match s with
  | [] => failAt .endInValue []
  | c :: _ =>
      if !c.isDigit then failAt .badNumber s
      else
        match readExponentDigits 0 s with
        | (.inl e, rest) =>
            let shift : Int := if down then -e else e
            Magnitude.finish { m with exponent := m.exponent + shift } kept rest
        | (.inr after, rest) =>
            -- far too large, or so small that it is zero
            if m.significand ≠ 0 && !down && kept then failBefore .numberOutOfRange after
            else .ok (signed m.negative 0.0, rest)

/-- An `e` continues the number, anything else ends it. -/
def readTail (m : Magnitude) (kept : Bool) (s : List Char) :
    Except Failure (Number × List Char) :=
  match s with
  | c :: rest => if c = 'e' || c = 'E' then readExponent m kept rest else m.finish kept s
  | [] => m.finish kept s

/-- Reads on after the point of a number. -/
def readFraction (m : Magnitude) (kept : Bool) (s : List Char) :
    Except Failure (Number × List Char) :=
  match s with
  | [] => failAt .endInValue []
  | c :: _ =>
      if !c.isDigit then failAt .badNumber s
      else
        -- digits behind the ones that fit do not change the number
        let (significand, count, rest) := takeDigits m.significand 0 s
        readTail ⟨m.negative, significand, m.exponent - count⟩ kept (spanDigits rest).2

/-- The whole number `n` with its sign: zero with a minus sign and whatever does not fit 64 bits
is a fraction. -/
def wholeNumber (negative : Bool) (n : Nat) : Number :=
  if !negative then .whole n
  else if n = 0 || n > 0x8000000000000000 then signed true (Float.ofNat n)
  else .whole (-(n : Int))

/-- Reads a number behind its sign. -/
def readNumber (negative kept : Bool) (s : List Char) : Except Failure (Number × List Char) :=
  match s with
  | [] => failAt .endInValue []
  | c :: rest =>
      if !c.isDigit then failAt .badNumber s
      else
        let leadingZero := c = '0' && (rest.head?.any Char.isDigit)
        if leadingZero then failAt .badNumber rest
        else
          let (significand, _, more) := takeDigits 0 0 s
          -- digits that did not fit the word count as powers of ten
          let (extra, more) := spanDigits more
          let m : Magnitude := ⟨negative, significand, extra.length⟩
          match more with
          | '.' :: after => readFraction m kept after
          | _ =>
              if extra.isEmpty && !(more.head?.any fun e => e = 'e' || e = 'E') then
                .ok (wholeNumber negative significand, more)
              else readTail m kept more

/-! ## Texts -/

def hexValue? (c : Char) : Option Nat :=
  if c.isDigit then some (c.toNat - '0'.toNat)
  else if 'a' ≤ c && c ≤ 'f' then some (c.toNat - 'a'.toNat + 10)
  else if 'A' ≤ c && c ≤ 'F' then some (c.toNat - 'A'.toNat + 10)
  else none

/-- Four hexadecimal digits; a fault shows at the fourth byte. -/
def readHex (s : List Char) : Except Failure (Nat × List Char) :=
  -- the end of the text is noticed before any digit is looked at
  if Text.byteLength s < 4 then .error ⟨.endInText, 0⟩
  else
    match s with
    | a :: b :: c :: d :: rest =>
        match hexValue? a, hexValue? b, hexValue? c, hexValue? d with
        | some a, some b, some c, some d => .ok (4096 * a + 256 * b + 16 * c + d, rest)
        | _, _, _, _ => .error ⟨.badEscape, Text.byteLength s - 4⟩
    | _ => .error ⟨.badEscape, Text.byteLength s - 4⟩

def isLeading (n : Nat) : Bool := 0xD800 ≤ n && n ≤ 0xDBFF

def isTrailing (n : Nat) : Bool := 0xDC00 ≤ n && n ≤ 0xDFFF

/-- The character of a `\u` escape whose `u` has been read. -/
def readUnicode (kept : Bool) (s : List Char) : Except Failure (Char × List Char) := do
  let (n, rest) ← readHex s
  -- in a text that is passed over no surrogate is looked for
  if !kept then return ('?', rest)
  if isTrailing n then failBefore .loneSurrogate rest
  else if !isLeading n then return (Char.ofNat n, rest)
  else
    match rest with
    | [] => failAt .endInText []
    | c :: rest =>
        if c ≠ '\\' then failAt .brokenSurrogate (c :: rest)
        else
          match rest with
          | [] => failAt .endInText []
          | u :: rest =>
              if u ≠ 'u' then failAt .brokenSurrogate (u :: rest)
              else
                let (m, rest) ← readHex rest
                if !isTrailing m then failBefore .loneSurrogate rest
                -- ten bits from each half of the pair
                else return (Char.ofNat (0x10000 + (n - 0xD800) * 0x400 + (m - 0xDC00)), rest)

/-- The character of an escape whose backslash has been read. -/
def readEscape (kept : Bool) : List Char → Except Failure (Char × List Char)
  | [] => failAt .endInText []
  | c :: rest =>
      if c = 'u' then readUnicode kept rest
      else if c = '"' || c = '\\' || c = '/' then .ok (c, rest)
      else if c = 'b' then .ok ('\x08', rest)
      else if c = 'f' then .ok ('\x0c', rest)
      else if c = 'n' then .ok ('\n', rest)
      else if c = 'r' then .ok ('\r', rest)
      else if c = 't' then .ok ('\t', rest)
      else failAt .badEscape (c :: rest)

/-- Reads a text behind its opening quote; `acc` holds what was read, last first.  Each step
takes at least one character, so as much fuel as there are characters is enough. -/
def readText (kept : Bool) (acc : List Char) : Nat → List Char →
    Except Failure (String × List Char)
  | _, [] => failAt .endInText []
  | 0, s => failAt .endInText s
  | fuel + 1, c :: rest =>
      if c = '"' then .ok (String.ofList acc.reverse, rest)
      else if c = '\\' then do
        let (e, rest) ← readEscape kept rest
        readText kept (e :: acc) fuel rest
      else if c.toNat < 0x20 then failAt .rawControl (c :: rest)
      else readText kept (c :: acc) fuel rest

/-! ## Documents -/

/-- How many levels of arrays and objects a value may have. -/
def depthLimit : Nat := 127

/-- The budget of levels inside one more bracket; what is passed over needs none. -/
def enter (shape : Shape) (depth : Nat) (s : List Char) : Except Failure Nat :=
  if shape.isSkipped then .ok depth
  else
    match depth with
    | 0 => failAt .tooDeep s
    | depth + 1 => .ok depth

mutual

def readValue (shape : Shape) (depth : Nat) : Nat → List Char → Except Failure (Json × List Char)
  | 0, s => failAt .endInValue s
  | fuel + 1, s =>
      match skipSpace s with
      | [] => failAt .endInValue []
      | c :: rest =>
          if c = 'n' then readWord .null ['u', 'l', 'l'] rest
          else if c = 't' then readWord (.bool true) ['r', 'u', 'e'] rest
          else if c = 'f' then readWord (.bool false) ['a', 'l', 's', 'e'] rest
          else if c = '-' then do
            let (n, rest) ← readNumber true (!shape.isSkipped) rest
            return (.num n, rest)
          else if c.isDigit then do
            let (n, rest) ← readNumber false (!shape.isSkipped) (c :: rest)
            return (.num n, rest)
          else if c = '"' then do
            let (s, rest) ← readText (!shape.isSkipped) [] rest.length rest
            return (.str s, rest)
          else if c = '[' then do
            let depth ← enter shape depth (c :: rest)
            let (items, rest) ← readItems shape depth fuel 0 rest
            return (.arr items, rest)
          else if c = '\x7b' then do
            let depth ← enter shape depth (c :: rest)
            let (members, rest) ← readMembers shape depth fuel true rest
            return (.obj members, rest)
          else failAt .noValue (c :: rest)

/-- The items of an array from number `index` on, behind the opening bracket or an item. -/
def readItems (shape : Shape) (depth : Nat) : Nat → Nat → List Char →
    Except Failure (List Json × List Char)
  | 0, _, s => failAt .endInList s
  | fuel + 1, index, s =>
      match skipSpace s with
      | [] => failAt .endInList []
      | c :: rest =>
          if c = ']' then .ok ([], rest)
          -- before the first item stands no comma
          else if index = 0 then readItem shape depth fuel 0 (c :: rest)
          else if c ≠ ',' then failAt .noCommaOrBracket (c :: rest)
          else
            match skipSpace rest with
            | [] => failAt .endInValue []
            | d :: more =>
                if d = ']' then failAt .trailingComma (d :: more)
                else readItem shape depth fuel index (d :: more)

def readItem (shape : Shape) (depth : Nat) : Nat → Nat → List Char →
    Except Failure (List Json × List Char)
  | 0, _, s => failAt .endInList s
  | fuel + 1, index, s => do
      let (item, rest) ← readValue (shape.ofItem index) depth fuel s
      let (items, rest) ← readItems shape depth fuel (index + 1) rest
      return (item :: items, rest)

/-- The members of an object, behind the opening brace or a member. -/
def readMembers (shape : Shape) (depth : Nat) : Nat → Bool → List Char →
    Except Failure (List (String × Json) × List Char)
  | 0, _, s => failAt .endInObject s
  | fuel + 1, first, s =>
      match skipSpace s with
      | [] => failAt .endInObject []
      | c :: rest =>
          if c = '\x7d' then .ok ([], rest)
          else if first then readMember shape depth fuel (c :: rest)
          else if c ≠ ',' then failAt .noCommaOrBrace (c :: rest)
          else
            match skipSpace rest with
            | [] => failAt .endInValue []
            | d :: more =>
                if d = '\x7d' then failAt .trailingComma (d :: more)
                else readMember shape depth fuel (d :: more)

def readMember (shape : Shape) (depth : Nat) : Nat → List Char →
    Except Failure (List (String × Json) × List Char)
  | 0, s => failAt .endInObject s
  | fuel + 1, s =>
      match s with
      | [] => failAt .endInValue []
      | c :: rest =>
          if c ≠ '"' then failAt .badKey (c :: rest)
          else do
            let (key, rest) ← readText (!shape.isSkipped) [] rest.length rest
            match skipSpace rest with
            | [] => failAt .endInObject []
            | d :: more =>
                if d ≠ ':' then failAt .noColon (d :: more)
                else do
                  let (value, rest) ← readValue (shape.ofMember key) depth fuel more
                  let (members, rest) ← readMembers shape depth fuel false rest
                  let dropped := (shape.ofMember key).isSkipped
                  return (if dropped then members else (key, value) :: members, rest)

end

/-- The whole text as one document.  Four steps of fuel are enough for each character. -/
def readChars (shape : Shape) (text : List Char) : Except Failure Json := do
  let (doc, rest) ← readValue shape depthLimit (4 * text.length + 4) text
  match skipSpace rest with
  | [] => return doc
  | c :: more => failAt .trailingText (c :: more)

/-- The document that a text holds, with the parts that `shape` keeps. -/
def read? (shape : Shape) (text : String) : Option Json :=
  (readChars shape text.toList).toOption

/-- The value of a text, or what is wrong with it. -/
def parse (text : String) : Except String Json :=
  match readChars .any text.toList with
  | .ok doc => .ok doc.sorted
  | .error failure => .error (failure.message text.toList)

def parse? (text : String) : Option Json :=
  (readChars .any text.toList).toOption.map Json.sorted

end Json

end StubConsole
