import StubConsole.Decimal.Reading
import StubConsole.Text.Blank

/-!
# Instant — points in time of the request journal

Servers write the time of a request as milliseconds since 1970 or as a date with a time and an
offset.  Both name an instant: whole seconds since 1970 and nanoseconds within the second.  A leap
second belongs to the second before it and has a billion nanoseconds or more.

* `Instant` — ordered by seconds, then nanoseconds;
* `Instant.ofMillis?` — the instants that the calendar reaches;
* `Instant.ofCalendar?` — a date with time and offset;
* `Instant.read?` — either form, blanks around it aside.
-/

namespace StubConsole

structure Instant where
  seconds : Int
  nanos : Nat
  deriving DecidableEq, Repr

namespace Instant

/-- The order in time. -/
def cmp (a b : Instant) : Ordering :=
  (compare a.seconds b.seconds).then (compare a.nanos b.nanos)

/-! ## Milliseconds -/

def leastMillis : Int := -8334601228800000

def greatestMillis : Int := 8210266876799999

def ofMillis? (millis : Int) : Option Instant :=
  if leastMillis ≤ millis && millis ≤ greatestMillis then
    some ⟨millis.fdiv 1000, (millis.fmod 1000).toNat * 1000000⟩
  else none

/-! ## Calendar -/

def isLeapYear (y : Nat) : Bool :=
  y % 4 = 0 && (y % 100 ≠ 0 || y % 400 = 0)

def daysInMonth (y m : Nat) : Nat :=
  if m = 2 then (if isLeapYear y then 29 else 28)
  else if m = 4 || m = 6 || m = 9 || m = 11 then 30
  else 31

/-- Days from 1970-01-01 to a date. -/
def daysSinceEpoch (y m d : Nat) : Int :=
  let daysBefore := (List.range' 1 (m - 1)).foldl (fun n i => n + daysInMonth y i) 0
  let years : Int := (y : Int) - 1
  365 * years + years.fdiv 4 - years.fdiv 100 + years.fdiv 400 + daysBefore + d - 719163

/-- A number of exactly `n` digits, and what follows. -/
def fixedDigits? (n : Nat) (s : List Char) : Option (Nat × List Char) :=
  let digits := s.take n
  if digits.length = n then (Text.readDigits? digits).map (·, s.drop n) else none

def expect? (ok : Char → Bool) : List Char → Option (List Char)
  | [] => none
  | c :: rest => if ok c then some rest else none

/-- The nanoseconds behind a point, at least one digit; digits behind the ninth are dropped. -/
def fractionDigits? : List Char → Option (Nat × List Char)
  | '.' :: rest =>
      let digits := (rest.takeWhile Char.isDigit).take 9
      let value := Nat.ofDigitChars 10 digits 0 * Nat.pow 10 (9 - digits.length)
      if digits.isEmpty then none else some (value, rest.dropWhile Char.isDigit)
  | s => some (0, s)

/-- The offset from universal time in minutes; it ends the text. -/
def offset? : List Char → Option Int
  | [] => none
  | c :: rest =>
      if c = 'Z' || c = 'z' then (if rest.isEmpty then some 0 else none)
      else if c = '+' || c = '-' || c = Char.ofNat 0x2212 then do
        let (hours, rest) ← fixedDigits? 2 rest
        let rest ← expect? (· = ':') rest
        let (minutes, rest) ← fixedDigits? 2 rest
        if !rest.isEmpty || hours > 23 || minutes > 59 then none
        else
          let total : Int := 60 * hours + minutes
          return if c = '+' then total else -total
      else none

def ofCalendar? (s : List Char) : Option Instant := do
  let (year, s) ← fixedDigits? 4 s
  let s ← expect? (· = '-') s
  let (month, s) ← fixedDigits? 2 s
  let s ← expect? (· = '-') s
  let (day, s) ← fixedDigits? 2 s
  let s ← expect? (fun c => c = 'T' || c = 't' || c = ' ') s
  let (hour, s) ← fixedDigits? 2 s
  let s ← expect? (· = ':') s
  let (minute, s) ← fixedDigits? 2 s
  let s ← expect? (· = ':') s
  let (second, s) ← fixedDigits? 2 s
  let (nanos, s) ← fractionDigits? s
  let offset ← offset? s
  if month < 1 || month > 12 || day < 1 || day > daysInMonth year month then none
  else if hour > 23 || minute > 59 || second > 60 then none
  else
    let seconds := daysSinceEpoch year month day * 86400 + hour * 3600 + minute * 60
      + min second 59 - 60 * offset
    return ⟨seconds, if second = 60 then nanos + 1000000000 else nanos⟩

/-! ## Both forms -/

def read? (s : String) : Option Instant :=
  let chars := Text.trimChars s.toList
  match Decimal.fraction? chars with
  | some (.finite bits) => ofMillis? (Decimal.truncate bits)
  | some .notFinite => none
  | none => ofCalendar? chars

end Instant

end StubConsole
