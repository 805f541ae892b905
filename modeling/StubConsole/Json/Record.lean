import StubConsole.Json.Printer
import StubConsole.Json.Reader

/-!
# Record — typed records as documents

A record is an object with named members.  It is read leniently where servers differ and strictly
where a mistake would go unseen: a member that is named twice is refused, an unknown one is either
kept under its key or passed over.  Records without room for unknown members may also be written
as an array of their members in order.

* `Record` — how a type is read and written;
* `Members` — the members a record is read from;
* `Members.field` — one member, read by a rule for present and absent values;
* the rules: `ident`, `text`, `loose`, `optional`, `orElse`, `required`.
-/

namespace StubConsole

/-- A type with a written form. -/
class Record (α : Type) where
  /-- The parts of a document that are looked at. -/
  shape : Json.Shape
  ofJson? : Json → Option α
  toJson : α → Json

namespace Record

variable {α : Type} [Record α]

def read? (text : String) : Option α :=
  (Json.read? (shape α) text).bind ofJson?

def write (a : α) : String :=
  (toJson a).compact

def writePretty (a : α) : String :=
  (toJson a).pretty

instance : Record Json where
  shape := .any
  ofJson? doc := some doc.sorted
  toJson doc := doc

instance : Record (List α) where
  shape := .each (shape α)
  ofJson?
    | .arr items => items.mapM ofJson?
    | _ => none
  toJson items := .arr (items.map toJson)

end Record

/-! ## Members -/

abbrev Members := List (String × Json)

namespace Members

/-- The members of a record written as an object. -/
def ofObject? : Json → Option Members
  | .obj members => some members
  | _ => none

/-- The members of a record written as an object, or as an array that holds at least `least` of
the named members, in order. -/
def ofObjectOrArray? (names : List String) (least : Nat) : Json → Option Members
  | .obj members => some members
  | .arr items =>
      if items.length < least || names.length < items.length then none
      else some (names.zip items)
  | _ => none

/-- The value of a member, if there is one; nothing if there are several. -/
def unique? (members : Members) (name : String) : Option (Option Json) :=
  match members.filter fun m => m.1 == name with
  | [] => some none
  | [m] => some (some m.2)
  | _ => none

/-- One member, read by a rule for its value or its absence. -/
def field {α : Type} (members : Members) (name : String) (rule : Option Json → Option α) :
    Option α :=
  (members.unique? name).bind rule

/-- The members without the named ones, as values. -/
def others (members : Members) (names : List String) : SortedMap Json :=
  SortedMap.ofList <|
    (members.filter fun m => !names.contains m.1).map fun m => (m.1, m.2.sorted)

end Members

/-! ## Rules for members -/

namespace Rule

variable {α : Type}

/-- Absent and null values are left out. -/
def optional (read : Json → Option α) : Option Json → Option (Option α)
  | none => some none
  | some .null => some none
  | some value => (read value).map some

/-- An absent value has a default; null is no value. -/
def orElse (absent : α) (read : Json → Option α) : Option Json → Option α
  | none => some absent
  | some value => read value

def required (read : Json → Option α) : Option Json → Option α
  | none => none
  | some value => read value

/-- Identifiers are numbers on some servers; here each is a text.  Null and an absent value are
the empty text, the mark of a record that was never saved. -/
def ident : Option Json → Option String
  | none => some ""
  | some .null => some ""
  | some (.str s) => some s
  | some value => some value.sorted.compact

/-- Null and an absent value are the empty text. -/
def text : Option Json → Option String
  | none => some ""
  | some .null => some ""
  | some (.str s) => some s
  | some _ => none

/-- A text, or the written form of any other value. -/
def loose : Option Json → Option String
  | none => some ""
  | some (.str s) => some s
  | some value => some value.sorted.compact

/-- As `loose`, with null and an absent value left out. -/
def looseOption : Option Json → Option (Option String)
  | none => some none
  | some .null => some none
  | some (.str s) => some (some s)
  | some value => some (some value.sorted.compact)

/-! ## Values -/

def string : Json → Option String
  | .str s => some s
  | _ => none

def boolean : Json → Option Bool
  | .bool b => some b
  | _ => none

def value (doc : Json) : Option Json :=
  some doc.sorted

def natUpTo (max : Nat) : Json → Option Nat
  | .num (.whole n) => if 0 ≤ n && n ≤ (max : Int) then some n.toNat else none
  | _ => none

def intBetween (min max : Int) : Json → Option Int
  | .num (.whole n) => if min ≤ n && n ≤ max then some n else none
  | _ => none

def status : Json → Option Nat := natUpTo 65535

def count : Json → Option Nat := natUpTo Json.maxWord

def int32 : Json → Option Int := intBetween (-2147483648) 2147483647

/-- A fraction, or a whole number taken as one. -/
def fraction : Json → Option UInt64
  | .num (.whole n) => some (Float.ofInt n).toBits
  | .num (.float bits) => some bits
  | _ => none

def list (read : Json → Option α) : Json → Option (List α)
  | .arr items => items.mapM read
  | _ => none

/-- A table; of two entries for one name the later one counts. -/
def table (read : Json → Option α) : Json → Option (SortedMap α)
  | .obj members =>
      (members.mapM fun m => (read m.2).map (m.1, ·)).map SortedMap.ofList
  | _ => none

/-- One of a list of names, as a text or as the only member of an object, with value null. -/
def choice (choices : List α) (name : α → String) : Json → Option α
  | .str s => choices.find? fun c => name c == s
  | .obj [(key, .null)] => choices.find? fun c => name c == key
  | _ => none

end Rule

/-! ## Writing -/

namespace Members

/-- A member that is written only when it has a value. -/
def whenSome (name : String) : Option Json → Members
  | none => []
  | some value => [(name, value)]

def unlessEmpty (name text : String) : Members :=
  if text = "" then [] else [(name, .str text)]

def ofTable {α : Type} (write : α → Json) (table : SortedMap α) : Json :=
  .obj (table.map write).entries

def unlessNoEntry {α : Type} (name : String) (write : α → Json) (table : SortedMap α) : Members :=
  if table.isEmpty then [] else [(name, ofTable write table)]

def unlessNoItem {α : Type} (name : String) (write : α → Json) (items : List α) : Members :=
  if items.isEmpty then [] else [(name, .arr (items.map write))]

end Members

end StubConsole
