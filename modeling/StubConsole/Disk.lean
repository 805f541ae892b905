import StubConsole.Text.Lines

/-!
# Disk — a tree of files

Files and directories below one directory, the paths to them, and the reasons why a path leads
nowhere.  A path is followed name by name: each name on the way has to be a directory, `..` leads
back up.

* `Disk.read` — the text of a file;
* `Disk.makeAll` — a directory with all that lead to it;
* `Disk.write` — a file in a directory that is made where it is missing.
-/

namespace StubConsole

inductive DiskFault where
  | missing
  | taken
  | noDirectory
  | isDirectory
  deriving DecidableEq, Repr

def DiskFault.message : DiskFault → String
  | .missing => "No such file or directory (os error 2)"
  | .taken => "File exists (os error 17)"
  | .noDirectory => "Not a directory (os error 20)"
  | .isDirectory => "Is a directory (os error 21)"

/-- Why a file was not written. -/
inductive WriteFault where
  | directory (detail : String)
  | file (detail : String)
  deriving DecidableEq, Repr

inductive DiskEntry where
  | file (text : String)
  | directory
  deriving DecidableEq, Repr

/-- The names that lead from the top to a place. -/
abbrev Place := List String

structure Disk where
  entries : List (Place × DiskEntry)
  deriving DecidableEq, Repr

namespace Disk

/-- The names of a path; empty names and single dots lead nowhere else. -/
def namesOf (path : String) : List String :=
  ((Text.splitOn '/' path.toList).map String.ofList).filter fun name => name ≠ "" && name ≠ "."

def ofFiles (files : List (String × String)) : Disk :=
  ⟨files.map fun f => (namesOf f.1, .file f.2)⟩

/-- What is at a place; the top is always a directory. -/
def at? (d : Disk) (place : Place) : Option DiskEntry :=
  if place.isEmpty then some .directory else d.entries.lookup place

/-- Follows names from a place. -/
def walk (d : Disk) (place : Place) : List String → Except DiskFault Place
  | [] => .ok place
  | name :: rest =>
      match d.at? place with
      | none => .error .missing
      | some (.file _) => .error .noDirectory
      | some .directory =>
          walk d (if name = ".." then place.dropLast else place ++ [name]) rest

def put (d : Disk) (place : Place) (entry : DiskEntry) : Disk :=
  ⟨d.entries.filter (fun e => e.1 ≠ place) ++ [(place, entry)]⟩

/-! ## Reading -/

/-- A slash at the end of a path asks for a directory. -/
def asksDirectory (path : String) : Bool := path.toList.getLast? = some '/'

def read (d : Disk) (path : String) : Except DiskFault String := do
  if path = "" then throw .missing
  match d.at? (← d.walk [] (namesOf path)) with
  | none => throw .missing
  | some .directory => throw .isDirectory
  | some (.file text) => if asksDirectory path then throw .noDirectory else return text

/-! ## Directories -/

def make (d : Disk) (names : List String) : Except DiskFault Disk := do
  let place ← d.walk [] names
  match d.at? place with
  | some _ => throw .taken
  | none => return d.put place .directory

def isDirectory (d : Disk) (names : List String) : Bool :=
  match d.walk [] names with
  | .ok place => d.at? place = some .directory
  | .error _ => false

/-- Makes a directory; one that is there already will do. -/
def ensure (d : Disk) (names : List String) : Except DiskFault Disk :=
  match d.make names with
  | .ok made => .ok made
  | .error fault => if d.isDirectory names then .ok d else .error fault

/-- Makes a directory, and those that lead to it as far as they are missing.  The names come last
one first. -/
def makeAllFrom (d : Disk) : List String → Except DiskFault Disk
  | [] => .ok d
  | name :: above =>
      match d.ensure (name :: above).reverse with
      | .error .missing => do
          let d ← makeAllFrom d above
          d.ensure (name :: above).reverse
      | result => result

def makeAll (d : Disk) (path : String) : Except DiskFault Disk :=
  d.makeAllFrom (namesOf path).reverse

/-! ## Writing -/

/-- Writes a file into a directory, and tells what the disk is then. -/
def write (d : Disk) (dir name text : String) : Except WriteFault Unit × Disk :=
  match d.makeAll dir with
  | .error fault => (.error (.directory fault.message), d)
  | .ok d =>
      match d.walk [] (namesOf dir ++ [name]) with
      | .error fault => (.error (.file fault.message), d)
      | .ok place =>
          if d.at? place = some .directory then (.error (.file DiskFault.isDirectory.message), d)
          else (.ok (), d.put place (.file text))

end Disk

end StubConsole
