import StubConsole.Screen.Picture

/-!
# Listing — rows with a cursor

Every row shows one line.  If the listing has a cursor, all rows are indented by its arrow, and as
many rows are left out at the top as needed for the cursor to be seen.
-/

namespace StubConsole

structure Entry where
  line : Line
  /-- The style of the whole row. -/
  style : Style

namespace Entry

def plain (line : Line) : Entry := ⟨line, .plain⟩

end Entry

namespace Listing

/-- The row of an entry. -/
def row (width : Nat) (e : Entry) : Row :=
  (Row.fit width (e.line.cells width)).under e.style

/-- What stands before the entry under the cursor. -/
def arrow : String := "→ "

/-- The row of an entry in a listing with a cursor. -/
def indented (width : Nat) (e : Entry) (here : Bool) : Row :=
  let mark := Line.plain (if here then arrow else "  ")
  let row := (Row.fit width (mark.cells width ++ e.line.cells (width - 2))).under e.style
  if here then row.marked (.onto .darkGray) else row

/-- Entries left out at the top so that the cursor is on one of `height` rows. -/
def offset (cursor height : Nat) : Nat := cursor + 1 - height

/-- Entries without a cursor. -/
def plain (entries : List Entry) : Drawing := fun w h =>
  Picture.fit w h ((entries.take h).map (row w))

/-- Entries with a cursor; behind the end of the list it is on the last one. -/
def withCursor (entries : List Entry) (cursor : Nat) : Drawing := fun w h =>
  let cursor := min cursor (entries.length - 1)
  let rows := entries.mapIdx fun i e => (e, i == cursor)
  Picture.fit w h (((rows.drop (offset cursor h)).take h).map fun (e, here) => indented w e here)

end Listing

end StubConsole
