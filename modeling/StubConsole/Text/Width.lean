import StubConsole.Text.Cluster

/-!
# Width — columns of a text on a terminal

Most characters take one column, East Asian characters and emoji take two, and marks take none.
A cluster is as wide as its characters together, except where they make one picture.

* `charWidth`, `clusterWidth`, `width` — the columns.
-/

namespace StubConsole

namespace Text

/-- Signs that have no column of their own although they are neither marks nor ignorable. -/
def isUnspaced (c : Char) : Bool :=
  between 0x1160 0x11FF c || between 0xD7B0 0xD7C6 c || between 0xD7CB 0xD7FB c
    || [0x605, 0x70F, 0x890, 0x891, 0x8E2, 0xA8FA].contains c.toNat

/-- Controls take a column like letters do. -/
def charWidth (c : Char) : Nat :=
  if inRanges marks c || inRanges ignorable c || isUnspaced c then 0
  else if inRanges wide c then 2
  else 1

/-! ## Pictures -/

def asksForPicture (c : Char) : Bool := c.toNat = 0xFE0F

def asksForText (c : Char) : Bool := c.toNat = 0xFE0E

/-- A joiner with a pictograph behind it. -/
def hasJoined : List Char → Bool
  | a :: b :: rest => (isJoiner a && isPictograph b) || hasJoined (b :: rest)
  | _ => false

/-- The cluster makes one picture, though not each of its characters is one. -/
def isPicture : List Char → Bool
  | base :: next :: rest =>
      let emoji := inRanges narrowEmoji base || (isPictograph base && inRanges wide base)
      (emoji && (asksForPicture next || isModifier next))
        || (isPictograph base && hasJoined (next :: rest))
  | _ => false

/-- A wide emoji drawn as text: the squared and the circled ideographs stay wide. -/
def isTextEmoji : List Char → Bool
  | base :: next :: _ =>
      asksForText next && isPictograph base && inRanges wide base
        && !between 0x3000 0x32FF base && !between 0x1F200 0x1F2FF base
  | _ => false

def clusterWidth (cluster : List Char) : Nat :=
  if cluster = ['\r', '\n'] || isTextEmoji cluster then 1
  else if isPicture cluster then 2
  else cluster.foldr (fun c n => charWidth c + n) 0

/-- The columns of a text. -/
def width (s : List Char) : Nat :=
  (clusters s).foldr (fun cluster n => clusterWidth cluster + n) 0

end Text

end StubConsole
