/-!
# Style — colors and weight of a cell

A style says as much of a cell as it wants to.  Laid over another one it keeps what it does not
mention, so that styles with this operation form a monoid.
-/

namespace StubConsole

inductive Color where
  | black
  | red
  | green
  | yellow
  | blue
  | magenta
  | cyan
  | gray
  | darkGray
  | lightCyan
  | white
  | rgb (red green blue : UInt8)
  deriving DecidableEq, Repr

namespace Color

/-- A byte as two hexadecimal digits, in capitals. -/
def hexByte (n : UInt8) : List Char :=
  let digit (d : Nat) : Char := (Nat.digitChar d).toUpper
  [digit (n.toNat / 16), digit (n.toNat % 16)]

def name : Color → String
  | .black => "Black"
  | .red => "Red"
  | .green => "Green"
  | .yellow => "Yellow"
  | .blue => "Blue"
  | .magenta => "Magenta"
  | .cyan => "Cyan"
  | .gray => "Gray"
  | .darkGray => "DarkGray"
  | .lightCyan => "LightCyan"
  | .white => "White"
  | .rgb r g b => String.ofList ('#' :: hexByte r ++ hexByte g ++ hexByte b)

end Color

structure Style where
  foreground : Option Color
  background : Option Color
  bold : Bool
  deriving DecidableEq, Repr

namespace Style

def plain : Style := ⟨none, none, false⟩

instance : Inhabited Style := ⟨plain⟩

def colored (c : Color) : Style := { plain with foreground := some c }

def onto (c : Color) : Style := { plain with background := some c }

def strong (s : Style) : Style := { s with bold := true }

/-- The second style over the first one. -/
def under (below above : Style) : Style :=
  ⟨above.foreground.or below.foreground, above.background.or below.background,
    below.bold || above.bold⟩

@[simp] theorem plain_under (s : Style) : plain.under s = s := by
  simp [plain, under]

@[simp] theorem under_plain (s : Style) : s.under plain = s := by
  simp [plain, under]

theorem under_assoc (a b c : Style) : (a.under b).under c = a.under (b.under c) := by
  simp [under, Option.or_assoc, Bool.or_assoc]

end Style

end StubConsole
