import StubConsole.Notice
import StubConsole.Screen.Style

/-!
# Palette — which color means what
-/

namespace StubConsole

namespace Palette

def method : String → Color
  | "GET" => .green
  | "POST" => .blue
  | "PUT" => .yellow
  | "DELETE" => .red
  | "PATCH" => .cyan
  | "ANY" => .magenta
  | _ => .white

/-- A status is colored by its first digit. -/
def status (code : Nat) : Color :=
  match code / 100 with
  | 2 => .green
  | 3 => .cyan
  | 4 => .yellow
  | 5 => .red
  | _ => .gray

def tone : Tone → Color
  | .info => .cyan
  | .success => .green
  | .error => .red

/-- The border of what has the keyboard. -/
def focused : Style := .colored .cyan

/-- The border of what has not. -/
def unfocused : Style := .colored .darkGray

def muted : Style := .colored (.rgb 150 150 150)

def heading : Style := (Style.colored .cyan).strong

/-- The row that the next press deletes. -/
def armed : Style := .onto (.rgb 60 20 20)

/-- What dialogs stand on. -/
def dialog : Style := { Style.onto (.rgb 30 30 30) with foreground := some .white }

/-- The tab or page shown. -/
def chosen : Style := { (Style.onto .cyan).strong with foreground := some .black }

end Palette

end StubConsole
