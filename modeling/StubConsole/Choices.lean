/-!
# Choices — values that one key steps through

* `successor?` — the choice behind the current one;
* `cycleFilter` — no filter, each choice in turn, and no filter again.
-/

namespace StubConsole

/-- What follows the first occurrence of a choice. -/
def successor? (current : String) : List String → Option String
  | [] => none
  | choice :: rest => if choice = current then rest.head? else successor? current rest

/-- No filter, then each choice in turn, then no filter again. -/
def cycleFilter (choices : List String) : Option String → Option String
  | none => choices.head?
  | some current => successor? current choices

end StubConsole
