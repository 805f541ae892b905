import StubConsole.Proofs.Text.Cuts
import StubConsole.TextBuffer

/-!
# Lines — where a text is cut around a cursor

Movements look for the ends of lines, always from the cursor outwards.

* `Text.EndsLine`, `Text.OneLine`, `Text.BeginsLine` — what stands above, in and below a line;
* `Text.getElem?_splitOn` — a line of a text by its number;
* `TextBuffer.linesAbove_cut`, `TextBuffer.firstLine_cut` — the line around a cursor.
-/

namespace StubConsole

namespace Text

/-! ## Lines -/

/-- What can stand above a line: nothing, or something that ends with a line feed. -/
def EndsLine (s : List Char) : Prop := ∀ c ∈ s.getLast?, c = '\n'

def OneLine (s : List Char) : Prop := '\n' ∉ s

/-- What can stand below a line: nothing, or the line feed that ends the line and more. -/
def BeginsLine (s : List Char) : Prop := ∀ c ∈ s.head?, c = '\n'

theorem endsLine_nil : EndsLine [] := fun _ hc => nomatch hc

theorem beginsLine_nil : BeginsLine [] := fun _ hc => nomatch hc

theorem beginsLine_cons (s : List Char) : BeginsLine ('\n' :: s) := by
  intro c hc
  simpa using hc.symm

theorem endsLine_concat (s : List Char) : EndsLine (s ++ ['\n']) := by
  intro c hc
  simpa using hc.symm

/-- Every text ends with a line. -/
theorem exists_lastLine (s : List Char) :
    ∃ above line, s = above ++ line ∧ EndsLine above ∧ OneLine line := by
  rcases exists_cut_reverse (fun c => c ≠ '\n') s with ⟨above, line, hs, habove, hline⟩
  refine ⟨above, line, hs, by simpa [EndsLine] using habove, ?_⟩
  intro hmem
  simpa using hline '\n' hmem

/-- Every text begins with a line. -/
theorem exists_firstLine (s : List Char) :
    ∃ line below, s = line ++ below ∧ OneLine line ∧ BeginsLine below := by
  rcases exists_cut (fun c => c ≠ '\n') s with ⟨line, below, hs, hline, hbelow⟩
  refine ⟨line, below, hs, ?_, by simpa [BeginsLine] using hbelow⟩
  intro hmem
  simpa using hline '\n' hmem

/-- Nothing stands above a line unless another line does. -/
theorem EndsLine.cases {s : List Char} (h : EndsLine s) :
    s = [] ∨ ∃ above line, s = above ++ line ++ ['\n'] ∧ EndsLine above ∧ OneLine line := by
  rcases List.eq_nil_or_concat' s with rfl | ⟨front, c, rfl⟩
  · exact .inl rfl
  · have hc : c = '\n' := h c (by simp)
    rcases exists_lastLine front with ⟨above, line, rfl, habove, hline⟩
    exact .inr ⟨above, line, by rw [hc], habove, hline⟩

theorem BeginsLine.cases {s : List Char} (h : BeginsLine s) :
    s = [] ∨ ∃ line below, s = '\n' :: (line ++ below) ∧ OneLine line ∧ BeginsLine below := by
  cases s with
  | nil => exact .inl rfl
  | cons c rest =>
      have hc : c = '\n' := h c rfl
      rcases exists_firstLine rest with ⟨line, below, rfl, hline, hbelow⟩
      exact .inr ⟨line, below, by rw [hc], hline, hbelow⟩

theorem OneLine.count {s : List Char} (h : OneLine s) : s.count '\n' = 0 :=
  List.count_eq_zero_of_not_mem h

theorem OneLine.take {s : List Char} (h : OneLine s) (n : Nat) : OneLine (s.take n) :=
  fun hmem => h (List.mem_of_mem_take hmem)

/-! ## Lines by number -/

/-- A line is found under the number of line feeds above it. -/
theorem getElem?_splitOn {above line below : List Char} (habove : EndsLine above)
    (hline : OneLine line) (hbelow : BeginsLine below) :
    (splitOn '\n' (above ++ line ++ below))[above.count '\n']? = some line := by
  have hfirst : (splitOn '\n' (line ++ below))[0]? = some line := by
    rcases hbelow.cases with rfl | ⟨next, rest, rfl, -, -⟩
    · rw [List.append_nil, splitOn_of_notMem hline]
      rfl
    · rw [splitOn_append_sep, splitOn_of_notMem hline]
      rfl
  rcases habove.cases with rfl | ⟨top, last, rfl, -, -⟩
  · simpa using hfirst
  · have hsplit : top ++ last ++ ['\n'] ++ line ++ below
        = (top ++ last) ++ '\n' :: (line ++ below) := by simp
    have hlength : (splitOn '\n' (top ++ last)).length = (top ++ last ++ ['\n']).count '\n' := by
      simp [length_splitOn, Nat.add_assoc]
    rw [hsplit, splitOn_append_sep, List.getElem?_append_right (Nat.le_of_eq hlength), hlength,
      Nat.sub_self]
    exact hfirst

end Text

namespace TextBuffer

open Text

/-! ## The line around a cursor -/

section Around

variable {above line below : List Char}

theorem notLineFeed_of_oneLine (h : OneLine line) : ∀ c ∈ line, (!isLineFeed c) = true := by
  intro c hc
  have hne : c ≠ '\n' := fun heq => h (heq ▸ hc)
  simp [isLineFeed, hne]

theorem linesAbove_cut (habove : EndsLine above) (hline : OneLine line) :
    linesAbove (above ++ line) = above :=
  dropWhile_reverse_cut (fun c hc => by simp [isLineFeed, habove c hc])
    (notLineFeed_of_oneLine hline)

theorem lastLine_cut (habove : EndsLine above) (hline : OneLine line) :
    lastLine (above ++ line) = line :=
  takeWhile_reverse_cut (fun c hc => by simp [isLineFeed, habove c hc])
    (notLineFeed_of_oneLine hline)

theorem firstLine_cut (hline : OneLine line) (hbelow : BeginsLine below) :
    firstLine (line ++ below) = line :=
  takeWhile_cut (notLineFeed_of_oneLine hline) fun c hc => by simp [isLineFeed, hbelow c hc]

theorem linesBelow_cut (hline : OneLine line) (hbelow : BeginsLine below) :
    linesBelow (line ++ below) = below :=
  dropWhile_cut (notLineFeed_of_oneLine hline) fun c hc => by simp [isLineFeed, hbelow c hc]

end Around

end TextBuffer

end StubConsole
