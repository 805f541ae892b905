import StubConsole.Text.Property
import StubConsole.Text.Ranges

/-!
# Cluster — what a reader sees as one character

A text is cut into clusters: a letter with its marks, a syllable, a flag of two letters, a picture
made of several ones.  A terminal draws each of them in one go.

* `joins` — a character continues the cluster before it;
* `clusters` — the clusters of a text, in order; together they are the text.
-/

namespace StubConsole

namespace Text

/-! ## Classes of characters -/

def between (first last : Nat) (c : Char) : Bool := first ≤ c.toNat && c.toNat ≤ last

/-- Skin tones. -/
def isModifier (c : Char) : Bool := between 0x1F3FB 0x1F3FF c

def isJoiner (c : Char) : Bool := c.toNat = 0x200D

def isControl (c : Char) : Bool := c = '\r' || c = '\n' || inRanges controls c

def isPictograph (c : Char) : Bool := inRanges pictographs c

/-- Flags are written with two of these. -/
def isFlagLetter (c : Char) : Bool := between 0x1F1E6 0x1F1FF c

/-- The character belongs to the one before it. -/
def isMark (c : Char) : Bool := inRanges marks c || isModifier c || isJoiner c

/-! ## Syllables -/

inductive Jamo where
  | leading
  | vowel
  | trailing
  /-- A leading consonant with a vowel, in one character. -/
  | open
  /-- An open syllable with a trailing consonant, in one character. -/
  | closed
  deriving DecidableEq, Repr

namespace Jamo

def of? (c : Char) : Option Jamo :=
  if between 0x1100 0x115F c || between 0xA960 0xA97C c then some leading
  else if between 0x1160 0x11A7 c || between 0xD7B0 0xD7C6 c then some vowel
  else if between 0x11A8 0x11FF c || between 0xD7CB 0xD7FB c then some trailing
  else if between 0xAC00 0xD7A3 c then
    -- syllables are listed by their trailing consonants, none first
    some (if (c.toNat - 0xAC00) % 28 = 0 then .open else .closed)
  else none

/-- The second one continues the syllable of the first one. -/
def follows : Jamo → Jamo → Bool
  | leading, next => next ≠ trailing
  | vowel, next | .open, next => next = vowel || next = trailing
  | trailing, next | closed, next => next = trailing

end Jamo

/-- The sign that ties two consonants of an Indic script together. -/
def isLinker (c : Char) : Bool :=
  [0x94D, 0x9CD, 0xACD, 0xB4D, 0xC4D, 0xD4D].contains c.toNat

/-- Consonants of the scripts that have such a sign. -/
def linkedConsonants : List (Nat × Nat) :=
  [(0x915, 0x939), (0x958, 0x95F), (0x978, 0x97F), (0x995, 0x9A8), (0x9AA, 0x9B0),
   (0x9B2, 0x9B2), (0x9B6, 0x9B9), (0x9DC, 0x9DD), (0x9DF, 0x9DF), (0x9F0, 0x9F1),
   (0xA95, 0xAA8), (0xAAA, 0xAB0), (0xAB2, 0xAB3), (0xAB5, 0xAB9), (0xAF9, 0xAF9),
   (0xB15, 0xB28), (0xB2A, 0xB30), (0xB32, 0xB33), (0xB35, 0xB39), (0xB5C, 0xB5D),
   (0xB5F, 0xB5F), (0xB71, 0xB71), (0xC15, 0xC28), (0xC2A, 0xC39), (0xC58, 0xC5A),
   (0xD15, 0xD3A)]

def isLinkedConsonant (c : Char) : Bool := inRanges linkedConsonants c

/-! ## Cutting -/

/-- The last character and what is before it, last first, are tied to a character that follows. -/
def tied (last : Char) (before : List Char) (c : Char) : Bool :=
  match Jamo.of? last, Jamo.of? c with
  | some a, some b => a.follows b
  | _, _ =>
      -- marks in between do not part what belongs together
      let tail := (last :: before).takeWhile isMark
      let head? := ((last :: before).dropWhile isMark).head?
      (isJoiner last && isPictograph c && head?.any isPictograph)
        -- flag letters come in pairs from the start of the run
        || (isFlagLetter c && (last :: before).countP isFlagLetter % 2 = 1 && isFlagLetter last)
        || (isLinkedConsonant c && tail.any isLinker && head?.any isLinkedConsonant)

/-- The character continues a cluster, whose characters are given last first. -/
def joins : List Char → Char → Bool
  | [], _ => true
  | last :: before, c =>
      if last = '\r' && c = '\n' then true
      else if isControl last || isControl c then false
      else isMark c || inRanges spacingMarks c || inRanges prepended last || tied last before c

/-- The clusters of a text that continues a cluster, whose characters are given last first. -/
def clustersFrom (current : List Char) : List Char → List (List Char)
  | [] => if current.isEmpty then [] else [current.reverse]
  | c :: rest =>
      if joins current c then clustersFrom (c :: current) rest
      else current.reverse :: clustersFrom [c] rest

def clusters (s : List Char) : List (List Char) := clustersFrom [] s

theorem flatten_clustersFrom (current s : List Char) :
    (clustersFrom current s).flatten = current.reverse ++ s := by
  induction s generalizing current with
  | nil => cases current <;> simp [clustersFrom]
  | cons c rest ih =>
      unfold clustersFrom
      split <;> simp [ih]

/-- Nothing is lost, and nothing changes its place. -/
theorem flatten_clusters (s : List Char) : (clusters s).flatten = s := by
  simp [clusters, flatten_clustersFrom]

end Text

end StubConsole
