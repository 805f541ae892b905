/-!
# Utf8 — byte lengths of texts

Cursors and columns count bytes of the UTF-8 form of a text, while the console's logic works on
its characters.  `byteLength` is the measure that ties the two together.
-/

namespace StubConsole

namespace Text

/-- Bytes of the UTF-8 form. -/
def byteLength (s : List Char) : Nat :=
  s.foldr (fun c n => c.utf8Size + n) 0

@[simp] theorem byteLength_nil : byteLength [] = 0 := rfl

@[simp] theorem byteLength_cons (c : Char) (s : List Char) :
    byteLength (c :: s) = c.utf8Size + byteLength s := rfl

@[simp] theorem byteLength_append (s t : List Char) :
    byteLength (s ++ t) = byteLength s + byteLength t := by
  induction s with
  | nil => simp
  | cons c rest ih => simp [ih, Nat.add_assoc]

/-- The bytes of the UTF-8 form. -/
def bytes (s : List Char) : List UInt8 :=
  s.flatMap String.utf8EncodeChar

/-- Cuts a text before the first character that ends beyond byte `n`; on a character boundary
that is the cut at byte `n`. -/
def splitAtByte : Nat → List Char → List Char × List Char
  | _, [] => ([], [])
  | n, c :: rest =>
      if c.utf8Size ≤ n then
        let (a, b) := splitAtByte (n - c.utf8Size) rest
        (c :: a, b)
      else ([], c :: rest)

theorem splitAtByte_append (n : Nat) (s : List Char) :
    (splitAtByte n s).1 ++ (splitAtByte n s).2 = s := by
  induction s generalizing n with
  | nil => rfl
  | cons c rest ih =>
      unfold splitAtByte
      split
      · simp [ih]
      · rfl

end Text

end StubConsole
