/-!
# Punycode — names of all scripts in digits and small letters

A label is written as its ASCII characters, followed by the others in the order of their code
points, each as the distance to the one before in a number system whose digits run from `a` to
`9` and whose thresholds adapt to the distances seen.

* `Punycode.adapt` — the thresholds after a distance;
* `Punycode.encode` — the written form of a label.
-/

namespace StubConsole

namespace Punycode

/-- The digit for a value: 0 to 25 are letters, 26 to 35 decimal digits. -/
def digit (n : Nat) : Char :=
  if n < 26 then Char.ofNat ('a'.toNat + n) else Char.ofNat ('0'.toNat + (n - 26))

/-- Divides by 35 until the rest is small; counts 36 for each division. -/
def shrink (k : Nat) (delta : Nat) : Nat × Nat :=
  if h : delta > 455 then shrink (k + 36) (delta / 35) else (k, delta)
  termination_by delta
  decreasing_by omega

def adapt (delta count : Nat) (first : Bool) : Nat :=
  let delta := if first then delta / 700 else delta / 2
  let (k, delta) := shrink 0 (delta + delta / count)
  k + 36 * delta / (delta + 38)

def threshold (k bias : Nat) : Nat :=
  if k ≤ bias then 1 else if k ≥ bias + 26 then 26 else k - bias

theorem threshold_pos (k bias : Nat) : 1 ≤ threshold k bias := by
  unfold threshold
  split
  · exact Nat.le_refl 1
  · split <;> omega

/-- The digits of a distance, from place `k` on. -/
def digits (bias k q : Nat) : List Char :=
  let t := threshold k bias
  if h : q < t then [digit q]
  else digit (t + (q - t) % (36 - t)) :: digits bias (k + 36) ((q - t) / (36 - t))
  termination_by q
  decreasing_by
    have ht := threshold_pos k bias
    exact Nat.lt_of_le_of_lt (Nat.div_le_self _ _) (by omega)

/-- The counters of the encoder. -/
structure Progress where
  delta : Nat
  bias : Nat
  handled : Nat
  deriving DecidableEq, Repr

/-- One pass over the label for the code point `n`. -/
def pass (n basic : Nat) : Progress → List Nat → Progress × List Char
  | p, [] => (p, [])
  | p, c :: rest =>
      if c < n then pass n basic { p with delta := p.delta + 1 } rest
      else if c = n then
        let written := digits p.bias 36 p.delta
        let next : Progress :=
          ⟨0, adapt p.delta (p.handled + 1) (p.handled == basic), p.handled + 1⟩
        let (last, more) := pass n basic next rest
        (last, written ++ more)
      else pass n basic p rest

/-- The passes for the code points from `n` on; there are at most `fuel` of them. -/
def passes (codes : List Nat) (basic : Nat) : Nat → Nat → Progress → List Char
  | 0, _, _ => []
  | fuel + 1, n, p =>
      match (codes.filter (· ≥ n)).min? with
      | none => []
      | some m =>
          let (q, written) :=
            pass m basic { p with delta := p.delta + (m - n) * (p.handled + 1) } codes
          written ++ passes codes basic fuel (m + 1) { q with delta := q.delta + 1 }

def encode (label : List Char) : List Char :=
  let ascii := label.filter fun c => c.toNat < 0x80
  let basic := ascii.length
  ascii ++ (if basic > 0 then ['-'] else [])
    ++ passes (label.map Char.toNat) basic label.length 0x80 ⟨0, 72, basic⟩

end Punycode

end StubConsole
