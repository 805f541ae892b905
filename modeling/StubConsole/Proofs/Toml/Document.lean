import Mathlib.Data.List.Nodup
import StubConsole.Proofs.Toml.Quoted

/-!
# Document — tables of a configuration file

A file that lists tables with their entries, each name once, is read as these tables.  The lines
are read one by one, whatever stands behind them; then each header opens a table at the end, and
each entry is added at the end of the open table.

* `Toml.Spells` — a written value, with `Toml.spells_quoted` and `Toml.spells_decimal`;
* `Toml.Entry`, `Toml.Table` — what a file lists, and how it is written;
* `Toml.hasLines_chars` — the lines that are read from the written tables;
* `Toml.foldlM_tables` — the tables that these lines make;
* `Toml.parse?_chars` — the tables of a file.
-/

namespace StubConsole

namespace Toml

open Text

/-! ## Keys -/

/-- A key that needs no quotes. -/
structure BareKey (key : String) : Prop where
  solid : key ≠ ""
  bare : ∀ c ∈ key.toList, isBare c = true

instance (key : String) : Decidable (BareKey key) :=
  decidable_of_iff (key ≠ "" ∧ key.toList.all isBare = true)
    ⟨fun h => ⟨h.1, List.all_eq_true.1 h.2⟩, fun h => ⟨h.solid, List.all_eq_true.2 h.bare⟩⟩

variable {key : String} {rest : List Char}

/-- A bare key begins with none of the characters that open something else. -/
theorem BareKey.exists_cons (h : BareKey key) :
    ∃ c cs, key.toList = c :: cs ∧ isBare c = true := by
  cases hkey : key.toList with
  | nil => exact absurd (String.toList_eq_nil_iff.1 hkey) h.solid
  | cons c cs => exact ⟨c, cs, rfl, h.bare c (hkey ▸ List.mem_cons_self)⟩

theorem skipSpace_cons {c : Char} (hc : isSpace c = false) (s : List Char) :
    skipSpace (c :: s) = c :: s := by
  simp [skipSpace, hc]

/-- A line that begins with no blank. -/
theorem skipSpace_line {text : List Char} (h : ∀ c ∈ text.head?, isSpace c = false)
    (rest : List Char) : skipSpace (text ++ '\n' :: rest) = text ++ '\n' :: rest := by
  cases text with
  | nil => rfl
  | cons c text => exact skipSpace_cons (h c rfl) _

theorem isSpace_of_isBare {c : Char} (h : isBare c = true) : isSpace c = false := by
  have hblank : ' ' ≠ c := ne_of_test rfl h
  have htab : '\t' ≠ c := ne_of_test rfl h
  simp [isSpace, hblank.symm, htab.symm]

theorem readKeyPart?_bare (h : BareKey key) (hrest : ∀ c ∈ rest.head?, isBare c = false) :
    readKeyPart? (key.toList ++ rest) = some (key, rest) := by
  obtain ⟨c, cs, hkey, hc⟩ := h.exists_cons
  have hdouble : '"' ≠ c := ne_of_test rfl hc
  have hsingle : '\x27' ≠ c := ne_of_test rfl hc
  have hplain : readKeyPart? (key.toList ++ rest) =
      let bare := (key.toList ++ rest).takeWhile isBare
      if bare.isEmpty then none
      else some (String.ofList bare, (key.toList ++ rest).dropWhile isBare) := by
    rw [hkey, List.cons_append]
    unfold readKeyPart?
    split
    next heq => exact absurd (List.head_eq_of_cons_eq heq).symm hdouble
    next heq => exact absurd (List.head_eq_of_cons_eq heq).symm hsingle
    next => rfl
  have hsolid : key.toList.isEmpty = false := by simp [hkey]
  rw [hplain, takeWhile_cut h.bare hrest, dropWhile_cut h.bare hrest]
  simp [hsolid]

theorem readKey?_bare (h : BareKey key) (hrest : ∀ c ∈ rest.head?, isBare c = false)
    (hpoint : ∀ c ∈ (skipSpace rest).head?, c ≠ '.') {fuel : Nat} (hfuel : 0 < fuel) :
    readKey? fuel (key.toList ++ rest) = some ([key], skipSpace rest) := by
  obtain ⟨fuel, rfl⟩ := Nat.exists_eq_add_of_lt hfuel
  have hskip : skipSpace (key.toList ++ rest) = key.toList ++ rest := by
    obtain ⟨c, cs, hkey, hc⟩ := h.exists_cons
    rw [hkey, List.cons_append, skipSpace_cons (isSpace_of_isBare hc)]
  rw [readKey?, hskip, readKeyPart?_bare h hrest]
  simp only [Option.bind_eq_bind, Option.bind_some]
  split
  next heq => exact absurd rfl (hpoint '.' (by rw [heq]; rfl))
  next => rfl

/-! ## Numbers -/

theorem readGrouped?_digits {s : List Char} (hne : s ≠ []) (hall : ∀ c ∈ s, c.isDigit = true) :
    readGrouped? Char.isDigit s = some s := by
  have hscore : ∀ c ∈ s, c ≠ '_' := by
    rintro c hc rfl
    exact absurd (hall '_' hc) (by decide)
  have hfilter : s.filter (· ≠ '_') = s :=
    List.filter_eq_self.2 fun c hc => decide_eq_true (hscore c hc)
  have hhead : s.head? ≠ some '_' := fun h => hscore '_' (List.mem_of_head? h) rfl
  have hlast : s.getLast? ≠ some '_' := fun h => hscore '_' (List.mem_of_getLast? h) rfl
  have hempty : s.isEmpty = false := by simpa using hne
  have hdigits : s.all Char.isDigit = true := List.all_eq_true.2 hall
  have hbetween : ('_', '_') ∉ s.zip s.tail := fun h => hscore '_' (List.of_mem_zip h).1 rfl
  simp only [readGrouped?, hfilter]
  rw [if_neg]
  simpa [hempty, hdigits, hhead, hlast] using hbetween

theorem valueInBase_digits {s : List Char} (hall : ∀ c ∈ s, c.isDigit = true) :
    valueInBase 10 s = Nat.ofDigitChars 10 s 0 := by
  refine List.foldl_ext _ _ 0 fun n c hc => ?_
  rw [Json.hexValue?, if_pos (hall c hc)]
  rfl

theorem readWhole?_decimal (n : Nat) : readWhole? (decimal n) = some (n : Int) := by
  obtain ⟨c, cs, hdecimal, hc, hzero⟩ := Json.exists_decimal_eq_cons n
  have hall : ∀ d ∈ decimal n, d.isDigit = true := fun d hd => isDigit_of_mem_decimal hd
  have hgrouped : readGrouped? Char.isDigit (decimal n) = some (decimal n) :=
    readGrouped?_digits (decimal_ne_nil n) hall
  have hvalue : valueInBase 10 (decimal n) = n := by
    rw [valueInBase_digits hall]
    exact Nat.ofDigitChars_toDigits (by decide) (by decide)
  -- a zero in front stands alone
  have hlead : ((decimal n).length > 1 && (decimal n).head? = some '0') = false := by
    rw [hdecimal]
    by_cases h0 : c = '0'
    · simp [hzero h0]
    · simp [h0]
  have hread : readDecimal? (decimal n) = some n := by
    simp only [readDecimal?, hgrouped, Option.bind_eq_bind, Option.bind_some, hlead, hvalue]
    rfl
  have hsign : splitSign (decimal n) = (none, decimal n) := by
    have hplus : '+' ≠ c := ne_of_test rfl hc
    have hminus : '-' ≠ c := ne_of_test rfl hc
    rw [hdecimal]
    unfold splitSign
    split
    next heq => exact absurd (List.head_eq_of_cons_eq heq).symm hplus
    next heq => exact absurd (List.head_eq_of_cons_eq heq).symm hminus
    next => rfl
  have hbase : ∀ mark rest, decimal n ≠ '0' :: mark :: rest := by
    intro mark rest h
    rw [hdecimal] at h
    have hnone := hzero (List.head_eq_of_cons_eq h)
    rw [hnone] at h
    cases h
  unfold readWhole?
  split
  next heq => exact absurd heq (hbase _ _)
  next heq => exact absurd heq (hbase _ _)
  next heq => exact absurd heq (hbase _ _)
  next =>
    simp only [hsign, hread]
    rfl

theorem isScalarChar_of_isDigit {c : Char} (h : c.isDigit = true) : isScalarChar c = true := by
  simp [isScalarChar, isBare, Char.isAlphanum, h]

theorem readScalar?_decimal (n : Nat)
    (hrest : ∀ c ∈ rest.head?, isScalarChar c = false ∧ c ≠ ' ') :
    readScalar? (decimal n ++ rest) = some (.whole n, rest) := by
  obtain ⟨c, cs, hdecimal, hc, -⟩ := Json.exists_decimal_eq_cons n
  have hall : ∀ d ∈ decimal n, isScalarChar d = true := fun d hd =>
    isScalarChar_of_isDigit (isDigit_of_mem_decimal hd)
  have hend : ∀ d ∈ rest.head?, isScalarChar d = false := fun d hd => (hrest d hd).1
  have htext : scalarText (decimal n ++ rest) = (decimal n, rest) := by
    simp only [scalarText, takeWhile_cut hall hend, dropWhile_cut hall hend]
    split
    next => exact absurd rfl (hrest ' ' rfl).2
    next => rfl
  have hword : ∀ d ds, d.isDigit = false → decimal n ≠ d :: ds := by
    rintro d ds hd h
    rw [hdecimal] at h
    exact ne_of_test hd hc (List.head_eq_of_cons_eq h).symm
  have htrue : decimal n ≠ "true".toList := hword 't' _ rfl
  have hfalse : decimal n ≠ "false".toList := hword 'f' _ rfl
  simp only [readScalar?, htext, htrue, hfalse, if_false, readWhole?_decimal]

/-! ## Values -/

/-- The value is read from the text if nothing stands behind it on its line. -/
structure Spells (text : List Char) (value : Toml) : Prop where
  head : ∀ c ∈ text.head?, isSpace c = false
  read (fuel : Nat) (rest : List Char) :
    readValue? (fuel + 1) (text ++ '\n' :: rest) = some (value, '\n' :: rest)

theorem exists_quoted_eq_cons (s : List Char) :
    ∃ mark body, quoted s = mark :: body ∧ (mark = '"' ∨ mark = '\x27') := by
  unfold quoted
  cases quotingFor s with
  | basic => exact ⟨'"', _, rfl, .inl rfl⟩
  | literal => exact ⟨'\x27', _, rfl, .inr rfl⟩
  | basicLines => exact ⟨'"', _, rfl, .inl rfl⟩
  | literalLines => exact ⟨'\x27', _, rfl, .inr rfl⟩

theorem spells_quoted (s : String) : Spells (quoted s.toList) (.text s) := by
  obtain ⟨mark, body, hquoted, hmark⟩ := exists_quoted_eq_cons s.toList
  refine ⟨?_, fun fuel rest => ?_⟩
  · rw [hquoted]
    rintro c ⟨⟩
    rcases hmark with rfl | rfl <;> rfl
  · have hread : readText? (quoted s.toList ++ '\n' :: rest) = some (s.toList, '\n' :: rest) :=
      readText?_quoted _ (by rintro c ⟨⟩; decide)
    rw [hquoted] at hread ⊢
    rcases hmark with rfl | rfl
    · rw [List.cons_append] at hread ⊢
      simp only [readValue?, hread, Option.map_some, String.ofList_toList]
    · rw [List.cons_append] at hread ⊢
      simp only [readValue?, hread, Option.map_some, String.ofList_toList]

theorem spells_decimal (n : Nat) : Spells (decimal n) (.whole n) := by
  obtain ⟨c, cs, hdecimal, hc, -⟩ := Json.exists_decimal_eq_cons n
  refine ⟨?_, fun fuel rest => ?_⟩
  · rw [hdecimal]
    rintro d ⟨⟩
    exact isSpace_of_isBare (by simp [isBare, Char.isAlphanum, hc])
  · have hread : readScalar? (decimal n ++ '\n' :: rest) = some (.whole n, '\n' :: rest) :=
      readScalar?_decimal n (by rintro d ⟨⟩; decide)
    rw [← hread, hdecimal, List.cons_append]
    -- a digit opens none of the other values
    unfold readValue?
    split
    next heq => exact absurd (List.head_eq_of_cons_eq heq).symm (ne_of_test rfl hc)
    next heq => exact absurd (List.head_eq_of_cons_eq heq).symm (ne_of_test rfl hc)
    next heq => exact absurd (List.head_eq_of_cons_eq heq).symm (ne_of_test rfl hc)
    next heq => exact absurd (List.head_eq_of_cons_eq heq).symm (ne_of_test rfl hc)
    next => rfl

/-! ## Entries and tables -/

/-- A value with its key, as it is written. -/
structure Entry where
  key : String
  text : List Char
  value : Toml
  bare : BareKey key
  spells : Spells text value

/-- A table with a header of its own, and no key twice. -/
structure Table where
  name : String
  entries : List Entry
  bare : BareKey name
  distinct : (entries.map Entry.key).Nodup

namespace Entry

def chars (e : Entry) : List Char := e.key.toList ++ " = ".toList ++ e.text ++ ['\n']

def line (e : Entry) : Line := .entry [e.key] e.value

def node (e : Entry) : String × Node := (e.key, .value e.value)

end Entry

namespace Table

def header (t : Table) : List Char := '[' :: t.name.toList ++ [']', '\n']

def chars (t : Table) : List Char := t.header ++ t.entries.flatMap Entry.chars

def lines (t : Table) : List Line := .table [t.name] :: t.entries.map Entry.line

def node (t : Table) : String × Node := (t.name, .table .header (t.entries.map Entry.node))

def value (t : Table) : Toml := .table (t.entries.map fun e => (e.key, e.value))

end Table

/-- The tables with a blank line between them. -/
def chars (tables : List Table) : List Char := joinWith ['\n'] (tables.map Table.chars)

/-! ## Lines -/

/-- The text consists of these lines. -/
def HasLines (s : List Char) (lines : List Line) : Prop :=
  ∀ fuel, s.length < fuel → readLines? fuel s = some lines

theorem hasLines_nil : HasLines [] [] := by
  intro fuel hfuel
  obtain ⟨fuel, rfl⟩ := Nat.exists_eq_add_of_lt hfuel
  rfl

section Lines

variable {lines : List Line}

/-- A line up to its line feed, and the lines behind it. -/
theorem HasLines.cons {text : List Char} {line : Option Line} (h : HasLines rest lines)
    (hhead : ∀ c ∈ text.head?, isSpace c = false)
    (hread : readLine? (text ++ '\n' :: rest) = some (line, '\n' :: rest)) :
    HasLines (text ++ '\n' :: rest) (line.toList ++ lines) := by
  intro fuel hfuel
  cases fuel with
  | zero => cases hfuel
  | succ fuel =>
      have hlater : readLines? fuel rest = some lines := by
        rw [List.length_append, List.length_cons] at hfuel
        exact h fuel (by omega)
      have hfeed : skipComment? (skipSpace ('\n' :: rest)) = some ('\n' :: rest) := rfl
      rw [readLines?, skipSpace_line hhead, hread]
      simp only [Option.bind_eq_bind, Option.bind_some, hfeed, newLine?, hlater]
      cases line <;> rfl

theorem HasLines.blank (h : HasLines rest lines) : HasLines ('\n' :: rest) lines :=
  @HasLines.cons rest lines [] none h nofun rfl

theorem readLine?_header (t : Table) (rest : List Char) :
    readLine? ('[' :: (t.name.toList ++ ']' :: rest)) = some (some (.table [t.name]), rest) := by
  obtain ⟨c, cs, hname, hc⟩ := t.bare.exists_cons
  have hbracket : '[' ≠ c := ne_of_test rfl hc
  have hkey : readKey? (t.name.toList ++ ']' :: rest).length (t.name.toList ++ ']' :: rest)
      = some ([t.name], ']' :: rest) :=
    readKey?_bare t.bare (by rintro c ⟨⟩; rfl) (by rintro c ⟨⟩; decide)
      (by rw [List.length_append, List.length_cons]; omega)
  unfold readLine?
  split
  next heq => cases heq
  next heq =>
    rw [hname] at heq
    exact absurd (List.head_eq_of_cons_eq (List.tail_eq_of_cons_eq heq)).symm hbracket
  next heq =>
    obtain rfl := List.tail_eq_of_cons_eq heq
    rw [hkey]
    rfl
  next hopen heq => exact absurd (List.head_eq_of_cons_eq heq).symm hopen

theorem readLine?_entry (e : Entry) (rest : List Char) :
    readLine? (e.key.toList ++ ' ' :: '=' :: ' ' :: (e.text ++ '\n' :: rest))
      = some (some e.line, '\n' :: rest) := by
  obtain ⟨c, cs, hkey, hc⟩ := e.bare.exists_cons
  have hbracket : '[' ≠ c := ne_of_test rfl hc
  have hmarks : ¬ (c = '#' || c = '\n' || c = '\r') = true := by
    have hcomment : '#' ≠ c := ne_of_test rfl hc
    have hfeed : '\n' ≠ c := ne_of_test rfl hc
    have hreturn : '\r' ≠ c := ne_of_test rfl hc
    simp [hcomment.symm, hfeed.symm, hreturn.symm]
  have hread : readKey? (e.key.toList ++ ' ' :: '=' :: ' ' :: (e.text ++ '\n' :: rest)).length
      (e.key.toList ++ ' ' :: '=' :: ' ' :: (e.text ++ '\n' :: rest))
      = some ([e.key], '=' :: ' ' :: (e.text ++ '\n' :: rest)) :=
    readKey?_bare e.bare (by rintro c ⟨⟩; rfl) (by rintro c ⟨⟩; decide)
      (by rw [List.length_append, List.length_cons]; omega)
  have hvalue : ∀ fuel, readValue? (fuel + 1) (skipSpace (' ' :: (e.text ++ '\n' :: rest)))
      = some (e.value, '\n' :: rest) := by
    intro fuel
    have hblank : skipSpace (' ' :: (e.text ++ '\n' :: rest))
        = skipSpace (e.text ++ '\n' :: rest) := rfl
    rw [hblank, skipSpace_line e.spells.head, e.spells.read]
  rw [hkey, List.cons_append] at hread ⊢
  unfold readLine?
  split
  next heq => cases heq
  next heq => exact absurd (List.head_eq_of_cons_eq heq).symm hbracket
  next heq => exact absurd (List.head_eq_of_cons_eq heq).symm hbracket
  next heq =>
    obtain rfl := List.head_eq_of_cons_eq heq
    rw [if_neg hmarks, hread]
    simp only [Option.bind_eq_bind, Option.bind_some, List.length_cons, Nat.mul_add, hvalue]
    rfl

theorem HasLines.header (h : HasLines rest lines) (t : Table) :
    HasLines (t.header ++ rest) (.table [t.name] :: lines) := by
  have htext : t.header ++ rest = ('[' :: t.name.toList ++ [']']) ++ '\n' :: rest := by
    simp [Table.header]
  have hread : readLine? (('[' :: t.name.toList ++ [']']) ++ '\n' :: rest)
      = some (some (.table [t.name]), '\n' :: rest) := by
    simpa using readLine?_header t ('\n' :: rest)
  have hhead : ∀ c ∈ ('[' :: t.name.toList ++ [']']).head?, isSpace c = false := by
    rintro c ⟨⟩
    rfl
  rw [htext]
  exact h.cons hhead hread

theorem HasLines.entry (h : HasLines rest lines) (e : Entry) :
    HasLines (e.chars ++ rest) (e.line :: lines) := by
  obtain ⟨c, cs, hkey, hc⟩ := e.bare.exists_cons
  have htext : e.chars ++ rest = (e.key.toList ++ " = ".toList ++ e.text) ++ '\n' :: rest := by
    simp [Entry.chars]
  have hread : readLine? ((e.key.toList ++ " = ".toList ++ e.text) ++ '\n' :: rest)
      = some (some e.line, '\n' :: rest) := by
    simpa using readLine?_entry e rest
  have hhead : ∀ c ∈ (e.key.toList ++ " = ".toList ++ e.text).head?, isSpace c = false := by
    rw [hkey]
    rintro c ⟨⟩
    exact isSpace_of_isBare hc
  rw [htext]
  exact h.cons hhead hread

theorem HasLines.table (h : HasLines rest lines) (t : Table) :
    HasLines (t.chars ++ rest) (t.lines ++ lines) := by
  have hentries : ∀ entries : List Entry,
      HasLines (entries.flatMap Entry.chars ++ rest) (entries.map Entry.line ++ lines) := by
    intro entries
    induction entries with
    | nil => exact h
    | cons e entries ih =>
        rw [List.flatMap_cons, List.append_assoc]
        exact ih.entry e
  rw [Table.chars, List.append_assoc]
  exact (hentries t.entries).header t

theorem hasLines_chars (tables : List Table) :
    HasLines (chars tables) (tables.flatMap Table.lines) := by
  induction tables with
  | nil => exact hasLines_nil
  | cons t tables ih =>
      cases tables with
      | nil => simpa [chars, joinWith] using hasLines_nil.table t
      | cons next tables =>
          -- the blank line stands in front of the next table
          have htext : chars (t :: next :: tables) = t.chars ++ '\n' :: chars (next :: tables) := by
            simp [chars, joinWith]
          rw [htext, List.flatMap_cons]
          exact ih.blank.table t

end Lines

/-! ## Tables -/

section Nodes

variable {name : String} {done : List (String × Node)} {node : Node}

theorem lookup_of_notMem (h : name ∉ done.map Prod.fst) : Node.lookup name done = none := by
  rw [Node.lookup, List.lookup_eq_none_iff]
  intro entry hentry
  have hne : name ≠ entry.1 := fun heq => h (heq ▸ List.mem_map_of_mem hentry)
  simpa using hne

theorem put_of_notMem (h : name ∉ done.map Prod.fst) :
    Node.put name node done = done ++ [(name, node)] := by
  induction done with
  | nil => rfl
  | cons entry done ih =>
      rw [List.map_cons, List.mem_cons, not_or] at h
      rw [Node.put, if_neg (Ne.symm h.1), ih h.2]
      rfl

theorem lookup_last (h : name ∉ done.map Prod.fst) :
    Node.lookup name (done ++ [(name, node)]) = some node := by
  have hfront : done.lookup name = none := lookup_of_notMem h
  rw [Node.lookup, List.lookup_append, hfront]
  simp

theorem put_last (h : name ∉ done.map Prod.fst) (old : Node) :
    Node.put name node (done ++ [(name, old)]) = done ++ [(name, node)] := by
  induction done with
  | nil => simp [Node.put]
  | cons entry done ih =>
      rw [List.map_cons, List.mem_cons, not_or] at h
      rw [List.cons_append, Node.put, if_neg (Ne.symm h.1), ih h.2]
      rfl

/-- The header of a new table opens it behind the others. -/
theorem addLine?_header (h : name ∉ done.map Prod.fst) (path : List String) :
    addLine? (done, path) (.table [name])
      = some (done ++ [(name, .table .header [])], [name]) := by
  rw [addLine?, openTable?, lookup_of_notMem h, put_of_notMem h]
  rfl

/-- An entry with a new key goes to the end of the open table. -/
theorem addLine?_entry {inner : List (String × Node)} (h : name ∉ done.map Prod.fst) (e : Entry)
    (hkey : e.key ∉ inner.map Prod.fst) :
    addLine? (done ++ [(name, .table .header inner)], [name]) e.line
      = some (done ++ [(name, .table .header (inner ++ [e.node]))], [name]) := by
  have hset : setKey? [e.key] e.value inner = some (inner ++ [e.node]) := by
    rw [setKey?, lookup_of_notMem hkey, put_of_notMem hkey]
    rfl
  simp only [Entry.line, addLine?, within?, lookup_last h, hset, Option.map_some, put_last h]

end Nodes

/-- The entries so far, and those that are added behind them. -/
theorem foldlM_entries {name : String} {done inner : List (String × Node)} {entries : List Entry}
    (h : name ∉ done.map Prod.fst)
    (hkeys : (inner.map Prod.fst ++ entries.map Entry.key).Nodup) :
    (entries.map Entry.line).foldlM addLine? (done ++ [(name, .table .header inner)], [name])
      = some (done ++ [(name, .table .header (inner ++ entries.map Entry.node))], [name]) := by
  induction entries generalizing inner with
  | nil => simp
  | cons e entries ih =>
      have hnew : e.key ∉ inner.map Prod.fst := by
        intro hmem
        exact (List.disjoint_of_nodup_append hkeys) hmem List.mem_cons_self
      have hlater := @ih (inner ++ [e.node]) (by simpa [Entry.node] using hkeys)
      rw [List.map_cons, List.foldlM_cons, addLine?_entry h e hnew]
      simpa using hlater

theorem foldlM_table {done : List (String × Node)} (t : Table) (h : t.name ∉ done.map Prod.fst)
    (path : List String) :
    t.lines.foldlM addLine? (done, path) = some (done ++ [t.node], [t.name]) := by
  rw [Table.lines, List.foldlM_cons, addLine?_header h]
  exact foldlM_entries h (by simpa using t.distinct)

/-- The tables so far, and those that are added behind them. -/
theorem foldlM_tables {tables : List Table} {done : List (String × Node)} (path : List String)
    (hnames : (done.map Prod.fst ++ tables.map Table.name).Nodup) :
    ∃ last, (tables.flatMap Table.lines).foldlM addLine? (done, path)
      = some (done ++ tables.map Table.node, last) := by
  induction tables generalizing done path with
  | nil => exact ⟨path, by simp⟩
  | cons t tables ih =>
      have hnew : t.name ∉ done.map Prod.fst := by
        intro hmem
        exact (List.disjoint_of_nodup_append hnames) hmem List.mem_cons_self
      obtain ⟨last, hlater⟩ := @ih (done ++ [t.node]) [t.name] (by simpa [Table.node] using hnames)
      refine ⟨last, ?_⟩
      rw [List.flatMap_cons, List.foldlM_append, foldlM_table t hnew]
      simpa using hlater

theorem allToToml_eq_map (entries : List (String × Node)) :
    Node.allToToml entries = entries.map fun e => (e.1, e.2.toToml) := by
  induction entries with
  | nil => rw [Node.allToToml, List.map_nil]
  | cons e entries ih => rw [Node.allToToml, ih, List.map_cons]

theorem toToml_node (t : Table) : t.node.2.toToml = t.value := by
  simp [Table.node, Table.value, Node.toToml, allToToml_eq_map, Entry.node]

/-- The tables begin with a header, and not with a byte order mark. -/
theorem dropMark_chars (tables : List Table) : dropMark (chars tables) = chars tables := by
  have hopen : ∀ rest, dropMark ('[' :: rest) = '[' :: rest := fun _ => rfl
  cases tables with
  | nil => rfl
  | cons t tables =>
      cases tables with
      | nil => exact hopen _
      | cons next tables => exact hopen _

/-- A file that lists tables under different names is read as these tables. -/
theorem parse?_chars {tables : List Table} (hnames : (tables.map Table.name).Nodup) :
    parse? (String.ofList (chars tables))
      = some (.table (tables.map fun t => (t.name, t.value))) := by
  obtain ⟨last, hfold⟩ := @foldlM_tables tables [] [] hnames
  have hlines : readLines? ((chars tables).length + 1) (chars tables)
      = some (tables.flatMap Table.lines) :=
    hasLines_chars tables _ (Nat.lt_succ_self _)
  have hvalues : Node.allToToml (tables.map Table.node)
      = tables.map fun t => (t.name, t.value) := by
    rw [allToToml_eq_map, List.map_map]
    exact List.map_congr_left fun t _ => Prod.ext rfl (toToml_node t)
  simp only [parse?, String.toList_ofList, dropMark_chars, hlines, hfold, Option.bind_eq_bind,
    Option.bind_some, List.nil_append, hvalues]
  rfl

end Toml

end StubConsole
