import StubConsole.Outgoing
import StubConsole.Proofs.Url.Escapes

/-!
# Segments — paths one segment at a time

A path is resolved segment by segment: a dot segment leaves the one before it or changes nothing,
any other segment is written down.  Only at the end of a path a dot segment leaves a mark, an empty
segment.

* `Url.enter`, `Url.settle` — what a segment in front of others does, and several of them;
* `Url.resolve_concat` — the last segment;
* `Url.spell` — the text of resolved segments;
* `Url.path_concat` — the last segment of a path that is read;
* `Url.dropSlashesEnd_path` — a path apart from the slashes at its end.
-/

namespace StubConsole

open Text

namespace Url

/-! ## Slashes at the end -/

section Slashes

variable {s : List Char} {c : Char}

theorem dropSlashesEnd_append (front s : List Char) (hc : c ≠ '/') :
    dropSlashesEnd (front ++ c :: s) = front ++ c :: dropSlashesEnd s := by
  rcases exists_cut_reverse (· = '/') s with ⟨s', slashes, rfl, hs', hslashes⟩
  have hlast : ∀ d ∈ (front ++ c :: s').getLast?, decide (d = '/') = false := by
    cases hcases : s'.getLast? with
    | none => simp_all
    | some d => simpa [List.getLast?_append, List.getLast?_cons, hcases] using hs' d hcases
  rw [← List.cons_append, ← List.append_assoc, dropSlashesEnd, dropWhile_reverse_cut hlast hslashes,
    dropSlashesEnd, dropWhile_reverse_cut hs' hslashes]

theorem dropSlashesEnd_append_slash (s : List Char) :
    dropSlashesEnd (s ++ ['/']) = dropSlashesEnd s := by
  simp [dropSlashesEnd]

theorem dropSlashesEnd_concat (s : List Char) (hc : c ≠ '/') :
    dropSlashesEnd (s ++ [c]) = s ++ [c] := by
  simp [dropSlashesEnd, hc]

theorem exists_slashes (s : List Char) :
    ∃ n, s = dropSlashesEnd s ++ List.replicate n '/' := by
  rcases exists_cut_reverse (· = '/') s with ⟨front, rest, rfl, hfront, hrest⟩
  have hslashes : rest = List.replicate rest.length '/' :=
    List.eq_replicate_of_mem fun c hc => by simpa using hrest c hc
  refine ⟨rest.length, ?_⟩
  rw [dropSlashesEnd, dropWhile_reverse_cut hfront hrest, ← hslashes]

theorem length_dropSlashesEnd_le (s : List Char) : (dropSlashesEnd s).length ≤ s.length := by
  rcases exists_slashes s with ⟨n, hn⟩
  have hlength := congrArg List.length hn
  rw [List.length_append] at hlength
  omega

end Slashes

/-! ## Dots -/

/-- A segment that is not written down. -/
def isDot (segment : List Char) : Bool :=
  let written := Percent.encode Percent.path segment
  isDoubleDot written || isSingleDot written

/-- The texts that have this form in small letters. -/
def casings : List Char → List (List Char)
  | [] => [[]]
  | c :: t => (casings t).flatMap fun s => [c :: s, c.toUpper :: s]

theorem toNat_of_isUpper {c : Char} (h : c.isUpper = true) : 65 ≤ c.toNat ∧ c.toNat ≤ 90 := by
  unfold Char.isUpper at h
  simpa [UInt32.le_iff_toNat_le] using h

theorem toNat_toLower_of_isUpper {c : Char} (h : c.isUpper = true) :
    c.toLower.toNat = c.toNat + 32 := by
  have hdown : ('a'.val - 'A'.val).toNat = 32 := rfl
  have hc := toNat_of_isUpper h
  change c.toLower.val.toNat = c.val.toNat + 32
  change 65 ≤ c.val.toNat ∧ c.val.toNat ≤ 90 at hc
  unfold Char.isUpper at h
  unfold Char.toLower
  rw [dif_pos (by simpa using h), UInt32.toNat_add, hdown]
  omega

theorem toLower_of_not_isUpper {c : Char} (h : c.isUpper = false) : c.toLower = c := by
  unfold Char.isUpper at h
  unfold Char.toLower
  rw [dif_neg]
  simpa using h

theorem toUpper_toLower_of_isUpper {c : Char} (h : c.isUpper = true) :
    c.toLower.toUpper = c := by
  have hup : ('A'.val - 'a'.val).toNat = 4294967264 := rfl
  have hc := toNat_of_isUpper h
  have hlower := toNat_toLower_of_isUpper h
  have hletter : 'a'.val ≤ c.toLower.val ∧ c.toLower.val ≤ 'z'.val := by
    rw [UInt32.le_iff_toNat_le, UInt32.le_iff_toNat_le]
    change 97 ≤ c.toLower.toNat ∧ c.toLower.toNat ≤ 122
    omega
  unfold Char.toUpper
  rw [dif_pos hletter]
  refine Char.ext (UInt32.toNat_inj.1 ?_)
  change c.toLower.val.toNat = c.val.toNat + 32 at hlower
  change 65 ≤ c.val.toNat ∧ c.val.toNat ≤ 90 at hc
  rw [UInt32.toNat_add, hup, hlower]
  omega

theorem eq_toLower_or_eq_toUpper (c : Char) : c = c.toLower ∨ c = c.toLower.toUpper := by
  by_cases hc : c.isUpper = true
  · exact .inr (toUpper_toLower_of_isUpper hc).symm
  · exact .inl (toLower_of_not_isUpper (Bool.eq_false_iff.2 hc)).symm

theorem mem_casings {s t : List Char} (h : s.map Char.toLower = t) : s ∈ casings t := by
  induction s generalizing t with
  | nil => simp [← h, casings]
  | cons c s ih =>
      subst h
      rw [List.map_cons, casings, List.mem_flatMap]
      exact ⟨s, ih rfl, by simpa using eq_toLower_or_eq_toUpper c⟩

theorem decode_of_isSingleDot {s : List Char} (h : isSingleDot s = true) :
    Percent.decode s = [46] := by
  have hdots : ∀ t ∈ [['.'], ['%', '2', 'e']], ∀ s ∈ casings t, Percent.decode s = [46] := by
    decide
  simp only [isSingleDot, Bool.or_eq_true, decide_eq_true_eq] at h
  rcases h with h | h
  all_goals exact hdots _ (by simp) s (mem_casings h)

theorem decode_of_isDoubleDot {s : List Char} (h : isDoubleDot s = true) :
    Percent.decode s = [46, 46] := by
  have hdots : ∀ t ∈ [['.', '.'], ['.', '%', '2', 'e'], ['%', '2', 'e', '.'],
      ['%', '2', 'e', '%', '2', 'e']], ∀ s ∈ casings t, Percent.decode s = [46, 46] := by
    decide
  simp only [isDoubleDot, Bool.or_eq_true, decide_eq_true_eq, or_assoc] at h
  rcases h with h | h | h | h
  all_goals exact hdots _ (by simp) s (mem_casings h)

theorem decode_of_isDot {s : List Char} (h : isDot s = true) :
    Percent.decode s = [46] ∨ Percent.decode s = [46, 46] := by
  rw [isDot, Bool.or_eq_true] at h
  rw [← Percent.decode_encode_path]
  exact h.symm.imp decode_of_isSingleDot decode_of_isDoubleDot

/-! ## Resolved segments, the last one first -/

section Resolve

variable {done segs : List (List Char)} {segment last : List Char}

/-- What a segment in front of others leaves. -/
def enter (done : List (List Char)) (segment : List Char) : List (List Char) :=
  let written := Percent.encode Percent.path segment
  if isDoubleDot written then leave done
  else if isSingleDot written then done
  else written :: done

def settle (done segs : List (List Char)) : List (List Char) := segs.foldl enter done

@[simp] theorem settle_nil (done : List (List Char)) : settle done [] = done := rfl

@[simp] theorem settle_cons (done : List (List Char)) (segment : List Char)
    (segs : List (List Char)) : settle done (segment :: segs) = settle (enter done segment) segs :=
  rfl

@[simp] theorem settle_append (done a b : List (List Char)) :
    settle done (a ++ b) = settle (settle done a) b :=
  List.foldl_append

theorem enter_of_not_isDot (h : isDot segment = false) :
    enter done segment = Percent.encode Percent.path segment :: done := by
  rw [isDot, Bool.or_eq_false_iff] at h
  simp [enter, h.1, h.2]

/-- The last segment counts like the others, and a dot segment leaves an empty one. -/
theorem resolve_concat (done segs : List (List Char)) (last : List Char) :
    resolve done (segs ++ [last])
      = (if isDot last then [[]] else []) ++ settle done (segs ++ [last]) := by
  induction segs generalizing done with
  | nil =>
      by_cases h2 : isDoubleDot (Percent.encode Percent.path last) = true
      · simp [resolve, enter, isDot, h2]
      by_cases h1 : isSingleDot (Percent.encode Percent.path last) = true
      · simp [resolve, enter, isDot, h2, h1]
      · simp [resolve, enter, isDot, h2, h1]
  | cons segment segs ih =>
      have hne : (segs ++ [last]).isEmpty = false := by simp
      simp only [List.cons_append, resolve, settle_cons, hne, ih, enter]
      split
      · rfl
      · split <;> rfl

end Resolve

/-! ## The text of segments -/

/-- The path of resolved segments. -/
def spell : List (List Char) → List Char
  | [] => []
  | segment :: done => spell done ++ '/' :: segment

theorem joinWith_concat (sep : List Char) (parts : List (List Char)) (part : List Char) :
    joinWith sep (parts ++ [part])
      = if parts = [] then part else joinWith sep parts ++ sep ++ part := by
  split
  next hparts => rw [hparts, List.nil_append, joinWith]
  next hparts => rw [joinWith_append sep hparts (List.cons_ne_nil _ _), joinWith]

theorem spell_eq {done : List (List Char)} (h : done ≠ []) :
    '/' :: joinWith ['/'] done.reverse = spell done := by
  induction done with
  | nil => exact absurd rfl h
  | cons segment done ih =>
      rw [List.reverse_cons, joinWith_concat, spell]
      by_cases hdone : done = []
      · simp [hdone, spell]
      · simp [hdone, ← ih hdone]

/-! ## Paths behind a server -/

section Paths

variable {above tail last s : List Char}

/-- What a path is cut at. -/
def slashed (c : Char) : Char := if c = '\\' then '/' else c

/-- What may stand behind a server, up to the query. -/
def BeginsPath (tail : List Char) : Prop := ∀ c ∈ tail.head?, c = '/' ∨ c = '\\'

/-- The segments behind a server. -/
def below : List Char → List (List Char)
  | [] => []
  | _ :: s => segmentsOf true s

theorem map_slashed (h : '\\' ∉ s) : s.map slashed = s := by
  refine (List.map_congr_left fun c hc => if_neg fun heq => h ?_).trans (List.map_id _)
  exact heq ▸ hc

theorem map_slashed_of_notMem (h : '/' ∉ s.map slashed) : s.map slashed = s :=
  map_slashed fun hmem => h (List.mem_map.2 ⟨_, hmem, rfl⟩)

theorem byteLength_map_slashed (s : List Char) : byteLength (s.map slashed) = byteLength s := by
  induction s with
  | nil => rfl
  | cons c s ih =>
      have hsize : (slashed c).utf8Size = c.utf8Size := by
        rw [slashed]
        split
        next heq => rw [heq]; rfl
        next => rfl
      rw [List.map_cons, byteLength_cons, byteLength_cons, hsize, ih]

theorem segmentsOf_eq (s : List Char) : segmentsOf true s = splitOn '/' (s.map slashed) := rfl

theorem segmentsOf_append_slash (a b : List Char) :
    segmentsOf true (a ++ '/' :: b) = segmentsOf true a ++ segmentsOf true b := by
  simp only [segmentsOf_eq, List.map_append, List.map_cons]
  exact splitOn_append_sep '/' _ _

theorem below_append_slash (tail s : List Char) :
    below (tail ++ '/' :: s) = below tail ++ segmentsOf true s := by
  cases tail with
  | nil => rfl
  | cons c tail => exact segmentsOf_append_slash tail s

/-- The last segment of a text, and how it grows with the text. -/
theorem exists_segmentsOf_concat (s : List Char) :
    ∃ parts last, last <:+ s.map slashed ∧ '/' ∉ last
      ∧ ∀ more, '/' ∉ more.map slashed →
        segmentsOf true (s ++ more) = parts ++ [last ++ more.map slashed] := by
  rcases exists_splitOn_concat '/' (s.map slashed) with ⟨parts, last, hlast, hslash, hmore⟩
  refine ⟨parts, last, hlast, hslash, fun more h => ?_⟩
  rw [segmentsOf_eq, List.map_append, hmore _ h]

theorem readPathAfterHost_eq (h : BeginsPath tail) :
    readPathAfterHost true tail = '/' :: joinWith ['/'] (resolve [] (below tail)).reverse := by
  cases tail with
  | nil => rfl
  | cons c s =>
      have hc : (c = '/' || (true && c = '\\')) = true := by simpa using h c rfl
      rw [readPathAfterHost, if_pos hc]
      rfl

/-- A path by its last segment. -/
theorem path_of_below {parts : List (List Char)} (h : BeginsPath tail)
    (hbelow : below tail = parts ++ [last]) :
    readPathAfterHost true tail
      = if isDot last then spell (enter (settle [] parts) last) ++ ['/']
        else spell (settle [] parts) ++ '/' :: Percent.encode Percent.path last := by
  rw [readPathAfterHost_eq h, hbelow, resolve_concat, settle_append, settle_cons, settle_nil]
  by_cases hdot : isDot last = true
  · rw [if_pos hdot, if_pos hdot, List.singleton_append, spell_eq (List.cons_ne_nil _ _), spell]
  · rw [if_neg hdot, if_neg hdot, List.nil_append, enter_of_not_isDot (Bool.eq_false_iff.2 hdot),
      spell_eq (List.cons_ne_nil _ _), spell]

theorem beginsPath_append (h : BeginsPath tail) (hs : BeginsPath s) : BeginsPath (tail ++ s) := by
  cases tail with
  | nil => exact hs
  | cons c tail => exact h

theorem beginsPath_slash (s : List Char) : BeginsPath ('/' :: s) :=
  fun c hc => .inl (by simpa using hc.symm)

theorem beginsPath_slashes (n : Nat) : BeginsPath (List.replicate n '/') := by
  cases n with
  | zero => exact fun c hc => nomatch hc
  | succ n => exact beginsPath_slash _

/-- Whatever follows the last slash, the last segment of the path is made from a part of it. -/
theorem path_concat (h : BeginsPath tail) (s : List Char) :
    ∃ above last, last <:+ s.map slashed ∧ '/' ∉ last
      ∧ readPathAfterHost true (tail ++ '/' :: s)
        = above ++ '/' :: if isDot last then [] else Percent.encode Percent.path last := by
  rcases exists_segmentsOf_concat s with ⟨parts, last, hlast, hslash, hmore⟩
  have hsegments : segmentsOf true s = parts ++ [last] := by
    simpa using hmore [] List.not_mem_nil
  have hbelow : below (tail ++ '/' :: s) = (below tail ++ parts) ++ [last] := by
    rw [below_append_slash, hsegments, List.append_assoc]
  have hpath := path_of_below (beginsPath_append h (beginsPath_slash s)) hbelow
  by_cases hdot : isDot last = true
  · rw [if_pos hdot] at hpath
    exact ⟨_, last, hlast, hslash, by rw [hpath, if_pos hdot]⟩
  · rw [if_neg hdot] at hpath
    exact ⟨_, last, hlast, hslash, by rw [hpath, if_neg hdot]⟩

/-- Two segments that are no dots, at the end of a path. -/
theorem path_concat_concat {front back : List Char} (h : BeginsPath tail)
    (hfront : '/' ∉ front.map slashed) (hfrontDot : isDot (front.map slashed) = false)
    (hback : '/' ∉ back.map slashed) (hbackDot : isDot (back.map slashed) = false) :
    readPathAfterHost true (tail ++ '/' :: (front ++ '/' :: back))
      = spell (settle [] (below tail))
        ++ '/' :: Percent.encode Percent.path (front.map slashed)
        ++ '/' :: Percent.encode Percent.path (back.map slashed) := by
  have hbelow : below (tail ++ '/' :: (front ++ '/' :: back))
      = (below tail ++ [front.map slashed]) ++ [back.map slashed] := by
    rw [below_append_slash, segmentsOf_append_slash, segmentsOf_eq, segmentsOf_eq,
      splitOn_of_notMem hfront, splitOn_of_notMem hback, List.append_assoc]
  rw [path_of_below (beginsPath_append h (beginsPath_slash _)) hbelow, if_neg (by simp [hbackDot]),
    settle_append, settle_cons, settle_nil, enter_of_not_isDot hfrontDot, spell]

/-! ## Slashes and blanks at the end of a path -/

theorem exists_below_concat {c : Char} (s : List Char) :
    ∃ parts last, '/' ∉ last ∧ ∀ more, '/' ∉ more.map slashed →
      below (c :: s ++ more) = parts ++ [last ++ more.map slashed] := by
  rcases exists_segmentsOf_concat s with ⟨parts, last, -, hslash, hmore⟩
  exact ⟨parts, last, hslash, hmore⟩

theorem dropSlashesEnd_path (h : BeginsPath tail) :
    dropSlashesEnd (readPathAfterHost true tail)
      = dropSlashesEnd (spell (settle [] (below tail))) := by
  cases tail with
  | nil => rfl
  | cons c s =>
      rcases exists_below_concat (c := c) s with ⟨parts, last, -, hmore⟩
      have hbelow : below (c :: s) = parts ++ [last] := by
        simpa using hmore [] List.not_mem_nil
      rw [path_of_below h hbelow, hbelow, settle_append, settle_cons, settle_nil]
      by_cases hdot : isDot last = true
      · rw [if_pos hdot, dropSlashesEnd_append_slash]
      · rw [if_neg hdot, enter_of_not_isDot (Bool.eq_false_iff.2 hdot), spell]

/-- Slashes at the end of a path are empty segments. -/
theorem dropSlashesEnd_path_slashes (h : BeginsPath tail) (n : Nat) :
    dropSlashesEnd (readPathAfterHost true (tail ++ List.replicate n '/'))
      = dropSlashesEnd (spell (settle [] (below tail))) := by
  rw [dropSlashesEnd_path (beginsPath_append h (beginsPath_slashes n))]
  induction n with
  | zero => rw [List.replicate_zero, List.append_nil]
  | succ n ih =>
      have hempty : ∀ done, settle done (segmentsOf true []) = [] :: done := fun _ => rfl
      rw [List.replicate_succ', ← List.append_assoc, below_append_slash, settle_append, hempty,
        spell, dropSlashesEnd_append_slash, ih]

theorem length_spell_enter_le (done : List (List Char)) (hdot : isDot last = true) :
    (spell (enter done last)).length ≤ (spell done).length := by
  have hleave : (spell (leave done)).length ≤ (spell done).length := by
    cases done with
    | nil => exact Nat.le_refl _
    | cons segment done =>
        rw [leave]
        split
        · exact Nat.le_refl _
        · simp [spell]
  rw [isDot, Bool.or_eq_true] at hdot
  rw [enter]
  split
  next => exact hleave
  next hdouble => rw [if_pos (hdot.resolve_left hdouble)]

theorem length_path_le {parts : List (List Char)} (h : BeginsPath tail)
    (hbelow : below tail = parts ++ [last]) :
    (readPathAfterHost true tail).length
      ≤ (spell (settle [] parts)).length + (Percent.encode Percent.path last).length + 1 := by
  rw [path_of_below h hbelow]
  split
  next hdot =>
    have hle := length_spell_enter_le (settle [] parts) hdot
    simp only [List.length_append, List.length_singleton]
    omega
  next =>
    simp only [List.length_append, List.length_cons]
    omega

theorem dropSlashesEnd_concat_segment (above : List Char) {segment : List Char}
    (hne : segment ≠ []) (hslash : '/' ∉ segment) :
    dropSlashesEnd (above ++ '/' :: segment) = above ++ '/' :: segment := by
  rcases List.eq_nil_or_concat' segment with rfl | ⟨front, c, rfl⟩
  · exact absurd rfl hne
  · have hc : c ≠ '/' := fun heq => hslash (by simp [heq])
    rw [← List.cons_append, ← List.append_assoc, dropSlashesEnd_concat _ hc]

/-- A segment that ends with a blank is no dot. -/
theorem isDot_concat_low (s : List Char) {d : Char} (hd : d.toNat ≤ 0x20) :
    isDot (s ++ [d]) = false := by
  rw [← Bool.not_eq_true]
  intro hdot
  have hlast : (Percent.decode (s ++ [d])).getLast? = some 46 := by
    rcases decode_of_isDot hdot with hdots | hdots
    all_goals rw [hdots]; rfl
  rw [Percent.decode_concat_low s hd, List.getLast?_concat, Option.some.injEq] at hlast
  have hvalue := congrArg UInt8.toNat hlast
  rw [UInt8.toNat_ofNat_of_lt' (Nat.lt_of_le_of_lt hd (by decide))] at hvalue
  change d.toNat = 46 at hvalue
  omega

/-- Blanks behind a path change its last segment. -/
theorem dropSlashesEnd_path_low {front : List Char} {c d : Char} (h : BeginsPath (c :: s))
    (hlow : ∀ c ∈ front ++ [d], c.toNat ≤ 0x20) :
    dropSlashesEnd (readPathAfterHost true (c :: s))
      ≠ dropSlashesEnd (spell (settle [] (below (c :: s ++ (front ++ [d]))))) := by
  rcases exists_below_concat (c := c) s with ⟨parts, last, hlast, hmore⟩
  have hd : d.toNat ≤ 0x20 := hlow d (by simp)
  have hslash : '/' ∉ front ++ [d] := fun hmem => Percent.ne_of_low (hlow _ hmem) (by decide) rfl
  have hmap : (front ++ [d]).map slashed = front ++ [d] :=
    map_slashed fun hmem => Percent.ne_of_low (hlow _ hmem) (by decide) rfl
  have hshort := length_path_le h (by simpa using hmore [] List.not_mem_nil)
  have hbelow := hmore (front ++ [d]) (by rwa [hmap])
  rw [hmap, ← List.append_assoc last] at hbelow
  -- with the blanks the path is longer: its last segment grows, and is a dot segment no more
  have hsegment : Percent.encode Percent.path [d] ≠ [] := by
    rcases Percent.exists_encodeChar d with ⟨t, ht⟩
    rw [Percent.encode_cons]
    split <;> simp [ht]
  have hlong := List.length_pos_iff.2 hsegment
  rw [hbelow, settle_append, settle_cons, settle_nil,
    enter_of_not_isDot (isDot_concat_low _ hd), spell, dropSlashesEnd_concat_segment]
  · refine fun heq => Nat.ne_of_lt ?_ (congrArg List.length heq)
    calc (dropSlashesEnd (readPathAfterHost true (c :: s))).length
        ≤ (readPathAfterHost true (c :: s)).length := length_dropSlashesEnd_le _
      _ ≤ (spell (settle [] parts)).length + (Percent.encode Percent.path last).length + 1 := hshort
      _ < (spell (settle [] parts)
            ++ '/' :: Percent.encode Percent.path ((last ++ front) ++ [d])).length := by
        simp only [Percent.encode_append, List.length_append, List.length_cons]
        omega
  · simp [hsegment]
  · refine Percent.slash_notMem_encode ?_
    rw [List.append_assoc, List.mem_append, not_or]
    exact ⟨hlast, hslash⟩

end Paths

end Url

end StubConsole
