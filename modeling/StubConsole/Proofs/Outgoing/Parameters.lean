import Mathlib.Data.List.Induction
import StubConsole.Outgoing
import StubConsole.Proofs.Url.Marks

/-!
# Parameters — the query of a request

The parameters of a stub are encoded one by one and put together with `&` and `=`, which stand
for nothing else in what is encoded.  So the query can be taken apart again, and each name and each
value decodes to itself.

* `Percent.formDecode?`, `Percent.formDecode?_formEncode` — one name or value;
* `Query.read?`, `Query.read?_text` — the pairs of a query;
* `Url.query_appendPairs` — the query that grows pair by pair;
* `urlText_query` — the query of the address of a request.
-/

namespace StubConsole

open Text
open Json (exists_of_bind_eq_ok)

/-! ## Names and values -/

namespace Percent

section Forms

variable {c : Char} {s t : List Char}

/-- A plus sign in a query is a space. -/
def ofPlus (c : Char) : Char := if c = '+' then ' ' else c

/-- The text that a name or a value in a query stands for. -/
def formDecode? (s : List Char) : Option String :=
  String.fromUTF8? ⟨(decode (s.map ofPlus)).toArray⟩

theorem map_ofPlus_encodeChar (c : Char) : (encodeChar c).map ofPlus = encodeChar c := by
  refine (List.map_congr_left fun d hd => if_neg ?_).trans (List.map_id _)
  rcases mem_encodeChar hd with rfl | hhex
  · decide
  · rintro rfl
    cases hhex

theorem decode_formEncode (s : List Char) : decode ((formEncode s).map ofPlus) = bytes s := by
  induction s with
  | nil => rfl
  | cons c s ih =>
      have hcons : formEncode (c :: s)
          = (if c = ' ' then ['+'] else if formPlain c then [c] else encodeChar c)
            ++ formEncode s := rfl
      have hbytes : bytes (c :: s) = String.utf8EncodeChar c ++ bytes s := rfl
      rw [hcons, hbytes, List.map_append, ← ih]
      split
      next hspace =>
        rw [hspace]
        exact decode_cons_of_ne (by decide) _
      split
      next hplain =>
        have hpercent : c ≠ '%' := by rintro rfl; cases hplain
        have hplus : ofPlus c = c := if_neg (by rintro rfl; cases hplain)
        rw [List.map_singleton, hplus]
        exact decode_cons_of_ne hpercent _
      next => rw [map_ofPlus_encodeChar, decode_encodeChar]

/-- A name or a value is decoded to itself. -/
theorem formDecode?_formEncode (text : String) :
    formDecode? (formEncode text.toList) = some text := by
  rw [formDecode?, decode_formEncode, fromUTF8?_bytes, String.ofList_toList]

theorem notMem_formEncode {d : Char} (hd : formPlain d = false) (hne : d ≠ '+' ∧ d ≠ '%')
    (s : List Char) : d ∉ formEncode s := by
  intro hmem
  rcases mem_formEncode hmem with rfl | rfl | hplain
  · exact hne.1 rfl
  · exact hne.2 rfl
  · rw [hd] at hplain
    cases hplain

end Forms

end Percent

/-! ## Queries -/

namespace Query

variable {pairs : List (String × String)}

/-- A pair of a query: name and value are parted by the first `=`. -/
def readPair? (s : List Char) : Option (String × String) := do
  let (name, value) := (splitAt? '=' s).getD (s, [])
  return (← Percent.formDecode? name, ← Percent.formDecode? value)

/-- The pairs of a query. -/
def read? (query : List Char) : Option (List (String × String)) :=
  (splitOn '&' query).mapM readPair?

/-- How a pair is written. -/
def pairText (pair : String × String) : List Char :=
  Percent.formEncode pair.1.toList ++ '=' :: Percent.formEncode pair.2.toList

def text (pairs : List (String × String)) : List Char :=
  joinWith ['&'] (pairs.map pairText)

theorem readPair?_pairText (pair : String × String) : readPair? (pairText pair) = some pair := by
  have hname : '=' ∉ Percent.formEncode pair.1.toList :=
    Percent.notMem_formEncode rfl (by decide) _
  simp [readPair?, pairText, splitAt?_cut hname, Percent.formDecode?_formEncode]

theorem notMem_pairText {d : Char} (hd : Percent.formPlain d = false)
    (hne : d ≠ '+' ∧ d ≠ '%' ∧ d ≠ '=') (pair : String × String) : d ∉ pairText pair := by
  have hparts := Percent.notMem_formEncode hd ⟨hne.1, hne.2.1⟩
  simp [pairText, hparts, hne.2.2]

/-- A query is read as the pairs it was written from. -/
theorem read?_text (hne : pairs ≠ []) : read? (text pairs) = some pairs := by
  have hsplit : splitOn '&' (text pairs) = pairs.map pairText := by
    refine splitOn_joinWith (by simpa using hne) fun part hpart => ?_
    rcases List.mem_map.1 hpart with ⟨pair, -, rfl⟩
    exact notMem_pairText rfl (by decide) pair
  rw [read?, hsplit]
  exact mapM_map pairs fun pair _ => readPair?_pairText pair

theorem text_ne_nil (hne : pairs ≠ []) : text pairs ≠ [] := by
  rcases List.exists_cons_of_ne_nil hne with ⟨pair, rest, rfl⟩
  have hmem : '=' ∈ text (pair :: rest) :=
    mem_joinWith ['&'] (List.mem_map_of_mem List.mem_cons_self) (by simp [pairText])
  exact List.ne_nil_of_mem hmem

theorem text_concat (pairs : List (String × String)) (pair : String × String) :
    text (pairs ++ [pair])
      = if pairs = [] then pairText pair else text pairs ++ '&' :: pairText pair := by
  rw [text, List.map_append, List.map_singleton, Url.joinWith_concat]
  simp [text]

theorem numberSign_notMem_text (pairs : List (String × String)) : '#' ∉ text pairs := by
  intro hmem
  rcases mem_of_mem_joinWith hmem with hbetween | ⟨part, hpart, hc⟩
  · cases List.mem_singleton.1 hbetween
  · rcases List.mem_map.1 hpart with ⟨pair, -, rfl⟩
    exact notMem_pairText rfl (by decide) pair hc

end Query

/-! ## Addresses -/

namespace Url

variable {u : Url}

/-- Only the query grows. -/
theorem appendPairs_eq (hquery : u.query = none) (pairs : List (String × String)) :
    u.appendPairs pairs
      = { u with query := if pairs = [] then none else some (Query.text pairs) } := by
  -- the pairs are written from the last one backwards, as the query grows at its end
  induction pairs using List.reverseRecOn with
  | nil =>
      rw [if_pos rfl, ← hquery]
      rfl
  | append_singleton pairs pair ih =>
      have hlast : u.appendPairs (pairs ++ [pair])
          = (u.appendPairs pairs).appendPair pair.1 pair.2 := List.foldl_append
      have hsolid : pairs ++ [pair] ≠ [] := by simp
      rw [hlast, ih, Query.text_concat, if_neg hsolid]
      by_cases hne : pairs = []
      · rw [if_pos hne, if_pos hne]
        rfl
      · rcases List.exists_cons_of_ne_nil (Query.text_ne_nil hne) with ⟨c, rest, htext⟩
        rw [if_neg hne, if_neg hne, htext]
        rfl

/-- The query of an address, as it stands in its text. -/
def queryOf (text : String) : Option (List Char) := (splitTail text.toList).2.1

theorem text_eq_front (hfragment : u.fragment = none) :
    u.text = u.front ++ match u.query with
      | none => []
      | some q => '?' :: q := by
  rw [text, hfragment]
  exact List.append_nil _

/-- Without a fragment, the query is all that follows the first question mark. -/
theorem queryOf_text (hfront : NoMarks u.front) (hfragment : u.fragment = none)
    (hquery : ∀ q ∈ u.query, '#' ∉ q) : queryOf (String.ofList u.text) = u.query := by
  rw [queryOf, String.toList_ofList, text_eq_front hfragment]
  cases hq : u.query with
  | none =>
      dsimp only
      rw [List.append_nil, splitTail_of_noMarks hfront]
  | some q =>
      have hmark : '#' ∉ '?' :: q := by simpa using hquery q hq
      rw [splitTail_append hfront, splitTail, splitAt?_of_notMem hmark]
      rfl

theorem noMarks_joinPath {base path : List Char} (hbase : NoMarks base) (hpath : NoMarks path) :
    NoMarks (joinPath base path) := by
  have hslash : NoMarks ['/'] := by decide
  refine noMarks_append (hbase.of_subset ?_) ?_
  · rcases exists_slashes base with ⟨n, hn⟩
    intro c hc
    rw [hn]
    exact List.mem_append_left _ hc
  · split
    · exact hpath
    · exact noMarks_append hslash hpath

end Url

/-! ## Addresses of requests -/

/-- The parameters of a request arrive as they were given, in the order of their names; those
without a value are left out, and if none is left there is no query. -/
theorem urlText_query (base path : String) (parameters : SortedMap String) (text : String)
    (hbase : Url.NoMarks base.toList) (hpath : Url.NoMarks path.toList)
    (h : urlText base path parameters = .ok text) :
    let given := parameters.filter fun _ value => value ≠ ""
    (given = ∅ → Url.queryOf text = none) ∧
    (given ≠ ∅ → ∃ query, Url.queryOf text = some query ∧
      Query.read? query = some given.entries) := by
  intro given
  rw [urlText] at h
  split at h
  next u haddress =>
    obtain rfl := Except.ok.inj h
    rcases exists_of_bind_eq_ok haddress with ⟨joined, hjoined, hpairs⟩
    obtain rfl := Except.ok.inj hpairs
    rcases Url.marks_of_parse (Url.noMarks_joinPath hbase hpath) hjoined with ⟨hquery, hfragment⟩
    have hfront := Url.noMarks_front_of_parse hjoined
    have htext : Url.queryOf (String.ofList (joined.appendPairs given.entries).text)
        = if given.entries = [] then none else some (Query.text given.entries) := by
      rw [Url.appendPairs_eq hquery]
      refine Url.queryOf_text hfront hfragment fun q hq => ?_
      rw [Option.mem_def, Option.ite_none_left_eq_some] at hq
      rw [← Option.some.inj hq.2]
      exact Query.numberSign_notMem_text given.entries
    refine ⟨fun hnone => ?_, fun hsome => ?_⟩
    · exact htext.trans (if_pos (congrArg SortedMap.entries hnone))
    · have hne : given.entries ≠ [] := fun hnil => hsome (SortedMap.ext_entries hnil)
      exact ⟨_, htext.trans (if_neg hne), Query.read?_text hne⟩
  next => cases h

/-- Signs of the encoding itself, other scripts and an empty value. -/
def signs : SortedMap String :=
  SortedMap.ofList [("q&a=", "1 + 1 = 2"), ("100%", "%41#?"), ("é", "日本\x00"), ("", "x"),
    ("none", "")]

theorem urlText_query_signs :
    Url.NoMarks "file:///C:/pets".toList ∧ Url.NoMarks "a b/é".toList ∧
    ∃ text query, urlText "file:///C:/pets" "a b/é" signs = .ok text ∧
      Url.queryOf text = some query ∧
      Query.read? query = some [("", "x"), ("100%", "%41#?"), ("q&a=", "1 + 1 = 2"),
        ("é", "日本\x00")] := by
  have hbase : Url.NoMarks "file:///C:/pets".toList := by decide
  have hpath : Url.NoMarks "a b/é".toList := by decide
  have htext : urlText "file:///C:/pets" "a b/é" signs = .ok ("file:///C:/pets/a%20b/%C3%A9"
      ++ "?=x&100%25=%2541%23%3F&q%26a%3D=1+%2B+1+%3D+2&%C3%A9=%E6%97%A5%E6%9C%AC%00") := by
    decide +kernel
  have hgiven : (signs.filter fun _ value => value ≠ "").entries
      = [("", "x"), ("100%", "%41#?"), ("q&a=", "1 + 1 = 2"), ("é", "日本\x00")] := by
    decide +kernel
  have hsome : (signs.filter fun _ value => value ≠ "") ≠ ∅ := fun hnone => by
    rw [hnone] at hgiven
    cases hgiven
  rcases (urlText_query _ _ signs _ hbase hpath htext).2 hsome with ⟨query, hquery, hread⟩
  exact ⟨hbase, hpath, _, query, htext, hquery, hread.trans (congrArg some hgiven)⟩

end StubConsole
