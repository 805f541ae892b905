import StubConsole.AdminApi
import StubConsole.Proofs.Url.Reading

/-!
# RecordAddress — which record a call is about

The id of a record is put into the address of a call as it is.  The address is then read like any
other: what means something in an address means it in an id too.

* `RecordCall` — the calls about one record, with `RecordCall.address`;
* `Url.Names` — an address that is about one record of a collection;
* `PlainId` — ids without any such meaning;
* `RecordCall.names_iff` — a call is about its record just if the id is plain and no blank stands
  behind the base;
* `RecordCall.faithful_iff` — the same for two calls, which then have two addresses.
-/

namespace StubConsole

open Text

/-! ## Calls about one record -/

inductive RecordCall where
  | get (kind : StubKind)
  | find
  | update (kind : StubKind) (document : Json)
  | delete (kind : StubKind)
  | move (state : String)

namespace RecordCall

/-- The request of a call to the API at `base`. -/
def outgoing (call : RecordCall) (base id : String) : Outgoing :=
  match call with
  | get kind => (AdminApi.getStub kind id).outgoing base
  | find => (AdminApi.findStub id).outgoing base
  | update kind document => (AdminApi.updateStub kind id document).outgoing base
  | delete kind => (AdminApi.deleteStub kind id).outgoing base
  | move state => (AdminApi.setScenarioState id state).outgoing base

/-- The segment in front of the id. -/
def collection : RecordCall → String
  | get kind | update kind _ | delete kind =>
      match kind with
      | .rest => "stubs"
      | .graphQl => "graphql-stubs"
      | .soap => "soap-stubs"
  | find => "stubs"
  | move _ => "scenarios"

theorem url_outgoing (call : RecordCall) (base id : String) :
    (call.outgoing base id).url
      = AdminCall.baseOf base ++ ("/" ++ call.collection ++ "/" ++ id) := by
  cases call with
  | get kind => cases kind <;> rfl
  | find => rfl
  | update kind document => cases kind <;> rfl
  | delete kind => cases kind <;> rfl
  | move state => rfl

/-- The characters of the address that a call goes to. -/
def address (call : RecordCall) (base id : String) : List Char :=
  (call.outgoing base id).url.toList

theorem address_eq (call : RecordCall) (base id : String) :
    call.address base id
      = dropSlashesEnd base.toList ++ '/' :: (call.collection.toList ++ '/' :: id.toList) := by
  rw [address, url_outgoing]
  simp [AdminCall.baseOf]

theorem collection_mem (call : RecordCall) :
    call.collection ∈ ["stubs", "graphql-stubs", "soap-stubs", "scenarios"] := by
  cases call with
  | get kind => cases kind <;> simp [collection]
  | find => simp [collection]
  | update kind document => cases kind <;> simp [collection]
  | delete kind => cases kind <;> simp [collection]
  | move state => simp [collection]

end RecordCall

/-! ## Addresses of one record -/

/-- An address is about a record if two segments follow the path of the base, the collection and
one that stands for the id.  Slashes at the end of the base do not count. -/
structure Url.Names (base u : Url) (collection id : String) : Prop where
  scheme : u.scheme = base.scheme
  authority : u.authority = base.authority
  noQuery : u.query = none
  noFragment : u.fragment = none
  path : ∃ above segment, u.path = above ++ '/' :: (collection.toList ++ '/' :: segment)
    ∧ dropSlashesEnd above = dropSlashesEnd base.path
    ∧ '/' ∉ segment ∧ Percent.decode segment = bytes id.toList

/-- An address is about one record at most. -/
theorem Url.Names.id_eq {base u : Url} {c₁ c₂ id₁ id₂ : String} (h₁ : base.Names u c₁ id₁)
    (h₂ : base.Names u c₂ id₂) : id₁ = id₂ := by
  rcases h₁.path with ⟨above₁, segment₁, hpath₁, -, hslash₁, hdecode₁⟩
  rcases h₂.path with ⟨above₂, segment₂, hpath₂, -, hslash₂, hdecode₂⟩
  have hsegments : (above₁ ++ '/' :: c₁.toList) ++ '/' :: segment₁
      = (above₂ ++ '/' :: c₂.toList) ++ '/' :: segment₂ := by simpa using hpath₁.symm.trans hpath₂
  have hbytes : bytes id₁.toList = bytes id₂.toList := by
    rw [← hdecode₁, ← hdecode₂, (append_sep_inj hslash₁ hslash₂ hsegments).2]
  exact String.toList_inj.1 (bytes_injective hbytes)

/-! ## Plain ids -/

/-- An id that means nothing in an address. -/
structure PlainId (id : List Char) : Prop where
  noDelimiter : ∀ c ∈ id, c ∉ ['/', '\\', '?', '#', '\t', '\n', '\r']
  noEscape : Percent.hasEscape id = false
  noDots : id ≠ ['.'] ∧ id ≠ ['.', '.']
  visibleEnd : ∀ c ∈ id.getLast?, 0x20 < c.toNat

namespace PlainId

variable {id : List Char}

theorem notMem (h : PlainId id) {c : Char} (hc : c ∈ ['/', '\\', '?', '#', '\t', '\n', '\r']) :
    c ∉ id :=
  fun hmem => h.noDelimiter c hmem hc

theorem map_slashed (h : PlainId id) : id.map Url.slashed = id :=
  Url.map_slashed (h.notMem (by simp))

theorem isDot_eq_false (h : PlainId id) : Url.isDot id = false := by
  rw [← Bool.not_eq_true]
  intro hdot
  have hbytes := Percent.decode_of_not_hasEscape h.noEscape
  rcases Url.decode_of_isDot hdot with hdots | hdots
  · exact h.noDots.1 (bytes_injective (hbytes.symm.trans hdots))
  · exact h.noDots.2 (bytes_injective (hbytes.symm.trans hdots))

theorem visible_eq (h : PlainId id) : Url.visible id = id := by
  refine Url.visible_eq_self_iff.2 ⟨fun c hc => ?_, fun c hc => ?_⟩
  · have hnone := h.noDelimiter c hc
    simp only [List.mem_cons, not_or] at hnone
    simp [Url.isIgnored, hnone]
  · simpa [Url.isOuterBlank] using h.visibleEnd c hc

theorem noMarks (h : PlainId id) : Url.NoMarks id :=
  ⟨h.notMem (by simp), h.notMem (by simp)⟩

theorem of_visible (hvisible : Url.visible id = id) (hmarks : Url.NoMarks id)
    (hslashed : '/' ∉ id.map Url.slashed) (hescape : Percent.hasEscape id = false)
    (hdot : Url.isDot id = false) : PlainId id where
  noDelimiter := by
    have hignored := (Url.visible_eq_self_iff.1 hvisible).1
    intro c hc hmem
    simp only [List.mem_cons, List.not_mem_nil, or_false] at hmem
    rcases hmem with rfl | rfl | rfl | rfl | rfl | rfl | rfl
    · exact hslashed (List.mem_map.2 ⟨_, hc, rfl⟩)
    · exact hslashed (List.mem_map.2 ⟨_, hc, rfl⟩)
    · exact hmarks.1 hc
    · exact hmarks.2 hc
    all_goals exact Bool.noConfusion (hignored _ hc)
  noEscape := hescape
  noDots := by
    constructor
    all_goals
      rintro rfl
      cases hdot
  visibleEnd := fun c hc => by
    simpa [Url.isOuterBlank] using (Url.visible_eq_self_iff.1 hvisible).2 c hc

end PlainId

/-! ## The address of a call -/

namespace RecordCall

/-- A collection is a segment that is written as it is. -/
theorem collection_plain (call : RecordCall) :
    let c := call.collection.toList
    ('?' ∉ c ∧ '#' ∉ c) ∧ '/' ∉ c ∧ c.map Url.slashed = c ∧ Url.isDot c = false
      ∧ Percent.encode Percent.path c = c ∧ Url.kept c = c := by
  have hplain : ∀ c ∈ ["stubs", "graphql-stubs", "soap-stubs", "scenarios"].map String.toList,
      ('?' ∉ c ∧ '#' ∉ c) ∧ '/' ∉ c ∧ c.map Url.slashed = c ∧ Url.isDot c = false
        ∧ Percent.encode Percent.path c = c ∧ Url.kept c = c := by
    decide
  exact hplain _ (List.mem_map_of_mem call.collection_mem)

/-! ## Reading an address -/

section Read

variable {base id : String} {scheme rest slashes server tail : List Char} {b : Url}

theorem clean_address (hweb : WireRequest.isWebScheme scheme = true)
    (hbase : base.toList = scheme ++ ':' :: rest) (call : RecordCall) (id : String) :
    Url.clean (call.address base id)
      = scheme ++ ':' :: (Url.kept (dropSlashesEnd rest)
        ++ '/' :: (call.collection.toList ++ '/' :: Url.visible id.toList)) := by
  rcases call.collection_plain with ⟨-, -, -, -, -, hkept⟩
  have hfront : call.address base id = scheme ++ ':' ::
      ((dropSlashesEnd rest ++ '/' :: (call.collection.toList ++ ['/'])) ++ id.toList) := by
    rw [address_eq, hbase, Url.dropSlashesEnd_append _ _ (by decide)]
    simp
  have hslash : ∀ s, Url.kept ('/' :: s) = '/' :: Url.kept s := fun s => rfl
  rw [hfront, Url.clean_web hweb, Url.visible_append, Url.kept_append, hslash, Url.kept_append,
    hkept, hslash]
  · simp [Url.kept]
  · intro c hc
    rw [← List.cons_append, ← List.append_assoc, List.getLast?_concat] at hc
    cases hc
    rfl

/-- What an id is read as: a part of the path, a query and a fragment. -/
def readId (id : String) : List Char × Option (List Char) × Option (List Char) :=
  Url.splitTail (Url.visible id.toList)

theorem readId_of_plainId (h : PlainId id.toList) : readId id = (id.toList, none, none) := by
  rw [readId, h.visible_eq, Url.splitTail_of_noMarks h.noMarks]

/-- A call goes to the server of the base, and to a path that goes on behind that of the base. -/
theorem parse_address (hweb : WireRequest.isWebScheme scheme = true)
    (hbase : base.toList = scheme ++ ':' :: rest) (call : RecordCall) (id : String)
    (hmarks : Url.NoMarks (Url.kept (dropSlashesEnd rest)))
    (hlead : Url.Lead (Url.kept (dropSlashesEnd rest)) slashes server tail)
    (hserver : server ≠ []) :
    Url.parse (call.address base id) = (Url.readAuthority scheme server).map
      (Url.ofParts scheme (tail ++ '/' :: (call.collection.toList ++ '/' :: (readId id).1))
        (readId id).2) := by
  rcases call.collection_plain with ⟨hcollection, -, -, -, -, -⟩
  have hsplit : Url.splitTail (Url.kept (dropSlashesEnd rest)
        ++ '/' :: (call.collection.toList ++ '/' :: Url.visible id.toList))
      = (Url.kept (dropSlashesEnd rest) ++ '/' :: (call.collection.toList ++ '/' :: (readId id).1),
        (readId id).2) := by
    have hfront : Url.NoMarks
        (Url.kept (dropSlashesEnd rest) ++ '/' :: (call.collection.toList ++ ['/'])) := by
      simp [Url.NoMarks, hcollection, hmarks.1, hmarks.2]
    simpa [readId] using Url.splitTail_append hfront (Url.visible id.toList)
  have hall := hlead.append hserver
    (Url.beginsPath_slash (call.collection.toList ++ '/' :: (readId id).1))
  rw [Url.parse_lead hweb (clean_address hweb hbase call id) (by rwa [hsplit]), hsplit]

/-- Only a plain id is found again at the end of the path. -/
theorem plainId_of_path {above front segment : List Char} (htail : Url.BeginsPath tail)
    (hpath : Url.readPathAfterHost true (tail ++ '/' :: (front ++ '/' :: (readId id).1))
      = above ++ '/' :: segment)
    (hslash : '/' ∉ segment) (hdecode : Percent.decode segment = bytes id.toList)
    (hid : id ≠ "") : PlainId id.toList := by
  -- the last segment comes from the id by three cuts: what is visible of it, what stands in front
  -- of a query, and what stands behind the last slash
  have hvisible := Url.visible_sublist id.toList
  rcases Url.exists_splitTail (Url.visible id.toList) with ⟨more, hmore, -, hnoMarks⟩
  have hfront : (readId id).1 <+: Url.visible id.toList := ⟨more, hmore.symm⟩
  have hmarks : Url.NoMarks (readId id).1 := hnoMarks
  rcases Url.path_concat (Url.beginsPath_append htail (Url.beginsPath_slash front)) (readId id).1
    with ⟨above', last, hlast, hlastSlash, hlastPath⟩
  have hsegment : segment = if Url.isDot last then [] else Percent.encode Percent.path last := by
    rw [List.append_assoc, List.cons_append] at hlastPath
    refine (append_sep_inj hslash ?_ (hpath.symm.trans hlastPath)).2
    split
    · exact List.not_mem_nil
    · exact Percent.slash_notMem_encode hlastSlash
  have hdot : Url.isDot last = false := by
    rw [← Bool.not_eq_true]
    intro hdot
    rw [hsegment, if_pos hdot] at hdecode
    exact hid (String.toList_inj.1 (bytes_injective hdecode.symm))
  rw [hsegment, hdot, if_neg (by simp), Percent.decode_encode_path] at hdecode
  -- it stands for all bytes of the id, so no cut took anything away, and nothing was an escape
  have hbytes : byteLength id.toList ≤ byteLength last := by
    rw [← length_bytes, ← hdecode]
    exact Percent.length_decode_le last
  have hlastLe := byteLength_le_of_sublist hlast.sublist
  have hfrontLe := byteLength_le_of_sublist hfront.sublist
  have hvisibleLe := byteLength_le_of_sublist hvisible
  rw [Url.byteLength_map_slashed] at hlastLe
  have hvisibleEq : Url.visible id.toList = id.toList := eq_of_sublist hvisible (by omega)
  have hfrontEq := eq_of_sublist hfront.sublist (by omega)
  rw [hfrontEq, hvisibleEq] at hlast hmarks
  have hlastEq : last = id.toList.map Url.slashed :=
    eq_of_sublist hlast.sublist (by rw [Url.byteLength_map_slashed]; omega)
  have hslashed := Url.map_slashed_of_notMem (hlastEq ▸ hlastSlash)
  rw [hlastEq] at hlastSlash
  rw [hlastEq, hslashed] at hdecode hdot
  exact .of_visible hvisibleEq hmarks hlastSlash
    (Percent.hasEscape_of_length (by rw [hdecode, length_bytes])) hdot

/-- A plain id is found again at the end of the path. -/
theorem path_of_plainId (call : RecordCall) (htail : Url.BeginsPath tail) (h : PlainId id.toList) :
    Url.readPathAfterHost true (tail ++ '/' :: (call.collection.toList ++ '/' :: (readId id).1))
      = Url.spell (Url.settle [] (Url.below tail)) ++ '/' :: call.collection.toList
        ++ '/' :: Percent.encode Percent.path id.toList := by
  rcases call.collection_plain with ⟨-, hslash, hslashed, hdot, hencode, -⟩
  rw [readId_of_plainId h, Url.path_concat_concat htail, hslashed, hencode, h.map_slashed]
  · rwa [hslashed]
  · rwa [hslashed]
  · rw [h.map_slashed]
    exact h.notMem (by simp)
  · rw [h.map_slashed]
    exact h.isDot_eq_false

end Read

/-! ## When a call is about its record -/

section Names

variable {base id : String} {scheme rest slashes server tail : List Char} {b u : Url}

/-- The path of the base in front of collection and id. -/
theorem names_dropSlashesEnd (call : RecordCall) {above segment : List Char}
    (hnames : b.Names u call.collection id)
    (hpath : u.path = above ++ '/' :: call.collection.toList ++ '/' :: segment)
    (hslash : '/' ∉ segment) : dropSlashesEnd above = dropSlashesEnd b.path := by
  rcases call.collection_plain with ⟨-, hcollection, -⟩
  rcases hnames.path with ⟨above', segment', hpath', habove, hslash', -⟩
  rw [hpath, ← List.cons_append, ← List.append_assoc] at hpath'
  have hfront := (append_sep_inj hslash hslash' hpath').1
  rwa [← (append_sep_inj hcollection hcollection hfront).1] at habove

/-- Behind a base that ends visibly, a call is about its record if the id is plain. -/
theorem names_of_plainId (call : RecordCall) (hweb : WireRequest.isWebScheme scheme = true)
    (hbase : base.toList = scheme ++ ':' :: rest) (hparse : Url.parse base.toList = .ok b)
    (hquery : b.query = none) (hfragment : b.fragment = none) {n : Nat}
    (hvisible : Url.visible rest = Url.kept (dropSlashesEnd rest) ++ List.replicate n '/')
    (hid : PlainId id.toList) :
    ∃ u, Url.parse (call.address base id) = .ok u ∧ b.Names u call.collection id := by
  have hclean := Url.clean_web hweb rest
  rw [← hbase, hvisible] at hclean
  rcases Url.exists_lead_of_parse hweb hclean hparse hquery hfragment
    with ⟨slashes, server, tail, a, hmarks, hlead, hserver, ha, rfl⟩
  have haddress := parse_address hweb hbase call id hmarks hlead hserver
  rw [ha] at haddress
  have hpath := path_of_plainId call hlead.beginsPath hid
  rw [List.append_assoc, List.cons_append] at hpath
  have hread := readId_of_plainId hid
  refine ⟨_, haddress, rfl, rfl, by rw [hread]; rfl, by rw [hread]; rfl, _, _, hpath, ?_, ?_, ?_⟩
  · exact (Url.dropSlashesEnd_path_slashes hlead.beginsPath n).symm
  · exact Percent.slash_notMem_encode (hid.notMem (by simp))
  · rw [Percent.decode_encode_path, Percent.decode_of_not_hasEscape hid.noEscape]

/-- A call is about its record only if the id is plain, and then the path in front of the collection
is that of the base. -/
theorem plainId_of_names (call : RecordCall) (hweb : WireRequest.isWebScheme scheme = true)
    (hbase : base.toList = scheme ++ ':' :: rest)
    (hmarks : Url.NoMarks (Url.kept (dropSlashesEnd rest)))
    (hlead : Url.Lead (Url.kept (dropSlashesEnd rest)) slashes server tail)
    (hserver : server ≠ []) (hid : id ≠ "") (hu : Url.parse (call.address base id) = .ok u)
    (hnames : b.Names u call.collection id) :
    PlainId id.toList
      ∧ dropSlashesEnd (Url.spell (Url.settle [] (Url.below tail))) = dropSlashesEnd b.path := by
  rw [parse_address hweb hbase call id hmarks hlead hserver] at hu
  cases ha : Url.readAuthority scheme server with
  | error cause => simp [ha, Except.map] at hu
  | ok a =>
      rw [ha] at hu
      rcases hnames.path with ⟨above, segment, hsegment, -, hslash, hdecode⟩
      rw [← List.cons_append, ← List.append_assoc] at hsegment
      have hplain := plainId_of_path hlead.beginsPath
        ((congrArg Url.path (Except.ok.inj hu)).trans hsegment) hslash hdecode hid
      refine ⟨hplain, names_dropSlashesEnd call hnames ?_
        (Percent.slash_notMem_encode (hplain.notMem (by simp)))⟩
      rw [← path_of_plainId call hlead.beginsPath hplain, ← Except.ok.inj hu]
      rfl

/-- No call is about its record if blanks follow the base. -/
theorem not_names_of_low (call : RecordCall) (hweb : WireRequest.isWebScheme scheme = true)
    (hbase : base.toList = scheme ++ ':' :: rest) (hparse : Url.parse base.toList = .ok b)
    (hquery : b.query = none) (hfragment : b.fragment = none) {front : List Char} {d : Char}
    (hkept : Url.kept (dropSlashesEnd rest) = Url.visible rest ++ (front ++ [d]))
    (hlow : ∀ c ∈ front ++ [d], c.toNat ≤ 0x20) (hid : id ≠ "")
    (hu : Url.parse (call.address base id) = .ok u) : ¬b.Names u call.collection id := by
  intro hnames
  have hclean := Url.clean_web hweb rest
  rw [← hbase, ← List.append_nil (Url.visible rest), ← List.replicate_zero (a := '/')] at hclean
  rcases Url.exists_lead_of_parse hweb hclean hparse hquery hfragment
    with ⟨slashes, server, tail, a, hmarks, hlead, hserver, ha, rfl⟩
  have hmarks' := Url.noMarks_append_low hmarks hlow
  -- behind a server the blanks spoil its name, behind a path they change its last segment
  cases tail with
  | nil =>
      have hlead' := hlead.append_server hserver hlow
      rw [← hkept] at hlead' hmarks'
      have herror := Url.readAuthority_concat_low (Url.isSpecial_of_isWeb hweb)
        (hlow d (by simp)) (server ++ front)
      rcases herror with ⟨cause, herror⟩
      rw [parse_address hweb hbase call id hmarks' hlead' (by simp [hserver]), ← List.append_assoc,
        herror] at hu
      cases hu
  | cons c s =>
      have hlead' := hlead.append_tail (front ++ [d])
      rw [← hkept] at hlead' hmarks'
      have hpath := (plainId_of_names call hweb hbase hmarks' hlead' hserver hid hu hnames).2
      exact Url.dropSlashesEnd_path_low hlead.beginsPath hlow
        (by simpa [Url.ofParts] using hpath.symm)

/-- A call is about its record just if the id is plain and no blank stands behind the base. -/
theorem names_iff (call : RecordCall) (hbase : checkUrl base = .ok ())
    (hparse : Url.parse base.toList = .ok b) (hquery : b.query = none)
    (hfragment : b.fragment = none) (hid : id ≠ "") :
    (∃ u, Url.parse (call.address base id) = .ok u ∧ b.Names u call.collection id)
      ↔ Url.EndsVisibly base.toList ∧ PlainId id.toList := by
  rcases Url.exists_of_checkUrl hbase with ⟨scheme, rest, -, hweb, hchars, -⟩
  have hscheme : Url.EndsVisibly base.toList ↔ Url.EndsVisibly rest := by
    rw [hchars, Url.endsVisibly_scheme]
  rw [hscheme]
  rcases Url.visible_cases rest with ⟨hends, n, hvisible⟩ | ⟨hends, front, d, hkept, hlow⟩
  · refine ⟨?_, fun h =>
      names_of_plainId call hweb hchars hparse hquery hfragment hvisible h.2⟩
    rintro ⟨u, hu, hnames⟩
    have hclean := Url.clean_web hweb rest
    rw [← hchars, hvisible] at hclean
    rcases Url.exists_lead_of_parse hweb hclean hparse hquery hfragment
      with ⟨slashes, server, tail, a, hmarks, hlead, hserver, -, -⟩
    exact ⟨hends, (plainId_of_names call hweb hchars hmarks hlead hserver hid hu hnames).1⟩
  · refine ⟨?_, fun h => absurd h.1 hends⟩
    rintro ⟨u, hu, hnames⟩
    exact absurd hnames
      (not_names_of_low call hweb hchars hparse hquery hfragment hkept hlow hid hu)

/-- Two calls about different records have different addresses, each of them about its record, just
if both ids are plain and no blank stands behind the base. -/
theorem faithful_iff (call₁ call₂ : RecordCall) {id₁ id₂ : String}
    (hbase : checkUrl base = .ok ()) (hparse : Url.parse base.toList = .ok b)
    (hquery : b.query = none) (hfragment : b.fragment = none) (hid₁ : id₁ ≠ "") (hid₂ : id₂ ≠ "")
    (hne : id₁ ≠ id₂) :
    (∃ u₁ u₂, Url.parse (call₁.address base id₁) = .ok u₁
        ∧ Url.parse (call₂.address base id₂) = .ok u₂ ∧ u₁ ≠ u₂
        ∧ b.Names u₁ call₁.collection id₁ ∧ b.Names u₂ call₂.collection id₂)
      ↔ Url.EndsVisibly base.toList ∧ PlainId id₁.toList ∧ PlainId id₂.toList := by
  have hnames₁ := names_iff call₁ hbase hparse hquery hfragment hid₁
  have hnames₂ := names_iff call₂ hbase hparse hquery hfragment hid₂
  constructor
  · rintro ⟨u₁, u₂, hu₁, hu₂, -, h₁, h₂⟩
    exact ⟨(hnames₁.1 ⟨u₁, hu₁, h₁⟩).1, (hnames₁.1 ⟨u₁, hu₁, h₁⟩).2, (hnames₂.1 ⟨u₂, hu₂, h₂⟩).2⟩
  · rintro ⟨hends, hplain₁, hplain₂⟩
    rcases hnames₁.2 ⟨hends, hplain₁⟩ with ⟨u₁, hu₁, h₁⟩
    rcases hnames₂.2 ⟨hends, hplain₂⟩ with ⟨u₂, hu₂, h₂⟩
    refine ⟨u₁, u₂, hu₁, hu₂, ?_, h₁, h₂⟩
    rintro rfl
    exact hne (h₁.id_eq h₂)

theorem faithful_iff_localhost :
    let base := "http://localhost:8080/api"
    let b : Url := ⟨"http".toList, some ⟨[], none, "localhost".toList, some 8080⟩, "/api".toList,
      none, none⟩
    (checkUrl base = .ok () ∧ Url.parse base.toList = .ok b ∧ b.query = none ∧ b.fragment = none
      ∧ "1" ≠ "" ∧ "2" ≠ "" ∧ "1" ≠ "2")
    ∧ ((∃ u₁ u₂, Url.parse ((RecordCall.delete .rest).address base "1") = .ok u₁
        ∧ Url.parse ((RecordCall.delete .rest).address base "2") = .ok u₂ ∧ u₁ ≠ u₂
        ∧ b.Names u₁ "stubs" "1" ∧ b.Names u₂ "stubs" "2")
      ↔ Url.EndsVisibly base.toList ∧ PlainId "1".toList ∧ PlainId "2".toList) := by
  have hbase : checkUrl "http://localhost:8080/api" = .ok () := by decide +kernel
  have hparse : Url.parse "http://localhost:8080/api".toList
      = .ok ⟨"http".toList, some ⟨[], none, "localhost".toList, some 8080⟩, "/api".toList,
        none, none⟩ := by decide +kernel
  exact ⟨⟨hbase, hparse, rfl, rfl, by decide, by decide, by decide⟩,
    faithful_iff (.delete .rest) (.delete .rest) hbase hparse rfl rfl (by decide) (by decide)
      (by decide)⟩

/-- Deleting `a b` deletes `a%20b` as well, and deleting `../requests` clears the request log. -/
theorem ids_misread :
    let base := "http://localhost:8080/api"
    let delete := fun id => ((AdminApi.deleteStub .rest id).outgoing base).onWire?
    checkUrl base = .ok ()
      ∧ (Url.parse base.toList).map (fun b => (b.query, b.fragment)) = .ok (none, none)
      ∧ "a b" ≠ "a%20b" ∧ (delete "a b").isSome = true ∧ delete "a b" = delete "a%20b"
      ∧ delete "../requests" = (AdminApi.clearRequests.outgoing base).onWire? := by
  decide +kernel

end Names

end RecordCall

end StubConsole
