import StubConsole.Proofs.Json.Skipping

/-!
# Sorting — what is kept of a value is the value of what is kept

A text is read for a record twice: as the document that was typed, and as the pretty form of its
value.  The members that a shape passes over may be left out before the others are sorted or
after.

* `Json.keepMembers_eq` — a selection of members by key, each kept in its own shape;
* `Json.keep_sorted` — leaving out and sorting commute.
-/

namespace StubConsole

namespace Json

theorem keepMembers_eq (shape : Shape) (members : List (String × Json)) :
    keepMembers shape members
      = (members.filter fun m => !(shape.ofMember m.1).isSkipped).map
          fun m => (m.1, m.2.keep (shape.ofMember m.1)) := by
  induction members with
  | nil => rfl
  | cons m rest ih =>
      rcases m with ⟨key, value⟩
      cases hskipped : (shape.ofMember key).isSkipped <;> simp [keepMembers, hskipped, ih]

theorem keepItems_sorted {items : List Json}
    (h : ∀ item ∈ items, ∀ shape, item.sorted.keep shape = (item.keep shape).sorted)
    (shape : Shape) (index : Nat) :
    keepItems shape index (items.map sorted) = (keepItems shape index items).map sorted := by
  induction items generalizing index with
  | nil => rfl
  | cons item rest ih =>
      have hitem := h item List.mem_cons_self (shape.ofItem index)
      have hrest := ih (fun i hi => h i (List.mem_cons_of_mem _ hi)) (index + 1)
      simp only [List.map_cons, keepItems, hitem, hrest]

/-- The members that are kept are chosen by key, so of several under one key either all are kept
or none, and the last one stays the last one. -/
theorem keepMembers_sorted {members : List (String × Json)}
    (h : ∀ m ∈ members, ∀ shape, m.2.sorted.keep shape = (m.2.keep shape).sorted)
    (shape : Shape) :
    keepMembers shape (SortedMap.ofList (members.map fun m => (m.1, m.2.sorted))).entries
      = (SortedMap.ofList
          ((keepMembers shape members).map fun m => (m.1, m.2.sorted))).entries := by
  let kept := fun key : String => !(shape.ofMember key).isSkipped
  let part := fun (key : String) (value : Json) => value.keep (shape.ofMember key)
  have hlists : ((members.map fun m => (m.1, m.2.sorted)).filter fun m => kept m.1).map
        (fun m => (m.1, part m.1 m.2))
      = (keepMembers shape members).map fun m => (m.1, m.2.sorted) := by
    have hfilter : (members.map fun m => (m.1, m.2.sorted)).filter (fun m => kept m.1)
        = (members.filter fun m => kept m.1).map fun m => (m.1, m.2.sorted) :=
      List.filter_map
    rw [hfilter, keepMembers_eq, List.map_map, List.map_map]
    refine List.map_congr_left ?_
    intro m hm
    exact congrArg (Prod.mk m.1) (h m (List.mem_filter.1 hm).1 _)
  calc
    keepMembers shape (SortedMap.ofList (members.map fun m => (m.1, m.2.sorted))).entries
        = ((SortedMap.ofList (members.map fun m => (m.1, m.2.sorted))).entries.filter
            fun m => kept m.1).map fun m => (m.1, part m.1 m.2) := keepMembers_eq ..
    _ = (SortedMap.ofList
          (((members.map fun m => (m.1, m.2.sorted)).filter fun m => kept m.1).map
            fun m => (m.1, part m.1 m.2))).entries := by
          rw [SortedMap.entries_ofList_map, SortedMap.entries_ofList_filter]
    _ = _ := by rw [hlists]

theorem keep_sorted (shape : Shape) (doc : Json) :
    doc.sorted.keep shape = (doc.keep shape).sorted := by
  induction doc using byParts generalizing shape with
  | null | bool | num | str => rfl
  | arr items ih =>
      rw [sorted_arr, keep, keepItems_sorted ih, keep, sorted_arr]
  | obj members ih =>
      rw [sorted_obj, keep, keepMembers_sorted ih, keep, sorted_obj]

end Json

end StubConsole
