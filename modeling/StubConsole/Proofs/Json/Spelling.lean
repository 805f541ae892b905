import StubConsole.Proofs.Json.Value
import StubConsole.Json.Printer

/-!
# Spelling — both written forms as one

The compact and the pretty form of a document differ in the blanks between its parts only.

* `Json.Style` — the blanks before an item and behind a colon;
* `Json.spell` — the written form of a style;
* `Json.compactChars_eq_spell`, `Json.prettyChars_eq_spell` — the two forms are spellings.
-/

namespace StubConsole

namespace Json

/-- The blanks that a written form puts between the parts of a document. -/
structure Style where
  /-- What stands before an item or a closing bracket at a level. -/
  gap : Nat → List Char
  /-- What stands behind a colon. -/
  space : List Char
  gap_blank : ∀ level, ∀ c ∈ gap level, isSpace c = true
  space_blank : ∀ c ∈ space, isSpace c = true

namespace Style

def compact : Style where
  gap _ := []
  space := []
  gap_blank := by simp
  space_blank := by simp

def pretty : Style where
  gap := newLine
  space := [' ']
  gap_blank := by
    intro level c hc
    rcases List.mem_cons.1 hc with hfeed | hblank
    · rw [hfeed]
      rfl
    · rw [List.eq_of_mem_replicate hblank]
      rfl
  space_blank := by
    intro c hc
    rw [List.mem_singleton.1 hc]
    rfl

end Style

/-! ## Spellings -/

mutual

/-- The written form of a document at a level; the rest of a list is spelled with the blanks that
stand before its closing bracket. -/
def spell (style : Style) (level : Nat) : Json → List Char
  | .null => ['n', 'u', 'l', 'l']
  | .bool true => ['t', 'r', 'u', 'e']
  | .bool false => ['f', 'a', 'l', 's', 'e']
  | .num n => n.text
  | .str s => quoted s
  | .arr items => '[' :: spellItems style level items ++ [']']
  | .obj members => '\x7b' :: spellMembers style level members ++ ['\x7d']

def spellItems (style : Style) (level : Nat) : List Json → List Char
  | [] => []
  | item :: rest =>
      style.gap (level + 1) ++ spell style (level + 1) item ++ spellMoreItems style level rest

def spellMoreItems (style : Style) (level : Nat) : List Json → List Char
  | [] => style.gap level
  | item :: rest =>
      ',' :: style.gap (level + 1) ++ spell style (level + 1) item
        ++ spellMoreItems style level rest

def spellMembers (style : Style) (level : Nat) : List (String × Json) → List Char
  | [] => []
  | (key, value) :: rest =>
      style.gap (level + 1) ++ quoted key ++ ':' :: style.space
        ++ spell style (level + 1) value ++ spellMoreMembers style level rest

def spellMoreMembers (style : Style) (level : Nat) : List (String × Json) → List Char
  | [] => style.gap level
  | (key, value) :: rest =>
      ',' :: style.gap (level + 1) ++ quoted key ++ ':' :: style.space
        ++ spell style (level + 1) value ++ spellMoreMembers style level rest

end

/-! ## The compact form -/

theorem compactItems_cons (level : Nat) :
    ∀ {items : List Json} {item : Json},
      (∀ i ∈ item :: items, ∀ level, i.compactChars = i.spell .compact level) →
        compactItems (item :: items)
          = item.spell .compact (level + 1) ++ spellMoreItems .compact level items := by
  intro items
  induction items with
  | nil =>
      intro item h
      simp [compactItems, spellMoreItems, Style.compact, h item List.mem_cons_self (level + 1)]
  | cons next rest ih =>
      intro item h
      have hrest := ih fun i hi => h i (List.mem_cons_of_mem _ hi)
      calc
        compactItems (item :: next :: rest)
            = item.spell .compact (level + 1) ++ ',' :: compactItems (next :: rest) := by
              rw [compactItems, h item List.mem_cons_self (level + 1)]
        _ = item.spell .compact (level + 1)
              ++ ',' :: (next.spell .compact (level + 1)
                ++ spellMoreItems .compact level rest) := by rw [hrest]
        _ = item.spell .compact (level + 1) ++ spellMoreItems .compact level (next :: rest) := by
              simp [spellMoreItems, Style.compact]

theorem compactMembers_cons (level : Nat) :
    ∀ {members : List (String × Json)} {m : String × Json},
      (∀ e ∈ m :: members, ∀ level, e.2.compactChars = e.2.spell .compact level) →
        compactMembers (m :: members)
          = quoted m.1 ++ ':' :: m.2.spell .compact (level + 1)
            ++ spellMoreMembers .compact level members := by
  intro members
  induction members with
  | nil =>
      intro m h
      simp [compactMembers, spellMoreMembers, Style.compact,
        h m List.mem_cons_self (level + 1)]
  | cons next rest ih =>
      intro m h
      have hrest := ih fun e he => h e (List.mem_cons_of_mem _ he)
      calc
        compactMembers (m :: next :: rest)
            = quoted m.1 ++ ':' :: m.2.spell .compact (level + 1)
              ++ ',' :: compactMembers (next :: rest) := by
              rw [compactMembers, h m List.mem_cons_self (level + 1)]
        _ = quoted m.1 ++ ':' :: m.2.spell .compact (level + 1)
              ++ ',' :: (quoted next.1 ++ ':' :: next.2.spell .compact (level + 1)
                ++ spellMoreMembers .compact level rest) := by rw [hrest]
        _ = quoted m.1 ++ ':' :: m.2.spell .compact (level + 1)
              ++ spellMoreMembers .compact level (next :: rest) := by
              simp [spellMoreMembers, Style.compact]

theorem compactChars_eq_spell (doc : Json) :
    ∀ level, doc.compactChars = doc.spell .compact level := by
  induction doc using byParts with
  | null => intro level; rfl
  | bool b => intro level; cases b <;> rfl
  | num n => intro level; rfl
  | str s => intro level; rfl
  | arr items ih =>
      intro level
      cases items with
      | nil => rfl
      | cons item rest =>
          rw [compactChars, compactItems_cons level ih]
          simp [spell, spellItems, Style.compact]
  | obj members ih =>
      intro level
      cases members with
      | nil => rfl
      | cons m rest =>
          rw [compactChars, compactMembers_cons level ih]
          simp [spell, spellMembers, Style.compact]

/-! ## The pretty form -/

theorem prettyItems_cons (level : Nat) :
    ∀ {items : List Json} {item : Json},
      (∀ i ∈ item :: items, ∀ level, i.prettyChars level = i.spell .pretty level) →
        prettyItems (level + 1) (item :: items) ++ newLine level
          = newLine (level + 1) ++ item.spell .pretty (level + 1)
            ++ spellMoreItems .pretty level items := by
  intro items
  induction items with
  | nil =>
      intro item h
      simp [prettyItems, spellMoreItems, Style.pretty, h item List.mem_cons_self (level + 1)]
  | cons next rest ih =>
      intro item h
      have hrest := ih fun i hi => h i (List.mem_cons_of_mem _ hi)
      calc
        prettyItems (level + 1) (item :: next :: rest) ++ newLine level
            = newLine (level + 1) ++ item.spell .pretty (level + 1)
              ++ ',' :: (prettyItems (level + 1) (next :: rest) ++ newLine level) := by
              rw [prettyItems, h item List.mem_cons_self (level + 1), List.append_assoc,
                List.cons_append]
        _ = newLine (level + 1) ++ item.spell .pretty (level + 1)
              ++ ',' :: (newLine (level + 1) ++ next.spell .pretty (level + 1)
                ++ spellMoreItems .pretty level rest) := by rw [hrest]
        _ = newLine (level + 1) ++ item.spell .pretty (level + 1)
              ++ spellMoreItems .pretty level (next :: rest) := by
              simp [spellMoreItems, Style.pretty]

theorem prettyMembers_cons (level : Nat) :
    ∀ {members : List (String × Json)} {m : String × Json},
      (∀ e ∈ m :: members, ∀ level, e.2.prettyChars level = e.2.spell .pretty level) →
        prettyMembers (level + 1) (m :: members) ++ newLine level
          = newLine (level + 1) ++ quoted m.1 ++ ':' :: ' ' :: m.2.spell .pretty (level + 1)
            ++ spellMoreMembers .pretty level members := by
  intro members
  induction members with
  | nil =>
      intro m h
      simp [prettyMembers, spellMoreMembers, Style.pretty, h m List.mem_cons_self (level + 1)]
  | cons next rest ih =>
      intro m h
      have hrest := ih fun e he => h e (List.mem_cons_of_mem _ he)
      calc
        prettyMembers (level + 1) (m :: next :: rest) ++ newLine level
            = newLine (level + 1) ++ quoted m.1 ++ ':' :: ' ' :: m.2.spell .pretty (level + 1)
              ++ ',' :: (prettyMembers (level + 1) (next :: rest) ++ newLine level) := by
              rw [prettyMembers, h m List.mem_cons_self (level + 1), List.append_assoc,
                List.cons_append]
        _ = newLine (level + 1) ++ quoted m.1 ++ ':' :: ' ' :: m.2.spell .pretty (level + 1)
              ++ ',' :: (newLine (level + 1) ++ quoted next.1
                ++ ':' :: ' ' :: next.2.spell .pretty (level + 1)
                ++ spellMoreMembers .pretty level rest) := by rw [hrest]
        _ = newLine (level + 1) ++ quoted m.1 ++ ':' :: ' ' :: m.2.spell .pretty (level + 1)
              ++ spellMoreMembers .pretty level (next :: rest) := by
              simp [spellMoreMembers, Style.pretty]

theorem prettyChars_eq_spell (doc : Json) :
    ∀ level, doc.prettyChars level = doc.spell .pretty level := by
  induction doc using byParts with
  | null => intro level; rfl
  | bool b => intro level; cases b <;> rfl
  | num n => intro level; rfl
  | str s => intro level; rfl
  | arr items ih =>
      intro level
      cases items with
      | nil => rfl
      | cons item rest =>
          rw [prettyChars, List.cons_append, prettyItems_cons level ih]
          simp [spell, spellItems, Style.pretty]
  | obj members ih =>
      intro level
      cases members with
      | nil => rfl
      | cons m rest =>
          rw [prettyChars, List.cons_append, prettyMembers_cons level ih]
          simp [spell, spellMembers, Style.pretty]

end Json

end StubConsole
