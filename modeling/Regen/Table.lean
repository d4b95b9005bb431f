import Regen.Text

/-!
# Tables

Definitions are kept by name, in the order in which the names first came up. Defining a name again replaces
its entry and keeps its place. What is not kept by name is kept by another key in the same way.
-/

namespace Regen

/-- Entries by key, in the order in which the keys first came up. Unless another key is given, it is a name. -/
abbrev Table (α : Type) (κ : Type := Text) := List (κ × α)

namespace Table

variable {α κ : Type}

def find? [BEq κ] (table : Table α κ) (name : κ) : Option α := table.lookup name

def insert [DecidableEq κ] (name : κ) (entry : α) : Table α κ → Table α κ
  | [] => [(name, entry)]
  | (other, old) :: rest =>
    if other = name then (other, entry) :: rest else (other, old) :: insert name entry rest

def names (table : Table α) : List Text := table.map Prod.fst

theorem mem_of_find? [BEq κ] [LawfulBEq κ] {table : Table α κ} {name : κ} {entry : α}
    (found : table.find? name = some entry) : (name, entry) ∈ table := by
  obtain ⟨before, after, split, _⟩ := List.lookup_eq_some_iff.mp found
  rw [split]
  simp

/-- Setting a key changes the entry of that key only. -/
theorem find?_insert [BEq κ] [LawfulBEq κ] [DecidableEq κ] (name other : κ) (entry : α) (table : Table α κ) :
    (Table.insert name entry table).find? other = if other = name then some entry else table.find? other := by
  have differs {key : κ} (ne : other ≠ key) : (other == key) = false := beq_eq_false_iff_ne.mpr ne
  induction table with
  | nil =>
    by_cases same : other = name
    · simp [insert, find?, same]
    · simp [insert, find?, List.lookup_cons, differs same, same]
  | cons first rest ih =>
    obtain ⟨key, old⟩ := first
    simp only [find?, insert] at ih ⊢
    by_cases found : key = name
    · subst found
      by_cases same : other = key
      · simp [same]
      · simp [List.lookup_cons, differs same, same]
    · rw [if_neg found, List.lookup_cons, List.lookup_cons, ih]
      by_cases same : other = key
      · simp [same, found]
      · simp [differs same]

end Table

end Regen
