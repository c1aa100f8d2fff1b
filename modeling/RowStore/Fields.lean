import RowStore.Text

/-! Named fields in the order in which their names first came. Anything that can be told apart may
serve as a name; the fields of records have texts. -/
namespace RowStore

abbrev Fields (α : Type) := List (Text × α)

namespace Fields

variable {κ α β : Type}

def names (fields : List (κ × α)) : List κ := fields.map Prod.fst

def find? [DecidableEq κ] : List (κ × α) → κ → Option α
  | [], _ => none
  | (key, a) :: rest, name => if key = name then some a else find? rest name

/-- A known name keeps its place and takes the new meaning; a new name comes last. -/
def put [DecidableEq κ] : List (κ × α) → κ → α → List (κ × α)
  | [], name, a => [(name, a)]
  | (key, b) :: rest, name, a =>
    if key = name then (key, a) :: rest else (key, b) :: put rest name a

def putAll [DecidableEq κ] (fields pairs : List (κ × α)) : List (κ × α) :=
  pairs.foldl (fun f p => put f p.1 p.2) fields

def ofPairs [DecidableEq κ] (pairs : List (κ × α)) : List (κ × α) := putAll [] pairs

def mapValues (f : α → β) (fields : List (κ × α)) : List (κ × β) :=
  fields.map fun p => (p.1, f p.2)

/-- What is put under a name is found there, and nothing else changes. -/
theorem find?_put [DecidableEq κ] (fields : List (κ × α)) (name other : κ) (a : α) :
    find? (put fields name a) other = if name = other then some a else find? fields other := by
  induction fields with
  | nil => rfl
  | cons field rest ih =>
    obtain ⟨key, b⟩ := field
    by_cases known : key = name
    · subst known
      by_cases same : key = other <;> simp [put, find?, same]
    · by_cases same : key = other
      · subst same
        simp [put, find?, known, Ne.symm known]
      · simp [put, find?, known, same, ih]

/-- A name that is put in is new at most once. -/
theorem names_put [DecidableEq κ] (fields : List (κ × α)) (name : κ) (a : α) :
    names (put fields name a) =
      if name ∈ names fields then names fields else names fields ++ [name] := by
  induction fields with
  | nil => rfl
  | cons field rest ih =>
    obtain ⟨key, b⟩ := field
    by_cases known : key = name
    · simp [put, names, known]
    · have other : name ≠ key := fun h => known h.symm
      simp only [names] at ih
      by_cases member : name ∈ rest.map Prod.fst <;> simp [put, names, known, other, ih, member]

theorem find?_isSome_iff [DecidableEq κ] (fields : List (κ × α)) (name : κ) :
    (find? fields name).isSome ↔ name ∈ names fields := by
  induction fields with
  | nil => simp [find?, names]
  | cons field rest ih =>
    obtain ⟨key, b⟩ := field
    by_cases known : key = name
    · simp [find?, names, known]
    · have other : name ≠ key := fun h => known h.symm
      simpa [find?, names, known, other] using ih

@[simp] theorem names_mapValues (f : α → β) (fields : List (κ × α)) :
    names (mapValues f fields) = names fields := by
  simp [names, mapValues, Function.comp_def]

end Fields
end RowStore
