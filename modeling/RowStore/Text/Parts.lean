/-! The parts of a text between the places of one mark. -/
namespace RowStore.Text

/-- The parts between marks, in order. There is one part more than there are marks. -/
def parts {α : Type} [DecidableEq α] (mark : α) : List α → List (List α)
  | [] => [[]]
  | c :: cs =>
    if c = mark then [] :: parts mark cs
    else
      match parts mark cs with
      | [] => [[c]]
      | p :: ps => (c :: p) :: ps

def partsOf (mark : Char) (s : String) : List String :=
  (parts mark s.toList).map String.ofList

theorem parts_ne_nil {α : Type} [DecidableEq α] (mark : α) (cs : List α) : parts mark cs ≠ [] := by
  cases cs with
  | nil => simp [parts]
  | cons c cs =>
    simp only [parts]
    split
    · simp
    · split <;> simp

theorem parts_append {α : Type} [DecidableEq α] {mark : α} (xs ys : List α) :
    parts mark (xs ++ mark :: ys) = parts mark xs ++ parts mark ys := by
  induction xs with
  | nil => simp [parts]
  | cons x xs ih =>
    obtain ⟨p, ps, whole⟩ := List.exists_cons_of_ne_nil (parts_ne_nil mark xs)
    by_cases same : x = mark <;> simp [parts, same, ih, whole]

theorem parts_of_not_mem {α : Type} [DecidableEq α] {mark : α} {xs : List α}
    (absent : mark ∉ xs) : parts mark xs = [xs] := by
  induction xs with
  | nil => rfl
  | cons x xs ih =>
    simp only [List.mem_cons, not_or] at absent
    obtain ⟨other, absent⟩ := absent
    simp [parts, Ne.symm other, ih absent]

end RowStore.Text
