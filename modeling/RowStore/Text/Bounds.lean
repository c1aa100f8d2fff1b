/-! Sets of numbers told by their bounds: below the first bound nothing belongs to the set, and from
each bound on the answer is the other one. -/
namespace RowStore.Text

/-- Whether an odd number of bounds lies at or below a number. The bounds stand in order. -/
def insideBounds : List Nat → Nat → Bool
  | [], _ => false
  | b :: bs, n => if n < b then false else !insideBounds bs n

end RowStore.Text
