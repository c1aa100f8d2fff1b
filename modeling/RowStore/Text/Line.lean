import RowStore.Text

/-! Lines of a text. -/
namespace RowStore.Text

/-- Every end of line written as one line feed: a carriage return, alone or with the line feed
that follows it, becomes a line feed. -/
def unifyLines : List Char → List Char
  | [] => []
  | '\r' :: '\n' :: cs => '\n' :: unifyLines cs
  | '\r' :: cs => '\n' :: unifyLines cs
  | c :: cs => c :: unifyLines cs

/-- A place in a text, by the number of points before it. -/
structure Place where
  line : Nat
  column : Nat
  offset : Nat
  deriving DecidableEq, Repr

/-- The place behind a start of a text. Lines and columns count from one. -/
def Place.behind (start : List Point) : Place where
  line := 1 + start.count (.char '\n')
  column := 1 + (start.reverse.takeWhile (· ≠ .char '\n')).length
  offset := start.length

end RowStore.Text
