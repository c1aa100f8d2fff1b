import RowStore.Value

/-! Rows: values under the names of columns, and the one condition that a query can put on them. -/
namespace RowStore

abbrev Row := Fields Value

/-- The value under a name. Where the name is missing, or the row has no such name, it is null. -/
def Row.valueAt (row : Row) (name : Option Text) : Value :=
  (name.bind (Fields.find? row)).getD .null

structure Filter where
  column : Option Text
  value : Value
  deriving Repr

def Filter.accepts (filter : Filter) (row : Row) : Bool :=
  (row.valueAt filter.column).equal filter.value

/-- Whether a row passes where there may be no filter. -/
def passes (filter : Option Filter) (row : Row) : Bool :=
  filter.all fun f => f.accepts row

/-- One row for each pair of a left and a right row with equal values in the named columns. A name
that both rows have keeps its place and takes the right value. -/
def innerJoin (left right : List Row) (leftColumn rightColumn : Option Text) : List Row :=
  left.flatMap fun l =>
    (right.filter fun r => (Row.valueAt l leftColumn).equal (Row.valueAt r rightColumn)).map
      (Fields.putAll l)

end RowStore
