import RowStore.Database

/-! Answers to queries as records for a caller. -/
namespace RowStore

/-- An answer in one shape for all queries. -/
structure QueryResult where
  data : List Row
  columns : List Text
  message : Text

namespace QueryResult

/-- The names of the first row stand for all rows. -/
def ofAnswer : Answer → QueryResult
  | .done => ⟨[], [], "OK"⟩
  | .rows rows => ⟨rows, Fields.names (rows.head?.getD []), "Query executed successfully"⟩

def toFields (result : QueryResult) : Fields Value :=
  [("success", .bool true), ("data", .list (result.data.map .record)),
    ("columns", .list (result.columns.map .text)), ("message", .text result.message),
    ("row_count", .int result.data.length)]

def timed (result : QueryResult) (time : Value) : Fields Value :=
  Fields.put result.toFields "execution_time" time

end QueryResult
end RowStore
