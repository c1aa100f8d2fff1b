import RowStore.Table

/-! Tables as records for a snapshot. The record of a table has its name, its columns and its rows;
indexes are not in it, but made anew from the rows. -/
namespace RowStore.Table

def toValue (table : Table) : Result Value := do
  let columns ← table.columns.mapM Column.toValue
  return .record [("name", table.name), ("columns", .list columns),
    ("rows", .list (table.rows.map .record))]

/-- The name, the columns and the rows in the record of a table. -/
def entryOf (v : Value) : Result (Value × List Value × List Value) :=
  match v with
  | .record fields =>
    match Fields.find? fields "name", Fields.find? fields "columns", Fields.find? fields "rows" with
    | some name, some (.list columns), some (.list rows) => .ok (name, columns, rows)
    | some name, some _, some _ => fail (.schema (.notLists name))
    | _, _, _ =>
      fail (.schema (.lacks (["name", "columns", "rows"].filter fun key =>
        (Fields.find? fields (key : String)).isNone)))
  | _ => fail (.schema (.notRecord v))

def sortedNames (names : List Text) : List Text :=
  names.eraseDups.mergeSort fun a b => a.le b

/-- A row from its record, which must have the names of the columns and no others. -/
def rowOf (table : Table) (v : Value) : Result Row :=
  match v with
  | .record fields =>
    let names := Fields.names fields
    if !fields.all fun field => field.2.isScalar then fail (.schema (.rowNotScalar table.name v))
    else if names.all table.columnNames.contains && table.columnNames.all names.contains then
      .ok (Fields.ofPairs (table.columnNames.map fun name =>
        (name, Row.valueAt fields (some name))))
    else
      fail (.schema (.rowNames table.name (sortedNames names) (sortedNames table.columnNames)))
  | _ => fail (.schema (.rowNotRecord table.name v))

/-- The table of a record. Its rows are registered one after the other. -/
def ofValue (v : Value) (refresh : Bool) : Result Table := do
  let (name, columns, rows) ← entryOf v
  let columns ← columns.mapM Column.ofValue
  rows.foldlM (fun table row => do table.append (← table.rowOf row)) (.new name columns refresh)

end RowStore.Table
