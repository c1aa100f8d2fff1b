import RowStore.Index

/-! Tables: rows under a list of columns, with unique indexes. A row has a number for as long as the
table is there, and the indexes register numbers. Rows that were deleted stay known by their
numbers, because an index that is not refreshed goes on naming them. -/
namespace RowStore

/-- A row and its number. -/
structure Slot where
  id : Nat
  row : Row

structure Table where
  name : Value
  columns : List Column
  slots : List Slot
  deleted : List Slot
  indexes : Indexes Nat
  nextId : Nat

structure TableStats where
  name : Value
  rowCount : Nat
  columns : List Text
  indexes : List Text

structure IndexInfo where
  column : Text
  unique : Bool
  deriving DecidableEq, Repr

def TableStats.toValue (stats : TableStats) : Value :=
  .record [("name", stats.name), ("row_count", .int stats.rowCount),
    ("columns", .list (stats.columns.map .text)), ("indexes", .list (stats.indexes.map .text))]

namespace Table

def new (name : Value) (columns : List Column) (refresh : Bool) : Table where
  name := name
  columns := columns
  slots := []
  deleted := []
  indexes := .ofColumns name columns refresh
  nextId := 0

def rows (table : Table) : List Row := table.slots.map Slot.row

/-- The rows with their numbers, as the indexes take them. -/
def numbered (slots : List Slot) : List (Row × Nat) := slots.map fun s => (s.row, s.id)

def columnNames (table : Table) : List Text := table.columns.map Column.name

def column? (table : Table) (name : Text) : Option Column :=
  table.columns.find? fun c => c.name = name

/-- The row of a number: as it is, or as it was when it was deleted. -/
def rowOf? (table : Table) (id : Nat) : Option Row :=
  ((table.slots ++ table.deleted).find? fun s => s.id = id).map Slot.row

/-- The row that values make. Of several columns of one name the last value counts. -/
def makeRow (table : Table) (values : List Value) : Row :=
  Fields.ofPairs (table.columnNames.zip values)

def append (table : Table) (row : Row) : Result Table := do
  table.indexes.check row
  return { table with
    slots := table.slots ++ [⟨table.nextId, row⟩]
    indexes := (table.indexes.add row table.nextId).1
    nextId := table.nextId + 1 }

/-- A row of the given values, one for each column. -/
def insert (table : Table) (values : List Value) : Result (Table × Row) := do
  if values.length ≠ table.columns.length then
    fail (.columnCount table.name table.columns.length values.length)
  else
    let row := table.makeRow values
    return (← table.append row, row)

def select (table : Table) (filter : Option Filter) : List Row :=
  table.rows.filter (passes filter)

/-- The table with other rows, after which the indexes are refreshed if they are to be. -/
def withSlots (table : Table) (slots deleted : List Slot) : Table × Result Unit :=
  let (indexes, result) := table.indexes.rowsChanged (numbered slots)
  ({ table with slots, deleted, indexes }, result)

/-- One column set to a value in the rows that pass, and their number. -/
def update (table : Table) (column : Option Text) (v : Value) (filter : Option Filter) :
    Table × Result Nat :=
  match column.bind fun name => (table.column? name).map fun _ => name with
  | none => (table, fail (.unknownColumn table.name column))
  | some name =>
    match table.indexes.beforeUpdate table.rows name v filter with
    | .error e => (table, .error e)
    | .ok () =>
      let slots := table.slots.map fun s =>
        if passes filter s.row then { s with row := Fields.put s.row name v } else s
      let (after, result) := table.withSlots slots table.deleted
      (after, result.map fun () => (table.select filter).length)

/-- The rows that pass taken away, and their number. -/
def delete (table : Table) (filter : Option Filter) : Table × Result Nat :=
  let (gone, kept) := table.slots.partition fun s => passes filter s.row
  let (after, result) := table.withSlots kept (table.deleted ++ gone)
  (after, result.map fun () => gone.length)

def lookup (table : Table) (column : Text) (v : Value) : Result (Option Row) := do
  return (← table.indexes.lookup column v).bind table.rowOf?

def indexedRows (table : Table) : Fields (Entries Row) :=
  Fields.mapValues (fun entries => entries.filterMap fun (key, id) =>
    (table.rowOf? id).map (key, ·)) table.indexes.entries

/-- The indexed columns in the order of the indexes. -/
def showIndexes (table : Table) : List IndexInfo :=
  table.indexes.names.map fun name => ⟨name, (table.column? name).any Column.indexed⟩

def stats (table : Table) : Result TableStats := do
  return ⟨table.name, table.slots.length, ← table.columns.mapM Column.text, table.indexes.names⟩

@[simp] theorem rows_new (name : Value) (columns : List Column) (refresh : Bool) :
    (new name columns refresh).rows = [] := rfl

theorem rows_append {table after : Table} {row : Row} (h : table.append row = .ok after) :
    after.rows = table.rows ++ [row] := by
  unfold append at h
  cases checked : table.indexes.check row with
  | error e => simp [checked, bind, Except.bind] at h
  | ok u =>
    simp only [checked, bind, Except.bind, pure, Except.pure, Except.ok.injEq] at h
    simp [← h, rows]

end Table
end RowStore
