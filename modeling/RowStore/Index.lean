import RowStore.Column
import RowStore.Row

/-! The unique indexes of a table. For each indexed column an index maps the values of rows to what
is registered for them, in the order in which the values first came. Nothing takes an entry away but
a rebuilding of all indexes. -/
namespace RowStore

abbrev Entries (α : Type) := List (Value × α)

namespace Entries

variable {α : Type}

def find? : Entries α → Value → Option α
  | [], _ => none
  | (key, a) :: rest, v => if key.same v then some a else find? rest v

def has (entries : Entries α) (v : Value) : Bool := (find? entries v).isSome

/-- An equal value that is there already keeps its place and its spelling. -/
def put : Entries α → Value → α → Entries α
  | [], v, a => [(v, a)]
  | (key, b) :: rest, v, a => if key.same v then (key, a) :: rest else (key, b) :: put rest v a

end Entries

/-- The indexes of the table of the given name. If they are to be refreshed, they are rebuilt after
each change of rows. -/
structure Indexes (α : Type) where
  table : Value
  refresh : Bool
  entries : Fields (Entries α)

namespace Indexes

variable {α : Type}

def ofColumns (table : Value) (columns : List Column) (refresh : Bool) : Indexes α where
  table := table
  refresh := refresh
  entries := Fields.ofPairs ((columns.filter Column.indexed).map fun c => (c.name, []))

def names (indexes : Indexes α) : List Text := Fields.names indexes.entries

/-- A value as a key. Values with parts are no keys. -/
def key (v : Value) : Result Value :=
  if v.isScalar then .ok v else .error (.crash (.notKey v.kindName))

def freeKey (table : Value) (column : Text) (taken : Value → Bool) (row : Row) :
    Result Value := do
  let v ← key (Row.valueAt row (some column))
  if taken v then fail (.duplicate column v table) else return v

/-- Whether all values of a row in indexed columns are free. -/
def check (indexes : Indexes α) (row : Row) : Result Unit :=
  indexes.entries.forM fun (column, entries) => do
    let _ ← freeKey indexes.table column (Entries.has entries) row

def addTo (row : Row) (a : α) : Fields (Entries α) → Fields (Entries α) × Result Unit
  | [] => ([], .ok ())
  | (column, entries) :: rest =>
    match key (Row.valueAt row (some column)) with
    | .error e => ((column, entries) :: rest, .error e)
    | .ok v =>
      let (rest, result) := addTo row a rest
      ((column, Entries.put entries v a) :: rest, result)

def add (indexes : Indexes α) (row : Row) (a : α) : Indexes α × Result Unit :=
  let (entries, result) := addTo row a indexes.entries
  ({ indexes with entries }, result)

def insert (indexes : Indexes α) (row : Row) (a : α) : Indexes α × Result Unit :=
  match indexes.check row with
  | .ok () => indexes.add row a
  | .error e => (indexes, .error e)

def lookup (indexes : Indexes α) (column : Text) (v : Value) : Result (Option α) :=
  match Fields.find? indexes.entries column with
  | none => .ok none
  | some entries => (key v).map (Entries.find? entries)

def cleared (indexes : Indexes α) : Indexes α :=
  { indexes with entries := Fields.mapValues (fun _ => []) indexes.entries }

/-- Rows registered one after the other, up to the first that has a value that is not free. -/
def insertAll (indexes : Indexes α) : List (Row × α) → Indexes α × Result Unit
  | [] => (indexes, .ok ())
  | (row, a) :: rest =>
    match indexes.insert row a with
    | (indexes, .ok ()) => indexes.insertAll rest
    | stopped => stopped

def rebuild (indexes : Indexes α) (rows : List (Row × α)) : Indexes α × Result Unit :=
  indexes.cleared.insertAll rows

/-- The values that were seen, with those of one more row if none of them was seen before. -/
def see (table : Value) (row : Row) : Fields (List Value) → Result (Fields (List Value))
  | [] => .ok []
  | (column, values) :: rest => do
    let v ← freeKey table column (fun v => values.any (Value.same · v)) row
    return (column, v :: values) :: (← see table row rest)

/-- Whether rows could be indexed together. The indexes themselves do not matter. -/
def validate (indexes : Indexes α) (rows : List Row) : Result Unit := do
  let _ ← rows.foldlM (fun seen row => see indexes.table row seen)
    (Fields.mapValues (fun _ => []) indexes.entries)

/-- Whether rows could still be indexed together if a column of those that pass took a value. -/
def beforeUpdate (indexes : Indexes α) (rows : List Row) (column : Option Text) (v : Value)
    (filter : Option Filter) : Result Unit :=
  match column with
  | some name =>
    if indexes.refresh && indexes.names.contains name then
      indexes.validate (rows.map fun row =>
        if passes filter row then Fields.put row name v else row)
    else .ok ()
  | none => .ok ()

/-- The indexes after a change that left the given rows. -/
def rowsChanged (indexes : Indexes α) (rows : List (Row × α)) : Indexes α × Result Unit :=
  if indexes.refresh then indexes.rebuild rows else (indexes, .ok ())

theorem names_addTo (row : Row) (a : α) (entries : Fields (Entries α)) :
    Fields.names (addTo row a entries).1 = Fields.names entries := by
  induction entries with
  | nil => rfl
  | cons field rest ih =>
    obtain ⟨column, es⟩ := field
    simp only [addTo]
    split
    · rfl
    · simpa [Fields.names] using ih

@[simp] theorem names_add (indexes : Indexes α) (row : Row) (a : α) :
    (indexes.add row a).1.names = indexes.names :=
  names_addTo row a indexes.entries

@[simp] theorem names_insert (indexes : Indexes α) (row : Row) (a : α) :
    (indexes.insert row a).1.names = indexes.names := by
  unfold insert
  split <;> simp

@[simp] theorem names_rebuild (indexes : Indexes α) (rows : List (Row × α)) :
    (indexes.rebuild rows).1.names = indexes.names := by
  have same : indexes.cleared.names = indexes.names := by simp [cleared, names]
  suffices ∀ start : Indexes α, (start.insertAll rows).1.names = start.names from
    (this indexes.cleared).trans same
  induction rows with
  | nil => exact fun _ => rfl
  | cons pair rest ih =>
    intro start
    obtain ⟨row, a⟩ := pair
    have kept := names_insert start row a
    simp only [insertAll]
    split
    · next after eq =>
      rw [eq] at kept
      exact (ih after).trans kept
    · exact kept

end Indexes
end RowStore
