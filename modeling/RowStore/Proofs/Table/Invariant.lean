import RowStore.Proofs.Results
import RowStore.Proofs.Storable
import RowStore.Table

/-! What holds of every table. Rows have the names of the columns and values that a cell can hold,
and the numbers of rows are never used twice. Where the indexes are refreshed they also register
the rows as they are, and then a change of rows that was let through never fails. -/
namespace RowStore.Table

/-- The names of the columns that ask for an index, each once. -/
def indexedNames (columns : List Column) : List Text :=
  ((columns.filter Column.indexed).map Column.name).eraseDups

theorem mem_indexedNames_iff {columns : List Column} {name : Text} :
    name ∈ indexedNames columns ↔ ∃ column ∈ columns, column.indexed ∧ column.name = name := by
  simp only [indexedNames, List.mem_eraseDups, List.mem_map, List.mem_filter, and_assoc]

structure Sound (table : Table) : Prop where
  ids : ((table.slots ++ table.deleted).map Slot.id).Nodup
  below : ∀ s ∈ table.slots ++ table.deleted, s.id < table.nextId
  names : ∀ row ∈ table.rows, Fields.names row = table.columnNames.eraseDups
  stored : ∀ row ∈ table.rows, row.IsStored
  indexed : table.indexes.names = indexedNames table.columns
  owner : table.indexes.table = table.name
  name : table.name.storable
  types : ∀ column ∈ table.columns, column.type.storable

/-- The indexes register the rows as they are, and no two rows share an indexed value. -/
structure Current (table : Table) : Prop where
  registers : table.indexes.Registers (numbered table.slots)
  distinct : Distinct table.indexes.names table.rows

/-- A table that is kept under a policy. -/
structure Valid (refresh : Bool) (table : Table) : Prop extends Sound table where
  policy : table.indexes.refresh = refresh
  current : refresh = true → table.Current

@[simp] theorem select_none (table : Table) : table.select none = table.rows := by
  simp [select, passes]

@[simp] theorem map_fst_numbered (slots : List Slot) :
    (numbered slots).map Prod.fst = slots.map Slot.row := by
  simp [numbered, Function.comp_def]

theorem Sound.keyed {table : Table} (sound : table.Sound) {row : Row} (member : row ∈ table.rows) :
    row.IsKeyed :=
  (sound.stored row member).isKeyed

theorem indexed_new (name : Value) (columns : List Column) (refresh : Bool) :
    (new name columns refresh).indexes.names = indexedNames columns := by
  simp only [new, Indexes.ofColumns, Indexes.names, Fields.names_ofPairs, indexedNames]
  simp [Fields.names, Function.comp_def]

theorem sound_new {name : Value} {columns : List Column} (refresh : Bool) (kept : name.storable)
    (types : ∀ column ∈ columns, column.type.storable) : (new name columns refresh).Sound where
  ids := .nil
  below := by simp [new]
  names := by simp
  stored := by simp
  indexed := indexed_new ..
  owner := rfl
  name := kept
  types := types

theorem current_new (name : Value) (columns : List Column) (refresh : Bool) :
    (new name columns refresh).Current where
  registers := by
    intro pair member
    obtain ⟨c, _, same⟩ := List.mem_map.mp (Fields.mem_ofPairs member)
    simp [← same, Entries.ofRows, numbered, new]
  distinct := by simp

/-- The table with a row put behind the others, whatever the indexes say of it. -/
def appended (table : Table) (row : Row) : Table :=
  { table with
    slots := table.slots ++ [⟨table.nextId, row⟩]
    indexes := (table.indexes.add row table.nextId).1
    nextId := table.nextId + 1 }

theorem append_eq (table : Table) (row : Row) :
    table.append row = (table.indexes.check row).map fun _ => table.appended row := by
  unfold append
  cases table.indexes.check row <;> rfl

@[simp] theorem rows_appended (table : Table) (row : Row) :
    (table.appended row).rows = table.rows ++ [row] := by
  simp [rows, appended]

@[simp] theorem names_appended (table : Table) (row : Row) :
    (table.appended row).indexes.names = table.indexes.names :=
  Indexes.names_add ..

theorem Sound.appended {table : Table} (sound : table.Sound) {row : Row} (stored : row.IsStored)
    (names : Fields.names row = table.columnNames.eraseDups) : (table.appended row).Sound where
  ids := by
    have order : (table.slots ++ [(⟨table.nextId, row⟩ : Slot)] ++ table.deleted).Perm
        (⟨table.nextId, row⟩ :: (table.slots ++ table.deleted)) := by
      simp
    refine ((order.map Slot.id).nodup_iff).mpr (List.nodup_cons.mpr ⟨?_, sound.ids⟩)
    intro known
    obtain ⟨s, member, same⟩ := List.mem_map.mp known
    exact Nat.lt_irrefl table.nextId (by simpa [same] using sound.below s member)
  below := by
    intro s member
    simp only [Table.appended, List.append_assoc, List.mem_append, List.mem_singleton] at member ⊢
    have old (there : s ∈ table.slots ∨ s ∈ table.deleted) : s.id < table.nextId + 1 :=
      Nat.lt_succ_of_lt (sound.below s (List.mem_append.mpr there))
    rcases member with there | rfl | there
    · exact old (.inl there)
    · exact Nat.lt_succ_self _
    · exact old (.inr there)
  names := by simpa [or_imp, forall_and] using ⟨sound.names, names⟩
  stored := by simpa [or_imp, forall_and] using ⟨sound.stored, stored⟩
  indexed := (names_appended table row).trans sound.indexed
  owner := sound.owner
  name := sound.name
  types := sound.types

theorem Current.appended {table : Table} (current : table.Current) {row : Row}
    (keyed : row.IsKeyed) (free : table.indexes.check row = .ok ()) :
    (table.appended row).Current where
  registers := by
    have := Indexes.registers_add current.registers keyed free table.nextId
    simpa [Table.appended, numbered] using this
  distinct := by
    have apart := (Indexes.check_eq_ok_iff_distinct current.registers keyed).mp free
    rw [map_fst_numbered] at apart
    have both := Distinct.append_singleton.mpr ⟨current.distinct, apart⟩
    simpa using both

theorem makeRow_names {table : Table} {values : List Value}
    (count : values.length = table.columns.length) :
    Fields.names (table.makeRow values) = table.columnNames.eraseDups := by
  have whole : Fields.names (table.columnNames.zip values) = table.columnNames :=
    List.map_fst_zip (by simp [columnNames, count])
  rw [makeRow, Fields.names_ofPairs, whole]

theorem mem_of_mem_makeRow (table : Table) {values : List Value} {pair : Text × Value}
    (member : pair ∈ table.makeRow values) : pair.2 ∈ values :=
  (List.of_mem_zip (Fields.mem_ofPairs member)).2

theorem makeRow_keyed (table : Table) {values : List Value} (scalars : ∀ v ∈ values, v.isScalar) :
    (table.makeRow values).IsKeyed :=
  fun _ member => scalars _ (table.mem_of_mem_makeRow member)

theorem makeRow_stored (table : Table) {values : List Value} (cells : ∀ v ∈ values, v.isCell) :
    (table.makeRow values).IsStored :=
  fun _ member => cells _ (table.mem_of_mem_makeRow member)

theorem insert_eq (table : Table) {values : List Value}
    (count : values.length = table.columns.length) :
    table.insert values = (table.indexes.check (table.makeRow values)).map fun _ =>
      (table.appended (table.makeRow values), table.makeRow values) := by
  simp only [insert, count, ne_eq, not_true_eq_false, ↓reduceIte, append_eq]
  cases table.indexes.check (table.makeRow values) <;> rfl

theorem insert_cases (table : Table) (values : List Value) :
    (∃ e, table.insert values = .error e) ∨
      values.length = table.columns.length ∧
        table.indexes.check (table.makeRow values) = .ok () ∧
        table.insert values = .ok (table.appended (table.makeRow values), table.makeRow values) := by
  by_cases count : values.length = table.columns.length
  · have made := table.insert_eq count
    cases free : table.indexes.check (table.makeRow values) with
    | error e => exact .inl ⟨e, by simp [made, free, Except.map]⟩
    | ok => exact .inr ⟨count, rfl, by simp [made, free, Except.map]⟩
  · exact .inl ⟨.of (.columnCount table.name table.columns.length values.length),
      by simp [insert, count, fail]⟩

theorem Valid.insert {refresh : Bool} {table after : Table} {values : List Value} {row : Row}
    (valid : table.Valid refresh) (cells : ∀ v ∈ values, v.isCell)
    (done : table.insert values = .ok (after, row)) : after.Valid refresh := by
  rcases insert_cases table values with ⟨e, failed⟩ | ⟨count, free, made⟩
  · simp [failed] at done
  · obtain ⟨rfl, -⟩ := Prod.mk.inj (Except.ok.inj (made.symm.trans done))
    have stored := table.makeRow_stored cells
    exact ⟨valid.toSound.appended stored (makeRow_names count), valid.policy,
      fun held => (valid.current held).appended stored.isKeyed free⟩

theorem withSlots_frame (table : Table) (slots deleted : List Slot) :
    (table.withSlots slots deleted).1.indexes.names = table.indexes.names ∧
      (table.withSlots slots deleted).1.indexes.table = table.indexes.table ∧
      (table.withSlots slots deleted).1.indexes.refresh = table.indexes.refresh := by
  simp only [withSlots, Indexes.rowsChanged]
  split <;> simp

/-- Slots that are the old ones under other rows, or moved to the deleted ones, keep a table
sound. -/
theorem Sound.withSlots {table : Table} (sound : table.Sound) {slots deleted : List Slot}
    (ids : ((slots ++ deleted).map Slot.id).Perm ((table.slots ++ table.deleted).map Slot.id))
    (names : ∀ row ∈ slots.map Slot.row, Fields.names row = table.columnNames.eraseDups)
    (stored : ∀ row ∈ slots.map Slot.row, row.IsStored) :
    (table.withSlots slots deleted).1.Sound where
  ids := ids.nodup_iff.mpr sound.ids
  below := by
    intro s member
    have known : s.id ∈ (table.slots ++ table.deleted).map Slot.id :=
      ids.subset (List.mem_map.mpr ⟨s, member, rfl⟩)
    obtain ⟨t, there, same⟩ := List.mem_map.mp known
    exact same ▸ sound.below t there
  names := names
  stored := stored
  indexed := (table.withSlots_frame slots deleted).1.trans sound.indexed
  owner := (table.withSlots_frame slots deleted).2.1.trans sound.owner
  name := sound.name
  types := sound.types

theorem withSlots_of_distinct (table : Table) {slots : List Slot} (deleted : List Slot)
    (keyed : ∀ row ∈ slots.map Slot.row, row.IsKeyed)
    (distinct : table.indexes.refresh = true → Distinct table.indexes.names (slots.map Slot.row)) :
    (table.withSlots slots deleted).2 = .ok () ∧
      (table.indexes.refresh = true → (table.withSlots slots deleted).1.Current) := by
  cases held : table.indexes.refresh with
  | false => simp [withSlots, Indexes.rowsChanged, held]
  | true =>
    have rebuilt := @Indexes.rebuild_of_distinct _ table.indexes (numbered slots)
      (by simpa [numbered] using keyed) (by simpa using distinct held)
    simp only [withSlots, Indexes.rowsChanged, held, ↓reduceIte]
    exact ⟨rebuilt.1, fun _ => ⟨rebuilt.2, by simpa [rows] using distinct held⟩⟩

/-- A row after an assignment of a value to a column where a filter passes. -/
def assignedRow (name : Text) (v : Value) (filter : Option Filter) (row : Row) : Row :=
  if passes filter row then Fields.put row name v else row

def assignedSlot (name : Text) (v : Value) (filter : Option Filter) (s : Slot) : Slot :=
  if passes filter s.row then { s with row := Fields.put s.row name v } else s

theorem row_assignedSlot (name : Text) (v : Value) (filter : Option Filter) (s : Slot) :
    (assignedSlot name v filter s).row = assignedRow name v filter s.row := by
  unfold assignedSlot assignedRow
  split <;> rfl

theorem id_assignedSlot (name : Text) (v : Value) (filter : Option Filter) (s : Slot) :
    (assignedSlot name v filter s).id = s.id := by
  unfold assignedSlot
  split <;> rfl

/-- The table with the rows that an update leaves. -/
def assigned (table : Table) (name : Text) (v : Value) (filter : Option Filter) :
    Table × Result Unit :=
  table.withSlots (table.slots.map (assignedSlot name v filter)) table.deleted

theorem map_row_assignedSlot (table : Table) (name : Text) (v : Value) (filter : Option Filter) :
    (table.slots.map (assignedSlot name v filter)).map Slot.row =
      table.rows.map (assignedRow name v filter) := by
  simp [rows, Function.comp_def, row_assignedSlot]

theorem assignedRow_names {name : Text} {row : Row} (known : name ∈ Fields.names row) (v : Value)
    (filter : Option Filter) : Fields.names (assignedRow name v filter row) = Fields.names row := by
  unfold assignedRow
  split
  · rw [Fields.names_put, if_pos known]
  · rfl

theorem assignedRow_stored {row : Row} (stored : row.IsStored) {v : Value} (cell : v.isCell)
    (name : Text) (filter : Option Filter) : (assignedRow name v filter row).IsStored := by
  unfold assignedRow
  split
  · exact stored.put cell name
  · exact stored

theorem assignedRow_keyed {row : Row} (keyed : row.IsKeyed) {v : Value} (scalar : v.isScalar)
    (name : Text) (filter : Option Filter) : (assignedRow name v filter row).IsKeyed := by
  unfold assignedRow
  split
  · exact keyed.put scalar name
  · exact keyed

theorem assignedRow_at {name column : Text} (apart : name ≠ column) (v : Value)
    (filter : Option Filter) (row : Row) :
    (assignedRow name v filter row).at column = row.at column := by
  unfold assignedRow
  split
  · exact row.at_put_of_ne apart v
  · rfl

theorem at_assignedRow (name : Text) (v : Value) (filter : Option Filter) (row : Row) :
    (assignedRow name v filter row).at name = if passes filter row then v else row.at name := by
  unfold assignedRow
  split
  · exact Row.at_put_self row name v
  · rfl

theorem column?_isSome_iff (table : Table) (name : Text) :
    (table.column? name).isSome ↔ name ∈ table.columnNames := by
  simp [column?, columnNames, List.find?_isSome]

theorem update_of_known {table : Table} {name : Text} (known : name ∈ table.columnNames) (v : Value)
    (filter : Option Filter) :
    table.update (some name) v filter =
      match table.indexes.beforeUpdate table.rows name v filter with
      | .error e => (table, .error e)
      | .ok () => ((table.assigned name v filter).1,
          (table.assigned name v filter).2.map fun () => (table.select filter).length) := by
  obtain ⟨c, found⟩ := Option.isSome_iff_exists.mp ((table.column?_isSome_iff name).mpr known)
  have asked : ((some name).bind fun name => (table.column? name).map fun _ => name) = some name := by
    simp [found]
  simp only [update, asked]
  rfl

theorem update_of_unknown {table : Table} {column : Option Text}
    (unknown : ∀ name, column = some name → name ∉ table.columnNames) (v : Value)
    (filter : Option Filter) :
    table.update column v filter = (table, fail (.unknownColumn table.name column)) := by
  have asked : (column.bind fun name => (table.column? name).map fun _ => name) = none := by
    apply Option.bind_eq_none_iff.mpr
    intro name same
    have absent := mt (table.column?_isSome_iff name).mp (unknown name same)
    simpa using absent
  simp only [update, asked]

/-- An update fails without a change, or names a column and passes the check before it. -/
theorem update_cases (table : Table) (column : Option Text) (v : Value) (filter : Option Filter) :
    (∃ e, table.update column v filter = (table, .error e)) ∨
      ∃ name ∈ table.columnNames, column = some name ∧
        table.indexes.beforeUpdate table.rows name v filter = .ok () ∧
        table.update column v filter = ((table.assigned name v filter).1,
          (table.assigned name v filter).2.map fun () => (table.select filter).length) := by
  by_cases asked : ∃ name ∈ table.columnNames, column = some name
  · obtain ⟨name, known, rfl⟩ := asked
    have made := update_of_known known v filter
    cases allowed : table.indexes.beforeUpdate table.rows name v filter with
    | error e =>
      rw [allowed] at made
      exact .inl ⟨e, made⟩
    | ok =>
      rw [allowed] at made
      exact .inr ⟨name, known, rfl, allowed, made⟩
  · have unknown : ∀ name, column = some name → name ∉ table.columnNames :=
      fun name same known => asked ⟨name, known, same⟩
    exact .inl ⟨_, update_of_unknown unknown v filter⟩

theorem beforeUpdate_eq {table : Table} (held : table.indexes.refresh = true) (name : Text)
    (v : Value) (filter : Option Filter) :
    table.indexes.beforeUpdate table.rows name v filter =
      if name ∈ table.indexes.names then
        table.indexes.validate (table.rows.map (assignedRow name v filter))
      else .ok () := by
  simp only [Indexes.beforeUpdate, held, Bool.true_and, List.contains_iff_mem]
  rfl

theorem distinct_assigned {table : Table} (keyed : ∀ row ∈ table.rows, row.IsKeyed)
    (current : table.Current) (held : table.indexes.refresh = true) {name : Text} {v : Value}
    {filter : Option Filter} (scalar : v.isScalar)
    (allowed : table.indexes.beforeUpdate table.rows name v filter = .ok ()) :
    Distinct table.indexes.names (table.rows.map (assignedRow name v filter)) := by
  rw [beforeUpdate_eq held] at allowed
  split at allowed
  · refine (Indexes.validate_eq_ok_iff fun row member => ?_).mp allowed
    obtain ⟨before, there, rfl⟩ := List.mem_map.mp member
    exact assignedRow_keyed (keyed before there) scalar name filter
  · next unknown =>
    apply current.distinct.map_of_at_eq
    intro column member row _
    have apart : name ≠ column := fun same => unknown (same ▸ member)
    exact assignedRow_at apart v filter row

theorem Valid.distinct_assigned {refresh : Bool} {table : Table} (valid : table.Valid refresh)
    {name : Text} {v : Value} {filter : Option Filter} (cell : v.isCell)
    (allowed : table.indexes.beforeUpdate table.rows name v filter = .ok ())
    (held : table.indexes.refresh = true) :
    Distinct table.indexes.names (table.rows.map (assignedRow name v filter)) :=
  Table.distinct_assigned (fun _ => valid.toSound.keyed) (valid.current (valid.policy ▸ held)) held
    (Value.isScalar_of_isCell cell) allowed

theorem Sound.stored_assigned {table : Table} (sound : table.Sound) {v : Value} (cell : v.isCell)
    (name : Text) (filter : Option Filter) :
    ∀ row ∈ table.rows.map (assignedRow name v filter), row.IsStored := by
  simpa using fun row member => assignedRow_stored (sound.stored row member) cell name filter

theorem Valid.assigned_done {refresh : Bool} {table : Table} (valid : table.Valid refresh)
    {name : Text} {v : Value} {filter : Option Filter} (cell : v.isCell)
    (allowed : table.indexes.beforeUpdate table.rows name v filter = .ok ()) :
    (table.assigned name v filter).2 = .ok () ∧
      (table.indexes.refresh = true → (table.assigned name v filter).1.Current) := by
  have stored := valid.toSound.stored_assigned cell name filter
  apply withSlots_of_distinct
  · rw [map_row_assignedSlot]
    exact fun row member => (stored row member).isKeyed
  · rw [map_row_assignedSlot]
    exact valid.distinct_assigned cell allowed

/-- An update keeps a table valid, and one that fails leaves it as it was. -/
theorem Valid.update {refresh : Bool} {table : Table} {v : Value} (valid : table.Valid refresh)
    (cell : v.isCell) (column : Option Text) (filter : Option Filter) :
    (table.update column v filter).1.Valid refresh ∧
      ∀ e, (table.update column v filter).2 = .error e → (table.update column v filter).1 = table := by
  rcases update_cases table column v filter with ⟨e, failed⟩ | ⟨name, known, rfl, allowed, made⟩
  · rw [failed]
    exact ⟨valid, fun _ _ => rfl⟩
  · have stored := valid.toSound.stored_assigned cell name filter
    have sound : (table.assigned name v filter).1.Sound := by
      refine valid.toSound.withSlots ?_ ?_ (by rwa [map_row_assignedSlot])
      · simp [Function.comp_def, id_assignedSlot]
      · rw [map_row_assignedSlot]
        intro row member
        obtain ⟨before, there, rfl⟩ := List.mem_map.mp member
        have names := valid.names before there
        rw [assignedRow_names (by simpa [names] using known), names]
    obtain ⟨done, current⟩ := valid.assigned_done cell allowed
    rw [made]
    refine ⟨⟨sound, (table.withSlots_frame _ _).2.2.trans valid.policy,
      fun held => current (valid.policy.trans held)⟩, fun e failed => ?_⟩
    simp [done, Except.map] at failed

theorem delete_eq (table : Table) (filter : Option Filter) :
    table.delete filter =
      let kept := table.slots.filter fun s => !passes filter s.row
      let gone := table.slots.filter fun s => passes filter s.row
      ((table.withSlots kept (table.deleted ++ gone)).1,
        (table.withSlots kept (table.deleted ++ gone)).2.map fun () => gone.length) := by
  simp only [delete, List.partition_eq_filter_filter]
  rfl

/-- A deletion keeps a table valid and never fails. -/
theorem Valid.delete {refresh : Bool} {table : Table} (valid : table.Valid refresh)
    (filter : Option Filter) :
    (table.delete filter).1.Valid refresh ∧
      (table.delete filter).2 = .ok (table.select filter).length := by
  have part : ((table.slots.filter fun s => !passes filter s.row).map Slot.row).Sublist
      table.rows := List.filter_sublist.map Slot.row
  have moved : ((table.slots.filter fun s => !passes filter s.row) ++
      (table.deleted ++ table.slots.filter fun s => passes filter s.row)).Perm
        (table.slots ++ table.deleted) := by
    have split := List.filter_append_perm (fun s : Slot => passes filter s.row) table.slots
    apply (List.perm_append_comm.append_left _).trans
    rw [← List.append_assoc]
    exact (List.perm_append_comm.trans split).append_right _
  have sound := valid.toSound.withSlots (moved.map Slot.id)
    (fun row member => valid.names row (part.subset member))
    (fun row member => valid.stored row (part.subset member))
  obtain ⟨done, current⟩ := withSlots_of_distinct table
    (table.deleted ++ table.slots.filter fun s => passes filter s.row)
    (fun row member => valid.toSound.keyed (part.subset member))
    (fun held => (valid.current (valid.policy ▸ held)).distinct.sublist part)
  rw [delete_eq]
  refine ⟨⟨sound, (table.withSlots_frame _ _).2.2.trans valid.policy,
    fun held => current (valid.policy.trans held)⟩, ?_⟩
  simp [done, Except.map, select, rows, List.filter_map, Function.comp_def]

end RowStore.Table
