import RowStore.Proofs.Table.Covering
import RowStore.Proofs.Table.Replay

/-! The two policies for indexes side by side. A table whose indexes are refreshed and its twin
whose indexes are not do the same as long as no row is deleted and no indexed value is assigned:
what is rebuilt then is what was registered already. -/
namespace RowStore

/-- The same indexes, which are not refreshed any more. -/
def Indexes.unrefreshed {α : Type} (indexes : Indexes α) : Indexes α :=
  { indexes with refresh := false }

theorem Distinct.of_ofRows_eq {α : Type} {columns : List Text} {done rows : List (Row × α)}
    (distinct : Distinct columns (done.map Prod.fst))
    (same : ∀ column ∈ columns, Entries.ofRows column rows = Entries.ofRows column done) :
    Distinct columns (rows.map Prod.fst) := by
  intro column known
  have keys (pairs : List (Row × α)) :
      (pairs.map Prod.fst).Pairwise (fun r s => (r.at column).same (s.at column) = false) ↔
        (Entries.ofRows column pairs).Pairwise fun e f => e.1.same f.1 = false := by
    rw [Entries.ofRows, List.pairwise_map, List.pairwise_map]
  rw [keys, same column known, ← keys]
  exact distinct column known

/-- Indexes are rebuilt as they were from rows with the keys that they register. -/
theorem Indexes.rebuild_eq_self {α : Type} {indexes : Indexes α} {done rows : List (Row × α)}
    (registers : indexes.Registers done) (distinct : Distinct indexes.names (done.map Prod.fst))
    (keyed : ∀ pair ∈ rows, pair.1.IsKeyed)
    (same : ∀ column ∈ indexes.names, Entries.ofRows column rows = Entries.ofRows column done) :
    indexes.rebuild rows = (indexes, .ok ()) := by
  obtain ⟨result, rebuilt⟩ := rebuild_of_distinct keyed (distinct.of_ofRows_eq same)
  have entries : (indexes.rebuild rows).1.entries = indexes.entries := by
    rw [rebuilt.entries_eq, registers.entries_eq, names_rebuild]
    apply List.map_congr_left
    intro column known
    rw [same column known]
  have whole : (indexes.rebuild rows).1 = indexes := by
    calc
      (indexes.rebuild rows).1 = ⟨(indexes.rebuild rows).1.table, (indexes.rebuild rows).1.refresh,
        (indexes.rebuild rows).1.entries⟩ := rfl
      _ = indexes := by rw [table_rebuild, refresh_rebuild, entries]
  exact Prod.ext whole result

namespace Table

/-- The same table with indexes that are not refreshed. -/
def unrefreshed (table : Table) : Table := { table with indexes := table.indexes.unrefreshed }

theorem appended_unrefreshed (table : Table) (row : Row) :
    table.unrefreshed.appended row = (table.appended row).unrefreshed := rfl

theorem append_unrefreshed (table : Table) (row : Row) :
    table.unrefreshed.append row = (table.append row).map unrefreshed := by
  have check : table.unrefreshed.indexes.check row = table.indexes.check row := rfl
  rw [append_eq, append_eq, check, appended_unrefreshed]
  cases table.indexes.check row <;> rfl

theorem insert_unrefreshed (table : Table) (values : List Value) :
    table.unrefreshed.insert values =
      (table.insert values).map fun made => (made.1.unrefreshed, made.2) := by
  by_cases count : values.length = table.columns.length
  · have check : table.unrefreshed.indexes.check (table.unrefreshed.makeRow values) =
        table.indexes.check (table.makeRow values) := rfl
    rw [table.insert_eq count, table.unrefreshed.insert_eq count, check]
    cases table.indexes.check (table.makeRow values) <;> rfl
  · have count_twin : ¬values.length = table.unrefreshed.columns.length := count
    simp only [insert, count, count_twin, ne_eq, not_false_eq_true, ↓reduceIte]
    rfl

theorem replay_unrefreshed (rows : List Value) (table : Table) :
    rows.foldlM replayRow table.unrefreshed = (rows.foldlM replayRow table).map unrefreshed := by
  induction rows generalizing table with
  | nil => rfl
  | cons v rest ih =>
    have read : table.unrefreshed.rowOf v = table.rowOf v := rfl
    rw [List.foldlM_cons, List.foldlM_cons, replayRow, replayRow, read]
    cases table.rowOf v with
    | error e => rfl
    | ok row =>
      simp only [bind, Except.bind, append_unrefreshed]
      cases table.append row with
      | error e => rfl
      | ok next => exact ih next

/-- A table is made from a record under both policies or under none, and with the same rows. -/
theorem ofValue_unrefreshed (v : Value) (refresh : Bool) :
    ofValue v false = (ofValue v refresh).map unrefreshed := by
  rw [ofValue_eq, ofValue_eq]
  cases entryOf v with
  | error e => rfl
  | ok entry =>
    obtain ⟨name, columns, rows⟩ := entry
    simp only [bind, Except.bind]
    cases columns.mapM Column.ofValue with
    | error e => rfl
    | ok columns => exact replay_unrefreshed rows (new name columns refresh)

theorem Current.withSlots_unrefreshed {table : Table} (current : table.Current) {slots : List Slot}
    (deleted : List Slot) (keyed : ∀ row ∈ slots.map Slot.row, row.IsKeyed)
    (same : ∀ column ∈ table.indexes.names,
      Entries.ofRows column (numbered slots) = Entries.ofRows column (numbered table.slots)) :
    table.unrefreshed.withSlots slots deleted =
      ((table.withSlots slots deleted).1.unrefreshed, (table.withSlots slots deleted).2) := by
  have plain : table.unrefreshed.indexes.refresh = false := rfl
  rw [withSlots_eq_stale plain]
  cases held : table.indexes.refresh with
  | false =>
    rw [withSlots_eq_stale held]
    rfl
  | true =>
    have rebuilt := Indexes.rebuild_eq_self current.registers
      (by rw [map_fst_numbered]; exact current.distinct) (by simpa [numbered] using keyed) same
    simp only [withSlots, Indexes.rowsChanged, held, ↓reduceIte, rebuilt]
    rfl

theorem at_assignedRow_of_spares {table : Table} {name : Text} {filter : Option Filter}
    (spares : table.sparesKeys (some name) filter) (v : Value) {column : Text}
    (indexed : column ∈ table.indexes.names) {row : Row} (member : row ∈ table.rows) :
    (assignedRow name v filter row).at column = row.at column := by
  by_cases apart : name = column
  · obtain rfl := apart
    simp only [sparesKeys, Option.all_some, List.contains_iff_mem.mpr indexed, Bool.not_true,
      Bool.false_or, List.isEmpty_iff, select, List.filter_eq_nil_iff] at spares
    rw [assignedRow, if_neg (spares row member)]
  · exact assignedRow_at apart v filter row

section

variable {table : Table} (valid : table.Valid true)
include valid

theorem Valid.beforeUpdate_of_spares {name : Text} {v : Value} {filter : Option Filter}
    (cell : v.isCell) (spares : table.sparesKeys (some name) filter) :
    table.indexes.beforeUpdate table.rows name v filter = .ok () := by
  have keyed : ∀ row ∈ table.rows.map (assignedRow name v filter), row.IsKeyed := by
    rw [List.forall_mem_map]
    intro row member
    exact (assignedRow_stored (valid.stored row member) cell name filter).isKeyed
  have distinct := (valid.current rfl).distinct.map_of_at_eq fun column indexed row member =>
    at_assignedRow_of_spares spares v indexed member
  simp only [Indexes.beforeUpdate]
  split
  · exact (Indexes.validate_eq_ok_iff keyed).mpr distinct
  · rfl

/-- An update that leaves all indexed values alone does the same under both policies. -/
theorem Valid.update_unrefreshed {column : Option Text} {v : Value} {filter : Option Filter}
    (cell : v.isCell) (spares : table.sparesKeys column filter) :
    table.unrefreshed.update column v filter =
      ((table.update column v filter).1.unrefreshed, (table.update column v filter).2) := by
  by_cases asked : ∃ name ∈ table.columnNames, column = some name
  · obtain ⟨name, known, rfl⟩ := asked
    have free : table.unrefreshed.indexes.beforeUpdate table.unrefreshed.rows name v filter =
        .ok () := rfl
    have moved : table.unrefreshed.assigned name v filter =
        ((table.assigned name v filter).1.unrefreshed, (table.assigned name v filter).2) := by
      apply (valid.current rfl).withSlots_unrefreshed
      · rw [map_row_assignedSlot, List.forall_mem_map]
        intro row member
        exact (assignedRow_stored (valid.stored row member) cell name filter).isKeyed
      · intro column indexed
        simp only [Entries.ofRows, numbered, List.map_map]
        apply List.map_congr_left
        intro s member
        have same := at_assignedRow_of_spares spares v indexed (List.mem_map_of_mem member)
        simp only [Function.comp_apply, row_assignedSlot, id_assignedSlot, same]
    rw [update_of_known known, @update_of_known table.unrefreshed name known, free,
      valid.beforeUpdate_of_spares cell spares]
    simp only [moved]
    rfl
  · have unknown : ∀ name, column = some name → name ∉ table.columnNames :=
      fun name same known => asked ⟨name, known, same⟩
    rw [update_of_unknown unknown, @update_of_unknown table.unrefreshed column unknown]
    rfl

theorem Valid.delete_unrefreshed {filter : Option Filter} (spares : (table.select filter).isEmpty) :
    table.unrefreshed.delete filter =
      ((table.delete filter).1.unrefreshed, (table.delete filter).2) := by
  simp only [select, List.isEmpty_iff, List.filter_eq_nil_iff] at spares
  have kept : (table.slots.filter fun s => !passes filter s.row) = table.slots := by
    apply List.filter_eq_self.mpr
    intro s member
    simpa using spares s.row (List.mem_map_of_mem member)
  have moved := (valid.current rfl).withSlots_unrefreshed
    (table.deleted ++ table.slots.filter fun s => passes filter s.row)
    (fun _ member => valid.toSound.keyed member) (fun _ _ => rfl)
  have same : table.unrefreshed.slots = table.slots ∧
      table.unrefreshed.deleted = table.deleted := ⟨rfl, rfl⟩
  simp only [delete_eq, same, kept, moved]

end

end Table
end RowStore
