import RowStore.Proofs.Database.Opening
import RowStore.Proofs.Table.Lookup

/-! Databases whose indexes are refreshed. However such a database was reached, with queries that
were refused and stores that failed in between, its indexes hold the rows as they are. -/
namespace RowStore.Database

variable {db : Database}

theorem Reachable.current (reachable : Reachable true db) {key : Text} {table : Table}
    (member : (key, table) ∈ db.tables) : table.Valid true ∧ table.Current := by
  obtain ⟨valid, policy⟩ := reachable.valid
  have kept := valid.tables _ member
  rw [policy] at kept
  exact ⟨kept, kept.current rfl⟩

theorem mem_indexedNames {columns : List Column} {column : Column} (known : column ∈ columns)
    (indexed : column.indexed) : column.name ∈ Table.indexedNames columns :=
  Table.mem_indexedNames_iff.mpr ⟨column, known, indexed, rfl⟩

/-- In an indexed column no two rows have the same key, and the index has one entry for each row, in
the order of the rows, that names this row. So a look-up and a scan find the same. -/
theorem Reachable.index_exact (reachable : Reachable true db) {key : Text} {table : Table}
    (member : (key, table) ∈ db.tables) {column : Column} (known : column ∈ table.columns)
    (indexed : column.indexed) :
    (table.rows.Pairwise fun r s => (r.at column.name).same (s.at column.name) = false) ∧
      Fields.find? table.indexes.entries column.name =
        some (table.slots.map fun s => (s.row.at column.name, s.id)) ∧
      Fields.find? table.indexedRows column.name =
        some (table.rows.map fun row => (row.at column.name, row)) ∧
      ∀ v : Value, ¬v.isNan →
        if v.isScalar then
          ∃ found, table.lookup column.name v = .ok found ∧
            table.select (some ⟨some column.name, v⟩) = found.toList
        else
          table.lookup column.name v = .error (.crash (.notKey v.kindName)) ∧
            table.select (some ⟨some column.name, v⟩) = [] := by
  obtain ⟨valid, current⟩ := reachable.current member
  have sound := valid.toSound
  have known : column.name ∈ table.indexes.names := by
    rw [sound.indexed]
    exact mem_indexedNames known indexed
  refine ⟨current.distinct _ known, current.find?_entries known,
    current.find?_indexedRows known sound, fun v number => ?_⟩
  split
  · next scalar =>
    exact ⟨_, current.lookup_eq known sound scalar,
      current.select_eq known sound scalar number⟩
  · next parts =>
    exact ⟨Table.lookup_of_not_isScalar known parts,
      sound.select_of_not_isScalar column.name parts⟩

theorem index_exact_after_update :
    ∃ (table : Table) (column : Column),
      (("t" : Text), table) ∈ ((fresh true).run ["CREATE TABLE t (a INT UNIQUE)", "INSERT INTO t (1)",
        "INSERT INTO t (2)", "INSERT INTO t (1)", "UPDATE t SET a = 3 WHERE a = 1"]).tables ∧
      column ∈ table.columns ∧ column.indexed ∧ table.rows.length = 2 ∧
      ∃ found, table.lookup column.name (.int 3) = .ok found ∧
        table.select (some ⟨some column.name, .int 3⟩) = found.toList := by
  have made : (Fields.find? ((fresh true).run ["CREATE TABLE t (a INT UNIQUE)",
      "INSERT INTO t (1)", "INSERT INTO t (2)", "INSERT INTO t (1)",
      "UPDATE t SET a = 3 WHERE a = 1"]).tables "t").any (fun table =>
        table.columns.any Column.indexed && table.rows.length == 2) := by
    decide +kernel
  obtain ⟨table, found, facts⟩ := (Option.any_eq_true _ _).mp made
  simp only [Bool.and_eq_true, beq_iff_eq, List.any_eq_true] at facts
  obtain ⟨⟨column, known, indexed⟩, rows⟩ := facts
  have member := Fields.mem_of_find? found
  have exact := Reachable.index_exact ((Reachable.opened (openOn_empty true)).run _) member known
    indexed
  exact ⟨table, column, member, known, indexed, rows, exact.2.2.2 (.int 3) (by decide)⟩

end RowStore.Database
