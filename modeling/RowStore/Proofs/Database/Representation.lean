import RowStore.Proofs.Database.Acceptance

/-! What the tables of a database look like, however it was reached. Rows have the names of the
columns in order, indexes have those of the columns that ask for one, and cells hold nothing that
could not be written. So there is a text of every snapshot, and saving goes through unless the store
fails or there is no snapshot, since a type is too deep to be copied. -/
namespace RowStore

/-- Whether a value has no parts and, if it is a whole number, no more decimal digits than can be
written. -/
def Value.FitsCell : Value → Prop
  | .int n => (Nat.toDigits 10 n.natAbs).length ≤ Value.maxDigits
  | .list _ | .record _ => False
  | .null | .bool _ | .float _ | .text _ => True

theorem Value.fitsCell_of_isCell {v : Value} (cell : v.isCell) : v.FitsCell := by
  have scalar := Value.isScalar_of_isCell cell
  cases v with
  | int n =>
    have short := Value.storable_of_isCell cell
    simp only [Value.storable, decide_eq_true_eq] at short
    unfold Value.tooLong at short
    exact Json.length_toDigits_le (by decide) short
  | list items => simp [Value.isScalar] at scalar
  | record fields => simp [Value.isScalar] at scalar
  | _ => trivial

namespace Table

/-- Rows and indexes have the names that the columns ask for, and cells hold what can be written. -/
structure FitsSchema (table : Table) : Prop where
  rows : ∀ row ∈ table.rows, Fields.names row = table.columnNames.eraseDups
  indexes : table.indexes.names =
    ((table.columns.filter Column.indexed).map Column.name).eraseDups
  cells : ∀ row ∈ table.rows, ∀ cell ∈ row, cell.2.FitsCell

theorem Sound.fitsSchema {table : Table} (sound : table.Sound) : table.FitsSchema where
  rows := sound.names
  indexes := sound.indexed
  cells row member cell there := Value.fitsCell_of_isCell (sound.stored row member cell there)

end Table

namespace Database

/-- Every table of a reachable database fits its schema. If all types can be copied, the database
has a snapshot and a text of it that any memory takes unless there is an outage. If not, no memory
is asked. -/
theorem Reachable.fits_schema {refresh : Bool} {db : Database} (reachable : Reachable refresh db) :
    (∀ pair ∈ db.tables, pair.2.FitsSchema) ∧
    (db.Shallow → ∃ v text, db.snapshot = .ok v ∧ Snapshot.encode v = .ok text ∧
      ∀ memory : Memory, memory.outage = none → (db.on (.memory memory)).persist =
        (db.on (.memory ⟨some (.ofString text), memory.saves + 1, none⟩), .ok ())) ∧
    (¬db.Shallow → db.snapshot = .error (.crash .tooDeep) ∧
      ∀ store, (db.on store).persist = (db.on store, .error (.crash .tooDeep))) := by
  obtain ⟨valid, -⟩ := reachable.valid
  refine ⟨?_, ?_, ?_⟩
  · intro pair member
    exact (valid.tables pair member).toSound.fitsSchema
  · intro shallow
    refine ⟨db.record, Json.write db.record, shallow.snapshot, valid.encode_record, ?_⟩
    intro memory calm
    have saved := (valid.on (.memory memory)).persist_memory shallow rfl
    rw [calm] at saved
    rw [saved, ofString_write]
    rfl
  · intro deep
    refine ⟨by rw [snapshot_eq, if_neg deep], fun store => persist_of_not_shallow ?_⟩
    exact deep

/-- A schema that names a column twice, with a flag on its second mention only. -/
def repeating : List Text :=
  ["CREATE TABLE t (a INT, b TEXT UNIQUE, a INT PRIMARY)", "INSERT INTO t (1, x, 0x10)",
    "INSERT INTO t (2, y, 16)", "UPDATE t SET b = 7"]

theorem fits_schema_of_repeating : ∃ table,
    (("t" : Text), table) ∈ ((fresh false).run repeating).tables ∧
    table.columnNames = (["a", "b", "a"] : List Text) ∧ table.rows.length = 1 ∧
    (∀ row ∈ table.rows, Fields.names row = (["a", "b"] : List Text)) ∧
    table.indexes.names = (["b", "a"] : List Text) ∧
    ∃ v text, ((fresh false).run repeating).snapshot = .ok v ∧ Snapshot.encode v = .ok text := by
  have made : (Fields.find? ((fresh false).run repeating).tables "t").any (fun table =>
      table.columnNames == (["a", "b", "a"] : List Text) && table.rows.length == 1 &&
        ((table.columns.filter Column.indexed).map Column.name).eraseDups ==
          (["b", "a"] : List Text)) := by
    decide +kernel
  obtain ⟨table, found, facts⟩ := (Option.any_eq_true _ _).mp made
  simp only [Bool.and_eq_true, beq_iff_eq] at facts
  obtain ⟨⟨columns, rows⟩, indexed⟩ := facts
  have member := Fields.mem_of_find? found
  obtain ⟨tables, saved, -⟩ :=
    Reachable.fits_schema ((Reachable.opened (openOn_empty false)).run repeating)
  obtain ⟨v, text, snapshot, encoded, -⟩ := saved (shallow_run_fresh false repeating)
  have fits := tables _ member
  refine ⟨table, member, columns, rows, ?_, fits.indexes.trans indexed, v, text, snapshot, encoded⟩
  intro row there
  rw [fits.rows row there, columns]
  decide

/-- There is no snapshot with a type of seven hundred levels, although there is a text with it. -/
theorem not_encoded_of_deepTyped : openOn (deepTyped 700).store false = .ok (deepTyped 700) ∧
    (deepTyped 700).OverMemory ∧ (deepTyped 700).snapshot = .error (.crash .tooDeep) ∧
    (deepTyped 700).persist.2 = .error (.crash .tooDeep) := by
  have deep : ¬(deepTyped 700).Shallow := mt (shallow_deepTyped_iff 700).mp (by decide)
  exact ⟨openOn_deepTyped 700, ⟨_, rfl, rfl⟩, by rw [snapshot_eq, if_neg deep],
    by rw [persist_of_not_shallow deep]⟩

end Database
end RowStore
