import RowStore.Proofs.Database.Opening
import RowStore.Proofs.Table.Content

/-! Databases that can be saved. The record of a column has a copy of its type, so there is no
record of a table with a type that is too deep to be copied. Such types come from snapshots alone:
those that queries make are words, and no command changes the columns of a table that is there. -/
namespace RowStore

/-- Whether the types of all columns can be copied. -/
def Table.Shallow (table : Table) : Prop :=
  ∀ column ∈ table.columns, column.type.depth ≤ Column.copyDepth

instance (table : Table) : Decidable table.Shallow :=
  inferInstanceAs (Decidable (∀ column ∈ table.columns, column.type.depth ≤ Column.copyDepth))

theorem Table.toValue_eq (table : Table) :
    table.toValue = if table.Shallow then .ok table.record else .error (.crash .tooDeep) := by
  have columns : table.columns.mapM Column.toValue = if table.Shallow then
      .ok (table.columns.map Column.record) else .error (.crash .tooDeep) :=
    mapM_eq_ite (fun _ => rfl) table.columns
  rw [toValue, columns]
  split <;> rfl

namespace Database

variable {db : Database}

/-- The record of a database, however deep the types in it are. -/
def record (db : Database) : Value := .record (Fields.mapValues Table.record db.tables)

/-- Whether the types of all columns can be copied. -/
def Shallow (db : Database) : Prop := ∀ pair ∈ db.tables, pair.2.Shallow

instance (db : Database) : Decidable db.Shallow :=
  inferInstanceAs (Decidable (∀ pair ∈ db.tables, pair.2.Shallow))

/-- The snapshot of a database is its record, but making it can fail. -/
theorem snapshot_eq (db : Database) :
    db.snapshot = if db.Shallow then .ok db.record else .error (.crash .tooDeep) := by
  have each (pair : Text × Table) : (do return (pair.1, ← pair.2.toValue) : Result _) =
      if pair.2.Shallow then .ok (pair.1, pair.2.record) else .error (.crash .tooDeep) := by
    rw [Table.toValue_eq]
    split <;> rfl
  have tables : (db.tables.mapM fun pair => do return (pair.1, ← pair.2.toValue)) =
      if db.Shallow then .ok (Fields.mapValues Table.record db.tables)
      else .error (.crash .tooDeep) :=
    mapM_eq_ite each db.tables
  have made : db.snapshot = (do
      let tables ← db.tables.mapM fun pair => do return (pair.1, ← pair.2.toValue)
      return .record tables) := rfl
  rw [made, tables]
  split <;> rfl

theorem Shallow.snapshot (shallow : db.Shallow) : db.snapshot = .ok db.record := by
  rw [snapshot_eq, if_pos shallow]

theorem Shallow.persist (shallow : db.Shallow) :
    db.persist =
      (db.on (db.store.save db.record).1, (db.store.save db.record).2.mapError saveFailure) := by
  simp only [Database.persist, shallow.snapshot]
  rfl

theorem persist_of_not_shallow (deep : ¬db.Shallow) :
    db.persist = (db, .error (.crash .tooDeep)) := by
  simp only [Database.persist, snapshot_eq, if_neg deep]
  rfl

/-! The columns of tables, which tell whether a database is shallow. -/

def schemas (db : Database) : Fields (List Column) := Fields.mapValues Table.columns db.tables

theorem shallow_iff_schemas (db : Database) : db.Shallow ↔
    ∀ pair ∈ db.schemas, ∀ column ∈ pair.2, column.type.depth ≤ Column.copyDepth := by
  rw [schemas, Fields.mapValues, List.forall_mem_map]
  rfl

theorem shallow_congr {other : Database} (same : db.schemas = other.schemas) :
    db.Shallow ↔ other.Shallow := by
  rw [shallow_iff_schemas, shallow_iff_schemas, same]

theorem schemas_change {name : Option Text} {act : Table → Table × Result Unit}
    (keeps : ∀ table, (act table).1.columns = table.columns) :
    (db.change name act).1.schemas = db.schemas := by
  unfold change
  split
  · rfl
  · next key table found =>
    have there : Fields.find? db.schemas key = some table.columns := by
      rw [schemas, Fields.find?_mapValues, (named_eq_ok found).2]
      rfl
    simp only [schemas, Fields.mapValues_put, keeps table]
    exact Fields.put_of_find? there

/-- A command leaves a database shallow exactly if it was. -/
theorem shallow_executeCommand {command : Command} {P : Text → Prop} (cells : command.Brings P) :
    (db.executeCommand command).1.Shallow ↔ db.Shallow := by
  cases command with
  | createTable name columns =>
    simp only [executeCommand, create]
    cases absent : Fields.find? db.tables name with
    | some table => rfl
    | none =>
      have new := (Fields.find?_eq_none_iff _ _).mp absent
      have flat : (Table.new (.text name) columns db.refresh).Shallow := by
        intro column member
        obtain ⟨_, s, same, _⟩ := cells.2 column member
        rw [same]
        exact Nat.zero_le _
      simp only [Shallow, Fields.put_of_not_mem new, List.forall_mem_append,
        List.forall_mem_singleton]
      exact and_iff_left flat
  | insert name values =>
    refine shallow_congr (schemas_change fun table => ?_)
    rcases table.insert_cases values with ⟨e, failed⟩ | ⟨_, _, made⟩
    · simp only [failed]
    · simp only [made]
      rfl
  | select name columns filter join => rfl
  | update name column v filter =>
    rw [executeCommand_update]
    refine shallow_congr (schemas_change fun table => ?_)
    rcases table.update_cases column v filter with ⟨e, failed⟩ | ⟨_, _, _, _, made⟩
    · rw [failed]
    · rw [made]
      rfl
  | delete name filter =>
    rw [executeCommand_delete]
    refine shallow_congr (schemas_change fun table => ?_)
    rw [Table.delete_eq]
    rfl
  | showIndex name => rfl

theorem shallow_carryOut {after : Database} {query : Text} {answer : Answer}
    (done : db.carryOut query = .ok (after, answer)) : after.Shallow ↔ db.Shallow := by
  obtain ⟨command, read, done⟩ := bind_eq_ok.mp done
  obtain ⟨answer, -, same⟩ := bind_eq_ok.mp done
  obtain ⟨rfl, rfl⟩ := Prod.mk.inj (Except.ok.inj same)
  exact shallow_executeCommand (brings_of_parseText read)

theorem Valid.shallow_execute (valid : db.Valid) (query : Text) :
    (db.execute query).1.Shallow ↔ db.Shallow := by
  rw [valid.execute_eq]
  cases done : db.carryOut query with
  | error e => rfl
  | ok outcome =>
    refine Iff.trans (b := outcome.1.Shallow) ?_ (shallow_carryOut done)
    by_cases shallow : outcome.1.Shallow
    · simp only [shallow.persist]
      rfl
    · simp only [persist_of_not_shallow shallow]

theorem Valid.shallow_of_execute (valid : db.Valid) {query : Text} {answer : Answer}
    (done : (db.execute query).2 = .ok answer) : db.Shallow := by
  rw [valid.execute_eq] at done
  cases carried : db.carryOut query with
  | error e => simp [carried] at done
  | ok outcome =>
    refine (shallow_carryOut carried).mp (Classical.byContradiction fun deep => ?_)
    simp [carried, persist_of_not_shallow deep, Except.map] at done

theorem Valid.shallow_run (valid : db.Valid) (queries : List Text) :
    (db.run queries).Shallow ↔ db.Shallow := by
  induction queries generalizing db with
  | nil => rfl
  | cons query rest ih => exact (ih (valid.execute query).1).trans (valid.shallow_execute query)

theorem shallow_fresh (refresh : Bool) : (fresh refresh).Shallow := by
  simp [Shallow, fresh]

theorem shallow_run_fresh (refresh : Bool) (queries : List Text) :
    ((fresh refresh).run queries).Shallow :=
  ((valid_fresh refresh).shallow_run queries).mpr (shallow_fresh refresh)

end Database
end RowStore
