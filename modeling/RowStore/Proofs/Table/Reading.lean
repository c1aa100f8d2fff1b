import RowStore.Proofs.Results
import RowStore.Proofs.Storable
import RowStore.Table.Snapshot

/-! How the parts of the record of a table are read: its entry, the definitions of its columns and
the records of its rows. Each part is read exactly if it has its shape, and comes out with the
values that are in it. Any other is refused in words. -/
namespace RowStore

namespace Value

/-- What a record holds under a name. -/
def member? : Value → Text → Option Value
  | .record fields, name => Fields.find? fields name
  | _, _ => none

/-- The name in the definition of a column. -/
def definedName? (definition : Value) : Option Text :=
  match definition.member? "name" with
  | some (.text name) => some name
  | _ => none

/-- Whether the definition of a column has a flag that counts as set. -/
def asksIndex (definition : Value) : Bool :=
  (definition.member? "primary").any truthy || (definition.member? "unique").any truthy

/-- The value in a record under a name, or null if there is none. -/
def cellAt (row : Value) (name : Text) : Value := (row.member? name).getD .null

/-- The record of a row: single values under the given names and no others. -/
def IsRowOf (names : List Text) (row : Value) : Prop :=
  ∃ cells, row = .record cells ∧ (∀ pair ∈ cells, pair.2.isScalar) ∧
    ∀ name, name ∈ Fields.names cells ↔ name ∈ names

theorem isRowOf_record (names : List Text) (cells : Fields Value) :
    (record cells).IsRowOf names ↔ (∀ pair ∈ cells, pair.2.isScalar) ∧
      ∀ name, name ∈ Fields.names cells ↔ name ∈ names := by
  simp [IsRowOf]

theorem IsRowOf.isScalar_cellAt {names : List Text} {row : Value} (shaped : row.IsRowOf names)
    (name : Text) : (row.cellAt name).isScalar := by
  obtain ⟨cells, rfl, scalars, -⟩ := shaped
  exact Row.IsKeyed.isScalar_valueAt scalars (some name)

theorem member?_of_definedName? {definition : Value} {name : Text}
    (found : definition.definedName? = some name) :
    definition.member? "name" = some (.text name) := by
  unfold definedName? at found
  split at found
  · next read => rwa [← Option.some.inj found]
  · contradiction

theorem storable_of_member? {v w : Value} {name : Text} (kept : v.storable)
    (found : v.member? name = some w) : w.storable := by
  cases v with
  | record fields => exact storable_of_find? kept found
  | _ => simp [member?] at found

theorem cellAt_of_forall {P : Value → Prop} (null : P .null) {row : Value}
    (each : ∀ name v, row.member? name = some v → P v) (name : Text) : P (row.cellAt name) := by
  unfold cellAt
  cases found : row.member? name with
  | none => exact null
  | some v => exact each name v found

theorem storable_cellAt {v : Value} (kept : v.storable) (name : Text) : (v.cellAt name).storable :=
  @cellAt_of_forall (fun w => w.storable) rfl v (fun _ _ => storable_of_member? kept) name

end Value

/-- The errors that refuse a snapshot. -/
inductive Failure.OfSnapshot : Failure → Prop
  | storage (fault : StorageFault) : OfSnapshot (.engine (.storage fault))
  | schema (fault : SchemaFault) : OfSnapshot (.engine (.schema fault))
  | duplicate (column : Text) (value table : Value) :
    OfSnapshot (.engine (.duplicate column value table))

/-- A refusal of a snapshot shows values of the snapshot, which can be written. -/
theorem ofSnapshot_of_fail {α : Type} {fault : SchemaFault} {e : Failure}
    (failed : (fail (.schema fault) : Result α) = .error e)
    (kept : ∀ v ∈ fault.values, v.storable) : e.OfSnapshot := by
  have written : ∀ v ∈ (EngineError.schema fault).values, v.printable :=
    fun v member => Value.printable_of_storable v (kept v member)
  rw [fail_eq_engine written] at failed
  obtain rfl := Except.error.inj failed
  exact .schema fault

namespace Column

/-- The column that a definition makes where it has a name. -/
def ofDefinition (definition : Value) : Column where
  name := definition.definedName?.getD ""
  type := definition.cellAt "type"
  primary := (definition.member? "primary").any Value.truthy
  unique := (definition.member? "unique").any Value.truthy

theorem ofValue_eq_ok_iff (v : Value) (column : Column) :
    ofValue v = .ok column ↔ v.definedName?.isSome ∧ ofDefinition v = column := by
  unfold ofValue
  split
  · next fields =>
    split
    · next name found =>
      have named : (Value.record fields).definedName? = some name := by
        simp only [Value.definedName?, Value.member?, found]
      simp only [Except.ok.injEq, named, Option.isSome_some, true_and, ofDefinition,
        Option.getD_some, Value.cellAt, Value.member?]
    · next unnamed =>
      have unnamed : (Value.record fields).definedName? = none := by
        simp only [Value.definedName?, Value.member?]
      simp [fail, unnamed]
  · next other =>
    have unnamed : v.definedName? = none := by
      cases v with
      | record fields => exact absurd rfl (other fields)
      | _ => rfl
    simp [fail, unnamed]

theorem ofValue_error {v : Value} {e : Failure} (kept : v.storable) (failed : ofValue v = .error e) :
    e.OfSnapshot := by
  have shown : ∀ w ∈ (SchemaFault.column v).values, w.storable := List.forall_mem_singleton.mpr kept
  unfold ofValue at failed
  split at failed
  · split at failed
    · contradiction
    · exact ofSnapshot_of_fail failed shown
  · exact ofSnapshot_of_fail failed shown

theorem types_storable {definitions : List Value} {columns : List Column}
    (kept : ∀ definition ∈ definitions, definition.storable)
    (read : definitions.mapM ofValue = .ok columns) : ∀ column ∈ columns, column.type.storable := by
  intro column member
  obtain ⟨definition, there, made⟩ := mem_of_mapM read member
  obtain ⟨-, rfl⟩ := (ofValue_eq_ok_iff definition column).mp made
  exact Value.storable_cellAt (kept definition there) "type"

end Column

namespace Table

theorem entryOf_eq_ok_iff {v name : Value} {columns rows : List Value} :
    entryOf v = .ok (name, columns, rows) ↔ v.member? "name" = some name ∧
      v.member? "columns" = some (.list columns) ∧ v.member? "rows" = some (.list rows) := by
  constructor
  · intro read
    unfold entryOf at read
    split at read
    · split at read
      · next found foundColumns foundRows =>
        obtain ⟨rfl, rfl, rfl⟩ : _ = name ∧ _ = columns ∧ _ = rows := by
          simpa using Except.ok.inj read
        exact ⟨found, foundColumns, foundRows⟩
      · simp [fail] at read
      · simp [fail] at read
    · simp [fail] at read
  · rintro ⟨found, foundColumns, foundRows⟩
    cases v with
    | record fields =>
      simp only [Value.member?] at found foundColumns foundRows
      simp only [entryOf, found, foundColumns, foundRows]
    | _ => simp [Value.member?] at found

theorem entryOf_storable {v name : Value} {columns rows : List Value} (kept : v.storable)
    (read : entryOf v = .ok (name, columns, rows)) :
    name.storable ∧ (∀ c ∈ columns, c.storable) ∧ ∀ r ∈ rows, r.storable := by
  obtain ⟨found, foundColumns, foundRows⟩ := entryOf_eq_ok_iff.mp read
  exact ⟨Value.storable_of_member? kept found,
    (Value.storable_list _).mp (Value.storable_of_member? kept foundColumns),
    (Value.storable_list _).mp (Value.storable_of_member? kept foundRows)⟩

theorem entryOf_error {v : Value} {e : Failure} (kept : v.storable) (failed : entryOf v = .error e) :
    e.OfSnapshot := by
  unfold entryOf at failed
  split at failed
  · split at failed
    · contradiction
    · next found _ _ =>
      have kept := Value.storable_of_find? kept found
      exact ofSnapshot_of_fail failed (List.forall_mem_singleton.mpr kept)
    · exact ofSnapshot_of_fail failed (List.forall_mem_nil _)
  · exact ofSnapshot_of_fail failed (List.forall_mem_nil _)

/-- The values of a record of a row in the order of the columns. -/
def arranged (names : List Text) (row : Value) : Row :=
  Fields.ofPairs (names.map fun name => (name, row.cellAt name))

theorem at_arranged {names : List Text} {name : Text} (known : name ∈ names) (row : Value) :
    (arranged names row).at name = row.cellAt name := by
  simp [arranged, Row.valueAt, Fields.find?_ofPairs_map, known]

theorem mem_arranged {names : List Text} {row : Value} {pair : Text × Value}
    (member : pair ∈ arranged names row) : pair.1 ∈ names ∧ pair.2 = row.cellAt pair.1 := by
  obtain ⟨name, known, rfl⟩ := List.mem_map.mp (Fields.mem_ofPairs member)
  exact ⟨known, rfl⟩

theorem rowOf_eq_ok_iff (table : Table) (v : Value) (row : Row) :
    table.rowOf v = .ok row ↔ v.IsRowOf table.columnNames ∧ arranged table.columnNames v = row := by
  cases v with
  | record cells =>
    have order : arranged table.columnNames (.record cells) =
        Fields.ofPairs (table.columnNames.map fun name =>
          (name, Row.valueAt cells (some name))) := rfl
    have scalars : (cells.all fun field => field.2.isScalar) ↔ ∀ pair ∈ cells, pair.2.isScalar := by
      simp
    have names : ((Fields.names cells).all table.columnNames.contains &&
        table.columnNames.all (Fields.names cells).contains) ↔
          ∀ name, name ∈ Fields.names cells ↔ name ∈ table.columnNames := by
      simp [iff_iff_implies_and_implies, forall_and]
    rw [Value.isRowOf_record, ← scalars, ← names, rowOf, order]
    by_cases single : cells.all fun field => field.2.isScalar
    · by_cases known : (Fields.names cells).all table.columnNames.contains &&
          table.columnNames.all (Fields.names cells).contains
      · simp [single, known]
      · simp [single, known, fail]
    · simp [single, fail]
  | _ => simp [rowOf, fail, Value.IsRowOf]

theorem rowOf_error {table : Table} {v : Value} {e : Failure} (named : table.name.storable)
    (kept : v.storable) (failed : table.rowOf v = .error e) : e.OfSnapshot := by
  have shown : ∀ w ∈ [table.name, v], w.storable :=
    List.forall_mem_cons.mpr ⟨named, List.forall_mem_singleton.mpr kept⟩
  unfold rowOf at failed
  split at failed
  · simp only at failed
    split at failed
    · exact ofSnapshot_of_fail failed shown
    · split at failed
      · contradiction
      · exact ofSnapshot_of_fail failed (List.forall_mem_singleton.mpr named)
  · exact ofSnapshot_of_fail failed shown

theorem rowOf_stored {table : Table} {v : Value} {row : Row} (kept : v.storable)
    (read : table.rowOf v = .ok row) :
    Fields.names row = table.columnNames.eraseDups ∧ row.IsStored := by
  obtain ⟨shaped, rfl⟩ := (rowOf_eq_ok_iff table v row).mp read
  refine ⟨Fields.names_ofPairs_map .., ?_⟩
  intro pair member
  rw [(mem_arranged member).2]
  exact Bool.and_eq_true_iff.mpr ⟨shaped.isScalar_cellAt pair.1, Value.storable_cellAt kept pair.1⟩

/-- A row is read from its own record. -/
theorem rowOf_record {table : Table} {row : Row} (stored : row.IsStored)
    (names : Fields.names row = table.columnNames.eraseDups) :
    table.rowOf (.record row) = .ok row := by
  have known (name : Text) : name ∈ Fields.names row ↔ name ∈ table.columnNames := by simp [names]
  have shaped := (Value.isRowOf_record table.columnNames row).mpr ⟨stored.isKeyed, known⟩
  refine (rowOf_eq_ok_iff table (.record row) row).mpr ⟨shaped, ?_⟩
  refine Fields.ext_of_nodup ?_ ?_ fun name => ?_
  · rw [arranged, Fields.names_ofPairs_map, names]
  · simpa [arranged] using Fields.nodup_eraseDups _
  · rw [arranged, Fields.find?_ofPairs_map]
    split
    · next member =>
      obtain ⟨v, found⟩ := Option.isSome_iff_exists.mp
        ((Fields.find?_isSome_iff row name).mpr ((known name).mpr member))
      simp [Value.cellAt, Value.member?, found]
    · next absent =>
      exact ((Fields.find?_eq_none_iff row name).mpr (mt (known name).mp absent)).symm

end Table
end RowStore
