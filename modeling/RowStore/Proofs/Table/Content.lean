import RowStore.Proofs.Settled
import RowStore.Proofs.Table.Replay

/-! What a table holds for its record: name, columns and rows. The record of a table that is sound
can be kept, and it is read as the same content again unless two rows share an indexed value. -/
namespace RowStore.Table

structure Content where
  name : Value
  columns : List Column
  rows : List Row

def content (table : Table) : Content := ⟨table.name, table.columns, table.rows⟩

/-- The record of a table tells its content and nothing else. -/
def Content.record (content : Content) : Value :=
  .record [("name", content.name), ("columns", .list (content.columns.map Column.record)),
    ("rows", .list (content.rows.map .record))]

def record (table : Table) : Value := table.content.record

theorem Sound.rows_storable {table : Table} (sound : table.Sound) :
    ∀ v ∈ table.rows.map Value.record, v.storable := by
  rw [List.forall_mem_map]
  intro row member
  rw [Value.storable_record, sound.names row member]
  exact ⟨Fields.nodup_eraseDups _,
    fun pair there => Value.storable_of_isCell (sound.stored row member pair there)⟩

theorem Sound.record_storable {table : Table} (sound : table.Sound) : table.record.storable := by
  have columns : ∀ c ∈ table.columns, c.record.storable := by
    intro c member
    rw [Column.record, Value.storable_record]
    have keys : [("name" : Text), "type", "primary", "unique"].Nodup := by decide
    exact ⟨keys, by simpa [Value.storable] using sound.types c member⟩
  have keys : [("name" : Text), "columns", "rows"].Nodup := by decide
  rw [record, Content.record, Value.storable_record]
  refine ⟨keys, ?_⟩
  simpa [content] using ⟨sound.name, by simpa using columns, by simpa using sound.rows_storable⟩

theorem record_settled_iff (table : Table) : table.record.settled ↔
    table.name.settled ∧ (∀ c ∈ table.columns, c.name.settled ∧ c.type.settled) ∧
      ∀ row ∈ table.rows, (Value.record row).settled := by
  have keys : Text.settled "name" ∧ Text.settled "columns" ∧ Text.settled "rows" ∧
      Text.settled "type" ∧ Text.settled "primary" ∧ Text.settled "unique" := by decide
  have column (c : Column) : c.record.settled ↔ c.name.settled ∧ c.type.settled := by
    rw [Column.record, Value.settled_record]
    simp [keys, Value.settled]
  rw [record, Content.record, Value.settled_record]
  simp [keys, column, content]

theorem ofValue_record_eq (table : Table) (refresh : Bool) :
    ofValue table.record refresh =
      (table.rows.map Value.record).foldlM replayRow (new table.name table.columns refresh) := by
  have columns : (table.columns.map Column.record).mapM Column.ofValue = .ok table.columns :=
    mapM_map_of_inverse fun _ _ => rfl
  rw [ofValue_eq, show entryOf table.record =
    .ok (table.name, table.columns.map Column.record, table.rows.map Value.record) from rfl]
  simp only [bind, Except.bind, columns]

section

variable {table : Table} (sound : table.Sound) (refresh : Bool)
include sound

theorem Sound.rowOf_record {row : Row} (member : row ∈ table.rows) :
    (new table.name table.columns refresh).rowOf (.record row) = .ok row :=
  Table.rowOf_record (sound.stored row member) (sound.names row member)

/-- A table is made again from its record exactly if its rows are distinct. -/
theorem ofValue_record_iff : (∃ again, ofValue table.record refresh = .ok again) ↔
    Distinct (indexedNames table.columns) table.rows := by
  have start := sound_new refresh sound.name sound.types
  have reads := mapM_map_of_inverse fun _ member => sound.rowOf_record refresh member
  rw [ofValue_record_eq, replay_iff start (current_new table.name table.columns refresh)
    sound.rows_storable, reads, start.indexed]
  constructor
  · rintro ⟨read, same, distinct⟩
    obtain rfl := Except.ok.inj same
    exact distinct
  · intro distinct
    exact ⟨table.rows, rfl, distinct⟩

theorem ofValue_record (distinct : Distinct (indexedNames table.columns) table.rows) :
    ∃ again, ofValue table.record refresh = .ok again ∧ again.content = table.content ∧
      again.Valid refresh ∧ again.Current := by
  obtain ⟨again, made⟩ := (ofValue_record_iff sound refresh).mpr distinct
  refine ⟨again, made, ?_, ofValue_valid sound.record_storable made⟩
  rw [ofValue_record_eq] at made
  obtain ⟨-, -, same⟩ := replay_valid (sound_new refresh sound.name sound.types)
    (current_new table.name table.columns refresh) sound.rows_storable made
  obtain ⟨read, reads, rows⟩ := replay_reads made
  rw [mapM_map_of_inverse fun _ member => sound.rowOf_record refresh member] at reads
  obtain rfl := Except.ok.inj reads
  have name : again.name = table.name := same.name
  have columns : again.columns = table.columns := same.columns
  have rows : again.rows = table.rows := by simpa using rows
  simp only [content, name, columns, rows]

theorem ofValue_record_error
    (shared : ¬Distinct (indexedNames table.columns) table.rows) :
    ∃ column v, ofValue table.record refresh =
      .error (.engine (.duplicate column v table.name)) := by
  cases made : ofValue table.record refresh with
  | ok again => exact absurd ((ofValue_record_iff sound refresh).mp ⟨again, made⟩) shared
  | error e =>
    rw [ofValue_record_eq] at made
    rcases replay_error (sound_new refresh sound.name sound.types)
      (current_new table.name table.columns refresh) sound.rows_storable made with
      ⟨v, member, unread⟩ | ⟨column, v, rfl⟩
    · obtain ⟨row, there, rfl⟩ := List.mem_map.mp member
      rw [sound.rowOf_record refresh there] at unread
      contradiction
    · exact ⟨column, v, rfl⟩

end

theorem settled_of_member? {v w : Value} {name : Text} (settled : v.settled)
    (found : v.member? name = some w) : w.settled := by
  cases v with
  | record fields =>
    exact ((Value.settled_record fields).mp settled _ (Fields.mem_of_find? found)).2
  | _ => simp [Value.member?] at found

theorem settled_cellAt {v : Value} (settled : v.settled) (name : Text) : (v.cellAt name).settled :=
  @Value.cellAt_of_forall (fun w => w.settled) rfl v (fun _ _ => settled_of_member? settled) name

theorem column_settled {v : Value} {column : Column} (settled : v.settled)
    (read : Column.ofValue v = .ok column) : column.name.settled ∧ column.type.settled := by
  obtain ⟨named, rfl⟩ := (Column.ofValue_eq_ok_iff v column).mp read
  obtain ⟨name, found⟩ := Option.isSome_iff_exists.mp named
  have written := settled_of_member? settled (Value.member?_of_definedName? found)
  refine ⟨?_, settled_cellAt settled "type"⟩
  simpa [Column.ofDefinition, found, Value.settled] using written

theorem row_settled {table : Table} {v : Value} {row : Row} (settled : v.settled)
    (columns : ∀ c ∈ table.columns, c.name.settled) (read : table.rowOf v = .ok row) :
    (Value.record row).settled := by
  obtain ⟨-, rfl⟩ := (rowOf_eq_ok_iff table v row).mp read
  rw [Value.settled_record]
  intro pair member
  obtain ⟨known, value⟩ := mem_arranged member
  obtain ⟨c, there, same⟩ := List.mem_map.mp known
  rw [value, ← same]
  exact ⟨columns c there, settled_cellAt settled c.name⟩

theorem replay_settled {rows : List Value} {start after : Table}
    (columns : ∀ c ∈ start.columns, c.name.settled)
    (before : ∀ row ∈ start.rows, (Value.record row).settled) (settled : ∀ v ∈ rows, v.settled)
    (done : rows.foldlM replayRow start = .ok after) :
    Extends start after ∧ ∀ row ∈ after.rows, (Value.record row).settled := by
  induction rows generalizing start with
  | nil =>
    obtain rfl := Except.ok.inj done
    exact ⟨.refl _, before⟩
  | cons v rest ih =>
    obtain ⟨first, settled⟩ := List.forall_mem_cons.mp settled
    rw [List.foldlM_cons] at done
    obtain ⟨next, step, done⟩ := bind_eq_ok.mp done
    obtain ⟨row, read, step⟩ := bind_eq_ok.mp step
    rw [append_eq] at step
    obtain ⟨_, _, rfl⟩ := map_eq_ok.mp step
    have before : ∀ r ∈ (start.appended row).rows, (Value.record r).settled := by
      rw [rows_appended]
      exact List.forall_mem_append.mpr
        ⟨before, List.forall_mem_singleton.mpr (row_settled first columns read)⟩
    obtain ⟨later, rows⟩ := @ih (start.appended row) columns before settled done
    exact ⟨(extends_appended start row).trans later, rows⟩

theorem settled_of_ofValue {v : Value} {refresh : Bool} {table : Table} (settled : v.settled)
    (made : ofValue v refresh = .ok table) : table.record.settled := by
  rw [ofValue_eq] at made
  obtain ⟨⟨name, columns, rows⟩, entry, made⟩ := bind_eq_ok.mp made
  obtain ⟨columns, read, filled⟩ := bind_eq_ok.mp made
  obtain ⟨found, foundColumns, foundRows⟩ := entryOf_eq_ok_iff.mp entry
  have types : ∀ c ∈ columns, c.name.settled ∧ c.type.settled := by
    intro c member
    obtain ⟨definition, there, read⟩ := mem_of_mapM read member
    exact column_settled
      ((Value.settled_list _).mp (settled_of_member? settled foundColumns) definition there) read
  obtain ⟨same, kept⟩ := @replay_settled _ (new name columns refresh) _
    (fun c member => (types c member).1) (by simp)
    ((Value.settled_list _).mp (settled_of_member? settled foundRows)) filled
  rw [record_settled_iff, same.name, same.columns]
  exact ⟨settled_of_member? settled found, types, kept⟩

end RowStore.Table
