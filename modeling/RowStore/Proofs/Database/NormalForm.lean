import RowStore.Proofs.Database.Acceptance

/-! What a database saves that was opened on a text. Opening leaves nothing of the text but names,
columns and rows in a fixed shape, so the text that is saved is a normal form: the same database is
opened on it, and saves it again. -/
namespace RowStore

namespace Table

/-- Rows that were read are read again from their own records, to the same table. -/
theorem replay_records {rows : List Value} {start after : Table}
    (kept : ∀ v ∈ rows, v.storable) (done : rows.foldlM replayRow start = .ok after) :
    ∃ read, after.rows = start.rows ++ read ∧
      (read.map Value.record).foldlM replayRow start = .ok after := by
  induction rows generalizing start with
  | nil =>
    obtain rfl := Except.ok.inj done
    exact ⟨[], by simp, rfl⟩
  | cons v rest ih =>
    obtain ⟨here, kept⟩ := List.forall_mem_cons.mp kept
    rw [List.foldlM_cons] at done
    obtain ⟨next, step, done⟩ := bind_eq_ok.mp done
    obtain ⟨row, first, added⟩ := bind_eq_ok.mp step
    obtain ⟨names, stored⟩ := rowOf_stored here first
    have again : replayRow start (.record row) = .ok next := by
      rw [replayRow, rowOf_record stored names]
      exact added
    obtain ⟨more, rows, later⟩ := ih kept done
    refine ⟨row :: more, by simp [rows, rows_append added], ?_⟩
    rw [List.map_cons, List.foldlM_cons, again]
    exact later

/-- A table that was made from a record is made again from its own. -/
theorem ofValue_record_of_made {v : Value} {refresh : Bool} {table : Table} (kept : v.storable)
    (made : ofValue v refresh = .ok table) : ofValue table.record refresh = .ok table := by
  rw [ofValue_eq] at made
  obtain ⟨⟨name, definitions, rows⟩, entry, made⟩ := bind_eq_ok.mp made
  obtain ⟨named, typed, filled⟩ := entryOf_storable kept entry
  obtain ⟨columns, read, done⟩ := bind_eq_ok.mp made
  obtain ⟨-, -, same⟩ := replay_valid (sound_new refresh named (Column.types_storable typed read))
    (current_new name columns refresh) filled done
  obtain ⟨records, rows, again⟩ := replay_records filled done
  rw [rows_new, List.nil_append] at rows
  have named : table.name = name := same.name
  have typed : table.columns = columns := same.columns
  rw [ofValue_record_eq, rows, named, typed]
  exact again

end Table

namespace Database

theorem tablesOf_of_made {snapshot : Fields Value} {refresh : Bool} {tables : Fields Table}
    (kept : ∀ pair ∈ snapshot, pair.2.storable) (made : tablesOf snapshot refresh = .ok tables) :
    tablesOf (Fields.mapValues Table.record tables) refresh = .ok tables := by
  induction snapshot generalizing tables with
  | nil =>
    obtain rfl := Except.ok.inj made
    rfl
  | cons pair rest ih =>
    obtain ⟨name, v⟩ := pair
    obtain ⟨first, kept⟩ := List.forall_mem_cons.mp kept
    rw [tablesOf_cons] at made
    obtain ⟨table, read, made⟩ := bind_eq_ok.mp made
    obtain ⟨others, later, same⟩ := bind_eq_ok.mp made
    obtain rfl := Except.ok.inj same
    have again := ih kept later
    rw [Fields.mapValues] at again ⊢
    rw [List.map_cons, tablesOf_cons, Table.ofValue_record_of_made first read, again]
    rfl

theorem tablesOf_of_opened {store : Store} {refresh : Bool} {db : Database}
    (opened : openOn store refresh = .ok db) :
    tablesOf (Fields.mapValues Table.record db.tables) refresh = .ok db.tables := by
  rcases openOn_cases opened with ⟨_, rfl⟩ | ⟨snapshot, tables, loaded, made, rfl⟩
  · rfl
  · exact tablesOf_of_made ((Value.storable_record snapshot).mp (storable_of_load loaded)).2 made

/-- What a database saves that was opened on a text is a normal form, if its types can be copied;
if not, it saves nothing. Opening the normal form gives the very same database, with its tables,
rows and indexes, exactly if the texts in it are settled, as all are that come from characters, and
what the other one saves is the same text. -/
theorem openOn_persisted {memory : Memory} (calm : memory.outage = none) {refresh : Bool}
    {db : Database} (opened : openOn (.memory memory) refresh = .ok db) :
    (db.Shallow → ∃ text,
      db.persist = (db.on (.memory ⟨some text, memory.saves + 1, none⟩), .ok ()) ∧
      ∀ saves,
        (openOn (.memory ⟨some text, saves, none⟩) refresh =
          .ok (db.on (.memory ⟨some text, saves, none⟩)) ↔ db.record.settled) ∧
        (db.on (.memory ⟨some text, saves, none⟩)).persist =
          (db.on (.memory ⟨some text, saves + 1, none⟩), .ok ())) ∧
    (¬db.Shallow → db.persist = (db, .error (.crash .tooDeep))) ∧
    ((∀ blob ∈ memory.blob, Text.ofCharacters blob.points) → db.record.settled) := by
  obtain ⟨valid, held, store⟩ := valid_of_openOn opened
  refine ⟨fun shallow => ?_, persist_of_not_shallow, fun plain => openOn_settled plain opened⟩
  have saved := valid.persist_memory shallow store
  rw [calm] at saved
  refine ⟨.ofChars (Json.writeValue db.record), saved, fun saves => ⟨?_, ?_⟩⟩
  · constructor
    · intro again
      refine Classical.byContradiction fun unsettled => ?_
      exact contents_ne_of_not_settled refresh saves unsettled again rfl
    · intro settled
      have loaded := openOn_of_load refresh (valid.load_saved saves settled)
      rw [tablesOf_of_opened opened] at loaded
      rw [← held] at loaded ⊢
      exact loaded
  · exact (valid.on (db.saved saves)).persist_memory shallow rfl

/-- A table with a field that nothing reads, a flag that is no truth value, and a row that names a
column twice and not in their order. -/
def cluttered : Memory := holding [("t", .record [
  ("rows", .list [.record [("b", .int 2), ("a", .int 0), ("a", .bool true)]]),
  ("owner", .null),
  ("columns", .list [.record [("type", .list []), ("name", .text "a"), ("primary", .text "no")],
    .record [("name", .text "b")]]),
  ("name", .int 5)])]

theorem openOn_persisted_of_cluttered : ∃ db text, openOn (.memory cluttered) true = .ok db ∧
    db.persist = (db.on (.memory ⟨some text, 1, none⟩), .ok ()) ∧
    openOn (.memory ⟨some text, 0, none⟩) true = .ok (db.on (.memory ⟨some text, 0, none⟩)) ∧
    (db.on (.memory ⟨some text, 0, none⟩)).persist =
      (db.on (.memory ⟨some text, 1, none⟩), .ok ()) := by
  have flat : (openOn (.memory cluttered) true).toOption.any fun db => decide db.Shallow := by
    decide +kernel
  obtain ⟨db, opened⟩ :=
    exists_ok_of_isSome (x := openOn (.memory cluttered) true) (by decide +kernel)
  rw [opened] at flat
  have calm : cluttered.outage = none := rfl
  obtain ⟨normal, -, settled⟩ := openOn_persisted calm opened
  obtain ⟨text, saved, again⟩ := normal (of_decide_eq_true flat)
  have plain : ∀ blob ∈ cluttered.blob, Text.ofCharacters blob.points := by
    intro blob same
    obtain rfl := Option.some.inj same
    exact Text.ofCharacters_ofChars _
  exact ⟨db, text, opened, saved, (again 0).1.mpr (settled plain), (again 0).2⟩

/-- A text with a type of seven hundred levels is read, and the database is never saved again. -/
theorem not_persisted_of_deepTyped : openOn (deepTyped 700).store false = .ok (deepTyped 700) ∧
    (deepTyped 700).OverMemory ∧
    (deepTyped 700).persist = (deepTyped 700, .error (.crash .tooDeep)) :=
  ⟨openOn_deepTyped 700, ⟨_, rfl, rfl⟩,
    persist_of_not_shallow (mt (shallow_deepTyped_iff 700).mp (by decide))⟩

end Database
end RowStore
