import RowStore.Proofs.Database.Settled
import RowStore.Proofs.Json.RoundTrip

/-! Opening a database on what another one saved. The content comes back as it was exactly if no two
rows share an indexed value and no text in it changes between its points and its units. -/
namespace RowStore

instance (columns : List Text) (rows : List Row) : Decidable (Distinct columns rows) :=
  inferInstanceAs (Decidable (∀ column ∈ columns,
    rows.Pairwise fun r s => (r.at column).same (s.at column) = false))

namespace Database

/-- What the tables of a database hold, under their names and in their order. -/
def contents (db : Database) : Fields Table.Content := Fields.mapValues Table.content db.tables

/-- No two rows of a table share a value in an indexed column. -/
def Unique (db : Database) : Prop :=
  ∀ pair ∈ db.tables, Distinct (Table.indexedNames pair.2.columns) pair.2.rows

instance (db : Database) : Decidable db.Unique :=
  inferInstanceAs (Decidable (∀ pair ∈ db.tables,
    Distinct (Table.indexedNames pair.2.columns) pair.2.rows))

theorem record_eq (db : Database) :
    db.record = .record (Fields.mapValues Table.Content.record db.contents) := by
  simp only [record, contents, Fields.mapValues, List.map_map]
  rfl

theorem Valid.unique {db : Database} (valid : db.Valid) (held : db.refresh = true) :
    db.Unique := by
  intro pair member
  have kept := valid.tables pair member
  have distinct := (kept.current held).distinct
  rwa [kept.indexed] at distinct

theorem Valid.record_storable {db : Database} (valid : db.Valid) : db.record.storable := by
  rw [record, Value.storable_record, Fields.names_mapValues]
  refine ⟨valid.names, fun pair member => ?_⟩
  obtain ⟨key, table, there, rfl⟩ : ∃ key table, (key, table) ∈ db.tables ∧
      (key, table.record) = pair := by
    obtain ⟨⟨key, table⟩, there, same⟩ := List.mem_map.mp member
    exact ⟨key, table, there, same⟩
  exact (valid.tables _ there).record_storable

/-! The tables of a snapshot. -/
section tables

variable {tables : Fields Table}

theorem tablesOf_records (policy : Bool) (sound : ∀ pair ∈ tables, pair.2.Sound)
    (unique : ∀ pair ∈ tables, Distinct (Table.indexedNames pair.2.columns) pair.2.rows) :
    ∃ again, tablesOf (Fields.mapValues Table.record tables) policy = .ok again ∧
      Fields.mapValues Table.content again = Fields.mapValues Table.content tables ∧
        ∀ pair ∈ again, pair.2.Valid policy ∧ pair.2.Current := by
  induction tables with
  | nil => exact ⟨[], rfl, rfl, by simp⟩
  | cons pair rest ih =>
    obtain ⟨key, table⟩ := pair
    obtain ⟨first, sound⟩ := List.forall_mem_cons.mp sound
    obtain ⟨distinct, unique⟩ := List.forall_mem_cons.mp unique
    obtain ⟨copy, made, same, kept⟩ := Table.ofValue_record first policy distinct
    obtain ⟨others, later, rows, good⟩ := ih sound unique
    refine ⟨(key, copy) :: others, ?_, ?_, List.forall_mem_cons.mpr ⟨kept, good⟩⟩
    · rw [Fields.mapValues, List.map_cons, tablesOf_cons, made]
      rw [Fields.mapValues] at later
      simp [later, bind, Except.bind, pure, Except.pure]
    · simp only [Fields.mapValues, List.map_cons] at rows ⊢
      rw [rows, same]

theorem tablesOf_records_error (policy : Bool) (sound : ∀ pair ∈ tables, pair.2.Sound)
    (shared : ¬∀ pair ∈ tables, Distinct (Table.indexedNames pair.2.columns) pair.2.rows) :
    ∃ column v name, tablesOf (Fields.mapValues Table.record tables) policy =
      .error (.engine (.duplicate column v name)) := by
  induction tables with
  | nil => simp at shared
  | cons pair rest ih =>
    obtain ⟨key, table⟩ := pair
    obtain ⟨first, sound⟩ := List.forall_mem_cons.mp sound
    have shape : Fields.mapValues Table.record ((key, table) :: rest) =
        (key, table.record) :: Fields.mapValues Table.record rest := rfl
    rw [shape, tablesOf_cons]
    by_cases distinct : Distinct (Table.indexedNames table.columns) table.rows
    · obtain ⟨copy, made, _⟩ := Table.ofValue_record first policy distinct
      obtain ⟨column, v, name, failed⟩ := ih sound fun unique =>
        shared (List.forall_mem_cons.mpr ⟨distinct, unique⟩)
      exact ⟨column, v, name, by simp [made, failed, bind, Except.bind]⟩
    · obtain ⟨column, v, failed⟩ := Table.ofValue_record_error first policy distinct
      exact ⟨column, v, table.name, by simp [failed, bind, Except.bind]⟩

end tables

/-- A memory that holds the text of the snapshot. -/
def saved (db : Database) (saves : Nat) : Store :=
  .memory ⟨some (.ofChars (Json.writeValue db.record)), saves, none⟩

theorem ofString_write (v : Value) : Text.ofString (Json.write v) = .ofChars (Json.writeValue v) := by
  rw [Text.ofString, Json.write, String.toList_ofList]

theorem Valid.encode_record {db : Database} (valid : db.Valid) :
    Snapshot.encode db.record = .ok (Json.write db.record) :=
  if_pos (Value.printable_of_storable _ valid.record_storable)

theorem Valid.persist_memory {db : Database} (valid : db.Valid) (shallow : db.Shallow)
    {memory : Memory} (store : db.store = .memory memory) :
    db.persist = match memory.outage with
      | some failure => (db, .error (saveFailure failure))
      | none => (db.on (db.saved (memory.saves + 1)), .ok ()) := by
  rw [shallow.persist, store]
  cases outage : memory.outage with
  | some failure =>
    simp only [Store.save, Memory.save, outage]
    rw [← store]
    rfl
  | none =>
    simp only [Store.save, Memory.save, outage, valid.encode_record, ofString_write]
    rfl

/-- A database over a memory that saves. -/
def OverMemory (db : Database) : Prop := ∃ memory, db.store = .memory memory ∧ memory.outage = none

theorem overMemory_fresh (refresh : Bool) : (fresh refresh).OverMemory := ⟨.empty, rfl, rfl⟩

theorem Valid.execute_saved {db : Database} (valid : db.Valid) (shallow : db.Shallow)
    {memory : Memory} (store : db.store = .memory memory) (quiet : memory.outage = none)
    (query : Text) :
    db.execute query =
      match db.carryOut query with
      | .error e => (db, .error e)
      | .ok (after, answer) => (after.on (after.saved (memory.saves + 1)), .ok answer) := by
  rw [valid.execute_eq]
  cases done : db.carryOut query with
  | error e => rfl
  | ok outcome =>
    have follows := carryOut_follows valid done
    have saved := follows.valid.persist_memory ((shallow_carryOut done).mpr shallow)
      (follows.store.trans store)
    rw [quiet] at saved
    simp only [saved]
    rfl

theorem Valid.execute_of_not_shallow {db : Database} (valid : db.Valid) (deep : ¬db.Shallow)
    (query : Text) :
    db.execute query =
      match db.carryOut query with
      | .error e => (db, .error e)
      | .ok (after, _) => (after, .error (.crash .tooDeep)) := by
  rw [valid.execute_eq]
  cases done : db.carryOut query with
  | error e => rfl
  | ok outcome =>
    simp only [persist_of_not_shallow fun kept => deep ((shallow_carryOut done).mp kept)]
    rfl

/-- What a query that succeeds leaves in the memory is the text of the snapshot. -/
theorem Valid.execute_memory {db : Database} (valid : db.Valid) (calm : db.OverMemory)
    (query : Text) :
    (db.execute query).1.OverMemory ∧
      ∀ answer, (db.execute query).2 = .ok answer →
        ∃ saves, (db.execute query).1.store = (db.execute query).1.saved saves := by
  obtain ⟨memory, store, quiet⟩ := calm
  by_cases shallow : db.Shallow
  · rw [valid.execute_saved shallow store quiet]
    cases db.carryOut query with
    | error e => exact ⟨⟨memory, store, quiet⟩, by simp⟩
    | ok outcome => exact ⟨⟨_, rfl, rfl⟩, fun _ _ => ⟨_, rfl⟩⟩
  · rw [valid.execute_of_not_shallow shallow]
    cases done : db.carryOut query with
    | error e => exact ⟨⟨memory, store, quiet⟩, by simp⟩
    | ok outcome => exact ⟨⟨memory, (carryOut_follows valid done).store.trans store, quiet⟩, by simp⟩

theorem Valid.execute_done {db after : Database} (valid : db.Valid) (shallow : db.Shallow)
    (calm : db.OverMemory) {query : Text} {command : Command} {answer : Answer}
    (parsed : Query.parseText (some query) = .ok command)
    (done : db.executeCommand command = (after, .ok answer)) :
    ∃ store, db.execute query = (after.on store, .ok answer) := by
  obtain ⟨memory, store, quiet⟩ := calm
  have carried : db.carryOut query = .ok (after, answer) := by
    simp only [carryOut, parsed, done, bind, Except.bind]
    rfl
  exact ⟨_, by rw [valid.execute_saved shallow store quiet, carried]⟩

theorem openOn_saves (db : Database) (policy : Bool) (saves : Nat) :
    openOn (db.saved saves) policy =
      (openOn (db.saved 0) policy).map (·.on (db.saved saves)) := by
  have same : (db.saved saves).load = (db.saved 0).load := rfl
  cases loaded : (db.saved 0).load with
  | error e =>
    rw [openOn_of_load_error policy (same.trans loaded), openOn_of_load_error policy loaded]
    rfl
  | ok held =>
    cases held with
    | none =>
      rw [openOn_of_load_none policy (same.trans loaded), openOn_of_load_none policy loaded]
      rfl
    | some snapshot =>
      rw [openOn_of_load policy (same.trans loaded), openOn_of_load policy loaded]
      cases tablesOf snapshot policy <;> rfl

theorem Valid.run_memory {db : Database} (valid : db.Valid) (calm : db.OverMemory)
    (queries : List Text) : (db.run queries).Valid ∧ (db.run queries).OverMemory ∧
      (db.run queries).refresh = db.refresh := by
  induction queries generalizing db with
  | nil => exact ⟨valid, calm, rfl⟩
  | cons query rest ih =>
    obtain ⟨next, policy⟩ := valid.execute query
    obtain ⟨kept, calm, same⟩ := ih next (valid.execute_memory calm query).1
    exact ⟨kept, calm, same.trans policy⟩

theorem reachable_run (refresh : Bool) (queries : List Text) :
    Reachable refresh ((fresh refresh).run queries) ∧ ((fresh refresh).run queries).OverMemory :=
  ⟨(Reachable.opened (openOn_empty refresh)).run queries,
    ((valid_fresh refresh).run_memory (overMemory_fresh refresh) queries).2.1⟩

theorem Valid.saved_of_run {start db : Database} (valid : start.Valid) (calm : start.OverMemory)
    {queries : List Text} {last : Text} {answer : Answer}
    (done : (start.run queries).execute last = (db, .ok answer)) :
    db.Valid ∧ db.refresh = start.refresh ∧ ∃ saves, db.store = db.saved saves := by
  obtain ⟨before, quiet, policy⟩ := valid.run_memory calm queries
  obtain ⟨after, same⟩ := before.execute last
  obtain ⟨saves, kept⟩ := (before.execute_memory quiet last).2 answer (by rw [done])
  rw [done] at after same kept
  exact ⟨after, same.trans policy, saves, kept⟩

theorem Valid.not_openOn {start db : Database} (valid : start.Valid) (calm : start.OverMemory)
    {queries : List Text} {last : Text} {answer : Answer}
    (done : (start.run queries).execute last = (db, .ok answer)) {policy : Bool}
    (refused : (openOn (db.saved 0) policy).toOption.isNone) :
    ¬∃ again, openOn db.store policy = .ok again := by
  rintro ⟨again, opened⟩
  obtain ⟨_, _, saves, kept⟩ := valid.saved_of_run calm done
  rw [kept, openOn_saves] at opened
  obtain ⟨copy, opened, -⟩ := map_eq_ok.mp opened
  simp [opened, Except.toOption] at refused

/-! A valid database and the text of its snapshot. -/
section saved

variable {db : Database} (valid : db.Valid) (policy : Bool) (saves : Nat)

include valid

theorem Valid.load_saved (settled : db.record.settled) :
    Store.load (db.saved saves) =
      .ok (some (Fields.mapValues Table.record db.tables)) := by
  obtain ⟨text, encoded, decoded⟩ := Snapshot.decode_encode valid.record_storable settled
  obtain rfl := Except.ok.inj (valid.encode_record.symm.trans encoded)
  simp only [saved, Store.load, Memory.load, ← ofString_write, decoded, Except.map]

/-- A settled database is opened again if no two rows share an indexed value. -/
theorem Valid.openOn_saved (settled : db.record.settled) (unique : db.Unique) :
    ∃ again, openOn (db.saved saves) policy = .ok again ∧
      again.contents = db.contents ∧
        ∀ pair ∈ again.tables, pair.2.Valid policy ∧ pair.2.Current := by
  obtain ⟨tables, made, same, kept⟩ :=
    tablesOf_records policy (fun pair member => (valid.tables pair member).toSound) unique
  refine ⟨⟨tables, db.saved saves, policy⟩, ?_, same, kept⟩
  rw [openOn_of_load policy (valid.load_saved saves settled), made]
  rfl

/-- If two rows share one, opening names a value that is there twice. -/
theorem Valid.openOn_saved_error (settled : db.record.settled) (shared : ¬db.Unique) :
    ∃ column v name, openOn (db.saved saves) policy =
      .error (.engine (.duplicate column v name)) := by
  obtain ⟨column, v, name, failed⟩ := tablesOf_records_error policy
    (fun pair member => (valid.tables pair member).toSound) shared
  refine ⟨column, v, name, ?_⟩
  rw [openOn_of_load policy (valid.load_saved saves settled), failed]
  rfl

theorem Valid.reopen (settled : db.record.settled) :
    ((∃ again, openOn (db.saved saves) policy = .ok again) ↔ db.Unique) ∧
      (∀ again, openOn (db.saved saves) policy = .ok again → again.contents = db.contents ∧
        ∀ pair ∈ again.tables, pair.2.Valid policy ∧ pair.2.Current) ∧
      ∀ e, openOn (db.saved saves) policy = .error e →
        ∃ column v name, e = .engine (.duplicate column v name) := by
  by_cases unique : db.Unique
  · obtain ⟨again, made, same, good⟩ := valid.openOn_saved policy saves settled unique
    refine ⟨?_, ?_, ?_⟩
    · constructor
      · intro _
        exact unique
      · intro _
        exact ⟨again, made⟩
    · intro other opened
      obtain rfl := Except.ok.inj (made.symm.trans opened)
      exact ⟨same, good⟩
    · intro e failed
      rw [made] at failed
      contradiction
  · obtain ⟨column, v, name, refused⟩ := valid.openOn_saved_error policy saves settled unique
    refine ⟨?_, ?_, ?_⟩
    · constructor
      · rintro ⟨again, made⟩
        rw [refused] at made
        contradiction
      · intro held
        exact absurd held unique
    · intro other opened
      rw [refused] at opened
      contradiction
    · intro e failed
      exact ⟨column, v, name, Except.error.inj (failed.symm.trans refused)⟩

omit valid in
/-- What is opened is settled, so a database that is not does not come back. -/
theorem contents_ne_of_not_settled (unsettled : ¬db.record.settled) {again : Database}
    (opened : openOn (db.saved saves) policy = .ok again) :
    again.contents ≠ db.contents := by
  intro same
  have settled := openOn_settled
    (fun text blob => by
      obtain rfl := Option.some.inj blob
      exact Text.ofCharacters_ofChars _) opened
  rw [record_eq, same, ← record_eq] at settled
  exact unsettled settled

end saved

/-- Behind a query that succeeded, opening gives the same content again, with indexes of its rows,
exactly if no two rows share an indexed value, and is refused for a value that is there twice
otherwise. This needs settled texts: a database with others never comes back as it was. Texts of
characters alone are settled, and refreshed indexes keep values apart. -/
theorem reopen_iff_unique {memory : Memory} (calm : memory.outage = none) {refresh : Bool}
    {start db : Database} (opened : openOn (.memory memory) refresh = .ok start)
    {queries : List Text} {last : Text} {answer : Answer}
    (done : (start.run queries).execute last = (db, .ok answer)) (policy : Bool) :
    (db.record.settled →
      ((∃ again, openOn db.store policy = .ok again) ↔ db.Unique) ∧
      (∀ again, openOn db.store policy = .ok again → again.contents = db.contents ∧
        ∀ pair ∈ again.tables, pair.2.Valid policy ∧ pair.2.Current) ∧
      ∀ e, openOn db.store policy = .error e →
        ∃ column v name, e = .engine (.duplicate column v name)) ∧
    (¬db.record.settled →
      ∀ again, openOn db.store policy = .ok again → again.contents ≠ db.contents) ∧
    (refresh = true → db.Unique) ∧
    ((∀ text ∈ memory.blob, Text.ofCharacters text.points) →
      (∀ query ∈ last :: queries, Text.ofCharacters query.points) → db.record.settled) := by
  obtain ⟨first, held, store⟩ := valid_of_openOn opened
  obtain ⟨valid, same, saves, kept⟩ := first.saved_of_run ⟨memory, store, calm⟩ done
  rw [kept]
  refine ⟨?_, ?_, ?_, ?_⟩
  · intro settled
    exact valid.reopen policy saves settled
  · intro unsettled again opened
    exact contents_ne_of_not_settled policy saves unsettled opened
  · intro refreshed
    exact valid.unique (same.trans (held.trans refreshed))
  · intro blob plain
    obtain ⟨final, plain⟩ := List.forall_mem_cons.mp plain
    have settled := execute_settled (run_settled (openOn_settled blob opened) plain) final
    rwa [done] at settled

theorem reopen_iff_unique_of_floats : ∃ db answer again,
    ((fresh false).run ["CREATE TABLE t (a TEXT UNIQUE, b FLOAT)", "INSERT INTO t (x, 1.5)",
      "INSERT INTO t (y, 1e-7)"]).execute "SELECT * FROM t" = (db, .ok answer) ∧
    openOn db.store true = .ok again ∧ again.contents = db.contents := by
  have unique : (((fresh false).run ["CREATE TABLE t (a TEXT UNIQUE, b FLOAT)",
      "INSERT INTO t (x, 1.5)", "INSERT INTO t (y, 1e-7)"]).execute "SELECT * FROM t").1.Unique := by
    decide +kernel
  obtain ⟨answer, done⟩ := exists_answer (x := ((fresh false).run
    ["CREATE TABLE t (a TEXT UNIQUE, b FLOAT)", "INSERT INTO t (x, 1.5)",
      "INSERT INTO t (y, 1e-7)"]).execute "SELECT * FROM t") (by decide +kernel)
  have calm : Memory.empty.outage = none := rfl
  obtain ⟨exact, -, -, settled⟩ := reopen_iff_unique calm (openOn_empty false) done true
  have settled := settled (fun _ blob => by cases blob) (by
    simp only [List.forall_mem_cons]
    exact ⟨Text.ofCharacters_ofChars _, Text.ofCharacters_ofChars _, Text.ofCharacters_ofChars _,
      Text.ofCharacters_ofChars _, by simp⟩)
  obtain ⟨again, opened⟩ := (exact settled).1.mpr unique
  exact ⟨_, answer, again, done, opened, ((exact settled).2.1 again opened).1⟩

/-- The two halves of a character around a mark that words do not keep. -/
def insertHalves : Text :=
  ("INSERT INTO t (" : Text) ++ ⟨[.half 0x3D, .char ';', .half 0x600]⟩ ++ (")" : Text)

theorem not_reopen_of_halves : ∃ db answer,
    ((fresh false).run ["CREATE TABLE t (a TEXT UNIQUE)", insertHalves]).execute
      "INSERT INTO t (😀)" = (db, .ok answer) ∧
    db.Unique ∧ ¬∃ again, openOn db.store false = .ok again := by
  have unique : (((fresh false).run ["CREATE TABLE t (a TEXT UNIQUE)",
      insertHalves]).execute "INSERT INTO t (😀)").1.Unique := by
    decide +kernel
  have refused : (openOn ((((fresh false).run ["CREATE TABLE t (a TEXT UNIQUE)",
      insertHalves]).execute "INSERT INTO t (😀)").1.saved 0) false).toOption.isNone := by
    decide +kernel
  obtain ⟨answer, done⟩ := exists_answer (x := ((fresh false).run
    ["CREATE TABLE t (a TEXT UNIQUE)", insertHalves]).execute "INSERT INTO t (😀)")
    (by decide +kernel)
  exact ⟨_, answer, done, unique,
    (valid_fresh false).not_openOn (overMemory_fresh false) done refused⟩

end Database
end RowStore
