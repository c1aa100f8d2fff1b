import RowStore.Database
import RowStore.Proofs.Commands
import RowStore.Proofs.Json.Reading
import RowStore.Proofs.Table.Replay

/-! What commands keep, whatever the store does. A command that fails leaves the tables as they
were, so a query either changes nothing or is carried out and then saved. -/
namespace RowStore.Database

/-- A database whose tables have names of their own and are kept under its policy. -/
structure Valid (db : Database) : Prop where
  names : (Fields.names db.tables).Nodup
  tables : ∀ pair ∈ db.tables, pair.2.Valid db.refresh

/-- The same tables on another store. -/
def on (db : Database) (store : Store) : Database := { db with store }

theorem Valid.on {db : Database} (valid : db.Valid) (store : Store) : (db.on store).Valid :=
  ⟨valid.names, valid.tables⟩

section commands

variable {db : Database}

theorem named_eq_ok {name : Option Text} {found : Text × Table} (read : db.named name = .ok found) :
    name = some found.1 ∧ Fields.find? db.tables found.1 = some found.2 := by
  unfold named at read
  split at read
  · next same =>
    obtain rfl := Except.ok.inj read
    obtain ⟨key, rfl, found⟩ := Option.bind_eq_some_iff.mp same
    obtain ⟨table, there, rfl⟩ := Option.map_eq_some_iff.mp found
    exact ⟨rfl, there⟩
  · simp [fail] at read

theorem named_of_find? {name : Text} {table : Table}
    (found : Fields.find? db.tables name = some table) :
    db.named (some name) = .ok (name, table) := by
  simp only [named, Option.bind_some, found]
  rfl

theorem Valid.named {name : Option Text} {found : Text × Table} (valid : db.Valid)
    (read : db.named name = .ok found) : found.2.Valid db.refresh :=
  valid.tables _ (Fields.mem_of_find? (named_eq_ok read).2)

/-- What a command leaves: a valid database on the same store, and the same one if it fails. -/
structure Follows (db : Database) (outcome : Database × Result Answer) : Prop where
  valid : outcome.1.Valid
  store : outcome.1.store = db.store
  refresh : outcome.1.refresh = db.refresh
  unchanged : ∀ e, outcome.2 = .error e → outcome.1 = db

theorem Follows.same (valid : db.Valid) (result : Result Answer) : db.Follows (db, result) :=
  ⟨valid, rfl, rfl, fun _ _ => rfl⟩

theorem Valid.put (valid : db.Valid) {table : Table} (kept : table.Valid db.refresh) (name : Text) :
    Valid { db with tables := Fields.put db.tables name table } where
  names := Fields.nodup_names_put valid.names name table
  tables := by
    intro pair member
    rcases Fields.mem_put member with there | rfl
    · exact valid.tables pair there
    · exact kept

theorem Valid.change (valid : db.Valid) {act : Table → Table × Result Unit}
    (keeps : ∀ table, table.Valid db.refresh → (act table).1.Valid db.refresh ∧
      ∀ e, (act table).2 = .error e → (act table).1 = table) (name : Option Text) :
    db.Follows (db.change name act) := by
  unfold Database.change
  split
  · exact .same valid _
  · next key table found =>
    obtain ⟨kept, frame⟩ := keeps table (valid.named found)
    refine ⟨valid.put kept key, rfl, rfl, fun e failed => ?_⟩
    have same := frame e (map_eq_error.mp failed)
    simp only [same, Fields.put_of_find? (named_eq_ok found).2]

theorem Valid.create (valid : db.Valid) (name : Text) {columns : List Column}
    (types : ∀ column ∈ columns, column.type.storable) : db.Follows (db.create name columns) := by
  unfold Database.create
  split
  · exact .same valid _
  · have new : (Table.new (.text name) columns db.refresh).Valid db.refresh :=
      ⟨Table.sound_new db.refresh rfl types, rfl, fun _ => Table.current_new ..⟩
    exact ⟨valid.put new name, rfl, rfl, by simp⟩

theorem executeCommand_update (db : Database) (name column : Option Text) (v : Value)
    (filter : Option Filter) :
    db.executeCommand (.update name column v filter) = db.change name fun table =>
      ((table.update column v filter).1, (table.update column v filter).2.map fun _ => ()) := rfl

theorem executeCommand_delete (db : Database) (name : Option Text) (filter : Option Filter) :
    db.executeCommand (.delete name filter) = db.change name fun table =>
      ((table.delete filter).1, (table.delete filter).2.map fun _ => ()) := rfl

/-! Commands for a table that is there. -/

theorem change_of_find? {name : Text} {table : Table}
    (found : Fields.find? db.tables name = some table) (act : Table → Table × Result Unit) :
    db.change (some name) act = ({ db with tables := Fields.put db.tables name (act table).1 },
      (act table).2.map fun () => .done) := by
  simp only [Database.change, named_of_find? found]

theorem executeCommand_select {name : Text} {table : Table}
    (found : Fields.find? db.tables name = some table) (columns : List Text)
    (filter : Option Filter) :
    db.executeCommand (.select (some name) columns filter none) =
      (db, .ok (.rows (table.select filter))) := by
  simp only [executeCommand, select, Database.table, named_of_find? found]
  rfl

/-- A command that brings only cells keeps a database valid. -/
theorem Valid.executeCommand (valid : db.Valid) {command : Command} {P : Text → Prop}
    (cells : command.Brings P) : db.Follows (db.executeCommand command) := by
  cases command with
  | createTable name columns =>
    apply valid.create name
    intro column member
    obtain ⟨_, s, same, _⟩ := cells.2 column member
    rw [same]
    rfl
  | insert name values =>
    refine valid.change (fun table kept => ?_) name
    have cells : ∀ v ∈ values, v.isCell := fun v member => (cells v member).1
    cases done : table.insert values with
    | error e => exact ⟨kept, fun _ _ => rfl⟩
    | ok pair => exact ⟨kept.insert cells done, by simp⟩
  | select name columns filter join => exact .same valid _
  | update name column v filter =>
    rw [executeCommand_update]
    refine valid.change (fun table kept => ?_) name
    obtain ⟨after, frame⟩ := kept.update cells.1 column filter
    exact ⟨after, fun e failed => frame e (map_eq_error.mp failed)⟩
  | delete name filter =>
    rw [executeCommand_delete]
    refine valid.change (fun table kept => ?_) name
    obtain ⟨after, done⟩ := kept.delete filter
    exact ⟨after, fun e failed => by simp [done, Except.map] at failed⟩
  | showIndex name => exact .same valid _

theorem executeCommand_on (db : Database) (store : Store) (command : Command) :
    (db.on store).executeCommand command =
      ((db.executeCommand command).1.on store, (db.executeCommand command).2) := by
  have change (name : Option Text) (act : Table → Table × Result Unit) :
      (db.on store).change name act = ((db.change name act).1.on store, (db.change name act).2) := by
    simp only [Database.change, show (db.on store).named name = db.named name from rfl]
    split <;> rfl
  cases command with
  | createTable name columns =>
    simp only [Database.executeCommand, Database.create,
      show (db.on store).tables = db.tables from rfl]
    split <;> rfl
  | insert name values => exact change name _
  | select name columns filter join => rfl
  | update name column v filter =>
    simp only [executeCommand_update]
    exact change name _
  | delete name filter =>
    simp only [executeCommand_delete]
    exact change name _
  | showIndex name => rfl

end commands

theorem brings_of_parseText {query : Option Text} {command : Command}
    (read : Query.parseText query = .ok command) : command.Brings fun _ => True := by
  obtain ⟨words, _, parsed⟩ := bind_eq_ok.mp read
  exact Query.parse_brings (fun _ _ => trivial) trivial parsed

theorem exists_persist_on (db : Database) : ∃ store, db.persist.1 = db.on store := by
  unfold persist
  split
  · exact ⟨db.store, rfl⟩
  · exact ⟨_, rfl⟩

/-- A query leaves what its command leaves, whatever becomes of saving it. -/
theorem exists_execute_on {db : Database} {query : Text} {command : Command}
    (read : Query.parseText (some query) = .ok command) :
    ∃ store, (db.execute query).1 = (db.executeCommand command).1.on store := by
  simp only [Database.execute, read]
  split
  · next after e done => exact ⟨after.store, by rw [done]; rfl⟩
  · next after answer done =>
    obtain ⟨store, saved⟩ := after.exists_persist_on
    exact ⟨store, by simp only [done, saved]⟩

/-- A query carried out on the tables alone. -/
def carryOut (db : Database) (query : Text) : Result (Database × Answer) := do
  let command ← Query.parseText query
  let (after, result) := db.executeCommand command
  return (after, ← result)

/-- A query that is not carried out changes nothing. One that is carried out is saved, and if saving
fails so does the query. -/
theorem Valid.execute_eq {db : Database} (valid : db.Valid) (query : Text) :
    db.execute query =
      match db.carryOut query with
      | .error e => (db, .error e)
      | .ok (after, answer) => (after.persist.1, after.persist.2.map fun () => answer) := by
  unfold execute carryOut
  cases read : Query.parseText (some query) with
  | error e => rfl
  | ok command =>
    have follows := valid.executeCommand (brings_of_parseText read)
    simp only [bind, Except.bind, pure, Except.pure]
    cases done : db.executeCommand command with
    | mk after result =>
      cases result with
      | error e =>
        have same := follows.unchanged e (by rw [done])
        rw [done] at same
        simp only at same
        simp [same]
      | ok answer => rfl

theorem carryOut_follows {db after : Database} (valid : db.Valid) {query : Text} {answer : Answer}
    (done : db.carryOut query = .ok (after, answer)) : db.Follows (after, .ok answer) := by
  obtain ⟨command, read, done⟩ := bind_eq_ok.mp done
  obtain ⟨answer, result, same⟩ := bind_eq_ok.mp done
  obtain ⟨rfl, rfl⟩ := Prod.mk.inj (Except.ok.inj same)
  have follows := valid.executeCommand (brings_of_parseText read)
  rwa [← result]

theorem carryOut_on (db : Database) (store : Store) (query : Text) :
    (db.on store).carryOut query =
      (db.carryOut query).map fun outcome => (outcome.1.on store, outcome.2) := by
  unfold carryOut
  cases Query.parseText (some query) with
  | error e => rfl
  | ok command =>
    simp only [bind, Except.bind, executeCommand_on]
    cases (db.executeCommand command).2 <;> rfl

theorem Valid.execute {db : Database} (valid : db.Valid) (query : Text) :
    (db.execute query).1.Valid ∧ (db.execute query).1.refresh = db.refresh := by
  rw [valid.execute_eq]
  cases done : db.carryOut query with
  | error e => exact ⟨valid, rfl⟩
  | ok outcome =>
    have follows := carryOut_follows valid done
    obtain ⟨store, saved⟩ := outcome.1.exists_persist_on
    simp only [saved]
    exact ⟨follows.valid.on store, follows.refresh⟩

end RowStore.Database
