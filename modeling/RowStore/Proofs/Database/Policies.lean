import RowStore.Proofs.Database.Reopening
import RowStore.Proofs.Table.Policies

/-! The two policies for indexes side by side. Databases that are opened on one snapshot, with and
without refreshed indexes, run in lockstep until a query deletes a row or assigns an indexed
value. -/
namespace RowStore.Database

/-- The same database under the policy that does not refresh indexes. -/
def unrefreshed (db : Database) : Database :=
  { db with tables := Fields.mapValues Table.unrefreshed db.tables, refresh := false }

/-- Whether a command deletes no row and leaves all indexed values alone. -/
def sparesKeys (db : Database) : Command → Bool
  | .update name column _ filter =>
    (db.named name).toOption.all fun found => found.2.sparesKeys column filter
  | .delete name filter =>
    (db.named name).toOption.all fun found => (found.2.select filter).isEmpty
  | _ => true

def sparesKeysOf (db : Database) (query : Text) : Bool :=
  (Query.parseText query).toOption.all db.sparesKeys

/-- Whether each of some queries deletes no row and leaves all indexed values alone, where the ones
before it were run. -/
def calm : Database → List Text → Bool
  | _, [] => true
  | db, query :: rest => db.sparesKeysOf query && calm (db.execute query).1 rest

/-- What queries give back, one after the other. -/
def answers : Database → List Text → List (Result Answer)
  | _, [] => []
  | db, query :: rest => (db.execute query).2 :: answers (db.execute query).1 rest

/-- What the indexes of all tables hold, with the rows that they name. -/
def indexedRows (db : Database) : Fields (Fields (Entries Row)) :=
  Fields.mapValues Table.indexedRows db.tables

variable {db : Database}

theorem named_unrefreshed (db : Database) (name : Option Text) :
    db.unrefreshed.named name =
      (db.named name).map fun found => (found.1, found.2.unrefreshed) := by
  have found : (name.bind fun key => (Fields.find? db.unrefreshed.tables key).map (key, ·)) =
      (name.bind fun key => (Fields.find? db.tables key).map (key, ·)).map fun pair =>
        (pair.1, pair.2.unrefreshed) := by
    cases name with
    | none => rfl
    | some key =>
      simp only [unrefreshed, Option.bind_some, Fields.find?_mapValues, Option.map_map]
      rfl
  simp only [named, found]
  cases name.bind fun key => (Fields.find? db.tables key).map (key, ·) <;> rfl

theorem change_unrefreshed {name : Option Text} {act : Table → Table × Result Unit}
    (same : ∀ found, db.named name = .ok found →
      act found.2.unrefreshed = ((act found.2).1.unrefreshed, (act found.2).2)) :
    db.unrefreshed.change name act =
      ((db.change name act).1.unrefreshed, (db.change name act).2) := by
  simp only [change, named_unrefreshed]
  cases found : db.named name with
  | error e => rfl
  | ok pair =>
    simp only [Except.map, same pair found]
    simp only [unrefreshed, Fields.mapValues_put]

theorem create_unrefreshed (db : Database) (name : Text) (columns : List Column) :
    db.unrefreshed.create name columns =
      ((db.create name columns).1.unrefreshed, (db.create name columns).2) := by
  have tables : db.unrefreshed.tables = Fields.mapValues Table.unrefreshed db.tables := rfl
  simp only [create, tables, Fields.find?_mapValues]
  cases Fields.find? db.tables name with
  | some table => rfl
  | none =>
    simp only [Option.map_none, unrefreshed, Fields.mapValues_put]
    rfl

theorem select_unrefreshed (db : Database) (name : Option Text) (filter : Option Filter)
    (join : Option Join) :
    db.unrefreshed.select name filter join = db.select name filter join := by
  simp only [select, table, named_unrefreshed]
  cases db.named name with
  | error e => rfl
  | ok found =>
    cases join with
    | none => rfl
    | some join =>
      cases other : db.named join.table with
      | error e => simp only [Except.map, other, bind, Except.bind]
      | ok pair =>
        simp only [Except.map, other, bind, Except.bind]
        rfl

/-- A command that deletes no row and leaves all indexed values alone does the same under both
policies. -/
theorem Valid.executeCommand_unrefreshed (valid : db.Valid) (held : db.refresh = true)
    {command : Command} {P : Text → Prop} (cells : command.Brings P)
    (spares : db.sparesKeys command) :
    db.unrefreshed.executeCommand command =
      ((db.executeCommand command).1.unrefreshed, (db.executeCommand command).2) := by
  have kept {name : Option Text} {found : Text × Table} (read : db.named name = .ok found) :
      found.2.Valid true := held ▸ valid.named read
  cases command with
  | createTable name columns => exact create_unrefreshed db name columns
  | insert name values =>
    apply change_unrefreshed
    intro found _
    simp only [Table.insert_unrefreshed]
    cases found.2.insert values <;> rfl
  | select name columns filter join =>
    simp only [Database.executeCommand, select_unrefreshed]
  | update name column v filter =>
    rw [executeCommand_update, executeCommand_update]
    apply change_unrefreshed
    intro found read
    simp only [sparesKeys, read, Except.toOption, Option.all_some] at spares
    simp only [(kept read).update_unrefreshed cells.1 spares]
  | delete name filter =>
    rw [executeCommand_delete, executeCommand_delete]
    apply change_unrefreshed
    intro found read
    simp only [sparesKeys, read, Except.toOption, Option.all_some] at spares
    simp only [(kept read).delete_unrefreshed spares]
  | showIndex name =>
    simp only [Database.executeCommand, table, named_unrefreshed]
    cases db.named name <;> rfl

theorem snapshot_unrefreshed (db : Database) : db.unrefreshed.snapshot = db.snapshot := by
  simp only [snapshot, unrefreshed, Fields.mapValues, List.mapM_map]
  rfl

theorem persist_unrefreshed (db : Database) :
    db.unrefreshed.persist = (db.persist.1.unrefreshed, db.persist.2) := by
  simp only [persist, snapshot_unrefreshed]
  cases db.snapshot <;> rfl

theorem Valid.execute_unrefreshed (valid : db.Valid) (held : db.refresh = true) {query : Text}
    (spares : db.sparesKeysOf query) :
    db.unrefreshed.execute query = ((db.execute query).1.unrefreshed, (db.execute query).2) := by
  simp only [Database.execute]
  cases read : Query.parseText (some query) with
  | error e => rfl
  | ok command =>
    simp only [sparesKeysOf, read, Except.toOption, Option.all_some] at spares
    simp only [valid.executeCommand_unrefreshed held (brings_of_parseText read) spares]
    cases done : db.executeCommand command with
    | mk after result =>
      cases result with
      | error e => rfl
      | ok answer => simp only [persist_unrefreshed]

theorem sparesKeysOf_unrefreshed (db : Database) (query : Text) :
    db.unrefreshed.sparesKeysOf query = db.sparesKeysOf query := by
  have same (command : Command) : db.unrefreshed.sparesKeys command = db.sparesKeys command := by
    cases command with
    | update name column v filter =>
      simp only [sparesKeys, named_unrefreshed]
      cases db.named name <;> rfl
    | delete name filter =>
      simp only [sparesKeys, named_unrefreshed]
      cases db.named name <;> rfl
    | _ => rfl
  simp only [sparesKeysOf, funext same]

/-- Queries that delete no row and leave all indexed values alone run in lockstep. -/
theorem Valid.run_unrefreshed (valid : db.Valid) (held : db.refresh = true) {queries : List Text}
    (calm : db.unrefreshed.calm queries) :
    db.unrefreshed.answers queries = db.answers queries ∧
      db.unrefreshed.run queries = (db.run queries).unrefreshed := by
  induction queries generalizing db with
  | nil => exact ⟨rfl, rfl⟩
  | cons query rest ih =>
    simp only [Database.calm, Bool.and_eq_true, sparesKeysOf_unrefreshed] at calm
    obtain ⟨spares, calm⟩ := calm
    obtain ⟨next, policy⟩ := valid.execute query
    have step := valid.execute_unrefreshed held spares
    rw [step] at calm
    obtain ⟨answers, final⟩ := ih next (policy.trans held) calm
    constructor
    · simp only [Database.answers, step, answers]
    · simp only [run, List.foldl_cons, step] at final ⊢
      exact final

theorem tablesOf_unrefreshed (snapshot : Fields Value) (refresh : Bool) :
    tablesOf snapshot false =
      (tablesOf snapshot refresh).map (Fields.mapValues Table.unrefreshed) := by
  induction snapshot with
  | nil => rfl
  | cons pair rest ih =>
    obtain ⟨name, v⟩ := pair
    rw [tablesOf_cons, tablesOf_cons, Table.ofValue_unrefreshed v refresh, ih]
    cases Table.ofValue v refresh with
    | error e => rfl
    | ok table => cases tablesOf rest refresh <;> rfl

theorem openOn_unrefreshed (store : Store) (refresh : Bool) :
    openOn store false = (openOn store refresh).map unrefreshed := by
  cases loaded : store.load with
  | error e =>
    rw [openOn_of_load_error false loaded, openOn_of_load_error refresh loaded]
    rfl
  | ok held =>
    cases held with
    | none =>
      rw [openOn_of_load_none false loaded, openOn_of_load_none refresh loaded]
      rfl
    | some snapshot =>
      rw [openOn_of_load false loaded, openOn_of_load refresh loaded,
        tablesOf_unrefreshed snapshot refresh]
      cases tablesOf snapshot refresh <;> rfl

/-- What is opened without refreshed indexes is also opened with them, and as long as queries delete
no row and leave all indexed values alone, the two give the same answers and come to the same
tables, indexes and store. -/
theorem policies_agree {store : Store} {plain : Database} (opened : openOn store false = .ok plain) :
    ∃ refreshed, openOn store true = .ok refreshed ∧ ∀ queries, plain.calm queries →
      plain.answers queries = refreshed.answers queries ∧
      (plain.run queries).contents = (refreshed.run queries).contents ∧
      (plain.run queries).indexedRows = (refreshed.run queries).indexedRows ∧
      (plain.run queries).store = (refreshed.run queries).store := by
  rw [openOn_unrefreshed store true] at opened
  obtain ⟨refreshed, twin, rfl⟩ := map_eq_ok.mp opened
  refine ⟨refreshed, twin, ?_⟩
  intro queries calm
  obtain ⟨valid, held, -⟩ := valid_of_openOn twin
  obtain ⟨answers, final⟩ := valid.run_unrefreshed held calm
  rw [final]
  refine ⟨answers, ?_, ?_, rfl⟩
  · simp only [contents, unrefreshed, Fields.mapValues, List.map_map]
    rfl
  · simp only [indexedRows, unrefreshed, Fields.mapValues, List.map_map]
    rfl

/-- Queries of all kinds, the third of which is refused, that leave the indexed values alone. -/
def sparing : List Text :=
  ["CREATE TABLE t (a INT UNIQUE, b TEXT)", "INSERT INTO t (1, x)", "INSERT INTO t (1, y)",
    "UPDATE t SET b = z WHERE a = 1", "DELETE FROM t WHERE a = 9", "UPDATE t SET a = 7 WHERE a = 9",
    "SELECT * FROM t", "SHOW INDEX FROM t"]

theorem policies_agree_of_sparing : ∃ refreshed,
    openOn (.memory .empty) true = .ok refreshed ∧
    (fresh false).answers sparing = refreshed.answers sparing ∧
    ((fresh false).run sparing).contents = (refreshed.run sparing).contents ∧
    ((fresh false).run sparing).indexedRows = (refreshed.run sparing).indexedRows ∧
    ((fresh false).run sparing).store = (refreshed.run sparing).store := by
  have calm : (fresh false).calm sparing := by decide +kernel
  obtain ⟨refreshed, opened, agree⟩ := policies_agree (openOn_empty false)
  exact ⟨refreshed, opened, agree sparing calm⟩

end RowStore.Database
