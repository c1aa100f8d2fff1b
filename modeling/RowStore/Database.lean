import RowStore.Query.Parser
import RowStore.Store
import RowStore.Table.Snapshot

/-! Databases: tables by name, and the store of their snapshot. The snapshot is loaded when a
database is opened and saved after every command that succeeds, also after one that only reads. -/
namespace RowStore

inductive Answer where
  | done
  | rows (rows : List Row)
  deriving Repr

/-- Tables by name, their store, and whether the indexes of new tables are refreshed. -/
structure Database where
  tables : Fields Table
  store : Store
  refresh : Bool

def EngineError.kindless : EngineError := .unsupported "Command"

def IndexInfo.toRow (info : IndexInfo) : Row :=
  [("column", .text info.column), ("unique", .bool info.unique)]

namespace Database

/-- Tables made one after the other from the records of a snapshot. They take the place of those of
the database once all are made. -/
def replaceTables (db : Database) (made : Fields Table) : Fields Value → Database × Result Unit
  | [] => ({ db with tables := made }, .ok ())
  | (name, v) :: rest =>
    match Table.ofValue v db.refresh with
    | .ok table => db.replaceTables (Fields.put made name table) rest
    | .error e => (db, .error e)

/-- A database that goes back to what its store holds, if that is anything. -/
def reload (db : Database) : Database × Result Unit :=
  match db.store.load with
  | .error e => (db, .error e)
  | .ok none => (db, .ok ())
  | .ok (some snapshot) => db.replaceTables [] snapshot

/-- A new database with what a store holds. -/
def openOn (store : Store) (refresh : Bool) : Result Database :=
  match reload ⟨[], store, refresh⟩ with
  | (db, .ok ()) => .ok db
  | (_, .error e) => .error e

def snapshot (db : Database) : Result Value := do
  let tables ← db.tables.mapM fun (name, table) => return (name, ← table.toValue)
  return .record tables

/-- What becomes of a failure to save. The engine's own errors stay as they are; most others are
told as errors of the store. -/
def saveFailure : Failure → Failure
  | .crash .noStorage => .crash .noStorage
  | .crash .tooDeep => .crash .tooDeep
  | .crash (.missingKey key) => .crash (.missingKey key)
  | .crash cause => .of (.storage (.unsaved cause.message))
  | failure => failure

def persist (db : Database) : Database × Result Unit :=
  match db.snapshot with
  | .error e => (db, .error (saveFailure e))
  | .ok snapshot =>
    let (store, result) := db.store.save snapshot
    ({ db with store }, result.mapError saveFailure)

def named (db : Database) (name : Option Text) : Result (Text × Table) :=
  match name.bind fun key => (Fields.find? db.tables key).map (key, ·) with
  | some pair => .ok pair
  | none => fail (.tableNotFound name)

def table (db : Database) (name : Option Text) : Result Table :=
  (db.named name).map Prod.snd

def tableNames (db : Database) : List Text := Fields.names db.tables

/-- A change of one table, for which there is no answer but that it was done. -/
def change (db : Database) (name : Option Text) (act : Table → Table × Result Unit) :
    Database × Result Answer :=
  match db.named name with
  | .error e => (db, .error e)
  | .ok (key, table) =>
    let (table, result) := act table
    ({ db with tables := Fields.put db.tables key table }, result.map fun () => .done)

def create (db : Database) (name : Text) (columns : List Column) : Database × Result Answer :=
  match Fields.find? db.tables name with
  | some _ => (db, fail (.tableExists name))
  | none =>
    let tables := Fields.put db.tables name (.new (.text name) columns db.refresh)
    ({ db with tables }, .ok .done)

def select (db : Database) (name : Option Text) (filter : Option Filter) (join : Option Join) :
    Result (List Row) := do
  let rows := (← db.table name).select filter
  match join with
  | none => return rows
  | some join => return innerJoin rows (← db.table join.table).rows join.leftColumn join.rightColumn

/-- One command carried out on the tables. Nothing is saved. -/
def executeCommand (db : Database) : Command → Database × Result Answer
  | .createTable name columns => db.create name columns
  | .insert name values =>
    db.change name fun table =>
      match table.insert values with
      | .ok (table, _) => (table, .ok ())
      | .error e => (table, .error e)
  | .select name _ filter join => (db, (db.select name filter join).map .rows)
  | .update name column v filter =>
    db.change name fun table =>
      let (table, result) := table.update column v filter
      (table, result.map fun _ => ())
  | .delete name filter =>
    db.change name fun table =>
      let (table, result) := table.delete filter
      (table, result.map fun _ => ())
  | .showIndex name =>
    (db, (db.table name).map fun table => .rows (table.showIndexes.map IndexInfo.toRow))

/-- One query. It succeeds if the command and the saving behind it do. -/
def execute (db : Database) (query : Text) : Database × Result Answer :=
  match Query.parseText query with
  | .error e => (db, .error e)
  | .ok command =>
    match db.executeCommand command with
    | (db, .error e) => (db, .error e)
    | (db, .ok answer) =>
      let (db, saved) := db.persist
      (db, saved.map fun () => answer)

end Database
end RowStore
