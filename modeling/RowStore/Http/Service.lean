import RowStore.Http.Route
import RowStore.QueryResult

/-! The service: what its routes do to a database and answer. An engine error that a batch meets is
answered there; each other failure is raised. -/
namespace RowStore.Http

/-- The status of an answer and its record, if it has one. -/
structure Response where
  status : Nat
  body : Option (Fields Value)

def version : String := "1.0.0"

def statusOf : EngineError → Nat
  | .tableNotFound _ => 404
  | .storage _ => 500
  | _ => 400

def refusal (status : Nat) (message : Text) : Response :=
  ⟨status, some [("success", .bool false), ("error", .text message)]⟩

def notFound : Response := refusal 404 "Endpoint not found"

def wrongMethod : Response := refusal 405 "Method not allowed"

def errorFields (error : EngineError) : Fields Value :=
  [("success", .bool false), ("error", .text error.message), ("error_type", .text error.kind)]

/-- The answer to an engine error, with what else is known. -/
def engineRefusal (error : EngineError) (more : Fields Value) : Response :=
  ⟨statusOf error, some (errorFields error ++ more)⟩

def success (fields : Fields Value) : Response := ⟨200, some fields⟩

def queryOf (value : Option Value) : Except Response Text :=
  match value with
  | some (.record (first :: rest)) =>
    match Fields.find? (first :: rest) "query" with
    | some (.text query) =>
      if query.isEmpty then .error (refusal 400 "Query required") else .ok query
    | _ => .error (refusal 400 "Query required")
  | _ => .error (refusal 400 "Request body required")

def textOf? : Value → Option Text
  | .text s => some s
  | _ => none

/-- The queries in the body of a request, at least one. -/
def queriesOf (value : Option Value) : Except Response (List Text) :=
  let queries :=
    match value with
    | some (.record fields) =>
      match Fields.find? fields "queries" with
      | some (.list items) => (items.mapM textOf?).getD []
      | _ => []
    | _ => []
  if queries.isEmpty then .error (refusal 400 "List of queries required") else .ok queries

def run (db : Database) (query : Text) : Database × Result (Fields Value) :=
  let (db, result) := db.execute query
  (db, result.map fun answer => (QueryResult.ofAnswer answer).toFields)

/-- What a batch makes of a failure behind records: it answers only an engine error. -/
def stopped (done : List Value) : Failure → Result Response
  | .engine error =>
    .ok (engineRefusal error [("results", .list done), ("failed_index", .int done.length)])
  | .crash cause => .error (.crash cause)

/-- Queries one after the other, up to the first that fails. `done` holds the records so far. -/
def runAll (db : Database) (done : List Value) : List Text → Database × Result Response
  | [] =>
    (db, .ok (success [("success", .bool true), ("results", .list done),
      ("count", .int done.length)]))
  | query :: rest =>
    match run db query with
    | (db, .ok fields) => runAll db (done ++ [.record fields]) rest
    | (db, .error failure) => (db, stopped done failure)

def tableList (db : Database) : Fields Value :=
  [("success", .bool true), ("tables", .list (db.tableNames.map .text)),
    ("count", .int db.tableNames.length)]

def tableInfo (db : Database) (name : Text) : Result (Fields Value) := do
  let table ← db.table (some name)
  let schema ← table.columns.mapM Column.toValue
  let stats ← table.stats
  return [("success", .bool true), ("table", .text name), ("schema", .list schema),
    ("stats", stats.toValue)]

def tableIndexes (db : Database) (name : Text) : Result (Fields Value) := do
  let indexes := (← db.table (some name)).showIndexes
  return [("success", .bool true), ("indexes", .list (indexes.map fun i => .record i.toRow)),
    ("count", .int indexes.length)]

def health (db : Database) : Fields Value :=
  [("status", .text "healthy"), ("version", .text version),
    ("table_count", .int db.tableNames.length)]

/-- What a route does with the value in the body of a request. -/
def serve (db : Database) (body : Option Value) : Route → Database × Result Response
  | .execute =>
    match queryOf body with
    | .error response => (db, .ok response)
    | .ok query =>
      let (db, result) := run db query
      (db, result.map success)
  | .batch =>
    match queriesOf body with
    | .error response => (db, .ok response)
    | .ok queries => runAll db [] queries
  | .tables => (db, .ok (success (tableList db)))
  | .table name => (db, (tableInfo db name).map success)
  | .indexes name => (db, (tableIndexes db name).map success)
  | .health => (db, .ok (success (health db)))

/-- The service over a file. Of the two places for its folder the first one that is given counts,
but an empty argument is none. -/
def openService (argument environment : Option String) : Result Database :=
  let dir :=
    match argument.filter (!·.isEmpty) with
    | some dir => dir
    | none => environment.getD "./data"
  Database.openOn (.file (⟨dir, "mini-rdbms"⟩ : Folder) .fresh) false

end RowStore.Http
