import RowStore.Proofs.Database.ListedTables
import RowStore.Proofs.Http.Requests
import RowStore.Proofs.Http.Standard

/-! Looking at tables. A table that is listed is found again behind its own name, which is escaped
to stand in a path. That path has one part for a name, so a name is out of reach if it is empty or
has a slash in it. -/
namespace RowStore.Http

variable {R : Type} {framework : Framework R}

/-- The address of the table with a name. -/
def tableAddress (name : String) : String := "/api/tables/" ++ String.ofList (asSegment name.toList)

theorem ofList_pathOf_table (name : String) :
    String.ofList (pathOf (Route.table name).parts) = tableAddress name := by
  have front : pathOf (Route.table name).parts = "/api/tables/".toList ++ asSegment name.toList :=
    congrArg ("/api/tables/".toList ++ ·) (List.append_nil _)
  rw [front, String.ofList_append, String.ofList_toList, tableAddress]

theorem Framework.Lawful.get_tables (lawful : framework.Lawful) (db : Database) :
    framework.get db "/api/tables" = some (db, ⟨200, some (tableList db)⟩) := by
  have got : Route.tables.isPosted = false := rfl
  obtain ⟨body, answer⟩ := lawful.get_route got (by decide) db
  exact answer

theorem Framework.Lawful.get_table (lawful : framework.Lawful) {name : String}
    (present : name ≠ "") (single : '/' ∉ name.toList) (db : Database) :
    framework.get db (tableAddress name) =
      some (db, framework.respond ((tableInfo db name).map success)) := by
  have parts : ∀ part ∈ (Route.table name).parts, part ≠ "" ∧ '/' ∉ part.toList := by
    simp [Route.parts, present, single]
  obtain ⟨body, answer⟩ := lawful.get_route rfl parts db
  rw [ofList_pathOf_table] at answer
  exact answer

variable {refresh : Bool} {db : Database}

/-- Every table that queries made of an empty store is listed, and it is found behind its name
unless the name is empty or has a slash in it: the answer tells the name, the columns in order and
how many rows there are. These are the rows that the query for all of them returns, if the database
can be saved behind it. Only the anchor of joins cannot be the name in such a query. -/
theorem get_listed (lawful : framework.Lawful) (grown : Database.Grown refresh db) :
    framework.get db "/api/tables" = some (db, ⟨200, some [("success", .bool true),
      ("tables", .list (db.tableNames.map .text)), ("count", .int db.tableNames.length)]⟩) ∧
    ∀ name : String, (name : Text) ∈ db.tableNames → name ≠ "" → '/' ∉ name.toList →
      ∃ table stats, Fields.find? db.tables name = some table ∧ table.stats = .ok stats ∧
        framework.get db (tableAddress name) =
          some (db, ⟨200, some [("success", .bool true), ("table", .text name),
            ("schema", .list (table.columns.map Column.record)),
            ("stats", stats.toValue)]⟩) ∧
        stats.rowCount = table.rows.length ∧
        ((name : Text) ≠ "JOIN" → (db.execute (Query.allRows name)).2 =
          db.persist.2.map fun () => .rows table.rows) ∧
        (db.OverMemory → db.persist.2 = .ok ()) := by
  have valid := grown.reachable.valid.1
  have shallow := grown.shallow
  refine ⟨lawful.get_tables db, fun name listed present single => ?_⟩
  obtain ⟨table, found⟩ := Option.isSome_iff_exists.mp ((Fields.find?_isSome_iff _ _).mpr listed)
  have sound := (valid.tables _ (Fields.mem_of_find? found)).toSound
  obtain ⟨stats, told, counted⟩ := sound.exists_stats
  have info : tableInfo db name = .ok [("success", .bool true), ("table", .text name),
      ("schema", .list (table.columns.map Column.record)), ("stats", stats.toValue)] := by
    have there : db.table (some (name : Text)) = .ok table :=
      congrArg (Except.map Prod.snd) (Database.named_of_find? found)
    have schema : table.columns.mapM Column.toValue = .ok (table.columns.map Column.record) :=
      (mapM_eq_ite (fun _ => rfl) _).trans (if_pos (shallow _ (Fields.mem_of_find? found)))
    simp only [tableInfo, there, schema, told, bind, Except.bind]
    rfl
  have answer := lawful.get_table present single db
  rw [info] at answer
  refine ⟨table, stats, found, told, answer, counted, fun apart =>
    valid.execute_allRows found (grown.isToken listed) apart, ?_⟩
  rintro ⟨memory, store, quiet⟩
  rw [valid.persist_memory shallow store, quiet]

/-- A table with one row, whose name has characters that have to be escaped. -/
def oddlyNamed : Database := (Database.fresh false).run
  ["CREATE TABLE é%?# (x INT PRIMARY, y TEXT)", "INSERT INTO é%?# VALUES (7, a)"]

theorem get_listed_of_oddlyNamed : ∃ (table : Table) (stats : TableStats),
    standard.get oddlyNamed "/api/tables/%C3%A9%25%3F%23" =
      some (oddlyNamed, ⟨200, some [("success", .bool true), ("table", .text "é%?#"),
        ("schema", .list (table.columns.map Column.record)), ("stats", stats.toValue)]⟩) ∧
      table.columnNames = (["x", "y"] : List Text) ∧ stats.rowCount = 1 ∧
      (oddlyNamed.execute (Query.allRows "é%?#")).2 = .ok (.rows table.rows) := by
  have made : (Fields.find? oddlyNamed.tables "é%?#").any (fun table =>
      table.columnNames == (["x", "y"] : List Text) && table.rows.length == 1) := by
    decide +kernel
  obtain ⟨table, found, facts⟩ := (Option.any_eq_true _ _).mp made
  simp only [Bool.and_eq_true, beq_iff_eq] at facts
  have path : "/api/tables/%C3%A9%25%3F%23" = tableAddress "é%?#" := by decide +kernel
  have grown : Database.Grown false oddlyNamed := Database.grown_run false _
  have calm : oddlyNamed.OverMemory := (Database.reachable_run false _).2
  obtain ⟨_, stats, also, -, answer, counted, rows, saved⟩ :=
    (get_listed lawful_standard grown).2 "é%?#" (by decide +kernel) (by decide) (by decide)
  obtain rfl := Option.some.inj (also.symm.trans found)
  refine ⟨_, stats, path ▸ answer, facts.1, counted.trans facts.2, ?_⟩
  rw [rows (by decide), saved calm]
  rfl

/-- A name with a slash, no name, and the anchor of joins. -/
def outOfReach : Database := (Database.fresh false).run
  ["CREATE TABLE a/b (x INT)", "CREATE TABLE \"\" (y INT)", "CREATE TABLE JOIN (z INT)"]

theorem not_get_listed : Database.Grown false outOfReach ∧
    outOfReach.tableNames = (["a/b", "", "JOIN"] : List Text) ∧
    (standard.get outOfReach "/api/tables/a%2Fb").map (·.2.status) = some 404 ∧
    (standard.get outOfReach "/api/tables/").map (·.2.status) = some 404 ∧
    (outOfReach.execute (Query.allRows "JOIN")).2.toOption.isNone :=
  ⟨Database.grown_run false _, by decide +kernel, by decide +kernel, by decide +kernel,
    by decide +kernel⟩

end RowStore.Http
