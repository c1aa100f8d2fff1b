import RowStore.Proofs.Database.Reopening
import RowStore.Proofs.Quotations

/-! What was inserted is there to be read. A query that inserts quoted values puts one row behind
the others, and a query for a value of one of its columns returns that row last. -/
namespace RowStore

namespace Query

/-- A word that names a table, or the column of a condition, if it stands between quotes. -/
def IsName (word : Text) : Prop := IsWhole word ∧ word ≠ "JOIN" ∧ word ≠ "WHERE"

instance (word : Text) : Decidable (IsName word) :=
  inferInstanceAs (Decidable (IsWhole word ∧ word ≠ "JOIN" ∧ word ≠ "WHERE"))

theorem find?_coerceAll {words : List Text} {vs : List Value} (read : coerceAll words = .ok vs)
    (names : List Text) (name : Text) :
    (Fields.find? (names.zip words).reverse name).map (fun word => coerce (some word)) =
      (Fields.find? (names.zip vs).reverse name).map .ok := by
  have mapped {α β : Type} (f : α → β) (items : List α) :
      Fields.mapValues f (names.zip items).reverse = (names.zip (items.map f)).reverse := by
    rw [Fields.mapValues, List.map_reverse, List.zip_map_right]
    rfl
  rw [← Fields.find?_mapValues, ← Fields.find?_mapValues, mapped, mapped, map_eq_of_mapM read]

end Query

theorem Table.find?_makeRow {table : Table} {words : List Text} {vs : List Value}
    (read : Query.coerceAll words = .ok vs) (count : vs.length = table.columns.length)
    {column : Text} (known : column ∈ table.columnNames) : ∃ word cell,
      Fields.find? (table.columnNames.zip words).reverse column = some word ∧
        Query.coerce (some word) = .ok cell ∧
          Fields.find? (table.makeRow vs) column = some cell := by
  have there : column ∈ Fields.names (table.makeRow vs) := by
    rw [makeRow_names count, List.mem_eraseDups]
    exact known
  obtain ⟨cell, found⟩ := Option.isSome_iff_exists.mp ((Fields.find?_isSome_iff _ column).mpr there)
  have made : Fields.find? (table.makeRow vs) column =
      Fields.find? (table.columnNames.zip vs).reverse column := Fields.find?_ofPairs ..
  have last := Query.find?_coerceAll read table.columnNames column
  rw [← made, found, Option.map_some] at last
  obtain ⟨word, given, coerced⟩ := Option.map_eq_some_iff.mp last
  exact ⟨word, cell, given, coerced, found⟩

namespace Database

variable {db : Database} {name : Text} {table : Table}

theorem executeCommand_insert_of_find? (found : Fields.find? db.tables name = some table)
    (vs : List Value) : db.executeCommand (.insert (some name) vs) =
      match table.insert vs with
      | .ok (next, _) => ({ db with tables := Fields.put db.tables name next }, .ok .done)
      | .error e => (db, .error e) := by
  simp only [executeCommand, change_of_find? found]
  cases table.insert vs with
  | ok made => rfl
  | error e =>
    simp only [Fields.put_of_find? found]
    rfl

/-- An insertion that succeeds finds the indexed values of its row free and puts it behind the
others. -/
theorem executeCommand_insert (found : Fields.find? db.tables name = some table)
    {vs : List Value} {after : Database} {answer : Answer}
    (done : db.executeCommand (.insert (some name) vs) = (after, .ok answer)) :
    vs.length = table.columns.length ∧ table.indexes.check (table.makeRow vs) = .ok () ∧
      { db with tables := Fields.put db.tables name (table.appended (table.makeRow vs)) } =
        after := by
  rw [executeCommand_insert_of_find? found] at done
  rcases table.insert_cases vs with ⟨e, failed⟩ | ⟨count, free, made⟩
  · simp [failed] at done
  · rw [made] at done
    exact ⟨count, free, (Prod.mk.inj done).1⟩

theorem tables_of_insertion (found : Fields.find? db.tables name = some table)
    (target : Query.IsName name) {values : List Text}
    (whole : ∀ word ∈ values, Query.IsWhole word)
    (short : ∀ word ∈ values, Query.isOverlong word = false) {after : Database} {answer : Answer}
    (done : db.execute (Query.insertion name values) = (after, .ok answer)) :
    ∃ vs, Query.coerceAll values = .ok vs ∧ vs.length = table.columns.length ∧
      after.tables = Fields.put db.tables name (table.appended (table.makeRow vs)) := by
  obtain ⟨vs, read, parsed⟩ := Query.parseText_insertion target.1 whole short
  refine ⟨vs, read, ?_⟩
  cases carried : db.executeCommand (.insert (some name) vs) with
  | mk next result =>
    obtain ⟨store, left⟩ := db.exists_execute_on parsed
    rw [done, carried] at left
    cases result with
    | error e => simp [execute, parsed, carried] at done
    | ok answer =>
      obtain ⟨count, -, rfl⟩ := executeCommand_insert found carried
      exact ⟨count, congrArg Database.tables left⟩

section memory

variable (valid : db.Valid) (shallow : db.Shallow) (calm : db.OverMemory)
include valid shallow calm

theorem Valid.execute_read {query : Text} {command : Command} {answer : Answer}
    (parsed : Query.parseText (some query) = .ok command)
    (done : db.executeCommand command = (db, .ok answer)) : (db.execute query).2 = .ok answer := by
  obtain ⟨store, answered⟩ := valid.execute_done shallow calm parsed done
  rw [answered]

theorem Valid.execute_listing (found : Fields.find? db.tables name = some table)
    (target : Query.IsName name) :
    (db.execute (Query.listing name)).2 = .ok (.rows table.rows) := by
  rw [← table.select_none]
  exact valid.execute_read shallow calm (Query.parseText_listing target.1 target.2)
    (executeCommand_select found _ none)

theorem Valid.execute_search (found : Fields.find? db.tables name = some table)
    (target : Query.IsName name) {column word : Text} (named : Query.IsName column)
    (whole : Query.IsWhole word) (apart : word ≠ "JOIN") {cell : Value}
    (coerced : Query.coerce (some word) = .ok cell) (printable : cell.printable) :
    (db.execute (Query.search name column word)).2 =
      .ok (.rows (table.select (some ⟨some column, cell⟩))) :=
  valid.execute_read shallow calm
    (Query.parseText_search target.1 named.1 whole target.2 ⟨named.2.1, apart⟩ coerced printable)
    (executeCommand_select found _ _)

end memory

/-- What is inserted between quotes is read back. The table has one row more then, in which each
column has what the last value for its name stands for, and this row comes last where one of its
values is asked for. -/
theorem Reachable.read_back {refresh : Bool} (reachable : Reachable refresh db)
    (calm : db.OverMemory) (found : Fields.find? db.tables name = some table)
    (target : Query.IsName name) {values : List Text}
    (whole : ∀ word ∈ values, Query.IsWhole word)
    (short : ∀ word ∈ values, Query.isOverlong word = false) {after : Database} {answer : Answer}
    (done : db.execute (Query.insertion name values) = (after, .ok answer)) :
    (db.execute (Query.listing name)).2 = .ok (.rows table.rows) ∧
      ∃ row, (after.execute (Query.listing name)).2 = .ok (.rows (table.rows ++ [row])) ∧
        Fields.names row = table.columnNames.eraseDups ∧
        ∀ column ∈ table.columnNames, ∃ word cell,
          Fields.find? (table.columnNames.zip values).reverse column = some word ∧
          Query.coerce (some word) = .ok cell ∧ Fields.find? row column = some cell ∧
          (Query.IsName column → word ≠ "JOIN" → ∃ rows,
            (after.execute (Query.search name column word)).2 = .ok (.rows (rows ++ [row]))) := by
  have valid := reachable.valid.1
  obtain ⟨vs, read, count, left⟩ := tables_of_insertion found target whole short done
  have shallow := valid.shallow_of_execute (congrArg Prod.snd done)
  obtain ⟨kept, copied, saves⟩ : after.Valid ∧ after.Shallow ∧ after.OverMemory := by
    have kept := (valid.execute (Query.insertion name values)).1
    have copied := (valid.shallow_execute (Query.insertion name values)).mpr shallow
    have saves := (valid.execute_memory calm (Query.insertion name values)).1
    rw [done] at kept copied saves
    exact ⟨kept, copied, saves⟩
  have there : Fields.find? after.tables name = some (table.appended (table.makeRow vs)) := by
    rw [left, Fields.find?_put_self]
  refine ⟨valid.execute_listing shallow calm found target, table.makeRow vs, ?_,
    Table.makeRow_names count, fun column known => ?_⟩
  · rw [kept.execute_listing copied saves there target, Table.rows_appended]
  · obtain ⟨word, cell, given, coerced, stored⟩ := Table.find?_makeRow read count known
    refine ⟨word, cell, given, coerced, stored, fun named apart => ?_⟩
    have member : word ∈ values :=
      (List.of_mem_zip (List.mem_reverse.mp (Fields.mem_of_find? given))).2
    have good := Query.isCell_of_coerce (short word member) coerced
    have number := Query.not_isNan_of_coerce coerced
    have same := Value.equal_self (Value.isScalar_of_isCell good) number
    have passed : passes (some ⟨some column, cell⟩) (table.makeRow vs) := by
      simpa [passes, Filter.accepts, Row.valueAt, stored] using same
    refine ⟨table.select (some ⟨some column, cell⟩), ?_⟩
    rw [kept.execute_search copied saves there target named (whole word member) apart coerced
      (Value.printable_of_isCell good)]
    simp [Table.select, passed]

/-- A table whose name is that of an anchor, with two columns of one name. -/
def anchored : Database :=
  (fresh true).run ["CREATE TABLE FROM (a INT, a TEXT, b TEXT)", "INSERT INTO FROM (1, 2, 3)"]

theorem read_back_of_anchored :
    ∃ (after : Database) (answer : Answer) (row : Row) (rows : List Row),
    anchored.execute (Query.insertion "FROM" ["x", "0x10", "WHERE"]) = (after, .ok answer) ∧
    Fields.find? row "a" = some (.int 16) ∧
    (after.execute (Query.search "FROM" "b" "WHERE")).2 = .ok (.rows (rows ++ [row])) := by
  have reachable : Reachable true anchored := (Reachable.opened (openOn_empty true)).run _
  have calm : anchored.OverMemory := ((valid_fresh true).run_memory (overMemory_fresh true) _).2.1
  have known : (Fields.find? anchored.tables "FROM").any fun table =>
      table.columnNames = (["a", "a", "b"] : List Text) := by decide +kernel
  obtain ⟨table, found, names⟩ := (Option.any_eq_true _ _).mp known
  obtain ⟨answer, done⟩ := exists_answer
    (x := anchored.execute (Query.insertion "FROM" ["x", "0x10", "WHERE"])) (by decide +kernel)
  obtain ⟨-, row, -, -, each⟩ := reachable.read_back calm found (by decide) (by decide)
    (by decide +kernel) done
  rw [of_decide_eq_true names] at each
  obtain ⟨word, cell, given, coerced, stored, -⟩ := each "a" (by decide)
  obtain rfl : "0x10" = word := Option.some.inj (Eq.trans (by decide) given)
  have sixteen : Query.coerce (some "0x10") = .ok (Value.int 16) := by cbv
  obtain rfl := Except.ok.inj (sixteen.symm.trans coerced)
  obtain ⟨word, _, given, -, -, returned⟩ := each "b" (by decide)
  obtain rfl : "WHERE" = word := Option.some.inj (Eq.trans (by decide) given)
  obtain ⟨rows, last⟩ := returned (by decide) (by decide)
  exact ⟨_, answer, row, rows, done, stored, last⟩

end Database
end RowStore
