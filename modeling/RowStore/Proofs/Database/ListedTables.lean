import RowStore.Proofs.Database.Reopening
import RowStore.Proofs.Quotations

/-! Tables that queries made. Each goes by a word of the query that made it, so there is a query for
all of its rows, unless the word is one that such a query reads otherwise. -/
namespace RowStore

namespace Query

/-- The query for all rows of a table, whatever word is its name. -/
def allRows (table : Text) : Text := ("SELECT * FROM " : Text) ++ ⟨written table⟩

theorem tokens_written {word : Text} (token : IsToken word.points) :
    tokens (written word) = [word.points] := by
  obtain ⟨token, present⟩ := isToken_written token
  rw [tokens, words_spaced_of_isToken token present, List.map_singleton, unquoted_written]

theorem tokens_allRows {table : Text} (token : IsToken table.points) :
    tokens (allRows table).points =
      (["SELECT", "*", "FROM", table] : List Text).map Text.points := by
  rw [allRows, Text.points_append, tokens_append (.inl (by decide)), tokens_written token]
  rfl

/-- A table may have the name of the anchor of conditions. The condition on no column is met by
every row. -/
theorem parse_allRows {table : Text} (apart : table ≠ "JOIN") :
    ∃ filter, parse ["SELECT", "*", "FROM", table] = .ok (.select (some table) ["*"] filter none) ∧
      ∀ row, passes filter row := by
  by_cases anchor : table = "WHERE"
  · subst anchor
    exact ⟨some ⟨none, .null⟩, rfl, fun row => rfl⟩
  · exact ⟨none, parse_listing ⟨apart, anchor⟩, fun row => rfl⟩

theorem isToken_of_tokenize {query : Text} {words : List Text}
    (cut : tokenize (some query) = .ok words) : ∀ word ∈ words, IsToken word.points := by
  intro word member
  simp only [tokenize] at cut
  split at cut
  · simp [fail] at cut
  · obtain rfl := Except.ok.inj cut
    obtain ⟨ps, there, rfl⟩ := List.mem_map.mp member
    obtain ⟨quoted, piece, rfl⟩ := List.mem_map.mp there
    exact (isToken_of_mem_words piece).unquoted

theorem isToken_of_createTable {query name : Text} {columns : List Column}
    (read : parseText (some query) = .ok (.createTable name columns)) : IsToken name.points := by
  obtain ⟨words, cut, parsed⟩ := bind_eq_ok.mp read
  exact (parse_brings (P := fun word => IsToken word.points) (isToken_of_tokenize cut)
    (by decide) parsed).1

end Query

namespace Database

variable {db : Database}

theorem tableNames_change (db : Database) (name : Option Text)
    (act : Table → Table × Result Unit) : (db.change name act).1.tableNames = db.tableNames := by
  unfold change
  split
  · rfl
  · next key table found =>
    have known : key ∈ Fields.names db.tables :=
      Fields.mem_names (Fields.mem_of_find? (named_eq_ok found).2)
    exact (Fields.names_put ..).trans (if_pos known)

theorem mem_tableNames_executeCommand {command : Command} {name : Text}
    (listed : name ∈ (db.executeCommand command).1.tableNames) :
    name ∈ db.tableNames ∨ ∃ columns, command = .createTable name columns := by
  cases command with
  | createTable new columns =>
    simp only [executeCommand, create] at listed
    split at listed
    · exact .inl listed
    · simp only [tableNames, Fields.names_put] at listed
      split at listed
      · exact .inl listed
      · rcases List.mem_append.mp listed with old | created
        · exact .inl old
        · obtain rfl := List.mem_singleton.mp created
          exact .inr ⟨columns, rfl⟩
  | select | showIndex => exact .inl listed
  | insert | update | delete => exact .inl (tableNames_change .. ▸ listed)

theorem mem_tableNames_execute {query name : Text}
    (listed : name ∈ (db.execute query).1.tableNames) :
    name ∈ db.tableNames ∨ Query.IsToken name.points := by
  cases read : Query.parseText (some query) with
  | error e => exact .inl (by simpa only [execute, read] using listed)
  | ok command =>
    obtain ⟨store, left⟩ := db.exists_execute_on read
    rw [left] at listed
    rcases mem_tableNames_executeCommand listed with old | ⟨columns, rfl⟩
    · exact .inl old
    · exact .inr (Query.isToken_of_createTable read)

/-- The databases that queries make of an empty store. Between queries the store may turn into any
other one. -/
inductive Grown (refresh : Bool) : Database → Prop
  | opened {store : Store} {db : Database} :
    store.load = .ok none → openOn store refresh = .ok db → Grown refresh db
  | queried {db : Database} (query : Text) : Grown refresh db → Grown refresh (db.execute query).1
  | moved {db : Database} (store : Store) : Grown refresh db → Grown refresh (db.on store)

theorem Grown.reachable {refresh : Bool} (grown : Grown refresh db) : Reachable refresh db := by
  induction grown with
  | opened _ opened => exact .opened opened
  | queried query _ ih => exact .queried query ih
  | moved store _ ih => exact .moved store ih

/-- Every table that queries made goes by a word that a query can have. -/
theorem Grown.isToken {refresh : Bool} (grown : Grown refresh db) {name : Text}
    (listed : name ∈ db.tableNames) : Query.IsToken name.points := by
  induction grown with
  | opened nothing opened =>
    rcases openOn_cases opened with ⟨_, rfl⟩ | ⟨snapshot, _, loaded, _⟩
    · simp [tableNames, Fields.names] at listed
    · simp [nothing] at loaded
  | queried query _ ih => exact (mem_tableNames_execute listed).elim ih id
  | moved store _ ih => exact ih listed

theorem Grown.shallow {refresh : Bool} (grown : Grown refresh db) : db.Shallow := by
  induction grown with
  | opened nothing opened =>
    rcases openOn_cases opened with ⟨_, rfl⟩ | ⟨snapshot, _, loaded, _⟩
    · simp [Shallow]
    · simp [nothing] at loaded
  | queried query grown ih => exact (grown.reachable.valid.1.shallow_execute query).mpr ih
  | moved store _ ih => exact ih

theorem Grown.run {refresh : Bool} (grown : Grown refresh db) (queries : List Text) :
    Grown refresh (db.run queries) := by
  induction queries generalizing db with
  | nil => exact grown
  | cons query rest ih => exact ih (grown.queried query)

theorem grown_run (refresh : Bool) (queries : List Text) :
    Grown refresh ((fresh refresh).run queries) :=
  (Grown.opened rfl (openOn_empty refresh)).run queries

/-- The query for all rows of a table returns them if the database can be saved. -/
theorem Valid.execute_allRows (valid : db.Valid) {name : Text} {table : Table}
    (found : Fields.find? db.tables name = some table) (token : Query.IsToken name.points)
    (apart : name ≠ "JOIN") :
    (db.execute (Query.allRows name)).2 = db.persist.2.map fun () => .rows table.rows := by
  obtain ⟨filter, parsed, all⟩ := Query.parse_allRows apart
  have read : Query.parseText (some (Query.allRows name)) = _ :=
    Query.parseText_of_words (Query.tokenize_of_tokens (by simp) (Query.tokens_allRows token))
      parsed
  have rows : table.select filter = table.rows := List.filter_eq_self.mpr fun row _ => all row
  have carried : db.carryOut (Query.allRows name) = .ok (db, .rows table.rows) := by
    simp only [carryOut, read, bind, Except.bind, executeCommand_select found, rows]
    rfl
  rw [valid.execute_eq, carried]

end Database

theorem Table.Sound.exists_stats {table : Table} (sound : table.Sound) :
    ∃ stats, table.stats = .ok stats ∧ stats.rowCount = table.rows.length := by
  obtain ⟨texts, written⟩ : ∃ texts, table.columns.mapM Column.text = .ok texts := by
    refine exists_mapM_iff.mpr fun column member => ?_
    rw [Column.text, if_pos (Value.printable_of_storable _ (sound.types column member))]
    exact ⟨_, rfl⟩
  refine ⟨⟨table.name, table.slots.length, texts, table.indexes.names⟩, ?_, ?_⟩
  · simp only [stats, written, bind, Except.bind]
    rfl
  · simp [rows]

end RowStore
