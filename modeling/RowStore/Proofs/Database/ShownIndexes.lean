import RowStore.Proofs.Database.Failures
import RowStore.Proofs.Database.Filtering
import RowStore.Proofs.Database.ReadingBack
import RowStore.Proofs.Table.Covering

/-! What is shown of the indexes of a table. The names are those of the indexed columns, and each of
them refuses a value that was just inserted. The flag beside a name is that of the first column of
this name, so where columns share a name it may be off for a column that has an index. -/
namespace RowStore

namespace Table

variable {table : Table} {values others : List Value}

/-- The first column of a name is there and asks for an index. -/
def FirstIndexed (columns : List Column) (name : Text) : Prop :=
  ∃ front column back, columns = front ++ column :: back ∧ column.name = name ∧ column.indexed ∧
    ∀ other ∈ front, other.name ≠ name

theorem any_indexed_iff (table : Table) (name : Text) :
    (table.column? name).any Column.indexed ↔ FirstIndexed table.columns name := by
  simp only [Option.any_eq_true, column?, List.find?_eq_some_iff_append]
  constructor
  · rintro ⟨column, ⟨named, front, back, split, apart⟩, indexed⟩
    exact ⟨front, column, back, split, by simpa using named, indexed, by simpa using apart⟩
  · rintro ⟨front, column, back, split, named, indexed, apart⟩
    exact ⟨column, ⟨by simpa using named, front, back, split, by simpa using apart⟩, indexed⟩

theorem firstIndexed_of_nodup {columns : List Column} (distinct : (columns.map Column.name).Nodup)
    {name : Text} (listed : name ∈ indexedNames columns) : FirstIndexed columns name := by
  obtain ⟨column, member, indexed, rfl⟩ := mem_indexedNames_iff.mp listed
  obtain ⟨front, back, rfl⟩ := List.append_of_mem member
  refine ⟨front, column, back, rfl, rfl, indexed, fun other before same => ?_⟩
  rw [List.map_append, List.map_cons] at distinct
  exact (List.nodup_append.mp distinct).2.2 _ (List.mem_map_of_mem before) _ List.mem_cons_self same

/-- Behind an insertion, a row that has one of its indexed values is refused. -/
theorem Sound.insert_repeated (sound : table.Sound) (cells : ∀ v ∈ values ++ others, v.isCell)
    (counts : values.length = table.columns.length ∧ others.length = table.columns.length)
    (free : table.indexes.check (table.makeRow values) = .ok ())
    {column : Text} (listed : column ∈ table.indexes.names)
    (same : ((table.makeRow values).at column).same ((table.makeRow others).at column)) :
    ∃ taken ∈ table.indexes.names, ∃ v, (table.appended (table.makeRow values)).insert others =
      .error (.engine (.duplicate taken v table.name)) := by
  obtain ⟨first, second⟩ := List.forall_mem_append.mp cells
  have stored := table.makeRow_stored first
  have again := table.makeRow_stored second
  have kept := sound.appended stored (makeRow_names counts.1)
  obtain ⟨pair, member, rfl⟩ := List.mem_map.mp listed
  have registered : (pair.1, pair.2 ++ [((table.makeRow values).at pair.1, table.nextId)]) ∈
      (table.appended (table.makeRow values)).indexes.entries := by
    rw [entries_appended stored.isKeyed free]
    exact List.mem_map_of_mem member
  -- The check may stop at an index before this one, and then it names that one.
  obtain ⟨taken, known, refused⟩ := Indexes.check_of_has again.isKeyed registered (by
    rw [Entries.has_eq_any, List.any_append]
    simp [same])
  rw [kept.of_duplicate again] at refused
  rw [names_appended] at known
  refine ⟨taken, known, (table.makeRow others).at taken, ?_⟩
  rw [@insert_eq (table.appended (table.makeRow values)) others counts.2]
  exact congrArg _ refused

end Table

namespace Database

variable {db : Database} {name : Text} {table : Table}

/-- Whether behind an insertion a row is refused that has the same value in a column. The failure
names an indexed column whose value is taken. -/
def RefusesRepeated (db : Database) (name : Text) (table : Table) (column : Text) : Prop :=
  ∀ (values others : List Value) (after : Database) (answer : Answer),
    (∀ v ∈ values ++ others, v.isCell) →
    db.executeCommand (.insert (some name) values) = (after, .ok answer) →
    others.length = table.columns.length →
    ((table.makeRow values).at column).same ((table.makeRow others).at column) →
    ∃ taken ∈ Table.indexedNames table.columns, ∃ v,
      after.executeCommand (.insert (some name) others) =
        (after, .error (.engine (.duplicate taken v table.name)))

theorem Valid.refusesRepeated (valid : db.Valid)
    (found : Fields.find? db.tables name = some table) {column : Text}
    (listed : column ∈ Table.indexedNames table.columns) :
    db.RefusesRepeated name table column := by
  intro values others after answer cells done count same
  have sound := (valid.named (named_of_find? found)).toSound
  obtain ⟨length, free, rfl⟩ := executeCommand_insert found done
  rw [← sound.indexed] at listed ⊢
  obtain ⟨taken, known, v, refused⟩ :=
    sound.insert_repeated cells ⟨length, count⟩ free listed same
  refine ⟨taken, known, v, ?_⟩
  rw [executeCommand_insert_of_find? (Fields.find?_put_self ..), refused]

theorem executeCommand_showIndex (found : Fields.find? db.tables name = some table) :
    db.executeCommand (.showIndex (some name)) =
      (db, .ok (.rows (table.showIndexes.map IndexInfo.toRow))) := by
  simp only [executeCommand, Database.table, named_of_find? found]
  rfl

/-- What is shown of the indexes of a table lists the columns with the flag of an index, each name
once and where it comes first. Whatever flag is shown beside a name, the column refuses a value that
was just inserted. The flag is on if the first column of the name has it, so all flags are on if no
two columns share a name. -/
theorem Reachable.shown_indexes {refresh : Bool} (reachable : Reachable refresh db)
    (found : Fields.find? db.tables name = some table) :
    ∃ infos : List IndexInfo,
      db.executeWords ["SHOW", "INDEX", "FROM", name] =
        (db, .ok (.rows (infos.map IndexInfo.toRow))) ∧
      (db.OverMemory → db.Shallow → Query.IsWhole name →
        (db.execute (Query.indexListing name)).2 = .ok (.rows (infos.map IndexInfo.toRow))) ∧
      infos.map IndexInfo.column =
        ((table.columns.filter Column.indexed).map Column.name).eraseDups ∧
      (∀ info ∈ infos, db.RefusesRepeated name table info.column) ∧
      (∀ info ∈ infos, info.unique ↔ Table.FirstIndexed table.columns info.column) ∧
      (table.columnNames.Nodup → ∀ info ∈ infos, info.unique) := by
  have valid := reachable.valid.1
  have sound := (valid.named (named_of_find? found)).toSound
  have shown := executeCommand_showIndex found
  have columns : table.showIndexes.map IndexInfo.column = Table.indexedNames table.columns := by
    simp [Table.showIndexes, Function.comp_def, sound.indexed]
  have listed (info : IndexInfo) (member : info ∈ table.showIndexes) :
      info.column ∈ Table.indexedNames table.columns :=
    columns ▸ List.mem_map_of_mem member
  have flag (info : IndexInfo) (member : info ∈ table.showIndexes) :
      info.unique ↔ Table.FirstIndexed table.columns info.column := by
    obtain ⟨column, -, rfl⟩ := List.mem_map.mp member
    exact table.any_indexed_iff column
  refine ⟨table.showIndexes, (executeWords_of_parse (Query.parse_indexListing name)).trans shown,
    fun calm shallow whole =>
      valid.execute_read shallow calm (Query.parseText_indexListing whole) shown, columns,
    fun info member => valid.refusesRepeated found (listed info member), flag,
    fun distinct info member => (flag info member).mpr ?_⟩
  exact Table.firstIndexed_of_nodup distinct (listed info member)

/-- Two columns of one name, of which the second has an index, and one more with an index. -/
def sharing (refresh : Bool) : Database :=
  (fresh refresh).run ["CREATE TABLE t (a INT, a INT UNIQUE, b TEXT PRIMARY)"]

/-- Both names are shown, and a row is refused for an equal number in the second column. -/
theorem shown_indexes_of_sharing :
    ∃ (infos : List IndexInfo) (after : Database) (answer : Answer) (error : EngineError),
      (sharing true).executeWords ["SHOW", "INDEX", "FROM", "t"] =
        (sharing true, .ok (.rows (infos.map IndexInfo.toRow))) ∧
      infos.map IndexInfo.column = ["a", "b"] ∧
      (sharing true).executeCommand (.insert (some "t") [.int 1, .int 2, .text "x"]) =
        (after, .ok answer) ∧
      after.executeCommand (.insert (some "t") [.int 3, .int 2, .text "y"]) =
        (after, .error (.engine error)) := by
  have reachable : Reachable true (sharing true) := (reachable_run ..).1
  have known : (Fields.find? (sharing true).tables "t").any fun table =>
      ((table.columns.filter Column.indexed).map Column.name).eraseDups =
          (["a", "b"] : List Text) ∧ table.columns.length = 3 ∧
        ((table.makeRow [.int 1, .int 2, .text "x"]).at "a").same
          ((table.makeRow [.int 3, .int 2, .text "y"]).at "a") := by decide +kernel
  obtain ⟨table, found, held⟩ := (Option.any_eq_true _ _).mp known
  obtain ⟨names, three, equal⟩ := of_decide_eq_true held
  obtain ⟨infos, shown, -, columns, refuses, -⟩ := reachable.shown_indexes found
  rw [names] at columns
  have listed : ("a" : Text) ∈ infos.map IndexInfo.column := columns ▸ List.mem_cons_self
  obtain ⟨info, member, same⟩ := List.mem_map.mp listed
  obtain ⟨answer, done⟩ := exists_answer (x := (sharing true).executeCommand
    (.insert (some "t") [.int 1, .int 2, .text "x"])) (by decide +kernel)
  obtain ⟨taken, -, v, refused⟩ := refuses info member _ [.int 3, .int 2, .text "y"] _ answer
    (by decide +kernel) done three.symm (by rw [same]; exact equal)
  exact ⟨infos, _, answer, .duplicate taken v table.name, shown, columns, done, refused⟩

/-- The flag that is shown for the second column is that of the first one. -/
theorem not_shown_indexes_of_sharing :
    (sharing false).executeWords ["SHOW", "INDEX", "FROM", "t"] =
      (sharing false, .ok (.rows [IndexInfo.toRow ⟨"a", false⟩, IndexInfo.toRow ⟨"b", true⟩])) ∧
    ((sharing false).execute "INSERT INTO t (1, 2, x)").2.toOption.isSome ∧
    (((sharing false).run ["INSERT INTO t (1, 2, x)"]).execute
      "INSERT INTO t (3, 2, y)").2.toOption.isNone := by
  have known : (Fields.find? (sharing false).tables "t").any fun table =>
      table.showIndexes = [⟨"a", false⟩, ⟨"b", true⟩] := by decide +kernel
  obtain ⟨table, found, shown⟩ := (Option.any_eq_true _ _).mp known
  refine ⟨?_, by decide +kernel, by decide +kernel⟩
  rw [executeWords_of_parse (Query.parse_indexListing "t"), executeCommand_showIndex found,
    of_decide_eq_true shown]
  rfl

end Database
end RowStore
