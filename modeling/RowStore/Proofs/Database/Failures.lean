import RowStore.Proofs.Database.Reopening
import RowStore.Proofs.Http.Requests
import RowStore.Proofs.Http.Standard
import RowStore.Proofs.Layout
import RowStore.Proofs.Overlong

/-! How queries fail. Behind the words of a query little fails that the engine does not foresee:
values that messages show can be written, those of rows are keys, and a memory without an outage
takes every snapshot. So only a word that is too long for a number leads to any other failure, and a
type that is too deep for a snapshot. -/
namespace RowStore

namespace Table

variable {refresh : Bool} {table : Table} {e : Failure}

theorem Sound.printable_name (sound : table.Sound) : table.name.printable :=
  Value.printable_of_storable _ sound.name

theorem Sound.of_duplicate (sound : table.Sound) {row : Row} (stored : row.IsStored)
    (column : Text) : Failure.of (.duplicate column (row.at column) table.indexes.table) =
      .engine (.duplicate column (row.at column) table.name) := by
  have written : (row.at column).printable :=
    Value.printable_of_isCell (stored.isCell_at column)
  rw [sound.owner, Failure.of, if_pos]
  simpa [EngineError.values] using ⟨written, sound.printable_name⟩

theorem Sound.engine_of_duplicate (sound : table.Sound) {row : Row} (stored : row.IsStored)
    {column : Text} (same : e = .of (.duplicate column (row.at column) table.indexes.table)) :
    ∃ error, e = .engine error :=
  ⟨_, same.trans (sound.of_duplicate stored column)⟩

theorem Sound.engine_of_insert (sound : table.Sound) {values : List Value}
    (cells : ∀ v ∈ values, v.isCell) (failed : table.insert values = .error e) :
    ∃ error, e = .engine error := by
  by_cases count : values.length = table.columns.length
  · have stored := table.makeRow_stored cells
    rw [insert_eq table count] at failed
    obtain ⟨column, _, same⟩ := Indexes.check_error stored.isKeyed (map_eq_error.mp failed)
    exact sound.engine_of_duplicate stored same
  · simp only [insert, count, ne_eq, not_false_eq_true, ↓reduceIte] at failed
    rw [fail_eq_engine (by simpa [EngineError.values] using sound.printable_name)] at failed
    exact ⟨_, (Except.error.inj failed).symm⟩

theorem Sound.engine_of_beforeUpdate (sound : table.Sound) {name : Text} {v : Value}
    (cell : v.isCell) {filter : Option Filter}
    (failed : table.indexes.beforeUpdate table.rows name v filter = .error e) :
    ∃ error, e = .engine error := by
  have stored := sound.stored_assigned cell name filter
  simp only [Indexes.beforeUpdate] at failed
  split at failed
  · obtain ⟨column, _, front, row, back, rows, -, same⟩ :=
      Indexes.validate_error (fun row member => (stored row member).isKeyed) failed
    have member : row ∈ table.rows.map (assignedRow name v filter) :=
      rows ▸ List.mem_append_right front List.mem_cons_self
    exact sound.engine_of_duplicate (stored row member) same
  · contradiction

theorem Valid.engine_of_update (valid : table.Valid refresh) {column : Option Text} {v : Value}
    (cell : v.isCell) {filter : Option Filter}
    (failed : (table.update column v filter).2 = .error e) : ∃ error, e = .engine error := by
  by_cases asked : ∃ name ∈ table.columnNames, column = some name
  · obtain ⟨name, known, rfl⟩ := asked
    rw [update_of_known known] at failed
    cases allowed : table.indexes.beforeUpdate table.rows name v filter with
    | error fault =>
      rw [allowed] at failed
      exact valid.toSound.engine_of_beforeUpdate cell ((Except.error.inj failed) ▸ allowed)
    | ok =>
      simp only [allowed, (valid.assigned_done cell allowed).1, Except.map] at failed
      contradiction
  · have unknown : ∀ name, column = some name → name ∉ table.columnNames :=
      fun name same known => asked ⟨name, known, same⟩
    have named : ∀ v ∈ (EngineError.unknownColumn table.name column).values, v.printable := by
      simpa [EngineError.values] using valid.toSound.printable_name
    rw [update_of_unknown unknown, fail_eq_engine named] at failed
    exact ⟨_, (Except.error.inj failed).symm⟩

end Table

namespace Database

variable {refresh : Bool} {db : Database} {e : Failure}

theorem engine_of_named {name : Option Text} (failed : db.named name = .error e) :
    ∃ error, e = .engine error := by
  unfold named at failed
  split at failed
  · contradiction
  · exact ⟨.tableNotFound name, (Except.error.inj failed).symm⟩

theorem engine_of_table {name : Option Text} (failed : db.table name = .error e) :
    ∃ error, e = .engine error :=
  engine_of_named (map_eq_error.mp failed)

theorem engine_of_change {name : Option Text} {act : Table → Table × Result Unit}
    (foreseen : ∀ found, db.named name = .ok found → ∀ fault, (act found.2).2 = .error fault →
      ∃ error, fault = .engine error)
    (failed : (db.change name act).2 = .error e) : ∃ error, e = .engine error := by
  unfold change at failed
  split at failed
  · next fault missing => exact engine_of_named (Except.error.inj failed ▸ missing)
  · next key table found => exact foreseen _ found e (map_eq_error.mp failed)

theorem engine_of_select {name : Option Text} {filter : Option Filter} {join : Option Join}
    (failed : db.select name filter join = .error e) : ∃ error, e = .engine error := by
  rcases bind_eq_error.mp failed with left | ⟨table, -, failed⟩
  · exact engine_of_table left
  cases join with
  | none => contradiction
  | some join =>
    rcases bind_eq_error.mp failed with right | ⟨other, -, failed⟩
    · exact engine_of_table right
    · contradiction

/-- A command that brings only cells fails only where the engine refuses it. -/
theorem Valid.engine_of_executeCommand (valid : db.Valid) {command : Command} {P : Text → Prop}
    (cells : command.Brings P) (failed : (db.executeCommand command).2 = .error e) :
    ∃ error, e = .engine error := by
  cases command with
  | createTable name columns =>
    simp only [Database.executeCommand] at failed
    unfold Database.create at failed
    split at failed
    · exact ⟨.tableExists name, (Except.error.inj failed).symm⟩
    · contradiction
  | insert name values =>
    refine engine_of_change (fun found read fault refused => ?_) failed
    cases done : found.2.insert values with
    | ok pair => simp [done] at refused
    | error other =>
      simp only [done, Except.error.injEq] at refused
      exact (valid.named read).toSound.engine_of_insert (fun v member => (cells v member).1)
        (refused ▸ done)
  | select name columns filter join => exact engine_of_select (map_eq_error.mp failed)
  | update name column v filter =>
    rw [executeCommand_update] at failed
    refine engine_of_change (fun found read fault refused => ?_) failed
    exact (valid.named read).engine_of_update cells.1 (map_eq_error.mp refused)
  | delete name filter =>
    rw [executeCommand_delete] at failed
    refine engine_of_change (fun found read fault refused => ?_) failed
    simp [((valid.named read).delete filter).2, Except.map] at refused
  | showIndex name => exact engine_of_table (map_eq_error.mp failed)

/-- A query over a memory that saves fails with its words, or where the engine refuses it, or
because there is no snapshot. -/
theorem Valid.failure_of_execute (valid : db.Valid) (calm : db.OverMemory) {query : Text}
    (failed : (db.execute query).2 = .error e) :
    Query.parseText (some query) = .error e ∨ (∃ error, e = .engine error) ∨
      ¬db.Shallow ∧ e = .crash .tooDeep := by
  unfold Database.execute at failed
  cases read : Query.parseText (some query) with
  | error fault =>
    simp only [read, Except.error.injEq] at failed
    exact .inl (congrArg Except.error failed)
  | ok command =>
    have cells := brings_of_parseText read
    have follows := valid.executeCommand cells
    refine .inr ?_
    cases done : db.executeCommand command with
    | mk after result =>
      cases result with
      | error fault =>
        simp only [read, done, Except.error.injEq] at failed
        exact .inl (valid.engine_of_executeCommand cells (by rw [done, failed]))
      | ok answer =>
        obtain ⟨memory, store, calm⟩ := calm
        have copied := @shallow_executeCommand db command _ cells
        rw [done] at follows copied
        by_cases shallow : db.Shallow
        · have same := follows.store.trans store
          have saved := follows.valid.persist_memory (copied.mpr shallow) same
          rw [calm] at saved
          simp [read, done, saved, Except.map] at failed
        · have unsaved := persist_of_not_shallow (mt copied.mp shallow)
          simp only [read, done, unsaved, Except.map, Except.error.injEq] at failed
          exact .inr ⟨shallow, failed.symm⟩

/-- A query that has no word too long where it has a number is answered, or refused in words that
also the service passes on, if all types can be copied. It fails in no other way but that one
cannot. A query that has a word too long is not carried out, and it is then that it can fail in
another way. -/
theorem Reachable.refused_in_words (reachable : Reachable refresh db) (calm : db.OverMemory)
    (query : Text) :
    ((∀ word ∈ Query.numberWords (Query.wordsOf query), Query.isOverlong word = false) →
      (∀ e, (db.execute query).2 = .error e →
        (∃ error, e = .engine error) ∨ ¬db.Shallow ∧ e = .crash .tooDeep) ∧
      (db.Shallow → ∀ (R : Type) (framework : Http.Framework R), framework.Lawful →
        (framework.respond ((Http.run db query).2.map Http.success)).body.isSome)) ∧
    ∀ word ∈ Query.numberWords (Query.wordsOf query), Query.isOverlong word = true →
      ∃ e, db.execute query = (db, .error e) ∧
        ((∃ error, e = .engine error) ∨ ∃ count, e = .crash (.tooManyDigits count)) := by
  obtain ⟨valid, -⟩ := reachable.valid
  constructor
  · intro short
    have foreseen : ∀ e, (db.execute query).2 = .error e →
        (∃ error, e = .engine error) ∨ ¬db.Shallow ∧ e = .crash .tooDeep := by
      intro e failed
      rcases valid.failure_of_execute calm failed with unread | refused
      · exact .inl (Query.engine_of_parseText short unread)
      · exact refused
    refine ⟨foreseen, fun shallow _ framework lawful => ?_⟩
    have result : (Http.run db query).2 =
        (db.execute query).2.map fun answer => (QueryResult.ofAnswer answer).toFields := rfl
    rw [result]
    cases done : (db.execute query).2 with
    | ok answer => rfl
    | error e =>
      rcases foreseen e done with ⟨error, rfl⟩ | ⟨deep, -⟩
      · exact congrArg (·.body.isSome) (lawful.respond_engine error)
      · exact absurd shallow deep
  · intro word member long
    obtain ⟨e, unread, cause⟩ := Query.parseText_of_overlong member long
    refine ⟨e, ?_, cause⟩
    simp only [Database.execute, unread]

theorem refused_in_words_of_duplicate : ∃ e error,
    (((fresh true).run ["CREATE TABLE t (a INT UNIQUE)", "INSERT INTO t (1)"]).execute
      "INSERT INTO t (1)").2 = .error e ∧ e = .engine error ∧
    (Http.standard.respond ((Http.run ((fresh true).run ["CREATE TABLE t (a INT UNIQUE)",
      "INSERT INTO t (1)"]) "INSERT INTO t (1)").2.map Http.success)).body.isSome := by
  obtain ⟨e, failed⟩ := exists_error_of_isNone (x := (((fresh true).run
    ["CREATE TABLE t (a INT UNIQUE)", "INSERT INTO t (1)"]).execute "INSERT INTO t (1)").2)
    (by decide +kernel)
  have reachable := (Reachable.opened (openOn_empty true)).run
    ["CREATE TABLE t (a INT UNIQUE)", "INSERT INTO t (1)"]
  have calm := ((valid_fresh true).run_memory (overMemory_fresh true)
    ["CREATE TABLE t (a INT UNIQUE)", "INSERT INTO t (1)"]).2.1
  have short : ∀ word ∈ Query.numberWords (Query.wordsOf "INSERT INTO t (1)"),
      Query.isOverlong word = false := by
    decide +kernel
  have shallow := shallow_run_fresh true ["CREATE TABLE t (a INT UNIQUE)", "INSERT INTO t (1)"]
  obtain ⟨foreseen, told⟩ := (reachable.refused_in_words calm "INSERT INTO t (1)").1 short
  obtain ⟨error, same⟩ := (foreseen e failed).resolve_right fun deep => deep.1 shallow
  exact ⟨e, error, failed, same, told shallow _ _ Http.lawful_standard⟩

theorem parse_delete_error {word : Text} {e : Failure}
    (read : Query.toNumber (some word) = .error e) :
    Query.parse ["DELETE", "FROM", "t", "WHERE", "a", "=", word] = .error e := by
  have filtered : Query.filter Query.toNumber ["DELETE", "FROM", "t", "WHERE", "a", "=", word] =
      (do
        let v ← Query.toNumber (some word)
        return some ⟨some "a", v⟩) := rfl
  have routed : Query.route ["DELETE", "FROM", "t", "WHERE", "a", "=", word] =
      Query.delete ["DELETE", "FROM", "t", "WHERE", "a", "=", word] := rfl
  rw [Query.parse, routed, Query.delete, filtered, read]
  rfl

/-- A deletion of the rows with a value of a given word. -/
def deleteBy (word : Text) : Text :=
  ("DELETE FROM t WHERE a =" : Text) ++ ⟨.char ' ' :: word.points⟩

theorem parseText_deleteBy {cs : List Char} (digits : ∀ c ∈ cs, c.isDigit)
    (long : Value.maxDigits < cs.length) :
    Query.parseText (some (deleteBy (.ofChars cs))) =
      .error (.crash (.tooManyDigits (some cs.length))) := by
  have present : cs ≠ [] := by
    rintro rfl
    exact absurd long (Nat.not_lt_zero _)
  have points : (deleteBy (.ofChars cs)).points =
      ("DELETE FROM t WHERE a =" : Text).points ++ .char ' ' :: cs.map .char := rfl
  have written : (deleteBy (.ofChars cs)).points.all Text.isBlankPoint = false := by
    rw [points, List.all_append]
    rfl
  have front : (Query.tokens ("DELETE FROM t WHERE a =" : Text).points).map Text.mk =
      (["DELETE", "FROM", "t", "WHERE", "a", "="] : List Text) := by
    decide +kernel
  have words : (Query.tokens (deleteBy (.ofChars cs)).points).map Text.mk =
      (["DELETE", "FROM", "t", "WHERE", "a", "=", .ofChars cs] : List Text) := by
    rw [points, Query.tokens_append_blank _ _ (by decide), Query.tokens_of_isDigit present digits,
      List.map_append, front]
    rfl
  have unread := parse_delete_error (Query.toNumber_of_isDigit digits long)
  simp only [Query.parseText, Query.tokenize, written, Bool.false_eq_true, ↓reduceIte, words]
  exact unread

theorem execute_deleteBy (db : Database) {cs : List Char} (digits : ∀ c ∈ cs, c.isDigit)
    (long : Value.maxDigits < cs.length) : db.execute (deleteBy (.ofChars cs)) =
      (db, .error (.crash (.tooManyDigits (some cs.length)))) := by
  simp only [execute, parseText_deleteBy digits long]

/-- A word with a digit too many is neither a number nor refused. -/
theorem not_refused_in_words : ((fresh false).run ["CREATE TABLE t (a INT)"]).execute
    (deleteBy (.ofChars (List.replicate 4301 '1'))) =
      ((fresh false).run ["CREATE TABLE t (a INT)"],
        .error (.crash (.tooManyDigits (some 4301)))) := by
  have digits : ∀ c ∈ List.replicate 4301 '1', c.isDigit := by
    intro c member
    rw [List.eq_of_mem_replicate member]
    decide
  have size := @List.length_replicate _ 4301 '1'
  have long : Value.maxDigits < (List.replicate 4301 '1').length := by
    rw [size]
    decide
  have crashed := execute_deleteBy ((fresh false).run ["CREATE TABLE t (a INT)"]) digits long
  rw [size] at crashed
  exact crashed

end Database
end RowStore
