import RowStore.Proofs.Database.Reopening
import RowStore.Proofs.Table.Covering

/-! Databases whose indexes are not refreshed. An assignment may then put one indexed value into
several rows, and what is saved is refused when it is opened. While no query changes an indexed
value this does not happen. -/
namespace RowStore.Database

/-- The indexes of all tables know the values that rows have. -/
def Covered (db : Database) : Prop := ∀ pair ∈ db.tables, pair.2.Covered

/-- Whether a command assigns no indexed value that a row does not have already. -/
def keepsKeys (db : Database) : Command → Bool
  | .update name column v filter =>
    (db.named name).toOption.all fun found => found.2.keepsKeys column v filter
  | _ => true

def keepsKeysOf (db : Database) (query : Text) : Bool :=
  (Query.parseText query).toOption.all db.keepsKeys

/-- Whether each of some queries keeps the indexed values, where the ones before it were run. -/
def quiet : Database → List Text → Bool
  | _, [] => true
  | db, query :: rest => db.keepsKeysOf query && quiet (db.execute query).1 rest

variable {db : Database}

theorem change_covered (covered : db.Covered) {name : Option Text}
    {act : Table → Table × Result Unit}
    (keeps : ∀ found, db.named name = .ok found → found.2.Covered → (act found.2).1.Covered) :
    (db.change name act).1.Covered := by
  unfold change
  split
  · exact covered
  · next key table found =>
    have member := Fields.mem_of_find? (named_eq_ok found).2
    intro pair there
    rcases Fields.mem_put there with old | rfl
    · exact covered pair old
    · exact keeps _ found (covered _ member)

/-- A command that keeps the indexed values keeps them known. -/
theorem Valid.executeCommand_covered (valid : db.Valid) (stale : db.refresh = false)
    (covered : db.Covered) {command : Command} {P : Text → Prop} (cells : command.Brings P)
    (keeps : db.keepsKeys command) : (db.executeCommand command).1.Covered := by
  have refresh {name : Option Text} {found : Text × Table} (read : db.named name = .ok found) :
      found.2.indexes.refresh = false := (valid.named read).policy.trans stale
  cases command with
  | createTable name columns =>
    simp only [Database.executeCommand, Database.create]
    split
    · exact covered
    · intro pair member
      rcases Fields.mem_put member with old | rfl
      · exact covered pair old
      · exact Table.covered_new ..
  | insert name values =>
    apply change_covered covered
    intro found read kept
    have cells : ∀ v ∈ values, v.isCell := fun v member => (cells v member).1
    cases done : found.2.insert values with
    | error e => exact kept
    | ok pair => exact kept.insert (valid.named read).toSound cells done
  | select name columns filter join => exact covered
  | update name column v filter =>
    rw [executeCommand_update]
    apply change_covered covered
    intro found read kept
    simp only [keepsKeys, read, Except.toOption, Option.all_some] at keeps
    exact kept.update (valid.named read).toSound (refresh read) cells.1 keeps
  | delete name filter =>
    rw [executeCommand_delete]
    exact change_covered covered fun found read kept => kept.delete (refresh read) filter
  | showIndex name => exact covered

theorem Valid.execute_covered (valid : db.Valid) (stale : db.refresh = false)
    (covered : db.Covered) {query : Text} (keeps : db.keepsKeysOf query) :
    (db.execute query).1.Covered := by
  cases read : Query.parseText (some query) with
  | error e => simpa only [Database.execute, read] using covered
  | ok command =>
    simp only [keepsKeysOf, read, Except.toOption, Option.all_some] at keeps
    obtain ⟨store, left⟩ := db.exists_execute_on read
    rw [left]
    exact valid.executeCommand_covered stale covered (brings_of_parseText read) keeps

theorem Valid.run_covered (valid : db.Valid) (stale : db.refresh = false) (covered : db.Covered)
    {queries : List Text} (calm : db.quiet queries) : (db.run queries).Covered := by
  induction queries generalizing db with
  | nil => exact covered
  | cons query rest ih =>
    simp only [quiet, Bool.and_eq_true] at calm
    obtain ⟨next, policy⟩ := valid.execute query
    exact ih next (policy.trans stale) (valid.execute_covered stale covered calm.1) calm.2

theorem Valid.unique_of_covered (valid : db.Valid) (covered : db.Covered) : db.Unique := by
  intro pair member
  have distinct := (covered pair member).distinct
  rwa [(valid.tables pair member).indexed] at distinct

/-- While no query changes an indexed value, rows do not come to share one. Behind a query that
succeeded settled content comes back exactly if they do not, and otherwise a value that is there
twice is named. -/
theorem reopen_of_quiet {queries : List Text} {last : Text} {db : Database} {answer : Answer}
    (done : ((fresh false).run queries).execute last = (db, .ok answer)) (policy : Bool) :
    ((fresh false).quiet (queries ++ [last]) → db.Unique) ∧
    (db.record.settled →
      ((∃ again, openOn db.store policy = .ok again ∧ again.contents = db.contents) ↔ db.Unique) ∧
      (¬db.Unique → ∃ column v name,
        openOn db.store policy = .error (.engine (.duplicate column v name)))) ∧
    ((∀ query ∈ last :: queries, Text.ofCharacters query.points) → db.record.settled) := by
  have first := valid_fresh false
  obtain ⟨valid, -, saves, kept⟩ := first.saved_of_run (overMemory_fresh false) done
  rw [kept]
  refine ⟨?_, ?_, ?_⟩
  · intro calm
    have covered := first.run_covered rfl (by simp [Covered, fresh]) calm
    rw [run_append_singleton, done] at covered
    exact valid.unique_of_covered covered
  · intro settled
    constructor
    · constructor
      · rintro ⟨again, opened, _⟩
        exact (valid.reopen policy saves settled).1.mp ⟨again, opened⟩
      · intro unique
        obtain ⟨again, opened, same, _⟩ := valid.openOn_saved policy saves settled unique
        exact ⟨again, opened, same⟩
    · exact valid.openOn_saved_error policy saves settled
  · intro plain
    obtain ⟨final, plain⟩ := List.forall_mem_cons.mp plain
    have empty := openOn_settled (fun _ blob => by cases blob) (openOn_empty false)
    have settled := execute_settled (run_settled empty plain) final
    rwa [done] at settled

theorem reopen_of_quiet_deletion : ∃ db answer again,
    ((fresh false).run ["CREATE TABLE t (a INT UNIQUE, b TEXT)", "INSERT INTO t (1, x)",
      "INSERT INTO t (2, y)", "DELETE FROM t WHERE a = 1"]).execute "UPDATE t SET b = 5" =
        (db, .ok answer) ∧
    openOn db.store false = .ok again ∧ again.contents = db.contents := by
  have calm : (fresh false).quiet (List.append ["CREATE TABLE t (a INT UNIQUE, b TEXT)",
      "INSERT INTO t (1, x)", "INSERT INTO t (2, y)", "DELETE FROM t WHERE a = 1"]
        ["UPDATE t SET b = 5"]) := by
    decide +kernel
  obtain ⟨answer, done⟩ := exists_answer (x := ((fresh false).run
    ["CREATE TABLE t (a INT UNIQUE, b TEXT)", "INSERT INTO t (1, x)", "INSERT INTO t (2, y)",
      "DELETE FROM t WHERE a = 1"]).execute "UPDATE t SET b = 5") (by decide +kernel)
  obtain ⟨unique, exact, settled⟩ := reopen_of_quiet done false
  have settled := settled (by
    simp only [List.forall_mem_cons]
    exact ⟨Text.ofCharacters_ofChars _, Text.ofCharacters_ofChars _, Text.ofCharacters_ofChars _,
      Text.ofCharacters_ofChars _, Text.ofCharacters_ofChars _, by simp⟩)
  obtain ⟨again, opened, same⟩ := (exact settled).1.mpr (unique calm)
  exact ⟨_, answer, again, done, opened, same⟩

theorem not_reopen_of_update : ∃ db answer,
    ((fresh false).run ["CREATE TABLE t (a INT PRIMARY)", "INSERT INTO t (1)",
      "INSERT INTO t (2)"]).execute "UPDATE t SET a = 3" = (db, .ok answer) ∧
    ¬∃ again, openOn db.store false = .ok again := by
  have refused : (openOn ((((fresh false).run ["CREATE TABLE t (a INT PRIMARY)",
      "INSERT INTO t (1)", "INSERT INTO t (2)"]).execute
        "UPDATE t SET a = 3").1.saved 0) false).toOption.isNone := by
    decide +kernel
  obtain ⟨answer, done⟩ := exists_answer (x := ((fresh false).run
    ["CREATE TABLE t (a INT PRIMARY)", "INSERT INTO t (1)", "INSERT INTO t (2)"]).execute
      "UPDATE t SET a = 3") (by decide +kernel)
  exact ⟨_, answer, done, (valid_fresh false).not_openOn (overMemory_fresh false) done refused⟩

end RowStore.Database
