import RowStore.Proofs.Database.Opening

/-! What is refused changes nothing. Indexes that are refreshed are cleared and filled again when
the rows have changed already, but by then the rows were found to be distinct, so it is only before
any change that a command is refused. -/
namespace RowStore.Database

/-- A query whose words or whose command are refused leaves the tables in their order, with their
columns, rows and indexes, and the store as they were. -/
theorem Reachable.unchanged_of_refusal {refresh : Bool} {db : Database}
    (reachable : Reachable refresh db) (query : Text) :
    (∀ e, Query.parseText query = .error e → db.execute query = (db, .error e)) ∧
    ∀ command e, Query.parseText query = .ok command → (db.executeCommand command).2 = .error e →
      db.executeCommand command = (db, .error e) ∧ db.execute query = (db, .error e) := by
  obtain ⟨valid, -⟩ := reachable.valid
  constructor
  · intro e unread
    simp only [execute, unread]
  · intro command e read refused
    have follows := valid.executeCommand (brings_of_parseText read)
    have whole : db.executeCommand command = (db, .error e) :=
      Prod.ext (follows.unchanged e refused) refused
    refine ⟨whole, ?_⟩
    simp only [execute, read, whole]

theorem unchanged_of_refused_update : ∃ db command e,
    db = (fresh true).run ["CREATE TABLE t (a INT UNIQUE, b INT)", "INSERT INTO t (1, 7)",
      "INSERT INTO t (2, 7)"] ∧
    Query.parseText ("UPDATE t SET a = 3 WHERE b = 7" : Text) = .ok command ∧
    db.executeCommand command = (db, .error e) ∧
    db.execute "UPDATE t SET a = 3 WHERE b = 7" = (db, .error e) := by
  have refused : (Query.parseText ("UPDATE t SET a = 3 WHERE b = 7" : Text)).toOption.any
      fun command => (((fresh true).run ["CREATE TABLE t (a INT UNIQUE, b INT)",
        "INSERT INTO t (1, 7)", "INSERT INTO t (2, 7)"]).executeCommand command).2.toOption.isNone := by
    decide +kernel
  cases read : Query.parseText ("UPDATE t SET a = 3 WHERE b = 7" : Text) with
  | error e => simp [read, Except.toOption] at refused
  | ok command =>
    simp only [read, Except.toOption, Option.any_some] at refused
    obtain ⟨e, failed⟩ := exists_error_of_isNone refused
    have reachable := (Reachable.opened (openOn_empty true)).run
      ["CREATE TABLE t (a INT UNIQUE, b INT)", "INSERT INTO t (1, 7)", "INSERT INTO t (2, 7)"]
    obtain ⟨whole, same⟩ := (reachable.unchanged_of_refusal _).2 command e read failed
    exact ⟨_, command, e, rfl, rfl, whole, same⟩

end RowStore.Database
