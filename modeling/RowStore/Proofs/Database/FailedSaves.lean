import RowStore.Proofs.Database.Reopening

/-! Saving that fails now and then. A command is carried out before it is saved, and nothing takes
it back, so the next saving that goes through keeps it too. -/
namespace RowStore

/-- A memory that meets an outage, or none. Other stores stay as they are. -/
def Store.under (store : Store) (outage : Option Failure) : Store :=
  match store with
  | .memory text => .memory { text with outage }
  | store => store

/-- The text in a memory. -/
def Store.blob : Store → Option Text
  | .memory text => text.blob
  | _ => none

/-- A query, and what its saving meets. -/
structure Attempt where
  query : Text
  outage : Option Failure

namespace Database

def attempt (db : Database) (a : Attempt) : Database × Result Answer :=
  (db.on (db.store.under a.outage)).execute a.query

/-- Attempts one after the other, whatever becomes of each. -/
def attempts (db : Database) (tried : List Attempt) : Database :=
  tried.foldl (fun db a => (db.attempt a).1) db

/-- The queries of the attempts that pass, each looked at where the ones before it were made. -/
def queriesOf (passes : Database → Attempt → Bool) : Database → List Attempt → List Text
  | _, [] => []
  | db, a :: rest =>
    let later := queriesOf passes (db.attempt a).1 rest
    if passes db a then a.query :: later else later

/-- Whether the command of an attempt was carried out, saved or not. -/
def isCarried (db : Database) (a : Attempt) : Bool := (db.carryOut a.query).toOption.isSome

def carried : Database → List Attempt → List Text := queriesOf isCarried

/-- The queries that succeeded. -/
def acknowledged : Database → List Attempt → List Text :=
  queriesOf fun db a => (db.attempt a).2.toOption.isSome

/-- The queries that failed only because they could not be saved. -/
def unsaved : Database → List Attempt → List Text :=
  queriesOf fun db a => db.isCarried a && a.outage.isSome

variable {db : Database} {memory : Memory}

theorem queriesOf_cons_of {passes : Database → Attempt → Bool} {a : Attempt} {rest : List Attempt}
    (passed : passes db a = true) :
    queriesOf passes db (a :: rest) = a.query :: queriesOf passes (db.attempt a).1 rest :=
  if_pos passed

theorem queriesOf_cons_of_not {passes : Database → Attempt → Bool} {a : Attempt}
    {rest : List Attempt} (failed : passes db a = false) :
    queriesOf passes db (a :: rest) = queriesOf passes (db.attempt a).1 rest := by
  simp [queriesOf, failed]

theorem attempts_append_singleton (db : Database) (tried : List Attempt) (last : Attempt) :
    db.attempts (tried ++ [last]) = ((db.attempts tried).attempt last).1 := by
  simp [attempts]

/-! Attempts over a memory, where all types can be copied. -/
section attempts

variable (valid : db.Valid) (shallow : db.Shallow) (held : db.store = .memory memory)
include valid shallow held

/-- What becomes of an attempt is settled by its command and then by its outage. -/
theorem Valid.attempt_eq (a : Attempt) :
    db.attempt a =
      match db.carryOut a.query, a.outage with
      | .error e, outage => (db.on (.memory { memory with outage }), .error e)
      | .ok (after, _), some failure =>
        (after.on (.memory { memory with outage := some failure }), .error (saveFailure failure))
      | .ok (after, answer), none => (after.on (after.saved (memory.saves + 1)), .ok answer) := by
  unfold attempt
  rw [held, Store.under, (valid.on _).execute_eq, carryOut_on]
  cases done : db.carryOut a.query with
  | error e => rfl
  | ok outcome =>
    obtain ⟨after, answer⟩ := outcome
    have kept := (carryOut_follows valid done).valid.on (.memory { memory with outage := a.outage })
    have copied : after.Shallow := (shallow_carryOut done).mpr shallow
    simp only [Except.map, kept.persist_memory copied rfl]
    cases a.outage <;> rfl

theorem Valid.attempt (a : Attempt) : (db.attempt a).1.Valid ∧ (db.attempt a).1.Shallow ∧
    ∃ next, (db.attempt a).1.store = .memory next := by
  refine ⟨((valid.on _).execute a.query).1, ((valid.on _).shallow_execute a.query).mpr shallow, ?_⟩
  rw [valid.attempt_eq shallow held]
  split <;> exact ⟨_, rfl⟩

theorem Valid.attempts (tried : List Attempt) : (db.attempts tried).Valid ∧
    (db.attempts tried).Shallow ∧ ∃ next, (db.attempts tried).store = .memory next := by
  induction tried generalizing db memory with
  | nil => exact ⟨valid, shallow, memory, held⟩
  | cons a rest ih =>
    obtain ⟨kept, copied, next, store⟩ := valid.attempt shallow held a
    exact ih kept copied store

theorem Valid.acknowledged_iff (a : Attempt) :
    (db.attempt a).2.toOption.isSome = (db.isCarried a && a.outage.isNone) := by
  rw [valid.attempt_eq shallow held, isCarried]
  cases db.carryOut a.query <;> cases a.outage <;> rfl

theorem Valid.blob_attempt {a : Attempt} {after : Database} {answer : Answer}
    (done : db.attempt a = (after, .ok answer)) :
    after.store.blob = some (Text.ofString (Json.write after.record)) := by
  rw [valid.attempt_eq shallow held] at done
  split at done
  · simp at done
  · simp at done
  · obtain ⟨rfl, -⟩ := Prod.mk.inj done
    rw [ofString_write]
    rfl

theorem Valid.blob_ne {a : Attempt} {after : Database} {answer : Answer}
    (done : db.attempt a = (after, .ok answer)) {v : Value}
    (apart : Text.ofChars (Json.writeValue after.record) ≠ Text.ofChars (Json.writeValue v)) :
    after.store.blob ≠ some (Text.ofString (Json.write v)) := by
  rw [valid.blob_attempt shallow held done, ofString_write, ofString_write]
  intro same
  exact apart (Option.some.inj same)

/-- A database with the same tables goes along with an attempt if it runs the query exactly where
it was carried out. -/
theorem Valid.attempt_alike (a : Attempt) (store : Store) :
    ∃ other, (if db.isCarried a then ((db.on store).execute a.query).1 else db.on store) =
      (db.attempt a).1.on other := by
  rw [valid.attempt_eq shallow held, (valid.on store).execute_eq, carryOut_on, isCarried]
  cases db.carryOut a.query with
  | error e => exact ⟨store, rfl⟩
  | ok outcome =>
    obtain ⟨other, saved⟩ := (outcome.1.on store).exists_persist_on
    cases a.outage <;> exact ⟨other, saved⟩

theorem Valid.run_carried (tried : List Attempt) (store : Store) :
    ∃ other, (db.on store).run (db.carried tried) = (db.attempts tried).on other := by
  induction tried generalizing db memory store with
  | nil => exact ⟨store, rfl⟩
  | cons a rest ih =>
    obtain ⟨kept, copied, _, held'⟩ := valid.attempt shallow held a
    obtain ⟨between, step⟩ := valid.attempt_alike shallow held a store
    obtain ⟨other, later⟩ := ih kept copied held' between
    refine ⟨other, ?_⟩
    rw [← step] at later
    rw [carried] at later ⊢
    cases passed : db.isCarried a with
    | false =>
      simp only [passed, Bool.false_eq_true, ↓reduceIte] at later
      rw [queriesOf_cons_of_not passed]
      exact later
    | true =>
      simp only [passed, ↓reduceIte] at later
      rw [queriesOf_cons_of passed]
      exact later

/-- A query that was carried out succeeded, or it could not be saved. -/
theorem Valid.acknowledged_sublist (tried : List Attempt) :
    (db.acknowledged tried).Sublist (db.carried tried) ∧
      (db.carried tried).length = (db.acknowledged tried).length + (db.unsaved tried).length := by
  induction tried generalizing db memory with
  | nil => exact ⟨.slnil, rfl⟩
  | cons a rest ih =>
    obtain ⟨kept, copied, _, held'⟩ := valid.attempt shallow held a
    obtain ⟨part, count⟩ := ih kept copied held'
    have success := valid.acknowledged_iff shallow held a
    simp only [acknowledged, carried, unsaved] at part count ⊢
    cases passed : db.isCarried a with
    | false =>
      rw [passed, Bool.false_and] at success
      rw [queriesOf_cons_of_not success, queriesOf_cons_of_not passed,
        queriesOf_cons_of_not (by simp [passed])]
      exact ⟨part, count⟩
    | true =>
      cases outage : a.outage with
      | none =>
        rw [passed, outage] at success
        rw [queriesOf_cons_of success, queriesOf_cons_of passed,
          queriesOf_cons_of_not (by simp [outage]), List.length_cons, List.length_cons]
        exact ⟨part.cons_cons a.query, by omega⟩
      | some failure =>
        rw [passed, outage] at success
        rw [queriesOf_cons_of_not success, queriesOf_cons_of passed,
          queriesOf_cons_of (by simp [passed, outage]), List.length_cons, List.length_cons]
        exact ⟨part.cons a.query, by omega⟩

end attempts

/-- Behind a query that succeeded the memory holds the text of a database that ran, with every
saving going through, just the queries that were carried out. These are the ones that succeeded
exactly if none failed because it could not be saved. -/
theorem blob_of_carried {refresh : Bool} {tried : List Attempt} {last : Attempt} {db : Database}
    {answer : Answer}
    (done : ((fresh refresh).attempts tried).attempt last = (db, .ok answer)) :
    (∃ v, ((fresh refresh).run ((fresh refresh).carried (tried ++ [last]))).snapshot = .ok v ∧
      db.store.blob = some (Text.ofString (Json.write v))) ∧
    ((fresh refresh).acknowledged (tried ++ [last])).Sublist
      ((fresh refresh).carried (tried ++ [last])) ∧
    ((fresh refresh).acknowledged (tried ++ [last]) = (fresh refresh).carried (tried ++ [last]) ↔
      (fresh refresh).unsaved (tried ++ [last]) = []) := by
  have first := valid_fresh refresh
  have flat := shallow_fresh refresh
  have held : (fresh refresh).store = .memory .empty := rfl
  obtain ⟨before, copied, memory, store⟩ := first.attempts flat held tried
  obtain ⟨part, count⟩ := first.acknowledged_sublist flat held (tried ++ [last])
  refine ⟨?_, part, ?_⟩
  · obtain ⟨other, alike⟩ :=
      first.run_carried flat held (tried ++ [last]) (fresh refresh).store
    rw [attempts_append_singleton, done] at alike
    have whole : (fresh refresh).on (fresh refresh).store = fresh refresh := rfl
    rw [whole] at alike
    refine ⟨_, (shallow_run_fresh _ _).snapshot, ?_⟩
    rw [before.blob_attempt copied store done, alike]
    rfl
  · constructor
    · intro same
      rw [same] at count
      exact List.eq_nil_of_length_eq_zero (by omega)
    · intro none
      rw [none] at count
      exact part.eq_of_length count.symm

/-- A table, and a row that cannot be saved. -/
def lostInsert (failure : Failure) : List Attempt :=
  [⟨"CREATE TABLE t (a INT)", none⟩, ⟨"INSERT INTO t (1)", some failure⟩]

theorem blob_of_carried_select : ∃ db answer v,
    ((fresh true).attempts (lostInsert (.crash (.outside "full")))).attempt
      ⟨"SELECT * FROM t", none⟩ = (db, .ok answer) ∧
    ((fresh true).run ["CREATE TABLE t (a INT)", "INSERT INTO t (1)", "SELECT * FROM t"]).snapshot =
      .ok v ∧
    db.store.blob = some (Text.ofString (Json.write v)) := by
  obtain ⟨answer, done⟩ := exists_answer (x := ((fresh true).attempts
    (lostInsert (.crash (.outside "full")))).attempt ⟨"SELECT * FROM t", none⟩) (by decide +kernel)
  have queries : (fresh true).carried (lostInsert (.crash (.outside "full")) ++
      [⟨"SELECT * FROM t", none⟩]) = (["CREATE TABLE t (a INT)", "INSERT INTO t (1)",
        "SELECT * FROM t"] : List Text) := by
    decide +kernel
  obtain ⟨v, made, blob⟩ := (blob_of_carried done).1
  rw [queries] at made
  exact ⟨_, answer, v, done, made, blob⟩

theorem blob_ne_acknowledged : ∃ db answer v,
    ((fresh false).attempts (lostInsert (.engine (.storage (.refused "down"))))).attempt
      ⟨"SELECT * FROM t", none⟩ = (db, .ok answer) ∧
    ((fresh false).run ((fresh false).acknowledged (lostInsert (.engine (.storage
      (.refused "down"))) ++ [⟨"SELECT * FROM t", none⟩]))).snapshot = .ok v ∧
    db.store.blob ≠ some (Text.ofString (Json.write v)) := by
  obtain ⟨answer, done⟩ := exists_answer (x := ((fresh false).attempts
    (lostInsert (.engine (.storage (.refused "down"))))).attempt ⟨"SELECT * FROM t", none⟩)
    (by decide +kernel)
  have held : (fresh false).store = .memory .empty := rfl
  obtain ⟨before, copied, memory, store⟩ := (valid_fresh false).attempts (shallow_fresh false) held
    (lostInsert (.engine (.storage (.refused "down"))))
  exact ⟨_, answer, _, done, (shallow_run_fresh _ _).snapshot,
    before.blob_ne copied store done (by decide +kernel)⟩

end Database
end RowStore
