import Mathlib.Data.List.Forall2
import RowStore.Proofs.Http.Requests
import RowStore.Proofs.Http.Standard

/-! Queries in one request and queries in requests of their own. Both leave the same database, and
their answers tell the same: the records of the queries that succeed, up to the first one that
fails, and the status for that failure. -/
namespace RowStore.Http

def textsOf? : Value → Option (List Text)
  | .list items => items.mapM textOf?
  | _ => none

namespace Framework

variable {R : Type} (framework : Framework R)

/-- Requests one after the other, up to the first that is not answered with success. -/
def handleAll (db : Database) : List R → Database × List Response
  | [] => (db, [])
  | request :: rest =>
    let (db, response) := framework.handle db request
    if response.status = 200 then
      let (db, responses) := handleAll db rest
      (db, response :: responses)
    else (db, [response])

/-- A field of the record in the body of a request. -/
def field? (request : R) (name : Text) : Option Value :=
  match framework.value? request with
  | some (.record fields) => Fields.find? fields name
  | _ => none

/-- Whether a request asks for one query. The query may be empty, though it is refused then. -/
def Asks (request : R) (query : Text) : Prop :=
  framework.destination request = .found .execute ∧
    (framework.field? request "query").bind textOf? = some query

/-- Whether a request asks for queries one after the other. -/
def AsksAll (request : R) (queries : List Text) : Prop :=
  framework.destination request = .found .batch ∧
    (framework.field? request "queries").bind textsOf? = some queries

instance (request : R) (query : Text) : Decidable (framework.Asks request query) :=
  inferInstanceAs (Decidable (_ ∧ _))

instance (request : R) (queries : List Text) : Decidable (framework.AsksAll request queries) :=
  inferInstanceAs (Decidable (_ ∧ _))

end Framework

/-- Queries that all succeed one after the other: the records of their answers and the database
behind them. -/
inductive Succeeds : Database → List Text → List (Fields Value) → Database → Prop where
  | nil (db : Database) : Succeeds db [] [] db
  | cons {db next after : Database} {query : Text} {fields : Fields Value} {rest : List Text}
      {records : List (Fields Value)} : run db query = (next, .ok fields) →
        Succeeds next rest records after → Succeeds db (query :: rest) (fields :: records) after

/-! Requests that ask for queries. -/

theorem statusOf_ne_success (error : EngineError) : statusOf error ≠ 200 := by
  unfold statusOf
  split <;> decide

variable {R : Type} {framework : Framework R} {request : R} {db after : Database} {query : Text}
  {queries : List Text}

theorem Framework.Lawful.status_ne_success (lawful : framework.Lawful) (failure : Failure) :
    (framework.respond (.error failure)).status ≠ 200 := by
  cases failure with
  | engine error =>
    rw [lawful.respond_engine]
    exact statusOf_ne_success error
  | crash cause =>
    rw [lawful.respond_crash]
    exact (by decide : 500 ≠ 200)

theorem run_eq_error {failure : Failure} :
    run db query = (after, .error failure) ↔ db.execute query = (after, .error failure) := by
  simp only [run, map_eq_error, Prod.ext_iff]

/-- An empty query cannot be cut into words. -/
theorem run_of_isEmpty (empty : query.isEmpty) :
    run db query = (db, .error (.engine .emptyInput)) := by
  have nothing : query.points = [] := List.isEmpty_iff.mp empty
  have cut : Query.tokenize (some query) = .error (.engine .emptyInput) := by
    rw [Query.tokenize, nothing]
    rfl
  rw [run_eq_error, Database.execute, Query.parseText, cut]
  rfl

theorem Framework.field?_eq_some {name : Text} {v : Value}
    (held : framework.field? request name = some v) :
    ∃ fields, framework.value? request = some (.record fields) ∧
      Fields.find? fields name = some v := by
  unfold field? at held
  split at held
  · next fields sent => exact ⟨fields, sent, held⟩
  · contradiction

theorem textOf?_eq_some {v : Value} {s : Text} (read : textOf? v = some s) : v = .text s := by
  unfold textOf? at read
  split at read
  · exact congrArg Value.text (Option.some.inj read)
  · contradiction

theorem textsOf?_eq_some {v : Value} {texts : List Text} (read : textsOf? v = some texts) :
    ∃ items, v = .list items ∧ items.mapM textOf? = some texts := by
  unfold textsOf? at read
  split at read
  · next items => exact ⟨items, rfl, read⟩
  · contradiction

theorem queryOf_of_text {fields : Fields Value}
    (named : Fields.find? fields "query" = some (.text query)) :
    queryOf (some (.record fields)) =
      if query.isEmpty then .error (refusal 400 "Query required") else .ok query := by
  cases fields with
  | nil => contradiction
  | cons first rest => simp only [queryOf, named]

namespace Framework.Lawful

theorem handle_asks (lawful : framework.Lawful) (asks : framework.Asks request query)
    (db : Database) :
    framework.handle db request = if query.isEmpty then (db, refusal 400 "Query required")
      else ((run db query).1, framework.respond ((run db query).2.map success)) := by
  obtain ⟨there, asked⟩ := asks
  obtain ⟨v, held, read⟩ := Option.bind_eq_some_iff.mp asked
  obtain rfl := textOf?_eq_some read
  obtain ⟨fields, sent, named⟩ := field?_eq_some held
  rw [lawful.handle_posted there rfl, serve, sent, queryOf_of_text named]
  by_cases empty : query.isEmpty
  · simp only [empty, ↓reduceIte, respond]
  · simp only [empty, Bool.false_eq_true, ↓reduceIte]

theorem handle_of_run_ok (lawful : framework.Lawful) {fields : Fields Value}
    (asks : framework.Asks request query) (ran : run db query = (after, .ok fields)) :
    framework.handle db request = (after, ⟨200, some fields⟩) := by
  have present : ¬query.isEmpty := by
    intro empty
    rw [run_of_isEmpty empty] at ran
    simp at ran
  rw [lawful.handle_asks asks, if_neg present, ran]
  rfl

/-- An empty query is not tried, but the answer has the status that trying it would give. -/
theorem handle_of_run_error (lawful : framework.Lawful) {failure : Failure}
    (asks : framework.Asks request query) (ran : run db query = (after, .error failure)) :
    ∃ last, framework.handle db request = (after, last) ∧
      last.status = (framework.respond (.error failure)).status := by
  rw [lawful.handle_asks asks]
  split
  · next empty =>
    rw [run_of_isEmpty empty] at ran
    obtain ⟨rfl, same⟩ := Prod.mk.inj ran
    obtain rfl := Except.error.inj same
    refine ⟨_, rfl, ?_⟩
    rw [lawful.respond_engine]
    rfl
  · rw [ran]
    exact ⟨_, rfl, rfl⟩

theorem handle_asksAll (lawful : framework.Lawful) (asks : framework.AsksAll request queries)
    (present : queries ≠ []) (db : Database) : framework.handle db request =
      ((runAll db [] queries).1, framework.respond (runAll db [] queries).2) := by
  obtain ⟨there, asked⟩ := asks
  obtain ⟨v, held, read⟩ := Option.bind_eq_some_iff.mp asked
  obtain ⟨items, rfl, texts⟩ := textsOf?_eq_some read
  obtain ⟨fields, sent, named⟩ := field?_eq_some held
  have filled : queries.isEmpty = false := List.isEmpty_eq_false_iff.mpr present
  rw [lawful.handle_posted there rfl, serve, sent]
  simp only [queriesOf, named, texts, Option.getD_some, filled, Bool.false_eq_true, ↓reduceIte]

end Framework.Lawful

/-! Queries that succeed, and the first that does not. -/

theorem exists_cut {α β : Type} {R : α → β → Prop} {xs : List α} {front rest : List β} {y : β}
    (each : List.Forall₂ R xs (front ++ y :: rest)) :
    ∃ ahead x more, xs = ahead ++ x :: more ∧ List.Forall₂ R ahead front ∧ R x y := by
  induction front generalizing xs with
  | nil =>
    obtain _ | ⟨paired, _⟩ := each
    exact ⟨[], _, _, rfl, .nil, paired⟩
  | cons z front ih =>
    obtain _ | ⟨first, each⟩ := each
    obtain ⟨ahead, x, more, rfl, others, paired⟩ := ih each
    exact ⟨_ :: ahead, x, more, rfl, .cons first others, paired⟩

/-- Queries succeed up to their end or up to one that fails. -/
theorem succeeds_or_fails (db : Database) (queries : List Text) :
    (∃ records after, Succeeds db queries records after) ∨
      ∃ front query rest records before after failure, queries = front ++ query :: rest ∧
        Succeeds db front records before ∧ run before query = (after, .error failure) := by
  induction queries generalizing db with
  | nil => exact .inl ⟨[], db, .nil db⟩
  | cons query rest ih =>
    rcases ran : run db query with ⟨next, result⟩
    cases result with
    | error failure => exact .inr ⟨[], query, rest, [], db, next, failure, rfl, .nil db, ran⟩
    | ok fields =>
      rcases ih next with ⟨records, after, succeeds⟩ |
        ⟨front, other, rest, records, before, after, failure, rfl, succeeds, failed⟩
      · exact .inl ⟨fields :: records, after, .cons ran succeeds⟩
      · exact .inr ⟨query :: front, other, rest, fields :: records, before, after, failure, rfl,
          .cons ran succeeds, failed⟩

section succeeds

variable {records : List (Fields Value)} {singles : List R}

theorem Succeeds.length_eq (succeeds : Succeeds db queries records after) :
    records.length = queries.length := by
  induction succeeds with
  | nil => rfl
  | cons _ _ ih => rw [List.length_cons, List.length_cons, ih]

/-- A batch gathers the records of queries that succeed. -/
theorem Succeeds.runAll_append (succeeds : Succeeds db queries records after)
    (earlier : List Value) (rest : List Text) :
    runAll db earlier (queries ++ rest) = runAll after (earlier ++ records.map .record) rest := by
  induction succeeds generalizing earlier with
  | nil => simp
  | cons ran _ ih => simp [runAll, ran, ih]

theorem Succeeds.handleAll_append (succeeds : Succeeds db queries records after)
    (lawful : framework.Lawful) (each : List.Forall₂ framework.Asks singles queries)
    (rest : List R) : framework.handleAll db (singles ++ rest) =
      ((framework.handleAll after rest).1,
        records.map (fun fields => ⟨200, some fields⟩) ++ (framework.handleAll after rest).2) := by
  induction succeeds generalizing singles with
  | nil =>
    cases each
    rfl
  | cons ran _ ih =>
    obtain _ | ⟨asks, each⟩ := each
    simp [Framework.handleAll, lawful.handle_of_run_ok asks ran, ih each]

end succeeds

/-- A batch of queries leaves the database that requests of their own leave, up to the first that
is not answered with success. If all queries succeed, the batch is answered with the records of
those answers. If one fails with an error of the engine, the batch has the status of its answer and
tells the records in front of it and its place. If it fails otherwise, neither is answered with more
than the status for that. -/
theorem handle_batch (lawful : framework.Lawful) {batch : R} {singles : List R}
    (present : queries ≠ []) (asks : framework.AsksAll batch queries)
    (each : List.Forall₂ framework.Asks singles queries) (db : Database) :
    (framework.handle db batch).1 = (framework.handleAll db singles).1 ∧
    ∃ records : List (Fields Value),
      (records.length = queries.length ∧
        (framework.handleAll db singles).2 = records.map (fun fields => ⟨200, some fields⟩) ∧
        (framework.handle db batch).2 = ⟨200, some [("success", .bool true),
          ("results", .list (records.map .record)), ("count", .int queries.length)]⟩) ∨
      ∃ query failure last, queries[records.length]? = some query ∧
        (framework.handleAll db (singles.take records.length)).1.execute query =
          ((framework.handle db batch).1, .error failure) ∧
        (framework.handleAll db singles).2 =
          records.map (fun fields => ⟨200, some fields⟩) ++ [last] ∧
        last.status ≠ 200 ∧
        (∀ error, failure = .engine error →
          (framework.handle db batch).2 = ⟨last.status, some (errorFields error ++
            ([("results", .list (records.map .record)),
              ("failed_index", .int records.length)] : Fields Value))⟩) ∧
        ∀ cause, failure = .crash cause →
          last.status = 500 ∧ (framework.handle db batch).2 = ⟨500, none⟩ := by
  rw [lawful.handle_asksAll asks present]
  rcases succeeds_or_fails db queries with ⟨records, after, succeeds⟩ |
    ⟨front, query, rest, records, before, after, failure, rfl, succeeds, ran⟩
  · have batched := succeeds.runAll_append [] []
    have handled := succeeds.handleAll_append lawful each []
    rw [List.append_nil] at batched handled
    rw [batched, handled]
    refine ⟨rfl, records, .inl ⟨succeeds.length_eq, by simp [Framework.handleAll], ?_⟩⟩
    simp [runAll, Framework.respond, success, succeeds.length_eq]
  · -- The requests are cut where the queries are: what is behind the failure is never looked at.
    obtain ⟨ahead, single, more, rfl, each, asked⟩ := exists_cut each
    have width : ahead.length = records.length := each.length_eq.trans succeeds.length_eq.symm
    obtain ⟨last, answer, status⟩ := lawful.handle_of_run_error asked ran
    have refused : last.status ≠ 200 := status ▸ lawful.status_ne_success failure
    have batched : runAll db [] (front ++ query :: rest) =
        (after, stopped (records.map .record) failure) := by
      simp [succeeds.runAll_append, runAll, ran]
    have before : (framework.handleAll db ahead).1 = before := by
      simpa [Framework.handleAll] using
        congrArg Prod.fst (succeeds.handleAll_append lawful each [])
    have handled : framework.handleAll db (ahead ++ single :: more) =
        (after, records.map (fun fields => ⟨200, some fields⟩) ++ [last]) := by
      simp [succeeds.handleAll_append lawful each, Framework.handleAll, answer, refused]
    rw [batched, handled]
    refine ⟨rfl, records, .inr ⟨query, failure, last, ?_, ?_, rfl, refused, ?_, ?_⟩⟩
    · simp [succeeds.length_eq]
    · rw [List.take_left' width, before]
      exact run_eq_error.mp ran
    · rintro error rfl
      rw [status, lawful.respond_engine]
      simp [stopped, Framework.respond, engineRefusal]
    · rintro cause rfl
      rw [status, stopped, lawful.respond_crash]
      exact ⟨rfl, rfl⟩

/-- A request that posts some JSON to a path of this host. -/
def posting (path json : String) : Request :=
  ⟨"POST", ⟨[], ownHost, path.toList⟩, "application/json", Text.encode json⟩

theorem handle_batch_of_empty_query :
    (standard.handle ⟨[], .memory .empty, false⟩ (posting "/api/execute/batch"
      "\x7b\"queries\": [\"CREATE TABLE t (a INT)\", \"\", \"SELECT a FROM t\"]\x7d")).1 =
    (standard.handleAll ⟨[], .memory .empty, false⟩ [
      posting "/api/execute" "\x7b\"query\": \"CREATE TABLE t (a INT)\"\x7d",
      posting "/api/execute" "\x7b\"query\": \"\"\x7d",
      posting "/api/execute" "\x7b\"query\": \"SELECT a FROM t\"\x7d"]).1 := by
  have asks : standard.AsksAll (posting "/api/execute/batch"
      "\x7b\"queries\": [\"CREATE TABLE t (a INT)\", \"\", \"SELECT a FROM t\"]\x7d")
      ["CREATE TABLE t (a INT)", "", "SELECT a FROM t"] := by
    decide +kernel
  exact (handle_batch lawful_standard (by simp) asks (.cons (by decide +kernel) <|
    .cons (by decide +kernel) <| .cons (by decide +kernel) .nil) _).1

end RowStore.Http
