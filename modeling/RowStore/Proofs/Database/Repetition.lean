import RowStore.Proofs.Database.Filtering
import RowStore.Proofs.Database.Reopening

/-! Updates and deletions that are asked for once more. Behind one of them every row is as it would
be set, or passes no longer, so the same query finds nothing to do: it gives the same answer or the
same failure, and nothing changes but the number of saves. -/
namespace RowStore

/-- Whether a command sets or takes away rows that are there. -/
def Command.rewrites : Command → Bool
  | .update .. | .delete .. => true
  | _ => false

namespace Query

/-- The words of a query that asks for an update or a deletion. -/
def AsksRewriting (words : List Text) : Prop :=
  Text.upper (words.head?.getD "") ∈ (["UPDATE", "DELETE"] : List Text)

instance (words : List Text) : Decidable (AsksRewriting words) :=
  inferInstanceAs (Decidable (Text.upper (words.head?.getD "") ∈ (["UPDATE", "DELETE"] : List Text)))

theorem rewrites_of_parse {words : List Text} {command : Command} (asks : AsksRewriting words)
    (parsed : parse words = .ok command) : command.rewrites := by
  obtain ⟨routed, found, same⟩ := bind_eq_ok.mp parsed
  split at same
  · obtain rfl := Except.ok.inj same
    unfold route at found
    rcases List.mem_pair.mp asks with kind | kind <;> rw [kind] at found
    · obtain ⟨_, _, found⟩ := bind_eq_ok.mp (show update words = .ok routed from found)
      obtain ⟨_, _, found⟩ := bind_eq_ok.mp found
      obtain ⟨_, _, found⟩ := bind_eq_ok.mp found
      obtain rfl := Except.ok.inj found
      rfl
    · obtain ⟨_, _, found⟩ := bind_eq_ok.mp (show delete words = .ok routed from found)
      obtain rfl := Except.ok.inj found
      rfl
  · contradiction

theorem rewrites_of_parseText {query : Text} {command : Command}
    (asks : AsksRewriting (wordsOf query)) (read : parseText (some query) = .ok command) :
    command.rewrites := by
  obtain ⟨words, cut, parsed⟩ := bind_eq_ok.mp read
  simp only [tokenize] at cut
  split at cut
  · contradiction
  · obtain rfl := Except.ok.inj cut
    exact rewrites_of_parse asks parsed

end Query

namespace Table

variable {refresh : Bool} {table after : Table} {filter : Option Filter} {n : Nat}

theorem assignedRow_assignedRow (name : Text) (v : Value) (filter : Option Filter) (row : Row) :
    assignedRow name v filter (assignedRow name v filter row) = assignedRow name v filter row := by
  by_cases passed : passes filter row
  · have set : assignedRow name v filter row = Fields.put row name v := if_pos passed
    rw [set, assignedRow]
    split
    · exact Fields.put_of_find? (Fields.find?_put_self ..)
    · rfl
  · have spared : assignedRow name v filter row = row := if_neg passed
    rw [spared, spared]

/-- An update that went through leaves nothing to be updated. -/
theorem Valid.update_again (valid : table.Valid refresh) {column : Option Text} {v : Value}
    (cell : v.isCell) (done : table.update column v filter = (after, .ok n)) :
    ∃ m, after.update column v filter = (after, .ok m) := by
  have kept := (valid.update cell column filter).1
  rw [done] at kept
  rcases table.update_cases column v filter with ⟨e, failed⟩ | ⟨name, known, rfl, -, made⟩
  · rw [failed] at done
    simp at done
  · obtain rfl : (table.assigned name v filter).1 = after := (Prod.mk.inj (made.symm.trans done)).1
    refine ⟨_, kept.update_of_settled known ?_⟩
    rw [rows_assigned, List.forall_mem_map]
    exact fun row _ => assignedRow_assignedRow name v filter row

theorem Valid.delete_again (valid : table.Valid refresh)
    (done : table.delete filter = (after, .ok n)) : ∃ m, after.delete filter = (after, .ok m) := by
  have kept := (valid.delete filter).1
  have rows := table.rows_delete filter
  rw [done] at kept rows
  refine ⟨0, kept.delete_of_spared fun row member => ?_⟩
  rw [rows, List.mem_filter] at member
  simpa using member.2

end Table

namespace Database

variable {db after : Database} {answer : Answer}

theorem change_again {name : Option Text} {act : Table → Table × Result Unit}
    (again : ∀ found, db.named name = .ok found → ∀ next, act found.2 = (next, .ok ()) →
      act next = (next, .ok ()))
    (done : db.change name act = (after, .ok answer)) :
    after.change name act = (after, .ok answer) ∧ answer = .done := by
  unfold Database.change at done
  split at done
  · simp at done
  · next key table found =>
    cases step : act table with
    | mk next result =>
      rw [step] at done
      cases result with
      | error e => simp [Except.map] at done
      | ok =>
        obtain ⟨rfl, rfl⟩ : _ = after ∧ Answer.done = answer := by simpa [Except.map] using done
        obtain ⟨rfl, -⟩ := named_eq_ok found
        have there : Fields.find? (Fields.put db.tables key next) key = some next :=
          Fields.find?_put_self ..
        rw [change_of_find? there, again _ found next step, Fields.put_of_find? there]
        exact ⟨rfl, rfl⟩

theorem Valid.executeCommand_again (valid : db.Valid) {command : Command} {P : Text → Prop}
    (cells : command.Brings P) (rewrites : command.rewrites)
    (done : db.executeCommand command = (after, .ok answer)) :
    after.executeCommand command = (after, .ok answer) ∧ answer = .done := by
  cases command with
  | update name column v filter =>
    rw [executeCommand_update] at done ⊢
    refine change_again (fun found read next step => ?_) done
    obtain ⟨updated, result⟩ := Prod.mk.inj step
    obtain ⟨n, counted, -⟩ := map_eq_ok.mp result
    obtain ⟨m, again⟩ := (valid.named read).update_again cells.1 (Prod.ext updated counted)
    rw [again]
    rfl
  | delete name filter =>
    rw [executeCommand_delete] at done ⊢
    refine change_again (fun found read next step => ?_) done
    obtain ⟨deleted, result⟩ := Prod.mk.inj step
    obtain ⟨n, counted, -⟩ := map_eq_ok.mp result
    obtain ⟨m, again⟩ := (valid.named read).delete_again (Prod.ext deleted counted)
    rw [again]
    rfl
  | createTable | insert | select | showIndex => contradiction

theorem Valid.carryOut_again (valid : db.Valid) {query : Text}
    (asks : Query.AsksRewriting (Query.wordsOf query))
    (done : db.carryOut query = .ok (after, answer)) :
    after.carryOut query = .ok (after, answer) ∧ answer = .done := by
  obtain ⟨command, read, done⟩ := bind_eq_ok.mp done
  obtain ⟨_, result, same⟩ := bind_eq_ok.mp done
  obtain ⟨left, rfl⟩ := Prod.mk.inj (Except.ok.inj same)
  obtain ⟨again, rfl⟩ := valid.executeCommand_again (brings_of_parseText read)
    (Query.rewrites_of_parseText asks read) (Prod.ext left result)
  refine ⟨?_, rfl⟩
  simp only [carryOut, read, again, bind, Except.bind]
  rfl

/-- Over a memory that saves, a query for an update or a deletion that is run twice is answered or
fails twice in the same way. The tables with their rows and indexes and the stored text are the same
behind both. -/
theorem Reachable.execute_again {refresh : Bool} (reachable : Reachable refresh db)
    (calm : db.OverMemory) {query : Text} (asks : Query.AsksRewriting (Query.wordsOf query))
    {result : Result Answer} (done : db.execute query = (after, result)) :
    (∀ answer, result = .ok answer → answer = .done) ∧
      ∃ memory saves, after.store = .memory memory ∧
        after.execute query = (after.on (.memory { memory with saves }), result) := by
  have valid := reachable.valid.1
  obtain ⟨memory, store, quiet⟩ := calm
  cases carried : db.carryOut query with
  | error e =>
    -- What failed changed nothing, so it is met by the same database.
    obtain ⟨rfl, rfl⟩ : db = after ∧ .error e = result := by
      simpa [valid.execute_eq, carried] using done
    refine ⟨by simp, memory, memory.saves, store, ?_⟩
    rw [done, on, ← store]
  | ok outcome =>
    obtain ⟨left, answer⟩ := outcome
    obtain ⟨again, rfl⟩ := valid.carryOut_again asks carried
    have follows := carryOut_follows valid carried
    have kept : left.Valid := follows.valid
    have copied : left.Shallow ↔ db.Shallow := shallow_carryOut carried
    by_cases shallow : db.Shallow
    · obtain ⟨rfl, rfl⟩ : left.on (left.saved (memory.saves + 1)) = after ∧ .ok .done = result := by
        simpa [valid.execute_saved shallow store quiet, carried] using done
      refine ⟨fun _ same => (Except.ok.inj same).symm, _, memory.saves + 2, rfl, ?_⟩
      have twice := (kept.on (left.saved (memory.saves + 1))).execute_saved (copied.mpr shallow) rfl
        rfl query
      rw [carryOut_on, again] at twice
      exact twice
    · -- Neither of the two is saved, so the second one meets what the first one left.
      obtain ⟨rfl, rfl⟩ : left = after ∧ .error (.crash .tooDeep) = result := by
        simpa [valid.execute_of_not_shallow shallow, carried] using done
      have held := follows.store.trans store
      refine ⟨by simp, memory, memory.saves, held, ?_⟩
      rw [kept.execute_of_not_shallow (mt copied.mp shallow), again, on, ← held]

/-- Rows of which the first has the value that the update gives it, in another kind of number. -/
def respelled : Database :=
  (fresh true).run ["CREATE TABLE t (a INT UNIQUE, b TEXT)", "INSERT INTO t (1, x)",
    "INSERT INTO t (2, y)"]

/-- The update sets the column of its own condition, so the row that it sets passes once more. -/
theorem execute_again_of_respelled : ∃ after answer memory saves,
    respelled.execute "UPDATE t SET a = 1.0 WHERE a = 1" = (after, .ok answer) ∧
    after.tables.map (fun pair => pair.2.rows.map fun row => (row.at "a").kindName) =
      [["float", "int"]] ∧
    after.store = .memory memory ∧ after.execute "UPDATE t SET a = 1.0 WHERE a = 1" =
      (after.on (.memory { memory with saves }), .ok answer) := by
  obtain ⟨reachable, calm⟩ : Reachable true respelled ∧ respelled.OverMemory := reachable_run ..
  obtain ⟨answer, done⟩ := exists_answer
    (x := respelled.execute "UPDATE t SET a = 1.0 WHERE a = 1") (by decide +kernel)
  obtain ⟨-, memory, saves, store, again⟩ := reachable.execute_again calm (by decide +kernel) done
  exact ⟨_, answer, memory, saves, done, by decide +kernel, store, again⟩

end Database
end RowStore
