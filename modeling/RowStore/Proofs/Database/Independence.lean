import RowStore.Proofs.Database.Opening

/-! Commands that ask for one table each. What such a command answers and does is told by its table
alone, and no other table is touched by it, so commands for different tables can be carried out in
either order. -/
namespace RowStore

/-- The name of the table that a command asks for, if it needs that table and no other. -/
def Command.soleTable? : Command → Option (Option Text)
  | .insert name _ | .update name _ _ _ | .delete name _ | .showIndex name
  | .select name _ _ none => some name
  | .select _ _ _ (some _) | .createTable _ _ => none

namespace Database

/-- An action on the table of a name, if there is one. -/
def onTable (db : Database) (name : Option Text) (act : Table → Table × Result Answer) :
    Database × Result Answer :=
  match db.named name with
  | .error e => (db, .error e)
  | .ok (key, table) =>
    ({ db with tables := Fields.put db.tables key (act table).1 }, (act table).2)

variable {db : Database}

theorem change_eq_onTable (db : Database) (name : Option Text)
    (act : Table → Table × Result Unit) :
    db.change name act =
      db.onTable name fun table => ((act table).1, (act table).2.map fun () => .done) := by
  unfold change onTable
  cases db.named name <;> rfl

theorem read_eq_onTable (db : Database) (name : Option Text) (answer : Table → Answer) :
    (db, (db.table name).map answer) =
      db.onTable name fun table => (table, .ok (answer table)) := by
  unfold Database.table onTable
  cases found : db.named name with
  | error e => rfl
  | ok pair =>
    obtain ⟨key, table⟩ := pair
    simp only [Fields.put_of_find? (named_eq_ok found).2]
    rfl

/-- A command that needs one table is an action on it, the same one in every database. -/
theorem executeCommand_eq_onTable {command : Command} {name : Option Text}
    (sole : command.soleTable? = some name) :
    ∃ act, ∀ db : Database, db.executeCommand command = db.onTable name act := by
  cases command with
  | createTable => contradiction
  | insert target values =>
    obtain rfl := Option.some.inj sole
    exact ⟨_, fun db => change_eq_onTable db _ _⟩
  | select target columns filter join =>
    cases join with
    | some join => contradiction
    | none =>
      obtain rfl := Option.some.inj sole
      have read (db : Database) : db.executeCommand (.select target columns filter none) =
          (db, (db.table target).map fun table => .rows (table.select filter)) := by
        simp only [executeCommand, Database.select]
        cases db.table target <;> rfl
      exact ⟨_, fun db => (read db).trans (read_eq_onTable db target _)⟩
  | update target column v filter =>
    obtain rfl := Option.some.inj sole
    exact ⟨_, fun db => (executeCommand_update ..).trans (change_eq_onTable db target _)⟩
  | delete target filter =>
    obtain rfl := Option.some.inj sole
    exact ⟨_, fun db => (executeCommand_delete ..).trans (change_eq_onTable db target _)⟩
  | showIndex target =>
    obtain rfl := Option.some.inj sole
    exact ⟨_, fun db => read_eq_onTable db _ _⟩

theorem named_onTable (db : Database) {name other : Option Text} (apart : name ≠ other)
    (act : Table → Table × Result Answer) :
    (db.onTable name act).1.named other = db.named other := by
  unfold onTable
  cases found : db.named name with
  | error e => rfl
  | ok pair =>
    obtain ⟨rfl, -⟩ := named_eq_ok found
    cases other with
    | none => rfl
    | some key =>
      have different : pair.1 ≠ key := fun same => apart (congrArg some same)
      simp only [named, Option.bind_some, Fields.find?_put, if_neg different]

theorem onTable_of_named {name : Option Text} {key : Text} {table : Table}
    (found : db.named name = .ok (key, table)) (act : Table → Table × Result Answer) :
    db.onTable name act =
      ({ db with tables := Fields.put db.tables key (act table).1 }, (act table).2) := by
  rw [onTable, found]

theorem onTable_of_missing {name : Option Text} {e : Failure} (missing : db.named name = .error e)
    (act : Table → Table × Result Answer) : db.onTable name act = (db, .error e) := by
  rw [onTable, missing]

theorem onTable_snd {name other : Option Text} (apart : name ≠ other)
    (act further : Table → Table × Result Answer) :
    ((db.onTable name act).1.onTable other further).2 = (db.onTable other further).2 := by
  have frame := named_onTable db apart act
  cases found : db.named other with
  | error e => rw [onTable_of_missing (frame.trans found), onTable_of_missing found]
  | ok pair => rw [onTable_of_named (frame.trans found), onTable_of_named found]

theorem onTable_comm {name other : Option Text} (apart : name ≠ other)
    (act further : Table → Table × Result Answer) :
    ((db.onTable name act).1.onTable other further).1 =
      ((db.onTable other further).1.onTable name act).1 := by
  have first := named_onTable db apart act
  have second := named_onTable db apart.symm further
  cases found : db.named name with
  | error e =>
    rw [onTable_of_missing found, onTable_of_missing (second.trans found)]
  | ok pair =>
    cases also : db.named other with
    | error e =>
      rw [onTable_of_missing also, onTable_of_missing (first.trans also)]
    | ok others =>
      rw [onTable_of_named (first.trans also), onTable_of_named (second.trans found),
        onTable_of_named found, onTable_of_named also]
      obtain ⟨rfl, there⟩ := named_eq_ok found
      obtain ⟨rfl, -⟩ := named_eq_ok also
      have known : pair.1 ∈ Fields.names db.tables :=
        (Fields.find?_isSome_iff ..).mp (by rw [there]; rfl)
      have different : pair.1 ≠ others.1 := fun same => apart (congrArg some same)
      simp only [Fields.put_comm different known]

/-- Two commands that need one table each, and not the same one, are answered or refused in the same
way in either order, and leave the same database. -/
theorem executeCommand_comm (db : Database) {first second : Command} {name other : Option Text}
    (one : first.soleTable? = some name) (two : second.soleTable? = some other)
    (apart : name ≠ other) :
    ((db.executeCommand second).1.executeCommand first).2 = (db.executeCommand first).2 ∧
    ((db.executeCommand first).1.executeCommand second).2 = (db.executeCommand second).2 ∧
    ((db.executeCommand first).1.executeCommand second).1 =
      ((db.executeCommand second).1.executeCommand first).1 := by
  obtain ⟨act, acts⟩ := executeCommand_eq_onTable one
  obtain ⟨further, goesOn⟩ := executeCommand_eq_onTable two
  simp only [acts, goesOn]
  exact ⟨onTable_snd apart.symm further act, onTable_snd apart act further,
    onTable_comm apart act further⟩

/-- Two tables, of which the first refuses a value that it has already. -/
def paired : Database :=
  (fresh true).run ["CREATE TABLE t (a INT UNIQUE)", "INSERT INTO t (1)", "INSERT INTO t (2)",
    "CREATE TABLE u (b INT UNIQUE)", "INSERT INTO u (3)"]

/-- A change of the first table that comes to the same value twice. -/
def doubling : Command := .update (some "t") (some "a") (.int 1) none

/-- A deletion of all that the second table has. -/
def clearing : Command := .delete (some "u") none

theorem executeCommand_comm_of_refusal :
    Reachable true paired ∧ (paired.executeCommand doubling).2.toOption.isNone ∧
    ((paired.executeCommand clearing).1.executeCommand doubling).2 =
      (paired.executeCommand doubling).2 ∧
    ((paired.executeCommand doubling).1.executeCommand clearing).2 =
      (paired.executeCommand clearing).2 ∧
    ((paired.executeCommand doubling).1.executeCommand clearing).1 =
      ((paired.executeCommand clearing).1.executeCommand doubling).1 :=
  ⟨(Reachable.opened (openOn_empty true)).run _, by decide +kernel,
    executeCommand_comm paired rfl rfl (by decide)⟩

end Database
end RowStore
