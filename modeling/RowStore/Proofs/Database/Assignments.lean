import RowStore.Proofs.Database.Acceptance
import RowStore.Proofs.Database.Filtering
import RowStore.Proofs.Quotations

/-! Assignments of quoted values to all rows, where indexes are not refreshed. The quotes are gone
when the words of a query are read. Every value is data all the same, but for one: the anchor of
conditions. Nothing is behind it then, and a condition on no column holds of no row. -/
namespace RowStore.Database

variable {db : Database} {name column word : Text} {table : Table}

theorem Valid.executeCommand_update_of_stale (valid : db.Valid) (stale : db.refresh = false)
    (found : Fields.find? db.tables name = some table) (known : column ∈ table.columnNames)
    (v : Value) (filter : Option Filter) :
    db.executeCommand (.update (some name) (some column) v filter) =
      ({ db with tables := Fields.put db.tables name (table.assigned column v filter).1 },
        .ok .done) := by
  have kept := valid.named (named_of_find? found)
  rw [executeCommand_update, change_of_find? found,
    Table.update_of_stale (kept.policy.trans stale) known]
  rfl

/-- Without refreshing, a query that sets a column of a table to a quoted value goes through where
all types can be copied. Every row has the value in this column then, and all else is as it was,
unless the value is the anchor of conditions: then the tables are what they were. -/
theorem Reachable.execute_assignment (reachable : Reachable false db) (calm : db.OverMemory)
    (shallow : db.Shallow) (found : Fields.find? db.tables name = some table)
    (known : column ∈ table.columnNames)
    (target : Query.IsWhole name) (named : Query.IsWhole column) (given : Query.IsWhole word)
    (source : name ≠ "SET" ∧ name ≠ "WHERE") (set : column ≠ "WHERE")
    (short : Query.isOverlong word = false) :
    ∃ after left cell, Query.coerce (some word) = .ok cell ∧
      db.execute (Query.assignment name column word) = (after, .ok .done) ∧
      after.tables = Fields.put db.tables name left ∧
      (word ≠ "WHERE" → SetAt (fun _ => true) column cell table.rows left.rows) ∧
      (word = "WHERE" → left = table) := by
  obtain ⟨valid, stale⟩ := reachable.valid
  have kept := valid.named (named_of_find? found)
  obtain ⟨cell, read, printable⟩ := Query.exists_coerce short
  obtain ⟨store, done⟩ := valid.execute_done shallow calm
    (Query.parseText_assignment target named given source set read printable)
    (valid.executeCommand_update_of_stale stale found known cell _)
  refine ⟨_, _, cell, read, done, rfl, fun free => ?_, fun anchor => ?_⟩
  · rw [if_neg free, Table.rows_assigned]
    refine setAt_assignedRow (fun row member => ?_) cell fun _ _ _ => rfl
    rw [kept.toSound.names row member, List.mem_eraseDups]
    exact known
  -- Nothing is named by the condition, and the null is not equal to what is not a number.
  · have spared : ∀ row ∈ table.rows, passes (some ⟨none, .float (.nan .query)⟩) row = false :=
      fun row member => passes_of_isNan (kept.toSound.keyed member) rfl none
    have same := kept.update_of_spared spared (some column) cell
    rw [Table.update_of_stale (kept.policy.trans stale) known] at same
    rw [if_pos anchor]
    exact same

/-- Two rows with labels of their own. -/
def labelled : Database :=
  (fresh false).run ["CREATE TABLE t (a TEXT UNIQUE, b INT)", "INSERT INTO t (x, 1)",
    "INSERT INTO t (y, 2)"]

/-- An anchor of another clause is data, and all rows take it, although it is an indexed value. -/
theorem execute_assignment_of_labelled : ∃ table after left,
    Fields.find? labelled.tables "t" = some table ∧
    labelled.execute (Query.assignment "t" "a" "SET") = (after, .ok .done) ∧
    Fields.find? after.tables "t" = some left ∧
    SetAt (fun _ => true) "a" (.text "SET") table.rows left.rows := by
  obtain ⟨reachable, calm⟩ : Reachable false labelled ∧ labelled.OverMemory := reachable_run ..
  have known : (Fields.find? labelled.tables "t").any fun table =>
      table.columnNames = (["a", "b"] : List Text) := by decide +kernel
  obtain ⟨table, found, names⟩ := (Option.any_eq_true _ _).mp known
  obtain ⟨after, left, cell, read, done, tables, set, -⟩ :=
    @Reachable.execute_assignment labelled "t" "a" "SET" table reachable calm
      (shallow_run_fresh false _) found
      (by rw [of_decide_eq_true names]; decide) (by decide) (by decide) (by decide) (by decide)
      (by decide) (by decide +kernel)
  have data : Query.coerce (some "SET") = .ok (.text "SET") :=
    Query.coerce_of_plain (by decide +kernel)
  obtain rfl := Except.ok.inj (data.symm.trans read)
  exact ⟨table, after, left, found, done, by rw [tables, Fields.find?_put_self],
    set (by decide)⟩

theorem execute_assignment_deepTyped {n : Nat} (deep : Column.copyDepth < n) :
    ((deepTyped n).execute (Query.assignment "t" "a" "x")).2 = .error (.crash .tooDeep) := by
  obtain ⟨valid, stale, -⟩ := valid_of_openOn (openOn_deepTyped n)
  have copied : ¬(deepTyped n).Shallow := mt (shallow_deepTyped_iff n).mp (Nat.not_le.mpr deep)
  obtain ⟨cell, read, printable⟩ := @Query.exists_coerce "x" (by decide +kernel)
  have parsed := @Query.parseText_assignment "t" "a" "x" (by decide) (by decide) (by decide)
    (by decide) (by decide) cell read printable
  have carried := valid.executeCommand_update_of_stale stale
    (show Fields.find? (deepTyped n).tables "t" = some (deepTable n) from rfl)
    (show ("a" : Text) ∈ (deepTable n).columnNames from List.mem_singleton_self _) cell
  rw [valid.execute_of_not_shallow copied]
  simp only [carryOut, parsed, carried, bind, Except.bind]
  rfl

/-- The anchor of conditions is answered like any other value, but no row takes it. And nothing is
answered where there is no snapshot. -/
theorem not_execute_assignment :
    let outcome := labelled.execute (Query.assignment "t" "a" "WHERE")
    ((Reachable false labelled ∧ labelled.OverMemory) ∧
      Query.coerce (some "WHERE") = .ok (.text "WHERE") ∧ (∃ answer, outcome.2 = .ok answer) ∧
      outcome.1.tables.map (fun pair => pair.2.rows.map fun row =>
        (row.at "a").equal (.text "WHERE")) = [[false, false]]) ∧
    (Reachable false (deepTyped 700) ∧ (deepTyped 700).OverMemory) ∧
      ((deepTyped 700).execute (Query.assignment "t" "a" "x")).2 = .error (.crash .tooDeep) :=
  ⟨⟨reachable_run .., Query.coerce_of_plain (by decide +kernel),
    exists_ok_of_isSome (by decide +kernel), by decide +kernel⟩,
    ⟨.opened (openOn_deepTyped 700), _, rfl, rfl⟩, execute_assignment_deepTyped (by decide)⟩

end RowStore.Database
