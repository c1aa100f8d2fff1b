import Mathlib.Data.List.Basic
import RowStore.Proofs.Registration

/-! Rebuilding against its dry run. The dry run looks at the columns of a row one by one and keeps
what it saw apart from the indexes; a rebuilding checks all columns of a row before it registers
any. Both stop at the first repetition, and at nothing else. -/
namespace RowStore.Indexes

variable {α : Type}

theorem RepeatsFirst.mem {names : List Text} {rows : List Row} {column : Text} {row : Row}
    (first : RepeatsFirst names rows column row) : row ∈ rows := by
  obtain ⟨-, -, front, back, -, rfl, -⟩ := first
  simp

theorem insertAll_result {indexes : Indexes α} {done rows : List (Row × α)}
    (registers : indexes.Registers done) (keyed : ∀ pair ∈ rows, pair.1.IsKeyed) :
    (indexes.insertAll rows).2 =
      match firstRepeat indexes.names (done.map Prod.fst) (rows.map Prod.fst) with
      | none => .ok ()
      | some (column, row) => fail (.duplicate column (row.at column) indexes.table) := by
  induction rows generalizing indexes done with
  | nil => rfl
  | cons pair rest ih =>
    obtain ⟨row, a⟩ := pair
    obtain ⟨first, keyed⟩ := List.forall_mem_cons.mp keyed
    have looked (column : Text) :
        (done.map Prod.fst).any (fun r => (r.at column).same (row.at column)) =
          done.any fun pair => (pair.1.at column).same (row.at column) := by
      rw [List.any_map]
      rfl
    have checked := registers.check_eq first
    simp only [List.map_cons, firstRepeat, looked]
    cases taken : indexes.names.find? fun column =>
        done.any fun pair => (pair.1.at column).same (row.at column) with
    | some column =>
      rw [taken] at checked
      simp only [insertAll, insert, checked]
      rfl
    | none =>
      rw [taken] at checked
      have later := ih (registers_add registers first checked a) keyed
      rw [names_add, List.map_append] at later
      rw [insertAll_of_free first checked, later]
      rfl

/-- A rebuilding comes to what its dry run comes to. -/
theorem rebuild_result (indexes : Indexes α) {rows : List (Row × α)}
    (keyed : ∀ pair ∈ rows, pair.1.IsKeyed) :
    (indexes.rebuild rows).2 = indexes.validate (rows.map Prod.fst) := by
  have stops := insertAll_result (registers_cleared indexes) keyed
  rw [names_cleared] at stops
  rw [validate_eq indexes (List.forall_mem_map.mpr keyed)]
  exact stops

/-- Rows of cells that can be written pass the dry run exactly if they can be registered together.
If they pass, the rebuilt indexes hold one entry for each row and nothing of what was in them
before. If not, the dry run and the rebuilding fail alike, with the first repetition. The dry run
gives back nothing else, so it leaves the indexes as they are. -/
theorem rebuild_eq_validate (indexes : Indexes α) {rows : List (Row × α)}
    (cells : ∀ pair ∈ rows, ∀ cell ∈ pair.1, cell.2.isScalar ∧ cell.2.printable)
    (named : indexes.table.printable) :
    (indexes.rebuild rows).2 = indexes.validate (rows.map Prod.fst) ∧
    ((Distinct indexes.names (rows.map Prod.fst) ∧
        indexes.validate (rows.map Prod.fst) = .ok () ∧
        (indexes.rebuild rows).1.entries =
          indexes.names.map fun column => (column, Entries.ofRows column rows)) ∨
      ∃ column row, RepeatsFirst indexes.names (rows.map Prod.fst) column row ∧
        indexes.validate (rows.map Prod.fst) =
          .error (.engine (.duplicate column (row.at column) indexes.table))) := by
  have keyed : ∀ pair ∈ rows, pair.1.IsKeyed :=
    fun pair member cell there => (cells pair member cell there).1
  have each : ∀ row ∈ rows.map Prod.fst, row.IsKeyed := List.forall_mem_map.mpr keyed
  refine ⟨rebuild_result indexes keyed, ?_⟩
  have checked := validate_eq indexes each
  cases found : firstRepeat indexes.names [] (rows.map Prod.fst) with
  | none =>
    rw [found] at checked
    have distinct := (validate_eq_ok_iff each).mp checked
    have registers := (rebuild_of_distinct keyed distinct).2
    exact .inl ⟨distinct, checked, by rw [registers.entries_eq, names_rebuild]⟩
  | some repetition =>
    obtain ⟨column, row⟩ := repetition
    rw [found] at checked
    have first := firstRepeat_eq_some .nil found
    obtain ⟨pair, there, rfl⟩ := List.mem_map.mp first.mem
    have written : (pair.1.at column).printable :=
      @Row.valueAt_of_forall (fun v => v.printable) rfl pair.1
        (fun cell held => (cells pair there cell held).2) (some column)
    refine .inr ⟨column, pair.1, first, checked.trans ?_⟩
    exact fail_eq_engine (by simpa [EngineError.values] using ⟨written, named⟩)

/-- Indexes on two columns that hold what is in no row any more. -/
def outdated : Indexes Nat :=
  ⟨.text "t", true, [("a", [(.int 9, 7)]), ("b", [(.text "x", 7), (.null, 8)])]⟩

/-- Three rows of which the last repeats both values, one of them by having no such column. -/
def repeating : List (Row × Nat) :=
  [([("a", .int 1), ("b", .text "x")], 0), ([("a", .int 2), ("b", .null)], 1),
    ([("a", .bool true)], 2)]

theorem rebuild_eq_validate_of_repeating :
    (∀ pair ∈ repeating, ∀ cell ∈ pair.1, cell.2.isScalar ∧ cell.2.printable) ∧
    (outdated.rebuild repeating).2 = .error (.engine (.duplicate "a" (.bool true) (.text "t"))) ∧
    (outdated.rebuild (repeating.take 2)).1.entries =
      ([("a", [(.int 1, 0), (.int 2, 1)]), ("b", [(.text "x", 0), (.null, 1)])] :
        Fields (Entries Nat)) := by
  have cells : ∀ pair ∈ repeating, ∀ cell ∈ pair.1, cell.2.isScalar ∧ cell.2.printable := by
    decide +kernel
  have stopped : outdated.validate (repeating.map Prod.fst) =
      .error (.engine (.duplicate "a" (.bool true) (.text "t"))) := by cbv
  have passed : outdated.validate ((repeating.take 2).map Prod.fst) = .ok () := by cbv
  refine ⟨cells, (rebuild_eq_validate outdated cells rfl).1.trans stopped, ?_⟩
  rcases (rebuild_eq_validate outdated
    (fun pair member => cells pair (List.mem_of_mem_take member)) rfl).2 with
    ⟨-, -, entries⟩ | ⟨column, row, -, failed⟩
  · exact entries
  · rw [passed] at failed
    simp only [reduceCtorEq] at failed

end RowStore.Indexes
