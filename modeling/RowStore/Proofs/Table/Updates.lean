import Mathlib.Data.List.Forall2
import Mathlib.Data.List.Pairwise
import RowStore.Proofs.Binary64.Rounding
import RowStore.Proofs.Table.Refreshed

/-! Updates of tables whose indexes are refreshed. A value is refused exactly if it would then be
there twice in an indexed column: in two rows that pass, or in the only one and another row. -/
namespace RowStore

namespace Value

theorem printable_iff_asKey {v : Value} (scalar : v.isScalar) :
    v.printable ↔ ∀ n, v.asKey = some (.units n) → n.natAbs < tooLong * Binary64.one := by
  have units (m : Int) : (∀ n, some (Key.units m) = some (.units n) →
      n.natAbs < tooLong * Binary64.one) ↔ m.natAbs < tooLong * Binary64.one := by
    simp only [Option.some.injEq, Key.units.injEq, forall_eq']
  cases v with
  | list | record => simp [isScalar] at scalar
  | bool b =>
    have small : (if b then (1 : Int) else 0).natAbs < tooLong := by cases b <;> decide +kernel
    rw [asKey, units, Int.natAbs_mul, Int.natAbs_natCast]
    exact iff_of_true rfl (Nat.mul_lt_mul_of_pos_right small Binary64.pos_one)
  | int n =>
    rw [asKey, units, Int.natAbs_mul, Int.natAbs_natCast, Nat.mul_lt_mul_right Binary64.pos_one,
      printable, decide_eq_true_eq]
  | float x =>
    cases x with
    | finite negative m =>
      have size : (Binary64.signedUnits negative m.units).natAbs = m.units := by
        cases negative
        · exact Int.natAbs_natCast _
        · exact (Int.natAbs_neg _).trans (Int.natAbs_natCast _)
      have limit : 2 ^ 2098 ≤ tooLong * Binary64.one := by decide +kernel
      rw [asKey, units, size]
      exact iff_of_true rfl (Nat.lt_of_lt_of_le m.lt_limit limit)
    | _ =>
      refine iff_of_true rfl fun n same => ?_
      simp only [asKey, Option.some.injEq, reduceCtorEq] at same
  | _ =>
    refine iff_of_true rfl fun n same => ?_
    simp only [asKey, Option.some.injEq, reduceCtorEq] at same

theorem printable_congr {v w : Value} (left : v.isScalar) (right : w.isScalar)
    (same : v.same w) : v.printable = w.printable := by
  rw [Bool.eq_iff_iff, printable_iff_asKey left, printable_iff_asKey right,
    (same_iff_asKey left right).mp same]

end Value

theorem distinct_iff_singleton {columns : List Text} {rows : List Row} :
    Distinct columns rows ↔ ∀ column ∈ columns, Distinct [column] rows := by
  simp only [Distinct, List.forall_mem_singleton]

theorem distinct_singleton_iff {rows : List Row} (keyed : ∀ row ∈ rows, row.IsKeyed)
    {column : Text} : Distinct [column] rows ↔
      rows.Pairwise fun r s => (r.at column).asKey ≠ (s.at column).asKey := by
  rw [Distinct, List.forall_mem_singleton]
  refine List.Pairwise.iff_of_mem fun {r s} left right => ?_
  rw [ne_eq, ← Value.same_iff_asKey ((keyed r left).isScalar_valueAt _)
    ((keyed s right).isScalar_valueAt _), Bool.not_eq_true]

theorem length_filter_le_one_iff {rows : List Row} {p : Row → Bool} :
    (rows.filter p).length ≤ 1 ↔ rows.Pairwise fun r s => ¬(p r ∧ p s) := by
  have apart : (rows.Pairwise fun r s => ¬(p r ∧ p s)) ↔
      (rows.filter p).Pairwise fun _ _ => False := by
    rw [List.pairwise_filter]
    simp
  rw [apart]
  match rows.filter p with
  | [] | [_] => simp
  | _ :: s :: _ =>
    refine ⟨fun few => ?_, fun none => ?_⟩
    · simp only [List.length_cons] at few
      omega
    · exact absurd (List.rel_of_pairwise_cons none (.head _)) id

namespace Table

/-- Whether a value would be in an indexed column of two rows: in those that pass, or in the only
one that does and in another row. -/
def Clashes (table : Table) (name : Text) (v : Value) (filter : Option Filter) : Prop :=
  (∃ column ∈ table.columns, column.indexed ∧ column.name = name) ∧
    (2 ≤ (table.select filter).length ∨
      (table.select filter).length = 1 ∧
        ∃ row ∈ table.rows, ¬passes filter row ∧ (row.at name).equal v)

instance (table : Table) (name : Text) (v : Value) (filter : Option Filter) :
    Decidable (table.Clashes name v filter) :=
  inferInstanceAs (Decidable (_ ∧ _))

theorem Refreshed.assigned_keyed {table : Table} (kept : table.Refreshed) {v : Value}
    (scalar : v.isScalar) (name : Text) (filter : Option Filter) :
    ∀ row ∈ table.rows.map (assignedRow name v filter), row.IsKeyed :=
  List.forall_mem_map.mpr fun row member =>
    assignedRow_keyed (kept.keyed row member) scalar name filter

theorem Refreshed.distinct_assigned_of_ne {table : Table} (kept : table.Refreshed)
    {name column : Text} (indexed : column ∈ table.indexes.names) (apart : name ≠ column)
    (v : Value) (filter : Option Filter) :
    Distinct [column] (table.rows.map (assignedRow name v filter)) := by
  apply (distinct_iff_singleton.mp kept.current.distinct column indexed).map_of_at_eq
  rintro other member row -
  rw [List.mem_singleton.mp member]
  exact assignedRow_at apart v filter row

theorem Refreshed.same_of_repeated {table : Table} (kept : table.Refreshed) {name : Text}
    {v : Value} (scalar : v.isScalar) (filter : Option Filter)
    (indexed : name ∈ table.indexes.names) {front back : List Row} {r row : Row}
    (rows : table.rows.map (assignedRow name v filter) = front ++ row :: back)
    (earlier : r ∈ front) (same : (r.at name).same (row.at name)) : (row.at name).same v := by
  obtain ⟨before, rest, there, rfl, tail⟩ := List.map_eq_append_iff.mp rows
  obtain ⟨second, after, rfl, rfl, rfl⟩ := List.map_eq_cons_iff.mp tail
  obtain ⟨first, member, rfl⟩ := List.mem_map.mp earlier
  have keyed : (second.at name).isScalar :=
    (kept.keyed second (by simp [there])).isScalar_valueAt _
  rw [at_assignedRow, at_assignedRow] at same
  rw [at_assignedRow]
  by_cases passed : passes filter second
  · rw [if_pos passed]
    exact Value.same_refl scalar
  · rw [if_neg passed] at same ⊢
    by_cases other : passes filter first
    · rw [if_pos other] at same
      rwa [Value.same_comm keyed scalar]
    · -- Neither passes, so the two values were there before.
      rw [if_neg other] at same
      have apart := kept.current.distinct name indexed
      rw [there, List.pairwise_append] at apart
      rw [apart.2.2 first member second (.head _)] at same
      contradiction

section

variable {table : Table} (kept : table.Refreshed) {name : Text} {v : Value} (scalar : v.isScalar)
  (number : ¬v.isNan) (filter : Option Filter)
include kept scalar number

theorem Refreshed.equal_iff {row : Row} (member : row ∈ table.rows) (column : Text) :
    (row.at column).equal v ↔ (row.at column).asKey = v.asKey := by
  have keyed := (kept.keyed row member).isScalar_valueAt (some column)
  rw [Value.equal_eq_same keyed scalar number, Value.same_iff_asKey keyed scalar]

theorem Refreshed.free_of_distinct_assigned
    (distinct : Distinct [name] (table.rows.map (assignedRow name v filter))) :
    (table.select filter).length ≤ 1 ∧ ((table.select filter).length = 1 →
      ∀ row ∈ table.rows, ¬passes filter row → ¬(row.at name).equal v) := by
  have apart := (distinct_singleton_iff (kept.assigned_keyed scalar name filter)).mp distinct
  rw [List.pairwise_map] at apart
  constructor
  · refine length_filter_le_one_iff.mpr (apart.imp fun differ both => differ ?_)
    rw [at_assignedRow, at_assignedRow, if_pos both.1, if_pos both.2]
  · intro single row member missed held
    obtain ⟨r, there⟩ := List.exists_mem_of_length_pos (Nat.lt_of_lt_of_eq Nat.one_pos single.symm)
    obtain ⟨there, passed⟩ := List.mem_filter.mp there
    have other : r ≠ row := fun same => missed (same ▸ passed)
    -- Either of the two rows may come first, and keys differ both ways.
    have : Std.Symm fun r s => ((assignedRow name v filter r).at name).asKey ≠
        ((assignedRow name v filter s).at name).asKey := ⟨fun _ _ => Ne.symm⟩
    have differ := apart.forall there member other
    rw [at_assignedRow, at_assignedRow, if_pos passed, if_neg missed] at differ
    exact differ ((kept.equal_iff scalar number member name).mp held).symm

theorem Refreshed.distinct_assigned_of_free (indexed : name ∈ table.indexes.names)
    (few : (table.select filter).length ≤ 1)
    (free : (table.select filter).length = 1 →
      ∀ row ∈ table.rows, ¬passes filter row → ¬(row.at name).equal v) :
    Distinct [name] (table.rows.map (assignedRow name v filter)) := by
  rw [distinct_singleton_iff (kept.assigned_keyed scalar name filter), List.pairwise_map]
  have before := (distinct_singleton_iff kept.keyed).mp
    (distinct_iff_singleton.mp kept.current.distinct name indexed)
  have free {r s : Row} (left : r ∈ table.rows) (right : s ∈ table.rows) (passed : passes filter r)
      (missed : ¬passes filter s) : (s.at name).asKey ≠ v.asKey := by
    have single := List.length_pos_of_mem (List.mem_filter.mpr ⟨left, passed⟩)
    exact mt (kept.equal_iff scalar number right name).mpr
      (free (Nat.le_antisymm few single) s right missed)
  refine (before.and (length_filter_le_one_iff.mp few)).imp_of_mem ?_
  rintro r s left right ⟨differ, once⟩
  rw [at_assignedRow, at_assignedRow]
  by_cases first : passes filter r <;> by_cases second : passes filter s
  · exact absurd ⟨first, second⟩ once
  · rw [if_pos first, if_neg second]
    exact (free left right first second).symm
  · rw [if_neg first, if_pos second]
    exact free right left second first
  · rwa [if_neg first, if_neg second]

/-- A value clashes exactly if rows would share it in an indexed column. -/
theorem Refreshed.clashes_iff : table.Clashes name v filter ↔ name ∈ table.indexes.names ∧
    ¬Distinct [name] (table.rows.map (assignedRow name v filter)) := by
  rw [Clashes, ← mem_indexedNames_iff, ← kept.indexed]
  refine and_congr_right fun indexed => ?_
  constructor
  · intro shared distinct
    obtain ⟨few, free⟩ := kept.free_of_distinct_assigned scalar number filter distinct
    rcases shared with many | ⟨single, row, member, missed, held⟩
    · omega
    · exact free single row member missed held
  · intro shared
    refine Classical.byContradiction fun none => shared ?_
    refine kept.distinct_assigned_of_free scalar number filter indexed ?_ ?_
    · exact Nat.le_of_not_lt fun many => none (.inl many)
    · exact fun single row member missed held => none (.inr ⟨single, row, member, missed, held⟩)

theorem Refreshed.beforeUpdate_of_not_clashes (free : ¬table.Clashes name v filter) :
    table.indexes.beforeUpdate table.rows name v filter = .ok () := by
  rw [beforeUpdate_eq kept.policy]
  split
  · next indexed =>
    have distinct := Classical.byContradiction fun shared =>
      free ((kept.clashes_iff scalar number filter).mpr ⟨indexed, shared⟩)
    refine (Indexes.validate_eq_ok_iff (kept.assigned_keyed scalar name filter)).mpr
      (distinct_iff_singleton.mpr fun column member => ?_)
    by_cases same : name = column
    · exact same ▸ distinct
    · exact kept.distinct_assigned_of_ne member same v filter
  · rfl

theorem Refreshed.beforeUpdate_of_clashes (clashes : table.Clashes name v filter) :
    ∃ w : Value, w.isScalar ∧ w.same v ∧ table.indexes.beforeUpdate table.rows name v filter =
      fail (.duplicate name w table.name) := by
  have assigned := kept.assigned_keyed scalar name filter
  obtain ⟨indexed, shared⟩ := (kept.clashes_iff scalar number filter).mp clashes
  rw [beforeUpdate_eq kept.policy, if_pos indexed]
  cases checked : table.indexes.validate (table.rows.map (assignedRow name v filter)) with
  | ok =>
    have distinct := (Indexes.validate_eq_ok_iff assigned).mp checked
    exact absurd (distinct_iff_singleton.mp distinct name indexed) shared
  | error e =>
    obtain ⟨column, known, front, row, back, rows, ⟨r, earlier, same⟩, rfl⟩ :=
      Indexes.validate_error assigned checked
    have repeated : ¬Distinct [column] (table.rows.map (assignedRow name v filter)) := by
      intro distinct
      have apart := (List.pairwise_append.mp (rows ▸ distinct column (.head _))).2.2
      rw [apart r earlier row (.head _)] at same
      contradiction
    obtain rfl : name = column := Classical.byContradiction fun other =>
      repeated (kept.distinct_assigned_of_ne known other v filter)
    have member : row ∈ table.rows.map (assignedRow name v filter) :=
      rows ▸ List.mem_append_right front (.head _)
    refine ⟨row.at name, (assigned row member).isScalar_valueAt _, ?_, by rw [kept.owner]; rfl⟩
    exact kept.same_of_repeated scalar filter indexed rows earlier same

/-- What is said of a value that clashes can be written if the value can, and the name of the
table. -/
theorem Refreshed.update_of_clashes (known : name ∈ table.columnNames)
    (clashes : table.Clashes name v filter) :
    ∃ w : Value, w.equal v ∧ table.update (some name) v filter = (table,
      .error (if v.printable ∧ table.name.printable then .engine (.duplicate name w table.name)
        else .crash (.tooManyDigits none))) := by
  obtain ⟨w, keyed, same, refused⟩ := kept.beforeUpdate_of_clashes scalar number filter clashes
  refine ⟨w, by rwa [Value.equal_eq_same keyed scalar number], ?_⟩
  rw [update_of_known known, refused, ← Value.printable_congr keyed scalar same]
  simp [fail, Failure.of, EngineError.values]

/-- One that does not clash is set in the rows that pass and nowhere else. -/
theorem Refreshed.update_of_not_clashes (known : name ∈ table.columnNames)
    (free : ¬table.Clashes name v filter) : ∃ after : Table,
      table.update (some name) v filter = (after, .ok (table.select filter).length) ∧
      after.rows = table.rows.map (assignedRow name v filter) ∧ after.Refreshed := by
  have allowed := kept.beforeUpdate_of_not_clashes scalar number filter free
  obtain ⟨done, after⟩ := kept.assigned known scalar allowed
  refine ⟨(table.assigned name v filter).1, ?_, table.map_row_assignedSlot name v filter, after⟩
  rw [update_of_known known, allowed, done]
  rfl

end

/-- In a table whose indexes are refreshed, a column takes any value but what is not a number, in
the rows that pass, exactly if the value does not clash. One that clashes is refused for the column,
in words unless the value or the name of the table has too many digits to be written. -/
theorem Reachable.update_exact {table : Table} (reachable : table.Reachable true) {name : Text}
    (known : name ∈ table.columnNames) {v : Value} (scalar : v.isScalar) (number : ¬v.isNan)
    (filter : Option Filter) :
    (table.Clashes name v filter →
      ∃ w : Value, w.equal v ∧ table.update (some name) v filter = (table,
        .error (if v.printable ∧ table.name.printable then .engine (.duplicate name w table.name)
          else .crash (.tooManyDigits none)))) ∧
    (¬table.Clashes name v filter → ∃ after,
      table.update (some name) v filter = (after, .ok (table.select filter).length) ∧
      after.Current ∧ List.Forall₂ (fun before row : Row =>
        Fields.names row = Fields.names before ∧ ∀ column, row.at column =
          if column = name ∧ passes filter before then v else before.at column)
        table.rows after.rows) := by
  have kept := reachable.refreshed
  refine ⟨kept.update_of_clashes scalar number filter known, fun free => ?_⟩
  obtain ⟨after, done, rows, fresh⟩ := kept.update_of_not_clashes scalar number filter known free
  refine ⟨after, done, fresh.current, ?_⟩
  rw [rows, List.forall₂_map_right_iff, List.forall₂_same]
  intro row member
  have there : name ∈ Fields.names row := by simpa [kept.names row member] using known
  refine ⟨assignedRow_names there v filter, fun column => ?_⟩
  by_cases same : column = name
  · simp [same, at_assignedRow]
  · simp [same, assignedRow_at (Ne.symm same)]

/-- Two rows in a column that is unique. -/
def twoRows : Table :=
  (new (.text "t") [⟨"a", .text "INT", false, true⟩] true).run [.insert [.int 1], .insert [.int 2]]

theorem twoRows_reachable : twoRows.Reachable true :=
  (Reachable.new (.text "t") [⟨"a", .text "INT", false, true⟩]).run (by decide)

/-- The truth value counts as one. The row that has it takes it and the other one does not. -/
theorem update_exact_of_twoRows :
    (∃ w : Value, w.equal (.bool true) ∧ twoRows.update "a" (.bool true) (some ⟨"a", .int 2⟩) =
      (twoRows, .error (.engine (.duplicate "a" w (.text "t"))))) ∧
    ∃ after, twoRows.update "a" (.bool true) (some ⟨"a", .int 1⟩) = (after, .ok 1) ∧
      after.Current := by
  have known : Text.ofString "a" ∈ twoRows.columnNames := by decide +kernel
  have exact (filter : Option Filter) :=
    @Reachable.update_exact twoRows twoRows_reachable "a" known (.bool true) rfl (by decide) filter
  constructor
  · exact (exact (some ⟨"a", .int 2⟩)).1 (by decide +kernel)
  · obtain ⟨after, done, current, -⟩ := (exact (some ⟨"a", .int 1⟩)).2 (by decide +kernel)
    exact ⟨after, done, current⟩

/-- A value with a digit too many would be in both rows, but is not refused in words. -/
theorem not_update_exact_of_twoRows : twoRows.Reachable true ∧
    twoRows.Clashes "a" (.int Value.tooLong) none ∧
    twoRows.update "a" (.int Value.tooLong) none =
      (twoRows, .error (.crash (.tooManyDigits none))) := by
  have clashes : twoRows.Clashes "a" (.int Value.tooLong) none := by decide +kernel
  obtain ⟨w, -, refused⟩ := twoRows_reachable.refreshed.update_of_clashes rfl (by decide) none
    (by decide +kernel) clashes
  have unwritten : ¬(Value.int Value.tooLong).printable := by decide +kernel
  rw [if_neg fun written => unwritten written.1] at refused
  exact ⟨twoRows_reachable, clashes, refused⟩

end Table
end RowStore
