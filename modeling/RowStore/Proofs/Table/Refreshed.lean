import RowStore.Proofs.Table.History
import RowStore.Proofs.Table.Replay

/-! Tables whose indexes are refreshed, whatever values without parts are in their cells. However
such a table came about, its indexes register the rows as they are. -/
namespace RowStore

/-- The values that a change brings to a table. -/
def Change.values : Change → List Value
  | .insert values => values
  | .update _ v _ => [v]
  | .delete _ => []

namespace Table

/-- The tables that can be reached under a policy: new ones, those made from records, and what
changes leave of them that bring values without parts. -/
inductive Reachable (refresh : Bool) : Table → Prop
  | new (name : Value) (columns : List Column) : Reachable refresh (new name columns refresh)
  | made {v : Value} {table : Table} : ofValue v refresh = .ok table → Reachable refresh table
  | changed {table : Table} {change : Change} :
    Reachable refresh table → (∀ v ∈ change.values, v.isScalar) →
      Reachable refresh (table.apply change).1

theorem Reachable.run {refresh : Bool} {table : Table} (reachable : table.Reachable refresh)
    {changes : List Change} (scalars : ∀ change ∈ changes, ∀ v ∈ change.values, v.isScalar) :
    (table.run changes).Reachable refresh := by
  induction changes generalizing table with
  | nil => exact reachable
  | cons change rest ih =>
    obtain ⟨first, scalars⟩ := List.forall_mem_cons.mp scalars
    exact ih (reachable.changed first) scalars

/-- What holds of a table whose indexes are refreshed. -/
structure Refreshed (table : Table) : Prop where
  names : ∀ row ∈ table.rows, Fields.names row = table.columnNames.eraseDups
  keyed : ∀ row ∈ table.rows, row.IsKeyed
  indexed : table.indexes.names = indexedNames table.columns
  owner : table.indexes.table = table.name
  policy : table.indexes.refresh = true
  current : table.Current

theorem refreshed_new (name : Value) (columns : List Column) :
    (new name columns true).Refreshed where
  names := by simp
  keyed := by simp
  indexed := indexed_new ..
  owner := rfl
  policy := rfl
  current := current_new ..

theorem rowOf_keyed {table : Table} {v : Value} {row : Row} (read : table.rowOf v = .ok row) :
    Fields.names row = table.columnNames.eraseDups ∧ row.IsKeyed := by
  obtain ⟨shaped, rfl⟩ := (rowOf_eq_ok_iff table v row).mp read
  refine ⟨Fields.names_ofPairs_map .., fun pair member => ?_⟩
  rw [(mem_arranged member).2]
  exact shaped.isScalar_cellAt pair.1

namespace Refreshed

variable {table : Table}

theorem appended (kept : table.Refreshed) {row : Row} (keyed : row.IsKeyed)
    (names : Fields.names row = table.columnNames.eraseDups)
    (free : table.indexes.check row = .ok ()) : (table.appended row).Refreshed where
  names := by simpa [or_imp, forall_and] using ⟨kept.names, names⟩
  keyed := by simpa [or_imp, forall_and] using ⟨kept.keyed, keyed⟩
  indexed := (names_appended table row).trans kept.indexed
  owner := kept.owner
  policy := kept.policy
  current := kept.current.appended keyed free

theorem withSlots (kept : table.Refreshed) {slots : List Slot} (deleted : List Slot)
    (names : ∀ row ∈ slots.map Slot.row, Fields.names row = table.columnNames.eraseDups)
    (keyed : ∀ row ∈ slots.map Slot.row, row.IsKeyed)
    (distinct : Distinct table.indexes.names (slots.map Slot.row)) :
    (table.withSlots slots deleted).2 = .ok () ∧ (table.withSlots slots deleted).1.Refreshed := by
  obtain ⟨done, current⟩ := withSlots_of_distinct table deleted keyed fun _ => distinct
  obtain ⟨indexed, owner, policy⟩ := table.withSlots_frame slots deleted
  exact ⟨done, names, keyed, indexed.trans kept.indexed, owner.trans kept.owner,
    policy.trans kept.policy, current kept.policy⟩

theorem assigned (kept : table.Refreshed) {name : Text} (known : name ∈ table.columnNames)
    {v : Value} (scalar : v.isScalar) {filter : Option Filter}
    (allowed : table.indexes.beforeUpdate table.rows name v filter = .ok ()) :
    (table.assigned name v filter).2 = .ok () ∧ (table.assigned name v filter).1.Refreshed := by
  refine kept.withSlots table.deleted ?_ ?_ ?_
  · rw [map_row_assignedSlot, List.forall_mem_map]
    intro row member
    have names := kept.names row member
    rw [assignedRow_names (by simpa [names] using known), names]
  · rw [map_row_assignedSlot, List.forall_mem_map]
    exact fun row member => assignedRow_keyed (kept.keyed row member) scalar name filter
  · rw [map_row_assignedSlot]
    exact distinct_assigned kept.keyed kept.current kept.policy scalar allowed

theorem apply (kept : table.Refreshed) {change : Change}
    (scalars : ∀ v ∈ change.values, v.isScalar) : (table.apply change).1.Refreshed := by
  cases change with
  | insert values =>
    rcases insert_cases table values with ⟨e, failed⟩ | ⟨count, free, made⟩
    · simpa [Table.apply, failed] using kept
    · have keyed : (table.makeRow values).IsKeyed := table.makeRow_keyed scalars
      have added := kept.appended keyed (makeRow_names count) free
      simpa [Table.apply, made] using added
  | update column v filter =>
    rcases update_cases table column v filter with ⟨e, failed⟩ | ⟨name, known, -, allowed, made⟩
    · simpa [Table.apply, failed] using kept
    · have after := (kept.assigned known (scalars v (List.mem_singleton.mpr rfl)) allowed).2
      simpa [Table.apply, made] using after
  | delete filter =>
    have part : ((table.slots.filter fun s => !passes filter s.row).map Slot.row).Sublist
        table.rows := List.filter_sublist.map Slot.row
    have after := (kept.withSlots (table.deleted ++ table.slots.filter fun s => passes filter s.row)
      (fun row member => kept.names row (part.subset member))
      (fun row member => kept.keyed row (part.subset member))
      (kept.current.distinct.sublist part)).2
    simpa [Table.apply, delete_eq] using after

theorem replay {rows : List Value} {after : Table} (kept : table.Refreshed)
    (done : rows.foldlM replayRow table = .ok after) : after.Refreshed := by
  induction rows generalizing table with
  | nil =>
    obtain rfl := Except.ok.inj done
    exact kept
  | cons v rest ih =>
    rw [List.foldlM_cons] at done
    obtain ⟨next, step, done⟩ := bind_eq_ok.mp done
    obtain ⟨row, read, step⟩ := bind_eq_ok.mp step
    rw [append_eq] at step
    obtain ⟨_, free, rfl⟩ := map_eq_ok.mp step
    obtain ⟨names, keyed⟩ := rowOf_keyed read
    exact ih (kept.appended keyed names free) done

end Refreshed

/-- Whatever was done to a table, its indexes register the rows as they are. -/
theorem Reachable.refreshed {table : Table} (reachable : table.Reachable true) :
    table.Refreshed := by
  induction reachable with
  | new name columns => exact refreshed_new name columns
  | made read =>
    rw [ofValue_eq] at read
    obtain ⟨⟨name, definitions, rows⟩, _, read⟩ := bind_eq_ok.mp read
    obtain ⟨columns, _, filled⟩ := bind_eq_ok.mp read
    exact (refreshed_new name columns).replay filled
  | changed _ scalars kept => exact kept.apply scalars

end Table
end RowStore
