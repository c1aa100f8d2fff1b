import RowStore.Proofs.Table.Invariant

/-! Indexes that are not refreshed. They go on knowing values that no row has any more. As long as
no indexed value is changed they also know all values that rows have, and then no two rows come to
share one. -/
namespace RowStore

theorem Entries.has_congr {α : Type} {entries : Entries α}
    (keys : ∀ entry ∈ entries, entry.1.isScalar) {v w : Value} (left : v.isScalar)
    (right : w.isScalar) (same : v.same w) : entries.has v = entries.has w := by
  have agree (entry : Value × α) (member : entry ∈ entries) : entry.1.same v = entry.1.same w := by
    have key := keys entry member
    rw [Value.same_comm key left, Value.same_comm key right]
    exact Value.same_congr left right key same
  rw [Bool.eq_iff_iff, has_eq_any, has_eq_any, List.any_eq_true, List.any_eq_true]
  exact exists_congr fun entry => and_congr_right fun member => by rw [agree entry member]

namespace Table

/-- The indexes know the values of all rows in their columns, and no two rows share one. -/
structure Covered (table : Table) : Prop where
  keys : ∀ pair ∈ table.indexes.entries, ∀ entry ∈ pair.2, entry.1.isScalar
  known : ∀ pair ∈ table.indexes.entries, ∀ row ∈ table.rows, Entries.has pair.2 (row.at pair.1)
  distinct : Distinct table.indexes.names table.rows

theorem covered_new (name : Value) (columns : List Column) (refresh : Bool) :
    (new name columns refresh).Covered where
  keys := by
    intro pair member
    obtain ⟨c, _, same⟩ := List.mem_map.mp (Fields.mem_ofPairs member)
    simp [← same]
  known := by simp
  distinct := by simp

theorem entries_appended {table : Table} {row : Row} (keyed : row.IsKeyed)
    (free : table.indexes.check row = .ok ()) :
    (table.appended row).indexes.entries = table.indexes.entries.map fun pair =>
      (pair.1, pair.2 ++ [(row.at pair.1, table.nextId)]) := by
  have free := (Indexes.check_eq_ok_iff table.indexes keyed).mp free
  simp only [Table.appended, Indexes.add, Indexes.addTo_eq keyed]
  apply List.map_congr_left
  intro pair member
  rw [Entries.put_of_not_has (free pair member)]

theorem Covered.appended {table : Table} (covered : table.Covered) (sound : table.Sound) {row : Row}
    (keyed : row.IsKeyed) (free : table.indexes.check row = .ok ()) :
    (table.appended row).Covered := by
  have entries := entries_appended keyed free
  have free := (Indexes.check_eq_ok_iff table.indexes keyed).mp free
  refine ⟨?_, ?_, ?_⟩
  · rw [entries, List.forall_mem_map]
    intro pair member entry there
    rcases List.mem_append.mp there with old | new
    · exact covered.keys pair member entry old
    · obtain rfl := List.mem_singleton.mp new
      exact keyed.isScalar_valueAt _
  · rw [entries, List.forall_mem_map, rows_appended]
    intro pair member r there
    rw [Entries.has_eq_any, List.any_append, ← Entries.has_eq_any]
    rcases List.mem_append.mp there with old | new
    · simp [covered.known pair member r old]
    · obtain rfl := List.mem_singleton.mp new
      simp [Value.same_refl (keyed.isScalar_valueAt _)]
  · rw [names_appended, rows_appended, Distinct.append_singleton]
    refine ⟨covered.distinct, fun column known r there => ?_⟩
    obtain ⟨pair, member, rfl⟩ := List.mem_map.mp known
    have scalar := (sound.keyed there).isScalar_valueAt (some pair.1)
    -- A shared value would be known to the index already.
    apply Bool.eq_false_iff.mpr
    intro shared
    have agree := Entries.has_congr (covered.keys pair member) scalar
      (keyed.isScalar_valueAt (some pair.1)) shared
    rw [covered.known pair member r there, free pair member] at agree
    contradiction

theorem Covered.insert {table after : Table} {values : List Value} {row : Row}
    (covered : table.Covered) (sound : table.Sound) (cells : ∀ v ∈ values, v.isCell)
    (done : table.insert values = .ok (after, row)) : after.Covered := by
  rcases insert_cases table values with ⟨e, failed⟩ | ⟨_, free, made⟩
  · simp [failed] at done
  · obtain ⟨rfl, -⟩ := Prod.mk.inj (Except.ok.inj (made.symm.trans done))
    exact covered.appended sound (table.makeRow_stored cells).isKeyed free

theorem withSlots_eq_stale {table : Table} (stale : table.indexes.refresh = false)
    (slots deleted : List Slot) :
    table.withSlots slots deleted = ({ table with slots, deleted }, .ok ()) := by
  simp [withSlots, Indexes.rowsChanged, stale]

theorem withSlots_stale {table : Table} (stale : table.indexes.refresh = false)
    (slots deleted : List Slot) : (table.withSlots slots deleted).1.indexes = table.indexes := by
  rw [withSlots_eq_stale stale]

/-- Without refreshing, nothing stands in the way of an update of a column that is there. -/
theorem update_of_stale {table : Table} (stale : table.indexes.refresh = false) {name : Text}
    (known : name ∈ table.columnNames) (v : Value) (filter : Option Filter) :
    table.update (some name) v filter =
      ((table.assigned name v filter).1, .ok (table.select filter).length) := by
  have allowed : table.indexes.beforeUpdate table.rows name v filter = .ok () := by
    simp [Indexes.beforeUpdate, stale]
  rw [update_of_known known, allowed, assigned, withSlots_eq_stale stale]
  rfl

theorem Covered.delete {table : Table} (covered : table.Covered)
    (stale : table.indexes.refresh = false) (filter : Option Filter) :
    (table.delete filter).1.Covered := by
  have part : ((table.slots.filter fun s => !passes filter s.row).map Slot.row).Sublist
      table.rows := List.filter_sublist.map Slot.row
  rw [delete_eq]
  refine ⟨?_, ?_, ?_⟩
  · rw [withSlots_stale stale]
    exact covered.keys
  · rw [withSlots_stale stale]
    intro pair member row there
    exact covered.known pair member row (part.subset there)
  · rw [withSlots_stale stale]
    exact covered.distinct.sublist part

/-- Whether an assignment gives an indexed value only to rows that have it already. -/
def keepsKeys (table : Table) (column : Option Text) (v : Value) (filter : Option Filter) : Bool :=
  column.all fun name => !table.indexes.names.contains name ||
    (table.select filter).all fun row => (row.at name).same v

/-- Whether an assignment leaves all indexed values alone: it names a column without an index, or no
row passes. -/
def sparesKeys (table : Table) (column : Option Text) (filter : Option Filter) : Bool :=
  column.all fun name => !table.indexes.names.contains name || (table.select filter).isEmpty

theorem same_assignedRow {table : Table} {name : Text} {v : Value} {filter : Option Filter}
    (keeps : table.keepsKeys (some name) v filter) {column : Text}
    (indexed : column ∈ table.indexes.names) {row : Row} (member : row ∈ table.rows)
    (keyed : row.IsKeyed) : (row.at column).same ((assignedRow name v filter row).at column) := by
  by_cases apart : name = column
  · obtain rfl := apart
    unfold assignedRow
    split
    · next passed =>
      rw [Row.at_put_self]
      simp only [keepsKeys, Option.all_some, List.contains_iff_mem.mpr indexed, Bool.not_true,
        Bool.false_or, List.all_eq_true] at keeps
      exact keeps row (List.mem_filter.mpr ⟨member, passed⟩)
    · exact Value.same_refl (keyed.isScalar_valueAt _)
  · rw [assignedRow_at apart]
    exact Value.same_refl (keyed.isScalar_valueAt _)

theorem Covered.update {table : Table} (covered : table.Covered) (sound : table.Sound)
    (stale : table.indexes.refresh = false) {column : Option Text} {v : Value}
    {filter : Option Filter} (cell : v.isCell) (keeps : table.keepsKeys column v filter) :
    (table.update column v filter).1.Covered := by
  rcases update_cases table column v filter with ⟨e, failed⟩ | ⟨name, _, rfl, _, made⟩
  · rw [failed]
    exact covered
  · have rows : (table.assigned name v filter).1.rows = table.rows.map (assignedRow name v filter) :=
      map_row_assignedSlot table name v filter
    have same {c : Text} (indexed : c ∈ table.indexes.names) {row : Row} (there : row ∈ table.rows) :=
      same_assignedRow keeps indexed there (sound.keyed there)
    have before {row : Row} (there : row ∈ table.rows) (c : Text) : (row.at c).isScalar :=
      (sound.keyed there).isScalar_valueAt _
    have after {row : Row} (there : row ∈ table.rows) (c : Text) :
        ((assignedRow name v filter row).at c).isScalar :=
      (assignedRow_stored (sound.stored row there) cell name filter).isKeyed.isScalar_valueAt _
    have indexes : (table.assigned name v filter).1.indexes = table.indexes :=
      withSlots_stale stale _ _
    rw [made]
    refine ⟨?_, ?_, ?_⟩
    · rw [indexes]
      exact covered.keys
    · rw [indexes, rows]
      intro pair member
      rw [List.forall_mem_map]
      intro row there
      rw [← Entries.has_congr (covered.keys pair member) (before there _) (after there _)
        (same (Fields.mem_names member) there)]
      exact covered.known pair member row there
    · rw [indexes, rows]
      intro c indexed
      rw [List.pairwise_map]
      apply (covered.distinct c indexed).imp_of_mem
      intro r s left right apart
      rw [← Value.same_congr (before left c) (after left c) (after right c) (same indexed left),
        Value.same_comm (before left c) (after right c),
        ← Value.same_congr (before right c) (after right c) (before left c) (same indexed right),
        Value.same_comm (before right c) (before left c)]
      exact apart

end Table
end RowStore
