import RowStore.Proofs.Table.Replay

/-! Which records make tables. A record does exactly if it has a name and the right lists, each
column has a name, each row has single values under the names of the columns, and no two rows share
a value in a column that asks for an index. Every other record is refused in words. -/
namespace RowStore

namespace Value

/-- Definitions of columns and records of rows that make up a table. -/
structure FitTogether (definitions rows : List Value) : Prop where
  named : ∀ definition ∈ definitions, definition.definedName?.isSome
  shaped : ∀ row ∈ rows, row.IsRowOf (definitions.filterMap definedName?)
  apart : ∀ definition ∈ definitions, definition.asksIndex →
    ∀ column, definition.definedName? = some column →
      rows.Pairwise fun r s => (r.cellAt column).asKey ≠ (s.cellAt column).asKey

/-- The record of a table. -/
def IsTableRecord (entry : Value) : Prop :=
  ∃ name definitions rows, entry.member? "name" = some name ∧
    entry.member? "columns" = some (.list definitions) ∧
    entry.member? "rows" = some (.list rows) ∧ FitTogether definitions rows

end Value

namespace Table

theorem distinct_arranged_iff {columns : List Column} {rows : List Value}
    (shaped : ∀ row ∈ rows, row.IsRowOf (columns.map Column.name)) :
    Distinct (indexedNames columns) (rows.map (arranged (columns.map Column.name))) ↔
      ∀ column ∈ columns, column.indexed → rows.Pairwise fun r s =>
        (r.cellAt column.name).asKey ≠ (s.cellAt column.name).asKey := by
  have each (column : Column) (member : column ∈ columns) :
      (rows.map (arranged (columns.map Column.name))).Pairwise
          (fun r s => (r.at column.name).same (s.at column.name) = false) ↔
        rows.Pairwise fun r s =>
          (r.cellAt column.name).asKey ≠ (s.cellAt column.name).asKey := by
    have known := List.mem_map_of_mem (f := Column.name) member
    rw [List.pairwise_map]
    apply List.Pairwise.iff_of_mem
    intro r s left right
    rw [at_arranged known, at_arranged known, Bool.eq_false_iff, ne_eq, ne_eq,
      Value.same_iff_asKey ((shaped r left).isScalar_cellAt _) ((shaped s right).isScalar_cellAt _)]
  constructor
  · intro distinct column member indexed
    apply (each column member).mp
    exact distinct column.name (mem_indexedNames_iff.mpr ⟨column, member, indexed, rfl⟩)
  · intro apart name known
    obtain ⟨column, member, indexed, rfl⟩ := mem_indexedNames_iff.mp known
    exact (each column member).mpr (apart column member indexed)

theorem replay_new_iff {name : Value} {columns : List Column} {refresh : Bool} {rows : List Value}
    (sound : (new name columns refresh).Sound) (kept : ∀ v ∈ rows, v.storable) :
    (∃ after, rows.foldlM replayRow (new name columns refresh) = .ok after) ↔
      (∀ row ∈ rows, row.IsRowOf (columns.map Column.name)) ∧
        ∀ column ∈ columns, column.indexed → rows.Pairwise fun r s =>
          (r.cellAt column.name).asKey ≠ (s.cellAt column.name).asKey := by
  have reads := mapM_eq_ok_iff (rowOf_eq_ok_iff (new name columns refresh)) rows
  rw [replay_iff sound (current_new name columns refresh) kept, sound.indexed]
  constructor
  · rintro ⟨read, done, distinct⟩
    obtain ⟨shaped, rfl⟩ := (reads read).mp done
    exact ⟨shaped, (distinct_arranged_iff shaped).mp distinct⟩
  · rintro ⟨shaped, apart⟩
    exact ⟨_, (reads _).mpr ⟨shaped, rfl⟩, (distinct_arranged_iff shaped).mpr apart⟩

theorem names_ofDefinition {definitions : List Value}
    (named : ∀ definition ∈ definitions, definition.definedName?.isSome) :
    (definitions.map Column.ofDefinition).map Column.name =
      definitions.filterMap Value.definedName? := by
  induction definitions with
  | nil => rfl
  | cons definition rest ih =>
    obtain ⟨first, named⟩ := List.forall_mem_cons.mp named
    obtain ⟨name, found⟩ := Option.isSome_iff_exists.mp first
    rw [List.map_cons, List.map_cons, ih named, List.filterMap_cons_some found,
      Column.ofDefinition, found, Option.getD_some]

/-- Definitions and rows fit together exactly if the columns of the definitions have names and the
rows fit them. -/
theorem fitTogether_iff (definitions rows : List Value) :
    Value.FitTogether definitions rows ↔
      (∀ definition ∈ definitions, definition.definedName?.isSome) ∧
      (∀ row ∈ rows, row.IsRowOf ((definitions.map Column.ofDefinition).map Column.name)) ∧
        ∀ column ∈ definitions.map Column.ofDefinition, column.indexed → rows.Pairwise fun r s =>
          (r.cellAt column.name).asKey ≠ (s.cellAt column.name).asKey := by
  constructor
  · intro fit
    refine ⟨fit.named, ?_, ?_⟩
    · rw [names_ofDefinition fit.named]
      exact fit.shaped
    · rw [List.forall_mem_map]
      intro definition member asked
      obtain ⟨name, found⟩ := Option.isSome_iff_exists.mp (fit.named definition member)
      simpa [Column.ofDefinition, found] using fit.apart definition member asked name found
  · rintro ⟨named, shaped, apart⟩
    refine ⟨named, ?_, ?_⟩
    · rwa [names_ofDefinition named] at shaped
    · intro definition member asked column found
      have apart := List.forall_mem_map.mp apart definition member asked
      simpa [Column.ofDefinition, found] using apart

/-- A table is made from a record exactly if it is the record of a table. -/
theorem ofValue_iff {v : Value} (kept : v.storable) (refresh : Bool) :
    (∃ table, ofValue v refresh = .ok table) ↔ v.IsTableRecord := by
  have defined := mapM_eq_ok_iff Column.ofValue_eq_ok_iff
  have fits {name : Value} {definitions rows : List Value}
      (entry : entryOf v = .ok (name, definitions, rows))
      (named : ∀ definition ∈ definitions, definition.definedName?.isSome) :
      (∃ table, rows.foldlM replayRow
          (new name (definitions.map Column.ofDefinition) refresh) = .ok table) ↔
        Value.FitTogether definitions rows := by
    obtain ⟨name_kept, typed, filled⟩ := entryOf_storable kept entry
    have types := Column.types_storable typed ((defined definitions _).mpr ⟨named, rfl⟩)
    rw [replay_new_iff (sound_new refresh name_kept types) filled, fitTogether_iff]
    exact (and_iff_right named).symm
  rw [ofValue_eq]
  constructor
  · rintro ⟨table, made⟩
    obtain ⟨⟨name, definitions, rows⟩, entry, made⟩ := bind_eq_ok.mp made
    obtain ⟨columns, read, made⟩ := bind_eq_ok.mp made
    obtain ⟨named, rfl⟩ := (defined definitions columns).mp read
    obtain ⟨found, foundColumns, foundRows⟩ := entryOf_eq_ok_iff.mp entry
    have fit := (fits entry named).mp ⟨table, made⟩
    exact ⟨name, definitions, rows, found, foundColumns, foundRows, fit⟩
  · rintro ⟨name, definitions, rows, found, foundColumns, foundRows, fit⟩
    have entry := entryOf_eq_ok_iff.mpr ⟨found, foundColumns, foundRows⟩
    have read := (defined definitions _).mpr ⟨fit.named, rfl⟩
    obtain ⟨table, made⟩ := (fits entry fit.named).mpr fit
    refine ⟨table, bind_eq_ok.mpr ⟨_, entry, ?_⟩⟩
    exact bind_eq_ok.mpr ⟨_, read, made⟩

theorem ofValue_error {v : Value} {refresh : Bool} {e : Failure} (kept : v.storable)
    (failed : ofValue v refresh = .error e) : e.OfSnapshot := by
  rw [ofValue_eq] at failed
  cases entry : entryOf v with
  | error fault =>
    rw [entry] at failed
    obtain rfl := Except.error.inj failed
    exact entryOf_error kept entry
  | ok parts =>
    obtain ⟨name, definitions, rows⟩ := parts
    obtain ⟨named, typed, filled⟩ := entryOf_storable kept entry
    cases read : definitions.mapM Column.ofValue with
    | error fault =>
      simp only [entry, read, bind, Except.bind, Except.error.injEq] at failed
      obtain ⟨definition, member, refused⟩ := exists_of_mapM_error read
      exact failed ▸ Column.ofValue_error (typed definition member) refused
    | ok columns =>
      simp only [entry, read, bind, Except.bind] at failed
      have sound := sound_new refresh named (Column.types_storable typed read)
      rcases replay_error sound (current_new name columns refresh) filled failed with
        ⟨row, member, unread⟩ | ⟨column, w, rfl⟩
      · exact rowOf_error named (filled row member) unread
      · exact .duplicate column w name

end Table
end RowStore
