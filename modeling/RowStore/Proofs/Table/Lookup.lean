import RowStore.Proofs.Table.Invariant

/-! Looking a value up in an index that is kept current finds the same row as a scan of all rows,
except that a scan never finds what is not a number. -/
namespace RowStore

theorem Entries.find?_ofRows {α : Type} (column : Text) (rows : List (Row × α)) (v : Value) :
    Entries.find? (Entries.ofRows column rows) v =
      (rows.find? fun pair => (pair.1.at column).same v).map Prod.snd := by
  induction rows with
  | nil => rfl
  | cons pair rest ih =>
    simp only [Entries.ofRows, List.map_cons] at ih ⊢
    by_cases found : (pair.1.at column).same v <;> simp [Entries.find?, found, ih]

theorem filter_eq_toList_find? {α : Type} {p : α → Bool} {xs : List α}
    (single : xs.Pairwise fun x y => ¬(p x ∧ p y)) : xs.filter p = (xs.find? p).toList := by
  induction xs with
  | nil => rfl
  | cons x rest ih =>
    obtain ⟨apart, single⟩ := List.pairwise_cons.mp single
    by_cases passes : p x
    · have none : rest.filter p = [] := by
        rw [List.filter_eq_nil_iff]
        intro y member also
        exact apart y member ⟨passes, also⟩
      simp [passes, none]
    · simp [passes, ih single]

theorem filterMap_eq_map {α β : Type} {f : α → Option β} {g : α → β} {xs : List α}
    (each : ∀ x ∈ xs, f x = some (g x)) : xs.filterMap f = xs.map g := by
  induction xs with
  | nil => rfl
  | cons x rest ih =>
    obtain ⟨first, each⟩ := List.forall_mem_cons.mp each
    simp [first, ih each]

namespace Table

variable {table : Table}

theorem find?_id {slots : List Slot} (apart : (slots.map Slot.id).Nodup) {s : Slot}
    (member : s ∈ slots) : slots.find? (fun t => t.id = s.id) = some s := by
  induction slots with
  | nil => simp at member
  | cons t rest ih =>
    obtain ⟨new, apart⟩ := List.nodup_cons.mp apart
    rcases List.mem_cons.mp member with rfl | member
    · simp
    · have other : t.id ≠ s.id := fun same => new (same ▸ List.mem_map.mpr ⟨s, member, rfl⟩)
      simp [other, ih apart member]

theorem Sound.rowOf?_id (sound : table.Sound) {s : Slot} (member : s ∈ table.slots) :
    table.rowOf? s.id = some s.row := by
  simp [rowOf?, find?_id sound.ids (List.mem_append_left _ member)]

theorem lookup_of_registers {rows : List (Row × Nat)} (registers : table.indexes.Registers rows)
    {column : Text} (known : column ∈ table.indexes.names) {v : Value} (scalar : v.isScalar) :
    table.lookup column v =
      .ok ((rows.find? fun pair => (pair.1.at column).same v).bind fun pair =>
        table.rowOf? pair.2) := by
  have key : Indexes.key v = .ok v := if_pos scalar
  simp only [Table.lookup, Indexes.lookup, registers.find?_entries known, key, Except.map,
    Entries.find?_ofRows, bind, Except.bind, Option.bind_map, Function.comp_def]
  rfl

section current

variable (current : table.Current) {column : Text} (known : column ∈ table.indexes.names)
include current known

theorem Current.find?_entries : Fields.find? table.indexes.entries column =
    some (table.slots.map fun s => (s.row.at column, s.id)) := by
  rw [current.registers.find?_entries known]
  simp [Entries.ofRows, numbered, Function.comp_def]

theorem Current.find?_indexedRows (sound : table.Sound) :
    Fields.find? table.indexedRows column =
      some (table.rows.map fun row => (row.at column, row)) := by
  have named : ∀ s ∈ table.slots, (table.rowOf? s.id).map (s.row.at column, ·) =
      some (s.row.at column, s.row) := fun s member => by simp [sound.rowOf?_id member]
  have rows : (table.slots.map fun s => (s.row.at column, s.id)).filterMap
      (fun entry => (table.rowOf? entry.2).map (entry.1, ·)) =
        table.rows.map fun row => (row.at column, row) := by
    rw [List.filterMap_map, Table.rows, List.map_map]
    exact filterMap_eq_map named
  simp only [indexedRows, Fields.find?_mapValues, current.find?_entries known, Option.map_some]
  exact congrArg some rows

/-- An index that is kept current finds the row that has a value. -/
theorem Current.lookup_eq (sound : table.Sound) {v : Value} (scalar : v.isScalar) :
    table.lookup column v = .ok (table.rows.find? fun row => (row.at column).same v) := by
  rw [lookup_of_registers current.registers known scalar, numbered, Table.rows, List.find?_map,
    List.find?_map]
  cases found : table.slots.find? fun s => (s.row.at column).same v with
  | none => simp only [Function.comp_def, found, Option.map_none, Option.bind_none]
  | some s =>
    simp only [Function.comp_def, found, Option.map_some, Option.bind_some,
      sound.rowOf?_id (List.mem_of_find?_eq_some found)]

/-- A scan for a value finds the row that the index finds. -/
theorem Current.select_eq (sound : table.Sound) {v : Value} (scalar : v.isScalar)
    (number : ¬v.isNan) :
    table.select (some ⟨some column, v⟩) =
      (table.rows.find? fun row => (row.at column).same v).toList := by
  have keyed (row : Row) (member : row ∈ table.rows) : (row.at column).isScalar :=
    (sound.keyed member).isScalar_valueAt (some column)
  have single : table.rows.Pairwise fun r s =>
      ¬((r.at column).same v ∧ (s.at column).same v) := by
    apply (current.distinct column known).imp_of_mem
    intro r s left right apart both
    have together := Value.same_congr (keyed r left) scalar (keyed s right) both.1
    rw [apart, Value.same_comm scalar (keyed s right), both.2] at together
    contradiction
  rw [← filter_eq_toList_find? single, Table.select]
  apply List.filter_congr
  intro row member
  exact Value.equal_eq_same (keyed row member) scalar number

end current

theorem Sound.select_of_not_isScalar (sound : table.Sound) (column : Text) {v : Value}
    (parts : ¬v.isScalar) : table.select (some ⟨some column, v⟩) = [] := by
  rw [Table.select, List.filter_eq_nil_iff]
  intro row member
  have scalar := (sound.keyed member).isScalar_valueAt (some column)
  simpa [passes, Filter.accepts] using Value.equal_of_not_isScalar scalar parts

theorem lookup_of_not_isScalar {column : Text} (known : column ∈ table.indexes.names) {v : Value}
    (parts : ¬v.isScalar) : table.lookup column v = .error (.crash (.notKey v.kindName)) := by
  obtain ⟨entries, found⟩ := Option.isSome_iff_exists.mp
    ((Fields.find?_isSome_iff table.indexes.entries column).mpr known)
  simp [Table.lookup, Indexes.lookup, found, Indexes.key, parts, Except.map, bind, Except.bind]

end Table
end RowStore
