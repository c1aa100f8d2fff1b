import RowStore.Proofs.Database.Opening

/-! What joins return. Rows are merged if they have equal values in the named columns. A row that
has no such column counts as null there, and null is equal to null. -/
namespace RowStore

theorem Value.equal_null_left (v : Value) : Value.null.equal v ↔ v = .null := by
  cases v <;> simp [equal, scalarEqual, whole?]

theorem Value.equal_null_right (v : Value) : v.equal .null ↔ v = .null := by
  cases v <;> simp [equal, scalarEqual, whole?]

/-- Whether two rows have fields of the names for them, and these are equal. -/
def Row.Meets (l : Row) (leftColumn : Option Text) (r : Row) (rightColumn : Option Text) : Prop :=
  ∃ a b v w, leftColumn = some a ∧ rightColumn = some b ∧
    Fields.find? l a = some v ∧ Fields.find? r b = some w ∧ v.equal w

/-- A join merges the pairs in a relation, if their values in its columns are equal exactly then. -/
theorem mem_innerJoin_iff {left right : List Row} {leftColumn rightColumn : Option Text}
    {P : Row → Row → Prop} (pairs : ∀ l ∈ left, ∀ r ∈ right,
      (l.valueAt leftColumn).equal (r.valueAt rightColumn) ↔ P l r) {row : Row} :
    row ∈ innerJoin left right leftColumn rightColumn ↔
      ∃ l ∈ left, ∃ r ∈ right, P l r ∧ Fields.putAll l r = row := by
  simp only [innerJoin, List.mem_flatMap, List.mem_map, List.mem_filter, and_assoc]
  refine exists_congr fun l => and_congr_right fun here => ?_
  refine exists_congr fun r => and_congr_right fun there => and_congr_left fun _ => ?_
  exact pairs l here r there

namespace Table

/-- Whether a column is named, and the table has it. -/
def HasColumn (table : Table) (column : Option Text) : Prop :=
  ∃ name ∈ table.columnNames, column = some name

instance (table : Table) (column : Option Text) : Decidable (table.HasColumn column) :=
  inferInstanceAs (Decidable (∃ name ∈ table.columnNames, column = some name))

variable {table : Table} {row : Row} {column : Option Text}

theorem Sound.find?_of_hasColumn (sound : table.Sound) (member : row ∈ table.rows)
    (has : table.HasColumn column) :
    ∃ name v, column = some name ∧ Fields.find? row name = some v ∧ row.valueAt column = v := by
  obtain ⟨name, known, rfl⟩ := has
  have there : name ∈ Fields.names row := by simpa [sound.names row member] using known
  obtain ⟨v, found⟩ := Option.isSome_iff_exists.mp ((Fields.find?_isSome_iff row name).mpr there)
  exact ⟨name, v, rfl, found, by simp [Row.valueAt, found]⟩

theorem Sound.valueAt_of_not_hasColumn (sound : table.Sound) (member : row ∈ table.rows)
    (lacks : ¬table.HasColumn column) : row.valueAt column = .null := by
  cases column with
  | none => rfl
  | some name =>
    have absent : name ∉ Fields.names row := by
      rw [sound.names row member, List.mem_eraseDups]
      exact fun known => lacks ⟨name, known, rfl⟩
    simp [Row.valueAt, (Fields.find?_eq_none_iff row name).mpr absent]

section joins

variable {left right : Table} {l r : Row} {leftColumn rightColumn : Option Text}

theorem Sound.equal_valueAt_iff (soundLeft : left.Sound) (soundRight : right.Sound)
    (memberLeft : l ∈ left.rows) (memberRight : r ∈ right.rows)
    (hasLeft : left.HasColumn leftColumn) (hasRight : right.HasColumn rightColumn) :
    (l.valueAt leftColumn).equal (r.valueAt rightColumn) ↔
      l.Meets leftColumn r rightColumn := by
  obtain ⟨a, v, rfl, found, value⟩ := soundLeft.find?_of_hasColumn memberLeft hasLeft
  obtain ⟨b, w, rfl, other, second⟩ := soundRight.find?_of_hasColumn memberRight hasRight
  simp [Row.Meets, found, other, value, second]

/-- If one of the tables does not have its column, values are equal exactly if both are null. -/
theorem Sound.equal_valueAt_iff_null (soundLeft : left.Sound) (soundRight : right.Sound)
    (memberLeft : l ∈ left.rows) (memberRight : r ∈ right.rows)
    (lacks : ¬(left.HasColumn leftColumn ∧ right.HasColumn rightColumn)) :
    (l.valueAt leftColumn).equal (r.valueAt rightColumn) ↔
      l.valueAt leftColumn = .null ∧ r.valueAt rightColumn = .null := by
  by_cases has : left.HasColumn leftColumn
  · have null := soundRight.valueAt_of_not_hasColumn memberRight fun other => lacks ⟨has, other⟩
    rw [null, Value.equal_null_right, and_iff_left rfl]
  · have null := soundLeft.valueAt_of_not_hasColumn memberLeft has
    rw [null, Value.equal_null_left, and_iff_right rfl]

end joins

end Table

namespace Database

theorem Valid.sound_of_table {db : Database} (valid : db.Valid) {name : Option Text}
    {table : Table} (found : db.table name = .ok table) : table.Sound := by
  obtain ⟨pair, named, rfl⟩ := map_eq_ok.mp found
  exact (valid.named named).toSound

/-- A join that returns rows merges those that meet, if both tables have the named columns. If one
of them does not, it merges all that have nothing there, and so returns rows where none meet. -/
theorem Reachable.join_exact {refresh : Bool} {db : Database} (reachable : Reachable refresh db)
    {name : Option Text} {columns : List Text} {filter : Option Filter} {join : Join}
    {rows : List Row}
    (done : (db.executeCommand (.select name columns filter (some join))).2 = .ok (.rows rows)) :
    ∃ left right, db.table name = .ok left ∧ db.table join.table = .ok right ∧
      (left.HasColumn join.leftColumn ∧ right.HasColumn join.rightColumn →
        ∀ row, row ∈ rows ↔ ∃ l ∈ left.select filter, ∃ r ∈ right.rows,
          l.Meets join.leftColumn r join.rightColumn ∧ Fields.putAll l r = row) ∧
      (¬(left.HasColumn join.leftColumn ∧ right.HasColumn join.rightColumn) →
        ∀ row, row ∈ rows ↔ ∃ l ∈ left.select filter, ∃ r ∈ right.rows,
          (l.valueAt join.leftColumn = .null ∧ r.valueAt join.rightColumn = .null) ∧
            Fields.putAll l r = row) := by
  have valid := reachable.valid.1
  obtain ⟨found, selected, same⟩ := map_eq_ok.mp done
  obtain rfl := Answer.rows.inj same
  obtain ⟨left, first, selected⟩ := bind_eq_ok.mp selected
  obtain ⟨right, second, same⟩ := bind_eq_ok.mp selected
  obtain rfl := Except.ok.inj same
  have soundLeft := valid.sound_of_table first
  have soundRight := valid.sound_of_table second
  have here {l : Row} (member : l ∈ left.select filter) := (List.mem_filter.mp member).1
  refine ⟨left, right, first, second, fun has row => ?_, fun lacks row => ?_⟩
  · refine mem_innerJoin_iff fun l inLeft r inRight => ?_
    exact soundLeft.equal_valueAt_iff soundRight (here inLeft) inRight has.1 has.2
  · refine mem_innerJoin_iff fun l inLeft r inRight => ?_
    exact soundLeft.equal_valueAt_iff_null soundRight (here inLeft) inRight lacks

/-- Whether a result is a single row. -/
def isRow : Result Answer → Bool
  | .ok (.rows [_]) => true
  | _ => false

theorem exists_row {result : Result Answer} (held : isRow result) :
    ∃ row, result = .ok (.rows [row]) := by
  unfold isRow at held
  split at held
  · next row => exact ⟨row, rfl⟩
  · contradiction

/-- Two tables with one row each, which have equal keys. -/
def matched : Database := (fresh true).run ["CREATE TABLE a (k INT, x INT)",
  "CREATE TABLE b (k INT, y TEXT)", "INSERT INTO a (1, 2)", "INSERT INTO b (1.0, z)"]

theorem join_exact_of_matched : ∃ row,
    (matched.executeCommand (.select "a" [] none (some ⟨"b", "a", "k", "b", "k"⟩))).2 =
      .ok (.rows [row]) ∧ ∃ l r : Row, l.Meets "k" r "k" ∧ Fields.putAll l r = row := by
  obtain ⟨row, done⟩ : ∃ row,
      (matched.executeCommand (.select "a" [] none (some ⟨"b", "a", "k", "b", "k"⟩))).2 =
        .ok (.rows [row]) := exists_row (by decide +kernel)
  have reachable : Reachable true matched := (Reachable.opened (openOn_empty true)).run _
  obtain ⟨left, right, first, second, merged, -⟩ := reachable.join_exact done
  have has (name : Text) (table : Table) (found : matched.table name = .ok table)
      (known : (matched.table name).toOption.any fun table => decide (table.HasColumn "k")) :
      table.HasColumn "k" := by
    simpa [found, Except.toOption] using known
  have both := And.intro (has "a" left first (by decide +kernel))
    (has "b" right second (by decide +kernel))
  obtain ⟨l, _, r, _, meets, same⟩ := (merged both row).mp (List.mem_singleton.mpr rfl)
  exact ⟨row, done, l, r, meets, same⟩

/-- Neither table has the column that is named for it, and yet their rows are paired. -/
theorem not_join_exact_of_missing :
    let db := (fresh false).run ["CREATE TABLE a (x INT)", "CREATE TABLE b (y INT)",
      "INSERT INTO a (1)", "INSERT INTO b (2)"]
    (∀ pair ∈ db.tables, ¬pair.2.HasColumn (some "p") ∧ ¬pair.2.HasColumn (some "q")) ∧
      ∃ row, (db.execute "SELECT * FROM a JOIN b ON a.p = b.q").2 = .ok (.rows [row]) :=
  ⟨by decide +kernel, exists_row (by decide +kernel)⟩

end Database
end RowStore
