import RowStore.Proofs.Table.Invariant
import RowStore.Proofs.Table.Reading

/-! Tables made from their records. Whatever record a table is made from, it is valid and its
indexes register its rows. Rows are taken exactly if all can be read and no two share an indexed
value. Otherwise one that cannot be read or a value that is there already is named. -/
namespace RowStore.Table

/-- One row of a snapshot read and registered. -/
def replayRow (table : Table) (v : Value) : Result Table := do table.append (← table.rowOf v)

theorem ofValue_eq (v : Value) (refresh : Bool) :
    ofValue v refresh = (do
      let (name, columns, rows) ← entryOf v
      let columns ← columns.mapM Column.ofValue
      rows.foldlM replayRow (new name columns refresh)) := rfl

/-- What reading rows keeps of the table that it starts with. -/
structure Extends (start table : Table) : Prop where
  name : table.name = start.name
  columns : table.columns = start.columns
  policy : table.indexes.refresh = start.indexes.refresh

theorem extends_appended (table : Table) (row : Row) : Extends table (table.appended row) :=
  ⟨rfl, rfl, rfl⟩

theorem Extends.refl (table : Table) : Extends table table := ⟨rfl, rfl, rfl⟩

theorem Extends.trans {first second third : Table} (early : Extends first second)
    (late : Extends second third) : Extends first third :=
  ⟨late.name.trans early.name, late.columns.trans early.columns, late.policy.trans early.policy⟩

theorem replay_valid {rows : List Value} {start after : Table} (sound : start.Sound)
    (current : start.Current) (kept : ∀ v ∈ rows, v.storable)
    (done : rows.foldlM replayRow start = .ok after) :
    after.Sound ∧ after.Current ∧ Extends start after := by
  induction rows generalizing start with
  | nil =>
    obtain rfl := Except.ok.inj done
    exact ⟨sound, current, .refl _⟩
  | cons v rest ih =>
    rw [List.foldlM_cons] at done
    obtain ⟨next, step, done⟩ := bind_eq_ok.mp done
    obtain ⟨row, read, step⟩ := bind_eq_ok.mp step
    rw [append_eq] at step
    obtain ⟨_, free, rfl⟩ := map_eq_ok.mp step
    obtain ⟨names, stored⟩ := rowOf_stored (kept v List.mem_cons_self) read
    obtain ⟨sound, current, later⟩ := ih (sound.appended stored names)
      (current.appended stored.isKeyed free) (fun w member => kept w (List.mem_cons_of_mem _ member))
      done
    exact ⟨sound, current, (extends_appended start row).trans later⟩

theorem ofValue_valid {v : Value} {refresh : Bool} {table : Table} (kept : v.storable)
    (made : ofValue v refresh = .ok table) : table.Valid refresh ∧ table.Current := by
  rw [ofValue_eq] at made
  obtain ⟨⟨name, columns, rows⟩, entry, made⟩ := bind_eq_ok.mp made
  obtain ⟨named, typed, filled⟩ := entryOf_storable kept entry
  obtain ⟨columns, read, made⟩ := bind_eq_ok.mp made
  have start := sound_new refresh named (Column.types_storable typed read)
  obtain ⟨sound, current, same⟩ :=
    replay_valid start (current_new name columns refresh) filled made
  exact ⟨⟨sound, same.policy, fun _ => current⟩, current⟩

theorem replay_reads {rows : List Value} {start after : Table}
    (done : rows.foldlM replayRow start = .ok after) :
    ∃ read, rows.mapM start.rowOf = .ok read ∧ after.rows = start.rows ++ read := by
  induction rows generalizing start with
  | nil =>
    obtain rfl := Except.ok.inj done
    exact ⟨[], rfl, by simp⟩
  | cons v rest ih =>
    rw [List.foldlM_cons] at done
    obtain ⟨next, step, done⟩ := bind_eq_ok.mp done
    obtain ⟨row, first, step⟩ := bind_eq_ok.mp step
    rw [append_eq] at step
    obtain ⟨_, _, rfl⟩ := map_eq_ok.mp step
    obtain ⟨more, later, same⟩ := ih done
    -- A row is read by the names of the columns, which stay as they are.
    have later : rest.mapM start.rowOf = .ok more := later
    refine ⟨row :: more, ?_, by simp [same]⟩
    rw [List.mapM_cons, first, later]
    rfl

theorem replay_of_distinct {rows : List Value} {read : List Row} {start : Table}
    (current : start.Current) (kept : ∀ v ∈ rows, v.storable)
    (reads : rows.mapM start.rowOf = .ok read)
    (distinct : Distinct start.indexes.names (start.rows ++ read)) :
    ∃ after, rows.foldlM replayRow start = .ok after := by
  induction rows generalizing start read with
  | nil => exact ⟨start, rfl⟩
  | cons v rest ih =>
    rw [List.mapM_cons] at reads
    obtain ⟨row, first, reads⟩ := bind_eq_ok.mp reads
    obtain ⟨more, later, same⟩ := bind_eq_ok.mp reads
    obtain rfl := Except.ok.inj same
    obtain ⟨here, kept⟩ := List.forall_mem_cons.mp kept
    have keyed := (rowOf_stored here first).2.isKeyed
    have free : start.indexes.check row = .ok () := by
      rw [Indexes.check_eq_ok_iff_distinct current.registers keyed, map_fst_numbered]
      have front : (start.rows ++ [row]).Sublist (start.rows ++ row :: more) := by simp
      exact (Distinct.append_singleton.mp (distinct.sublist front)).2
    obtain ⟨after, done⟩ := @ih more (start.appended row) (current.appended keyed free) kept later
      (by simpa using distinct)
    refine ⟨after, ?_⟩
    rw [List.foldlM_cons]
    simp only [replayRow, first, append_eq, free, bind, Except.bind, Except.map]
    exact done

/-- Rows are all taken exactly if they are read and are distinct, also from those already there. -/
theorem replay_iff {rows : List Value} {start : Table} (sound : start.Sound)
    (current : start.Current) (kept : ∀ v ∈ rows, v.storable) :
    (∃ after, rows.foldlM replayRow start = .ok after) ↔
      ∃ read, rows.mapM start.rowOf = .ok read ∧
        Distinct start.indexes.names (start.rows ++ read) := by
  constructor
  · rintro ⟨after, done⟩
    obtain ⟨read, reads, rows⟩ := replay_reads done
    obtain ⟨whole, registered, later⟩ := replay_valid sound current kept done
    have names : after.indexes.names = start.indexes.names := by
      rw [whole.indexed, sound.indexed, later.columns]
    refine ⟨read, reads, ?_⟩
    rw [← rows, ← names]
    exact registered.distinct
  · rintro ⟨read, reads, distinct⟩
    exact replay_of_distinct current kept reads distinct

/-- Rows are refused because one cannot be read, or for a value that is not free. -/
theorem replay_error {rows : List Value} {start : Table} {e : Failure} (sound : start.Sound)
    (current : start.Current) (kept : ∀ v ∈ rows, v.storable)
    (failed : rows.foldlM replayRow start = .error e) :
    (∃ v ∈ rows, start.rowOf v = .error e) ∨
      ∃ column v, e = .engine (.duplicate column v start.name) := by
  induction rows generalizing start with
  | nil => simp [pure, Except.pure] at failed
  | cons v rest ih =>
    obtain ⟨here, kept⟩ := List.forall_mem_cons.mp kept
    rw [List.foldlM_cons] at failed
    cases first : start.rowOf v with
    | error fault =>
      simp only [replayRow, first, bind, Except.bind, Except.error.injEq] at failed
      exact .inl ⟨v, List.mem_cons_self, failed ▸ first⟩
    | ok row =>
      obtain ⟨names, stored⟩ := rowOf_stored here first
      cases free : start.indexes.check row with
      | error fault =>
        simp only [replayRow, first, append_eq, free, bind, Except.bind, Except.map,
          Except.error.injEq] at failed
        obtain ⟨column, _, rfl⟩ := Indexes.check_error stored.isKeyed free
        have written : (row.at column).printable ∧ start.name.printable :=
          ⟨Value.printable_of_isCell (stored.isCell_at column),
            Value.printable_of_storable _ sound.name⟩
        refine .inr ⟨column, row.at column, ?_⟩
        rw [← failed, sound.owner, Failure.of, if_pos (by simpa [EngineError.values] using written)]
      | ok =>
        simp only [replayRow, first, append_eq, free, bind, Except.bind, Except.map] at failed
        rcases @ih (start.appended row) (sound.appended stored names)
          (current.appended stored.isKeyed free) kept failed with ⟨w, there, unread⟩ | shared
        · exact .inl ⟨w, List.mem_cons_of_mem _ there, unread⟩
        · exact .inr shared

end RowStore.Table
