import RowStore.Proofs.Fields
import RowStore.Proofs.Keys
import RowStore.Proofs.Results

/-! What the unique indexes register. Checking and adding rows one after the other registers each of
them under its own values in order, and it goes through exactly if no two rows have the same key
in an indexed column. The dry run over the same rows asks for the same. -/
namespace RowStore

/-- A row all of whose values can be keys. -/
def Row.IsKeyed (row : Row) : Prop := ∀ pair ∈ row, pair.2.isScalar

theorem Row.valueAt_of_forall {P : Value → Prop} (null : P .null) {row : Row}
    (each : ∀ pair ∈ row, P pair.2) (name : Option Text) : P (row.valueAt name) := by
  cases found : name.bind (Fields.find? row) with
  | none => simpa [Row.valueAt, found] using null
  | some v =>
    obtain ⟨key, rfl, at_key⟩ := Option.bind_eq_some_iff.mp found
    simpa [Row.valueAt, at_key] using each _ (Fields.mem_of_find? at_key)

theorem Row.IsKeyed.isScalar_valueAt {row : Row} (keyed : row.IsKeyed) (name : Option Text) :
    (row.valueAt name).isScalar :=
  @Row.valueAt_of_forall (fun v => v.isScalar) rfl row keyed name

theorem Row.IsKeyed.put {row : Row} (keyed : row.IsKeyed) {v : Value} (scalar : v.isScalar)
    (name : Text) : Row.IsKeyed (Fields.put row name v) := by
  intro pair member
  rcases Fields.mem_put member with there | rfl
  · exact keyed pair there
  · exact scalar

/-- The value that a row has in a column. -/
abbrev Row.at (row : Row) (column : Text) : Value := row.valueAt (some column)

theorem Row.at_put_self (row : Row) (column : Text) (v : Value) :
    Row.at (Fields.put row column v) column = v := by
  simp [Row.at, Row.valueAt, Fields.find?_put]

theorem Row.at_put_of_ne (row : Row) {column other : Text} (apart : column ≠ other) (v : Value) :
    Row.at (Fields.put row column v) other = row.at other := by
  simp [Row.at, Row.valueAt, Fields.find?_put, apart]

/-- No two rows have the same key in one of the columns. -/
def Distinct (columns : List Text) (rows : List Row) : Prop :=
  ∀ column ∈ columns, rows.Pairwise fun r s => (r.at column).same (s.at column) = false

namespace Distinct

variable {columns : List Text} {rows : List Row}

@[simp] theorem nil : Distinct columns [] := fun _ _ => .nil

theorem sublist {fewer : List Row} (distinct : Distinct columns rows)
    (part : fewer.Sublist rows) : Distinct columns fewer :=
  fun column member => (distinct column member).sublist part

theorem append_singleton {row : Row} :
    Distinct columns (rows ++ [row]) ↔ Distinct columns rows ∧
      ∀ column ∈ columns, ∀ r ∈ rows, (r.at column).same (row.at column) = false := by
  simp only [Distinct, List.pairwise_append, List.mem_singleton, forall_eq, List.pairwise_cons,
    List.not_mem_nil, false_implies, implies_true, List.Pairwise.nil, and_self, true_and]
  constructor
  · intro both
    exact ⟨fun column member => (both column member).1, fun column member => (both column member).2⟩
  · intro both column member
    exact ⟨both.1 column member, both.2 column member⟩

theorem map_of_at_eq {f : Row → Row} (distinct : Distinct columns rows)
    (same : ∀ column ∈ columns, ∀ row ∈ rows, (f row).at column = row.at column) :
    Distinct columns (rows.map f) := by
  intro column member
  rw [List.pairwise_map]
  apply (distinct column member).imp_of_mem
  intro r s left right apart
  rwa [same column member r left, same column member s right]

end Distinct

namespace Entries

variable {α : Type}

/-- One entry for each row, in order, from its value in a column. -/
def ofRows (column : Text) (rows : List (Row × α)) : Entries α :=
  rows.map fun pair => (pair.1.at column, pair.2)

theorem has_eq_any (entries : Entries α) (v : Value) :
    entries.has v = entries.any fun entry => entry.1.same v := by
  induction entries with
  | nil => rfl
  | cons entry rest ih =>
    obtain ⟨key, a⟩ := entry
    simp only [has] at ih
    by_cases known : key.same v <;> simp [has, find?, known, ih]

theorem put_of_not_has {entries : Entries α} {v : Value} (free : entries.has v = false) (a : α) :
    entries.put v a = entries ++ [(v, a)] := by
  induction entries with
  | nil => rfl
  | cons entry rest ih =>
    obtain ⟨key, b⟩ := entry
    rw [has_eq_any, List.any_cons, Bool.or_eq_false_iff] at free
    rw [← has_eq_any] at free
    simp [put, free.1, ih free.2]

theorem has_ofRows (column : Text) (rows : List (Row × α)) (v : Value) :
    (ofRows column rows).has v = rows.any fun pair => (pair.1.at column).same v := by
  rw [has_eq_any, ofRows, List.any_map]
  rfl

end Entries

namespace Indexes

variable {α : Type}

theorem freeKey_eq {row : Row} (keyed : row.IsKeyed) (table : Value) (column : Text)
    (taken : Value → Bool) :
    freeKey table column taken row =
      if taken (row.at column) then fail (.duplicate column (row.at column) table)
      else .ok (row.at column) := by
  have scalar := keyed.isScalar_valueAt (some column)
  simp only [freeKey, key, scalar, ↓reduceIte, bind, Except.bind]
  rfl

/-- A check fails at the first column whose value is taken. -/
theorem check_eq (indexes : Indexes α) {row : Row} (keyed : row.IsKeyed) :
    indexes.check row =
      match List.find? (fun pair => Entries.has pair.2 (row.at pair.1)) indexes.entries with
      | none => .ok ()
      | some pair => fail (.duplicate pair.1 (row.at pair.1) indexes.table) := by
  unfold check
  induction indexes.entries with
  | nil => rfl
  | cons pair rest ih =>
    obtain ⟨column, entries⟩ := pair
    simp only [List.forM, freeKey_eq keyed] at ih ⊢
    by_cases taken : Entries.has entries (row.at column)
    · simp [taken, fail, bind, Except.bind]
    · simpa [taken, bind, Except.bind, pure, Except.pure] using ih

theorem check_eq_ok_iff (indexes : Indexes α) {row : Row} (keyed : row.IsKeyed) :
    indexes.check row = .ok () ↔
      ∀ pair ∈ indexes.entries, Entries.has pair.2 (row.at pair.1) = false := by
  rw [check_eq indexes keyed]
  cases found : List.find? (fun pair => Entries.has pair.2 (row.at pair.1)) indexes.entries with
  | none => simpa using List.find?_eq_none.mp found
  | some pair =>
    have taken := List.find?_some found
    simp only [fail, reduceCtorEq, false_iff]
    intro free
    simp [free pair (List.mem_of_find?_eq_some found)] at taken

theorem check_error {indexes : Indexes α} {row : Row} {e : Failure} (keyed : row.IsKeyed)
    (failed : indexes.check row = .error e) :
    ∃ column ∈ indexes.names,
      e = .of (.duplicate column (row.at column) indexes.table) := by
  rw [check_eq indexes keyed] at failed
  split at failed
  · contradiction
  · next pair found =>
    exact ⟨pair.1, Fields.mem_names (List.mem_of_find?_eq_some found),
      (Except.error.inj failed).symm⟩

theorem check_of_has {indexes : Indexes α} {row : Row} (keyed : row.IsKeyed)
    {pair : Text × Entries α} (member : pair ∈ indexes.entries)
    (taken : Entries.has pair.2 (row.at pair.1)) : ∃ column ∈ indexes.names,
      indexes.check row = .error (.of (.duplicate column (row.at column) indexes.table)) := by
  cases checked : indexes.check row with
  | ok =>
    have free := (check_eq_ok_iff indexes keyed).mp checked pair member
    simp [taken] at free
  | error e =>
    obtain ⟨column, known, rfl⟩ := check_error keyed checked
    exact ⟨column, known, rfl⟩

theorem addTo_eq {row : Row} (keyed : row.IsKeyed) (a : α) (entries : Fields (Entries α)) :
    addTo row a entries =
      (entries.map fun pair => (pair.1, Entries.put pair.2 (row.at pair.1) a), .ok ()) := by
  induction entries with
  | nil => rfl
  | cons pair rest ih =>
    obtain ⟨column, es⟩ := pair
    have scalar := keyed.isScalar_valueAt (some column)
    simp [addTo, key, scalar, ih]

/-- Every index holds one entry for each of the rows, in order, from its value to what is
registered for it. -/
def Registers (indexes : Indexes α) (rows : List (Row × α)) : Prop :=
  ∀ pair ∈ indexes.entries, pair.2 = Entries.ofRows pair.1 rows

theorem registers_cleared (indexes : Indexes α) : indexes.cleared.Registers [] := by
  intro pair member
  simp only [cleared, Fields.mem_mapValues] at member
  obtain ⟨_, _, same⟩ := member
  exact same.symm

@[simp] theorem names_cleared (indexes : Indexes α) : indexes.cleared.names = indexes.names := by
  simp [cleared, names]

theorem Registers.entries_eq {indexes : Indexes α} {rows : List (Row × α)}
    (registers : indexes.Registers rows) :
    indexes.entries = indexes.names.map fun column => (column, Entries.ofRows column rows) := by
  calc
    indexes.entries = indexes.entries.map id := (List.map_id _).symm
    _ = indexes.entries.map fun pair => (pair.1, Entries.ofRows pair.1 rows) :=
      List.map_congr_left fun pair member => Prod.ext rfl (registers pair member)
    _ = indexes.names.map fun column => (column, Entries.ofRows column rows) := by
      simp [names, Fields.names]

theorem Registers.find?_entries {indexes : Indexes α} {rows : List (Row × α)}
    (registers : indexes.Registers rows) {column : Text} (known : column ∈ indexes.names) :
    Fields.find? indexes.entries column = some (Entries.ofRows column rows) := by
  obtain ⟨entries, found⟩ := Option.isSome_iff_exists.mp
    ((Fields.find?_isSome_iff indexes.entries column).mpr known)
  have held := registers _ (Fields.mem_of_find? found)
  rw [found, ← held]

/-- A row is refused for the first column in which a registered row has its value. -/
theorem Registers.check_eq {indexes : Indexes α} {rows : List (Row × α)}
    (registers : indexes.Registers rows) {row : Row} (keyed : row.IsKeyed) :
    indexes.check row =
      match indexes.names.find? fun column =>
        rows.any fun pair => (pair.1.at column).same (row.at column) with
      | none => .ok ()
      | some column => fail (.duplicate column (row.at column) indexes.table) := by
  rw [Indexes.check_eq indexes keyed, registers.entries_eq, List.find?_map]
  simp only [Function.comp_def, Entries.has_ofRows]
  cases indexes.names.find? fun column =>
    rows.any fun pair => (pair.1.at column).same (row.at column) <;> rfl

/-- A row is free exactly if it is distinct from the registered rows. -/
theorem check_eq_ok_iff_distinct {indexes : Indexes α} {rows : List (Row × α)} {row : Row}
    (registers : indexes.Registers rows) (keyed : row.IsKeyed) :
    indexes.check row = .ok () ↔
      ∀ column ∈ indexes.names, ∀ r ∈ rows.map Prod.fst,
        (r.at column).same (row.at column) = false := by
  rw [check_eq_ok_iff indexes keyed]
  have taken (pair : Text × Entries α) (member : pair ∈ indexes.entries) :
      Entries.has pair.2 (row.at pair.1) = false ↔
        ∀ r ∈ rows.map Prod.fst, (r.at pair.1).same (row.at pair.1) = false := by
    rw [registers pair member, Entries.has_ofRows]
    simp
  constructor
  · intro free column known
    obtain ⟨pair, member, rfl⟩ := List.mem_map.mp known
    exact (taken pair member).mp (free pair member)
  · exact fun free pair member => (taken pair member).mpr (free _ (Fields.mem_names member))

theorem registers_add {indexes : Indexes α} {rows : List (Row × α)} {row : Row}
    (registers : indexes.Registers rows) (keyed : row.IsKeyed)
    (free : indexes.check row = .ok ()) (a : α) :
    (indexes.add row a).1.Registers (rows ++ [(row, a)]) := by
  intro pair member
  simp only [add, addTo_eq keyed, List.mem_map] at member
  obtain ⟨before, there, rfl⟩ := member
  have put := Entries.put_of_not_has ((check_eq_ok_iff indexes keyed).mp free before there) a
  rw [registers before there] at put
  simp only [registers before there, put]
  simp [Entries.ofRows]

theorem add_result {row : Row} (keyed : row.IsKeyed) (indexes : Indexes α) (a : α) :
    (indexes.add row a).2 = .ok () := by
  simp [add, addTo_eq keyed]

theorem insertAll_of_free {indexes : Indexes α} {row : Row} (keyed : row.IsKeyed)
    (free : indexes.check row = .ok ()) (a : α) (rest : List (Row × α)) :
    indexes.insertAll ((row, a) :: rest) = (indexes.add row a).1.insertAll rest := by
  have added : indexes.add row a = ((indexes.add row a).1, .ok ()) :=
    Prod.ext rfl (add_result keyed indexes a)
  simp only [insertAll, insert, free]
  rw [added]

theorem insertAll_of_distinct {indexes : Indexes α} {done rows : List (Row × α)}
    (registers : indexes.Registers done) (keyed : ∀ pair ∈ rows, pair.1.IsKeyed)
    (distinct : Distinct indexes.names ((done ++ rows).map Prod.fst)) :
    (indexes.insertAll rows).2 = .ok () ∧ (indexes.insertAll rows).1.Registers (done ++ rows) := by
  induction rows generalizing indexes done with
  | nil => exact ⟨rfl, by simpa [insertAll] using registers⟩
  | cons pair rest ih =>
    obtain ⟨row, a⟩ := pair
    have row_keyed := keyed (row, a) List.mem_cons_self
    have split : done ++ (row, a) :: rest = (done ++ [(row, a)]) ++ rest := by simp
    have front : Distinct indexes.names ((done ++ [(row, a)]).map Prod.fst) :=
      distinct.sublist (by
        rw [split]
        exact (List.sublist_append_left ..).map Prod.fst)
    have free : indexes.check row = .ok () := by
      rw [List.map_append, List.map_singleton, Distinct.append_singleton] at front
      exact (check_eq_ok_iff_distinct registers row_keyed).mpr front.2
    have later := ih (registers_add registers row_keyed free a)
      (fun pair member => keyed pair (List.mem_cons_of_mem _ member))
      (by rw [names_add, ← split]; exact distinct)
    rw [insertAll_of_free row_keyed free, split]
    exact later

/-- Indexes that are rebuilt from distinct rows register them. -/
theorem rebuild_of_distinct {indexes : Indexes α} {rows : List (Row × α)}
    (keyed : ∀ pair ∈ rows, pair.1.IsKeyed)
    (distinct : Distinct indexes.names (rows.map Prod.fst)) :
    (indexes.rebuild rows).2 = .ok () ∧ (indexes.rebuild rows).1.Registers rows := by
  have := insertAll_of_distinct (registers_cleared indexes) keyed (by simpa using distinct)
  simpa [rebuild] using this

/-- What a dry run has seen after some rows. -/
def seenIn (names : List Text) (rows : List Row) : Fields (List Value) :=
  names.map fun column => (column, (rows.map fun row => row.at column).reverse)

theorem see_eq {row : Row} (keyed : row.IsKeyed) (table : Value) (names : List Text)
    (rows : List Row) :
    see table row (seenIn names rows) =
      match names.find? fun column => rows.any fun r => (r.at column).same (row.at column) with
      | none => .ok (seenIn names (rows ++ [row]))
      | some column => fail (.duplicate column (row.at column) table) := by
  induction names with
  | nil => rfl
  | cons column rest ih =>
    have shape : seenIn (column :: rest) rows =
        (column, (rows.map fun row => row.at column).reverse) :: seenIn rest rows := rfl
    have seen : ((rows.map fun row => row.at column).reverse.any (Value.same · (row.at column))) =
        rows.any fun r => (r.at column).same (row.at column) := by
      rw [List.any_reverse, List.any_map]
      rfl
    rw [shape, see, freeKey_eq keyed, seen, List.find?_cons]
    by_cases taken : rows.any fun r => (r.at column).same (row.at column)
    · simp [taken, fail, bind, Except.bind]
    · simp only [taken, Bool.false_eq_true, ↓reduceIte, bind, Except.bind, ih]
      cases rest.find? fun column => rows.any fun r => (r.at column).same (row.at column) <;>
        simp [fail, pure, Except.pure, seenIn]

/-- The first of some rows that has the value of an earlier one in one of the columns, and the first
such column. -/
def firstRepeat (names : List Text) : List Row → List Row → Option (Text × Row)
  | _, [] => none
  | done, row :: rest =>
    match names.find? fun column => done.any fun r => (r.at column).same (row.at column) with
    | some column => some (column, row)
    | none => firstRepeat names (done ++ [row]) rest

theorem foldlM_see_eq {rows : List Row} (keyed : ∀ row ∈ rows, row.IsKeyed) (table : Value)
    (names : List Text) (done : List Row) :
    rows.foldlM (fun seen row => see table row seen) (seenIn names done) =
      match firstRepeat names done rows with
      | none => .ok (seenIn names (done ++ rows))
      | some (column, row) => fail (.duplicate column (row.at column) table) := by
  induction rows generalizing done with
  | nil => simp [firstRepeat, pure, Except.pure]
  | cons row rest ih =>
    obtain ⟨first, keyed⟩ := List.forall_mem_cons.mp keyed
    rw [List.foldlM_cons, see_eq first, firstRepeat]
    cases names.find? fun column => done.any fun r => (r.at column).same (row.at column) with
    | some column => rfl
    | none => simpa [bind, Except.bind] using ih keyed (done ++ [row])

/-- Nothing is repeated exactly if all rows together are distinct. -/
theorem firstRepeat_eq_none_iff {names : List Text} {done rows : List Row}
    (distinct : Distinct names done) :
    firstRepeat names done rows = none ↔ Distinct names (done ++ rows) := by
  induction rows generalizing done with
  | nil => simp [firstRepeat, distinct]
  | cons row rest ih =>
    unfold firstRepeat
    cases taken : names.find? fun column =>
        done.any fun r => (r.at column).same (row.at column) with
    | some column =>
      simp only [reduceCtorEq, false_iff]
      intro together
      have front : (done ++ [row]).Sublist (done ++ row :: rest) := by simp
      have free := (Distinct.append_singleton.mp (together.sublist front)).2 column
        (List.mem_of_find?_eq_some taken)
      have held : (done.any fun r => (r.at column).same (row.at column)) = true :=
        List.find?_some (p := fun c => done.any fun r => (r.at c).same (row.at c)) taken
      obtain ⟨r, there, same⟩ := List.any_eq_true.mp held
      rw [free r there] at same
      contradiction
    | none =>
      have free := List.find?_eq_none.mp taken
      have further : Distinct names (done ++ [row]) :=
        Distinct.append_singleton.mpr ⟨distinct, by simpa using free⟩
      simpa using ih further

/-- The first repetition among rows: a row has the value of an earlier one in a column, and in no
column before that. No two of the rows in front of it have the same key. -/
def RepeatsFirst (names : List Text) (rows : List Row) (column : Text) (row : Row) : Prop :=
  ∃ before after front back, names = before ++ column :: after ∧ rows = front ++ row :: back ∧
    Distinct names front ∧ (∃ r ∈ front, (r.at column).same (row.at column)) ∧
      ∀ other ∈ before, ∀ r ∈ front, (r.at other).same (row.at other) = false

theorem firstRepeat_eq_some {names : List Text} {done rows : List Row} {column : Text} {row : Row}
    (distinct : Distinct names done) (found : firstRepeat names done rows = some (column, row)) :
    RepeatsFirst names (done ++ rows) column row := by
  induction rows generalizing done with
  | nil => simp [firstRepeat] at found
  | cons first rest ih =>
    unfold firstRepeat at found
    split at found
    · next name taken =>
      obtain ⟨rfl, rfl⟩ := Prod.mk.inj (Option.some.inj found)
      obtain ⟨held, before, after, split, free⟩ := List.find?_eq_some_iff_append.mp taken
      exact ⟨before, after, done, rest, split, rfl, distinct, List.any_eq_true.mp held,
        fun other member => by simpa using free other member⟩
    · next free =>
      have further : Distinct names (done ++ [first]) :=
        Distinct.append_singleton.mpr ⟨distinct, by simpa using List.find?_eq_none.mp free⟩
      simpa using ih further found

theorem validate_eq (indexes : Indexes α) {rows : List Row} (keyed : ∀ row ∈ rows, row.IsKeyed) :
    indexes.validate rows =
      match firstRepeat indexes.names [] rows with
      | none => .ok ()
      | some (column, row) => fail (.duplicate column (row.at column) indexes.table) := by
  have start : Fields.mapValues (fun _ => ([] : List Value)) indexes.entries =
      seenIn indexes.names [] := by
    simp [Fields.mapValues, seenIn, names, Fields.names, Function.comp_def]
  rw [validate, start, foldlM_see_eq keyed]
  cases firstRepeat indexes.names [] rows <;> rfl

theorem validate_eq_ok_iff {indexes : Indexes α} {rows : List Row}
    (keyed : ∀ row ∈ rows, row.IsKeyed) :
    indexes.validate rows = .ok () ↔ Distinct indexes.names rows := by
  have none := @firstRepeat_eq_none_iff indexes.names [] rows .nil
  rw [List.nil_append] at none
  rw [← none, validate_eq indexes keyed]
  cases firstRepeat indexes.names [] rows <;> simp [fail]

theorem validate_error {indexes : Indexes α} {rows : List Row} {e : Failure}
    (keyed : ∀ row ∈ rows, row.IsKeyed) (failed : indexes.validate rows = .error e) :
    ∃ column ∈ indexes.names, ∃ front row back, rows = front ++ row :: back ∧
      (∃ r ∈ front, (r.at column).same (row.at column)) ∧
        e = .of (.duplicate column (row.at column) indexes.table) := by
  rw [validate_eq indexes keyed] at failed
  split at failed
  · contradiction
  · next column row found =>
    obtain ⟨before, after, front, back, listed, split, -, earlier, -⟩ :=
      firstRepeat_eq_some .nil found
    exact ⟨column, by simp [listed], front, row, back, split, earlier,
      (Except.error.inj failed).symm⟩

@[simp] theorem table_insertAll (indexes : Indexes α) (rows : List (Row × α)) :
    (indexes.insertAll rows).1.table = indexes.table ∧
      (indexes.insertAll rows).1.refresh = indexes.refresh := by
  induction rows generalizing indexes with
  | nil => exact ⟨rfl, rfl⟩
  | cons pair rest ih =>
    obtain ⟨row, a⟩ := pair
    have kept : (indexes.insert row a).1.table = indexes.table ∧
        (indexes.insert row a).1.refresh = indexes.refresh := by
      unfold insert
      split <;> exact ⟨rfl, rfl⟩
    unfold insertAll
    split
    · next after eq =>
      rw [eq] at kept
      exact ⟨(ih after).1.trans kept.1, (ih after).2.trans kept.2⟩
    · exact kept

@[simp] theorem table_rebuild (indexes : Indexes α) (rows : List (Row × α)) :
    (indexes.rebuild rows).1.table = indexes.table :=
  (table_insertAll indexes.cleared rows).1

@[simp] theorem refresh_rebuild (indexes : Indexes α) (rows : List (Row × α)) :
    (indexes.rebuild rows).1.refresh = indexes.refresh :=
  (table_insertAll indexes.cleared rows).2

end Indexes
end RowStore
