import RowStore.Proofs.Clauses
import RowStore.Proofs.Database.Opening
import RowStore.Proofs.Merging
import RowStore.Proofs.Table.Policies

/-! One filter in three kinds of commands. A condition whose value is a number picks rows at the
same places wherever it stands: those that are returned are those that are deleted or changed. Where
rows are to be deleted or changed, any other value picks none, even if some rows have it. -/
namespace RowStore

/-- The rows at some places of a list. -/
def rowsAt (places : Nat → Bool) (rows : List Row) : List Row :=
  (rows.zipIdx.filter fun r => places r.2).map Prod.fst

/-- Rows of which those at some places took a value in a column, while all else is as it was. -/
structure SetAt (places : Nat → Bool) (column : Text) (v : Value) (rows after : List Row) :
    Prop where
  length : after.length = rows.length
  names : ∀ (i : Nat) (row new : Row), rows[i]? = some row → after[i]? = some new →
    Fields.names new = Fields.names row
  values : ∀ (i : Nat) (row new : Row), rows[i]? = some row → after[i]? = some new →
    ∀ name, Fields.find? new name =
      if places i ∧ name = column then some v else Fields.find? row name

theorem passes_of_isNan {row : Row} (keyed : row.IsKeyed) {v : Value} (noNumber : v.isNan)
    (column : Option Text) : passes (some ⟨column, v⟩) row = false :=
  (Value.equal_of_isNan (keyed.isScalar_valueAt column) noNumber).1

section places

variable {places : Nat → Bool} {rows : List Row} {p : Row → Bool}

theorem rowsAt_eq_filter (told : ∀ i row, rows[i]? = some row → places i = p row) :
    rowsAt places rows = rows.filter p := by
  have same : rows.zipIdx.filter (fun r => places r.2) = rows.zipIdx.filter fun r => p r.1 := by
    apply List.filter_congr
    rintro ⟨row, i⟩ member
    exact told i row (List.mem_zipIdx_iff_getElem?.mp member)
  rw [rowsAt, same, filter_eq_zipIdx]

theorem setAt_assignedRow {column : Text} {filter : Option Filter}
    (known : ∀ row ∈ rows, column ∈ Fields.names row) (v : Value)
    (told : ∀ i row, rows[i]? = some row → places i = passes filter row) :
    SetAt places column v rows (rows.map (Table.assignedRow column v filter)) where
  length := List.length_map _
  names := by
    intro i row new before after
    obtain rfl : Table.assignedRow column v filter row = new := by
      simpa [before] using after
    exact Table.assignedRow_names (known row (List.mem_of_getElem? before)) v filter
  values := by
    intro i row new before after name
    obtain rfl : Table.assignedRow column v filter row = new := by
      simpa [before] using after
    rw [told i row before, Table.assignedRow]
    split
    · next passed => simp [Fields.find?_put, passed, eq_comm]
    · next failed => simp [failed]

end places

namespace Table

variable {refresh : Bool} {table : Table} {filter : Option Filter}

theorem rows_delete (table : Table) (filter : Option Filter) :
    (table.delete filter).1.rows = table.rows.filter fun row => !passes filter row := by
  rw [delete_eq, rows, rows, List.filter_map]
  rfl

theorem rows_assigned (table : Table) (name : Text) (v : Value) (filter : Option Filter) :
    (table.assigned name v filter).1.rows = table.rows.map (assignedRow name v filter) :=
  map_row_assignedSlot ..

theorem Valid.withSlots_self (valid : table.Valid refresh) :
    table.withSlots table.slots table.deleted = (table, .ok ()) := by
  cases held : table.indexes.refresh with
  | false => exact withSlots_eq_stale held _ _
  | true =>
    have current := valid.current (valid.policy ▸ held)
    have rebuilt := Indexes.rebuild_eq_self current.registers
      (by rw [map_fst_numbered]; exact current.distinct)
      (by simpa [numbered] using fun s member => valid.toSound.keyed (List.mem_map_of_mem member))
      (fun _ _ => rfl)
    simp only [withSlots, Indexes.rowsChanged, held, ↓reduceIte, rebuilt]

/-- An update that would set rows to what they are goes through and leaves the table as it is. -/
theorem Valid.update_of_settled (valid : table.Valid refresh) {name : Text}
    (known : name ∈ table.columnNames) {v : Value}
    (settled : ∀ row ∈ table.rows, assignedRow name v filter row = row) :
    table.update (some name) v filter = (table, .ok (table.select filter).length) := by
  have rows : table.rows.map (assignedRow name v filter) = table.rows :=
    (List.map_congr_left settled).trans (List.map_id _)
  have slots : table.slots.map (assignedSlot name v filter) = table.slots := by
    refine (List.map_congr_left fun s member => ?_).trans (List.map_id _)
    change Slot.mk (assignedSlot name v filter s).id (assignedSlot name v filter s).row = s
    rw [id_assignedSlot, row_assignedSlot, settled _ (List.mem_map_of_mem member)]
  have allowed : table.indexes.beforeUpdate table.rows name v filter = .ok () := by
    cases held : table.indexes.refresh with
    | false => simp [Indexes.beforeUpdate, held]
    | true =>
      rw [beforeUpdate_eq held, rows]
      split
      · exact (Indexes.validate_eq_ok_iff fun row member => valid.toSound.keyed member).mpr
          (valid.current (valid.policy ▸ held)).distinct
      · rfl
  rw [update_of_known known, allowed, assigned, slots, valid.withSlots_self]
  rfl

section spared

variable (valid : table.Valid refresh) (spared : ∀ row ∈ table.rows, passes filter row = false)
include valid spared

theorem Valid.delete_of_spared : table.delete filter = (table, .ok 0) := by
  have kept : (table.slots.filter fun s => !passes filter s.row) = table.slots :=
    List.filter_eq_self.mpr fun s member => by simp [spared _ (List.mem_map_of_mem member)]
  have gone : (table.slots.filter fun s => passes filter s.row) = [] :=
    List.filter_eq_nil_iff.mpr fun s member => by simp [spared _ (List.mem_map_of_mem member)]
  rw [delete_eq]
  simp only [kept, gone, List.append_nil, valid.withSlots_self]
  rfl

theorem Valid.update_of_spared (column : Option Text) (v : Value) :
    (table.update column v filter).1 = table := by
  rcases table.update_cases column v filter with ⟨e, failed⟩ | ⟨name, known, rfl, -, -⟩
  · rw [failed]
  · have settled : ∀ row ∈ table.rows, assignedRow name v filter row = row := fun row member => by
      rw [assignedRow, spared row member, if_neg Bool.false_ne_true]
    rw [valid.update_of_settled known settled]

end spared

end Table

namespace Database

/-- The command of some words, if they have one, carried out on the tables. -/
def executeWords (db : Database) (words : List Text) : Database × Result Answer :=
  match Query.parse words with
  | .ok command => db.executeCommand command
  | .error e => (db, .error e)

variable {db : Database} {name : Text} {table : Table}

theorem executeWords_of_parse {words : List Text} {command : Command}
    (parsed : Query.parse words = .ok command) :
    db.executeWords words = db.executeCommand command := by
  rw [executeWords, parsed]

theorem Valid.executeCommand_delete_of_find? (valid : db.Valid)
    (found : Fields.find? db.tables name = some table) (filter : Option Filter) :
    db.executeCommand (.delete (some name) filter) =
      ({ db with tables := Fields.put db.tables name (table.delete filter).1 }, .ok .done) := by
  have kept := valid.named (named_of_find? found)
  rw [executeCommand_delete, change_of_find? found, (kept.delete filter).2]
  rfl

theorem executeCommand_update_of_done (found : Fields.find? db.tables name = some table)
    {column : Text} {v : Value} {filter : Option Filter} {answer : Answer}
    (done : (db.executeCommand (.update (some name) (some column) v filter)).2 = .ok answer) :
    column ∈ table.columnNames ∧
      (db.executeCommand (.update (some name) (some column) v filter)).1 =
        { db with tables := Fields.put db.tables name (table.assigned column v filter).1 } := by
  rw [executeCommand_update, change_of_find? found] at done ⊢
  rcases table.update_cases (some column) v filter with ⟨e, failed⟩ | ⟨_, known, same, -, made⟩
  · simp [failed, Except.map] at done
  · obtain rfl := Option.some.inj same
    exact ⟨known, by rw [made]⟩

theorem Valid.executeCommand_of_spared (valid : db.Valid)
    (found : Fields.find? db.tables name = some table) {filter : Option Filter}
    (spared : ∀ row ∈ table.rows, passes filter row = false) (column : Option Text) (v : Value) :
    db.executeCommand (.delete (some name) filter) = (db, .ok .done) ∧
      (db.executeCommand (.update (some name) column v filter)).1 = db := by
  have kept := valid.named (named_of_find? found)
  constructor
  · rw [valid.executeCommand_delete_of_find? found, kept.delete_of_spared spared]
    simp only [Fields.put_of_find? found]
  · rw [executeCommand_update, change_of_find? found]
    simp only [kept.update_of_spared spared, Fields.put_of_find? found]

/-- With a number as its value, a condition picks the rows to be deleted or changed at the places of
those that are returned: a deletion leaves the others in their order, and an update that succeeds
changes one column of these rows and nothing else. With any other value, no row is deleted or
changed, whether some are returned or not. -/
theorem Reachable.filters_agree {refresh : Bool} (reachable : Reachable refresh db)
    {column value target assigned : Text}
    (free : ∀ word ∈ [name, column, value, target, assigned], word ∉ Query.anchors)
    (short : Query.isOverlong value = false ∧ Query.isOverlong assigned = false)
    (found : Fields.find? db.tables name = some table) :
    let selected := db.executeWords ["SELECT", "*", "FROM", name, "WHERE", column, "=", value]
    let deleted := db.executeWords ["DELETE", "FROM", name, "WHERE", column, "=", value]
    let updated := db.executeWords
      ["UPDATE", name, "SET", target, "=", assigned, "WHERE", column, "=", value]
    ∃ (places : Nat → Bool) (cell new : Value),
      Query.coerce (some value) = .ok cell ∧ Query.coerce (some assigned) = .ok new ∧
      (∀ (i : Nat) (row : Row), table.rows[i]? = some row →
        places i = (row.at column).equal cell) ∧
      selected = (db, .ok (.rows (rowsAt places table.rows))) ∧
      (Query.isNumeric (some value) →
        (∃ left, deleted = ({ db with tables := Fields.put db.tables name left }, .ok .done) ∧
          left.rows = rowsAt (fun i => !places i) table.rows) ∧
        ∀ answer, updated.2 = .ok answer → ∃ left,
          updated.1 = { db with tables := Fields.put db.tables name left } ∧
            SetAt places target new table.rows left.rows) ∧
      (¬Query.isNumeric (some value) → deleted = (db, .ok .done) ∧ updated.1 = db) := by
  intro selected deleted updated
  have valid := reachable.valid.1
  have sound := (valid.named (named_of_find? found)).toSound
  simp only [List.forall_mem_cons, Query.not_mem_anchors_iff] at free
  obtain ⟨⟨-, noJoin, noWhere, noSet⟩, freeColumn, freeValue, freeTarget, freeAssigned, -⟩ := free
  obtain ⟨cell, read, printable⟩ := Query.exists_coerce short.1
  obtain ⟨new, given, written⟩ := Query.exists_coerce short.2
  obtain ⟨number, counted, shown⟩ := Query.exists_toNumber short.1
  have first : selected = _ := executeWords_of_parse
    (Query.parse_search ⟨noJoin, noWhere⟩ ⟨freeColumn.2.1, freeValue.2.1⟩ read printable)
  have second : deleted = _ := executeWords_of_parse (Query.parse_deletion noWhere counted shown)
  have third : updated = _ := executeWords_of_parse (Query.parse_assignment ⟨noSet, noWhere⟩
    ⟨freeTarget.2.2.1, freeAssigned.2.2.1⟩ given counted ⟨written, shown⟩)
  let condition : Option Filter := some ⟨some column, cell⟩
  have told : ∀ (i : Nat) (row : Row), table.rows[i]? = some row →
      (table.rows[i]?).any (passes condition) = passes condition row := by
    intro i row there
    rw [there, Option.any_some]
  refine ⟨fun i => (table.rows[i]?).any (passes condition), cell, new, read, given, told, ?_,
    fun numeric => ?_, fun plain => ?_⟩
  · rw [first, executeCommand_select found, rowsAt_eq_filter told]
    rfl
  -- A number is read as the same value for all three commands.
  · obtain rfl : cell = number := by
      rw [Query.toNumber_eq, if_pos numeric, read] at counted
      exact Except.ok.inj counted
    have gone := second.trans (valid.executeCommand_delete_of_find? found _)
    refine ⟨⟨_, gone, ?_⟩, fun answer done => ?_⟩
    · rw [Table.rows_delete]
      exact (rowsAt_eq_filter fun i row there => congrArg not (told i row there)).symm
    · rw [third] at done ⊢
      obtain ⟨known, made⟩ := executeCommand_update_of_done found done
      refine ⟨_, made, ?_⟩
      rw [Table.rows_assigned]
      refine setAt_assignedRow (fun row member => ?_) new told
      rw [sound.names row member, List.mem_eraseDups]
      exact known
  -- Any other word is read as what is not a number, and no row passes then.
  · obtain rfl : .float (.nan .query) = number := by
      rw [Query.toNumber_eq, if_neg plain] at counted
      exact Except.ok.inj counted
    rw [second, third]
    exact valid.executeCommand_of_spared found
      (fun row member => passes_of_isNan (sound.keyed member) rfl (some column)) _ new

/-- Rows with numbers of two kinds, and with a word. -/
def mixed : Database := (fresh true).run ["CREATE TABLE t (a INT, b TEXT)", "INSERT INTO t (1, x)",
  "INSERT INTO t (one, y)", "INSERT INTO t (1.0, z)"]

/-- The update takes the value of its own condition from the rows that it picks. -/
theorem filters_agree_of_mixed : ∃ (table left : Table) (places : Nat → Bool),
    Fields.find? mixed.tables "t" = some table ∧
    mixed.executeWords ["SELECT", "*", "FROM", "t", "WHERE", "a", "=", "1"] =
      (mixed, .ok (.rows (rowsAt places table.rows))) ∧
    places 0 = true ∧ places 1 = false ∧ places 2 = true ∧
    (mixed.executeWords
      ["UPDATE", "t", "SET", "a", "=", "0x7", "WHERE", "a", "=", "1"]).1 =
        { mixed with tables := Fields.put mixed.tables "t" left } ∧
    SetAt places "a" (.int 7) table.rows left.rows ∧
    mixed.executeWords ["DELETE", "FROM", "t", "WHERE", "a", "=", "one"] = (mixed, .ok .done) := by
  have reachable : Reachable true mixed := (Reachable.opened (openOn_empty true)).run _
  have known : (Fields.find? mixed.tables "t").any fun table =>
      (table.rows.map fun row => (row.at "a").equal (.int 1)) = [true, false, true] := by
    decide +kernel
  obtain ⟨table, found, flags⟩ := (Option.any_eq_true _ _).mp known
  obtain ⟨places, cell, new, read, given, told, selected, agree, -⟩ :=
    @Reachable.filters_agree mixed "t" table true reachable "a" "1" "a" "0x7" (by decide)
      (by decide +kernel) found
  have one : Query.coerce (some "1") = .ok (Value.int 1) := by cbv
  have seven : Query.coerce (some "0x7") = .ok (Value.int 7) := by cbv
  obtain rfl := Except.ok.inj (one.symm.trans read)
  obtain rfl := Except.ok.inj (seven.symm.trans given)
  have place (i : Nat) (flag : Bool) (there : [true, false, true][i]? = some flag) :
      places i = flag := by
    rw [← of_decide_eq_true flags, List.getElem?_map] at there
    obtain ⟨row, there, same⟩ := Option.map_eq_some_iff.mp there
    exact (told i row there).trans same
  obtain ⟨answer, done⟩ := exists_answer (x := mixed.executeWords
    ["UPDATE", "t", "SET", "a", "=", "0x7", "WHERE", "a", "=", "1"]) (by decide +kernel)
  obtain ⟨left, changed, set⟩ := (agree (by decide +kernel)).2 answer (by rw [done])
  obtain ⟨-, -, -, -, -, -, -, -, spared⟩ :=
    @Reachable.filters_agree mixed "t" table true reachable "a" "one" "a" "0x7" (by decide)
      (by decide +kernel) found
  exact ⟨table, left, places, found, selected, place 0 true rfl, place 1 false rfl,
    place 2 true rfl, changed, set, (spared (by decide +kernel)).1⟩

end Database
end RowStore
