import RowStore.Proofs.Table.Covering
import RowStore.Proofs.Table.Lookup

/-! The history of a table whose indexes are not refreshed. Every row that was ever inserted is
followed through assignments until it is deleted. The indexes hold just the values that rows came
with, whatever became of these rows, and go on naming them. -/
namespace RowStore

/-- What can be asked of the rows of a table. -/
inductive Change where
  | insert (values : List Value)
  | update (column : Option Text) (v : Value) (filter : Option Filter)
  | delete (filter : Option Filter)

/-- Whether only values without parts are inserted. -/
def Change.isScalar : Change → Bool
  | .insert values => values.all Value.isScalar
  | .update .. | .delete _ => true

/-- A row from its insertion on: its number, the values that it came with, those that it has or had
when it was deleted, and whether it is still there. -/
structure Life where
  id : Nat
  first : Row
  last : Row
  present : Bool

namespace Life

def slot (life : Life) : Slot := ⟨life.id, life.last⟩

/-- The row behind a change of the rows that were there. A row that is gone stays as it is. -/
def after (change : Change) (life : Life) : Life :=
  match change with
  | .insert _ | .update none _ _ => life
  | .update (some name) v filter =>
    if life.present && passes filter life.last then
      { life with last := Fields.put life.last name v }
    else life
  | .delete filter => { life with present := life.present && !passes filter life.last }

/-- Whether a row has in some columns what it came with. -/
def Unmoved (columns : List Text) (life : Life) : Prop :=
  ∀ column ∈ columns, life.last.at column = life.first.at column

theorem after_keeps (change : Change) (life : Life) :
    (life.after change).id = life.id ∧ (life.after change).first = life.first := by
  unfold after
  split
  · exact ⟨rfl, rfl⟩
  · exact ⟨rfl, rfl⟩
  · split <;> exact ⟨rfl, rfl⟩
  · exact ⟨rfl, rfl⟩

@[simp] theorem present_after_update (column : Option Text) (v : Value) (filter : Option Filter)
    (life : Life) : (life.after (.update column v filter)).present = life.present := by
  cases column with
  | none => rfl
  | some name =>
    simp only [after]
    split <;> rfl

theorem slot_after_update {life : Life} (there : life.present) (name : Text) (v : Value)
    (filter : Option Filter) :
    (life.after (.update (some name) v filter)).slot = Table.assignedSlot name v filter life.slot := by
  by_cases passed : passes filter life.last <;>
    simp [after, there, Table.assignedSlot, slot, passed]

theorem after_update_of_gone {life : Life} (gone : life.present = false) (column : Option Text)
    (v : Value) (filter : Option Filter) : life.after (.update column v filter) = life := by
  cases column with
  | none => rfl
  | some name => simp [after, gone]

end Life

namespace Table

/-- A table behind a change, and whether the change went through. -/
def apply (table : Table) : Change → Table × Result Unit
  | .insert values =>
    match table.insert values with
    | .ok (table, _) => (table, .ok ())
    | .error e => (table, .error e)
  | .update column v filter =>
    let (table, result) := table.update column v filter
    (table, result.map fun _ => ())
  | .delete filter =>
    let (table, result) := table.delete filter
    (table, result.map fun _ => ())

/-- Changes one after the other, whatever becomes of each. -/
def run (table : Table) (changes : List Change) : Table :=
  changes.foldl (fun table change => (table.apply change).1) table

/-- All rows that were ever inserted, behind one more change. One that is refused changes none. -/
def recorded (table : Table) (lives : List Life) (change : Change) : List Life :=
  match (table.apply change).2, change with
  | .error _, _ => lives
  | .ok (), .insert values =>
    lives ++ [⟨table.nextId, table.makeRow values, table.makeRow values, true⟩]
  | .ok (), change => lives.map (Life.after change)

/-- All rows that were ever inserted, in order, behind changes of a table. -/
def history : Table → List Life → List Change → List Life
  | _, lives, [] => lives
  | table, lives, change :: rest =>
    history (table.apply change).1 (table.recorded lives change) rest

/-- Whether a change leaves the indexed values of the rows alone that it does not take away. -/
def spares (table : Table) : Change → Bool
  | .update column _ filter => table.sparesKeys column filter
  | .insert _ | .delete _ => true

/-- Whether each of some changes does so, where the ones before it were made. -/
def sparing : Table → List Change → Bool
  | _, [] => true
  | table, change :: rest => table.spares change && sparing (table.apply change).1 rest

/-- How a table that is not refreshed goes with the rows that were ever inserted. -/
structure Chronicles (start table : Table) (lives : List Life) : Prop where
  name : table.name = start.name
  columns : table.columns = start.columns
  owner : table.indexes.table = start.indexes.table
  indexed : table.indexes.names = start.indexes.names
  stale : table.indexes.refresh = false
  slots : table.slots = (lives.filter Life.present).map Life.slot
  deleted : table.deleted.Perm ((lives.filter fun life => !life.present).map Life.slot)
  ids : (lives.map Life.id).Nodup
  below : ∀ life ∈ lives, life.id < table.nextId
  registers : table.indexes.Registers (lives.map fun life => (life.first, life.id))
  distinct : Distinct table.indexes.names (lives.map Life.first)
  keyed : ∀ life ∈ lives, life.first.IsKeyed

theorem chronicles_new (name : Value) (columns : List Column) :
    Chronicles (new name columns false) (new name columns false) [] where
  name := rfl
  columns := rfl
  owner := rfl
  indexed := rfl
  stale := rfl
  slots := rfl
  deleted := .nil
  ids := .nil
  below := by simp
  registers := (current_new name columns false).registers
  distinct := by simp
  keyed := by simp

namespace Chronicles

variable {start table : Table} {lives : List Life}

theorem appended (chronicles : Chronicles start table lives) {row : Row} (keyed : row.IsKeyed)
    (free : table.indexes.check row = .ok ()) :
    Chronicles start (table.appended row) (lives ++ [⟨table.nextId, row, row, true⟩]) where
  name := chronicles.name
  columns := chronicles.columns
  owner := chronicles.owner
  indexed := (names_appended table row).trans chronicles.indexed
  stale := chronicles.stale
  slots := by simp [Table.appended, chronicles.slots, Life.slot]
  deleted := by simpa [Table.appended] using chronicles.deleted
  ids := by
    rw [List.map_append, List.nodup_append]
    refine ⟨chronicles.ids, by simp, ?_⟩
    intro id known other new
    obtain ⟨life, member, rfl⟩ := List.mem_map.mp known
    obtain rfl : other = table.nextId := by simpa using new
    exact Nat.ne_of_lt (chronicles.below life member)
  below := by
    intro life member
    rcases List.mem_append.mp member with old | new
    · exact Nat.lt_succ_of_lt (chronicles.below life old)
    · obtain rfl := List.mem_singleton.mp new
      exact Nat.lt_succ_self _
  registers := by
    have := Indexes.registers_add chronicles.registers keyed free table.nextId
    simpa [Table.appended] using this
  distinct := by
    have apart := (Indexes.check_eq_ok_iff_distinct chronicles.registers keyed).mp free
    rw [names_appended, List.map_append, List.map_singleton]
    apply Distinct.append_singleton.mpr
    exact ⟨chronicles.distinct, by simpa using apart⟩
  keyed := by simpa [or_imp, forall_and] using ⟨chronicles.keyed, keyed⟩

/-- A change of the rows that are there, which the indexes do not see. -/
theorem replaced (chronicles : Chronicles start table lives) (change : Change)
    {slots deleted : List Slot}
    (present : slots = ((lives.map (Life.after change)).filter Life.present).map Life.slot)
    (gone : deleted.Perm
      (((lives.map (Life.after change)).filter fun life => !life.present).map Life.slot)) :
    Chronicles start { table with slots, deleted } (lives.map (Life.after change)) := by
  have ids : (lives.map (Life.after change)).map Life.id = lives.map Life.id := by
    simp [Function.comp_def, Life.after_keeps]
  have firsts : (lives.map (Life.after change)).map Life.first = lives.map Life.first := by
    simp [Function.comp_def, Life.after_keeps]
  refine { chronicles with
    slots := present, deleted := gone, ids := ids ▸ chronicles.ids, below := ?_, registers := ?_,
    distinct := firsts ▸ chronicles.distinct, keyed := ?_ }
  · intro life member
    obtain ⟨before, there, rfl⟩ := List.mem_map.mp member
    rw [(Life.after_keeps change before).1]
    exact chronicles.below before there
  · simpa [Function.comp_def, Life.after_keeps] using chronicles.registers
  · intro life member
    obtain ⟨before, there, rfl⟩ := List.mem_map.mp member
    rw [(Life.after_keeps change before).2]
    exact chronicles.keyed before there

theorem map_assignedSlot (chronicles : Chronicles start table lives) (name : Text) (v : Value)
    (filter : Option Filter) :
    table.slots.map (assignedSlot name v filter) =
      ((lives.map (Life.after (.update (some name) v filter))).filter Life.present).map
        Life.slot := by
  rw [chronicles.slots, List.filter_map, List.map_map, List.map_map]
  simp only [Function.comp_def, Life.present_after_update]
  apply List.map_congr_left
  intro life member
  exact (Life.slot_after_update (List.mem_filter.mp member).2 name v filter).symm

theorem gone_after_update (lives : List Life) (name : Text) (v : Value) (filter : Option Filter) :
    (lives.map (Life.after (.update (some name) v filter))).filter (fun life => !life.present) =
      lives.filter fun life => !life.present := by
  rw [List.filter_map]
  simp only [Function.comp_def, Life.present_after_update]
  calc
    _ = (lives.filter fun life => !life.present).map id := by
      apply List.map_congr_left
      intro life member
      exact Life.after_update_of_gone (by simpa using (List.mem_filter.mp member).2) ..
    _ = _ := List.map_id _

theorem update (chronicles : Chronicles start table lives) (column : Option Text) (v : Value)
    (filter : Option Filter) :
    Chronicles start (table.apply (.update column v filter)).1
      (table.recorded lives (.update column v filter)) := by
  rcases update_cases table column v filter with ⟨e, failed⟩ | ⟨name, _, rfl, _, made⟩
  · simpa [apply, recorded, failed, Except.map] using chronicles
  · rw [assigned, withSlots_eq_stale chronicles.stale] at made
    simp only [apply, recorded, made, Except.map]
    apply chronicles.replaced
    · exact chronicles.map_assignedSlot name v filter
    · rw [gone_after_update]
      exact chronicles.deleted

theorem kept_after_delete (lives : List Life) (filter : Option Filter) :
    ((lives.filter Life.present).map Life.slot).filter (fun s => !passes filter s.row) =
      ((lives.map (Life.after (.delete filter))).filter Life.present).map Life.slot := by
  simp [List.filter_map, List.filter_filter, Function.comp_def, Life.after, Life.slot,
    Bool.and_comm]

theorem gone_after_delete (lives : List Life) (filter : Option Filter) :
    ((lives.filter fun life => !life.present).map Life.slot ++
        ((lives.filter Life.present).map Life.slot).filter fun s => passes filter s.row).Perm
      (((lives.map (Life.after (.delete filter))).filter fun life => !life.present).map
        Life.slot) := by
  have before : (lives.filter fun life => !(life.present && !passes filter life.last)).filter
      (fun life => !life.present) = lives.filter fun life => !life.present := by
    rw [List.filter_filter]
    apply List.filter_congr
    intro life _
    cases life.present <;> simp
  have taken : (lives.filter fun life => !(life.present && !passes filter life.last)).filter
      (fun life => !!life.present) =
        lives.filter fun life => passes filter life.last && life.present := by
    rw [List.filter_filter]
    apply List.filter_congr
    intro life _
    cases life.present <;> simp
  have split := List.filter_append_perm (fun life => !life.present)
    (lives.filter fun life => !(life.present && !passes filter life.last))
  have gone : ((lives.map (Life.after (.delete filter))).filter fun life => !life.present).map
      Life.slot =
        (lives.filter fun life => !(life.present && !passes filter life.last)).map Life.slot := by
    rw [List.filter_map, List.map_map]
    rfl
  rw [before, taken] at split
  rw [gone, List.filter_map, List.filter_filter, ← List.map_append]
  exact split.map Life.slot

theorem delete (chronicles : Chronicles start table lives) (filter : Option Filter) :
    Chronicles start (table.apply (.delete filter)).1 (table.recorded lives (.delete filter)) := by
  have made := table.delete_eq filter
  simp only [withSlots_eq_stale chronicles.stale] at made
  simp only [apply, recorded, made, Except.map]
  apply chronicles.replaced
  · rw [chronicles.slots]
    exact kept_after_delete lives filter
  · rw [chronicles.slots]
    exact (chronicles.deleted.append_right _).trans (gone_after_delete lives filter)

theorem insert (chronicles : Chronicles start table lives) {values : List Value}
    (scalars : (Change.insert values).isScalar) :
    Chronicles start (table.apply (.insert values)).1 (table.recorded lives (.insert values)) := by
  rcases insert_cases table values with ⟨e, failed⟩ | ⟨_, free, made⟩
  · simpa [apply, recorded, failed] using chronicles
  · simp only [apply, recorded, made]
    exact chronicles.appended (table.makeRow_keyed (List.all_eq_true.mp scalars)) free

/-- What one change keeps. -/
theorem step (chronicles : Chronicles start table lives) {change : Change}
    (scalars : change.isScalar) :
    Chronicles start (table.apply change).1 (table.recorded lives change) := by
  cases change with
  | insert values => exact chronicles.insert scalars
  | update column v filter => exact chronicles.update column v filter
  | delete filter => exact chronicles.delete filter

theorem run (chronicles : Chronicles start table lives) {changes : List Change}
    (scalars : ∀ change ∈ changes, change.isScalar) :
    Chronicles start (table.run changes) (table.history lives changes) := by
  induction changes generalizing table lives with
  | nil => exact chronicles
  | cons change rest ih =>
    obtain ⟨first, scalars⟩ := List.forall_mem_cons.mp scalars
    exact ih (chronicles.step first) scalars

theorem rows (chronicles : Chronicles start table lives) :
    table.rows = (lives.filter Life.present).map Life.last := by
  rw [Table.rows, chronicles.slots, List.map_map]
  rfl

theorem rowOf?_id (chronicles : Chronicles start table lives) {life : Life}
    (member : life ∈ lives) : table.rowOf? life.id = some life.last := by
  have all : (table.slots ++ table.deleted).Perm (lives.map Life.slot) := by
    have split := (List.filter_append_perm Life.present lives).map Life.slot
    rw [List.map_append, ← chronicles.slots] at split
    exact (chronicles.deleted.append_left _).trans split
  have ids : ((table.slots ++ table.deleted).map Slot.id).Nodup := by
    rw [(all.map Slot.id).nodup_iff, List.map_map]
    exact chronicles.ids
  have there : life.slot ∈ table.slots ++ table.deleted :=
    all.mem_iff.mpr (List.mem_map.mpr ⟨life, member, rfl⟩)
  have found := find?_id ids there
  simp only [rowOf?, show life.id = life.slot.id from rfl, found]
  rfl

/-- A look-up names the row that was inserted with the value, in its last form. -/
theorem lookup (chronicles : Chronicles start table lives) {column : Text}
    (known : column ∈ table.indexes.names) {v : Value} (scalar : v.isScalar) :
    table.lookup column v =
      .ok ((lives.find? fun life => (life.first.at column).same v).map Life.last) := by
  rw [lookup_of_registers chronicles.registers known scalar, List.find?_map]
  cases found : lives.find? fun life => (life.first.at column).same v with
  | none => simp only [Function.comp_def, found, Option.map_none, Option.bind_none]
  | some life =>
    simp only [Function.comp_def, found, Option.map_some, Option.bind_some,
      chronicles.rowOf?_id (List.mem_of_find?_eq_some found)]

theorem at_after (chronicles : Chronicles start table lives) {change : Change}
    (spares : table.spares change) {life : Life} (member : life ∈ lives) {column : Text}
    (known : column ∈ table.indexes.names) :
    (life.after change).last.at column = life.last.at column := by
  cases change with
  | insert values => rfl
  | delete filter => rfl
  | update assigned v filter =>
    cases assigned with
    | none => rfl
    | some name =>
      by_cases set : life.present && passes filter life.last
      · obtain ⟨present, passed⟩ := Bool.and_eq_true_iff.mp set
        have there : life.last ∈ table.rows := by
          rw [chronicles.rows]
          exact List.mem_map.mpr ⟨life, List.mem_filter.mpr ⟨member, present⟩, rfl⟩
        have selected : life.last ∈ table.select filter := List.mem_filter.mpr ⟨there, passed⟩
        have apart : name ≠ column := by
          rintro rfl
          simp only [Table.spares, sparesKeys, Option.all_some, List.contains_iff_mem.mpr known,
            Bool.not_true, Bool.false_or, List.isEmpty_iff] at spares
          simp [spares] at selected
        simp only [Life.after, set, ↓reduceIte, Row.at_put_of_ne _ apart]
      · simp only [Life.after, set, Bool.false_eq_true, ↓reduceIte]

theorem unmoved_step (chronicles : Chronicles start table lives) {change : Change}
    (spares : table.spares change) (unmoved : ∀ life ∈ lives, life.Unmoved table.indexes.names) :
    ∀ life ∈ table.recorded lives change, life.Unmoved table.indexes.names := by
  unfold recorded
  split
  · exact unmoved
  · intro life member
    rcases List.mem_append.mp member with old | new
    · exact unmoved life old
    · obtain rfl := List.mem_singleton.mp new
      exact fun _ _ => rfl
  · rw [List.forall_mem_map]
    intro life member column known
    rw [chronicles.at_after spares member known, (Life.after_keeps _ life).2]
    exact unmoved life member column known

theorem unmoved_run (chronicles : Chronicles start table lives) {changes : List Change}
    (scalars : ∀ change ∈ changes, change.isScalar) (calm : table.sparing changes)
    (unmoved : ∀ life ∈ lives, life.Unmoved table.indexes.names) :
    ∀ life ∈ table.history lives changes, life.Unmoved table.indexes.names := by
  induction changes generalizing table lives with
  | nil => exact unmoved
  | cons change rest ih =>
    obtain ⟨first, scalars⟩ := List.forall_mem_cons.mp scalars
    obtain ⟨spares, calm⟩ := Bool.and_eq_true_iff.mp calm
    have after := chronicles.step first
    have same := after.indexed.trans chronicles.indexed.symm
    rw [← same]
    exact ih after scalars calm (same ▸ chronicles.unmoved_step spares unmoved)

/-- Rows with the indexed values that they came with do not share any. -/
theorem distinct_rows (chronicles : Chronicles start table lives)
    (unmoved : ∀ life ∈ lives, life.Unmoved table.indexes.names) :
    Distinct table.indexes.names table.rows := by
  have part : ((lives.filter Life.present).map Life.first).Sublist (lives.map Life.first) :=
    List.filter_sublist.map Life.first
  rw [chronicles.rows]
  intro column known
  have apart := chronicles.distinct.sublist part column known
  rw [List.pairwise_map] at apart ⊢
  apply apart.imp_of_mem
  intro l r left right different
  rw [unmoved l (List.mem_filter.mp left).1 column known,
    unmoved r (List.mem_filter.mp right).1 column known]
  exact different

/-- A row of scalars is refused exactly for a value that some row came with. -/
theorem insert_eq (chronicles : Chronicles start table lives) {values : List Value}
    (count : values.length = table.columns.length) (scalars : ∀ v ∈ values, v.isScalar) :
    table.insert values =
      match table.indexes.names.find? fun column =>
        lives.any fun life => (life.first.at column).same ((table.makeRow values).at column) with
      | none => .ok (table.appended (table.makeRow values), table.makeRow values)
      | some column =>
        fail (.duplicate column ((table.makeRow values).at column) table.indexes.table) := by
  rw [table.insert_eq count, chronicles.registers.check_eq (table.makeRow_keyed scalars)]
  simp only [List.any_map, Function.comp_def]
  cases table.indexes.names.find? fun column =>
    lives.any fun life => (life.first.at column).same ((table.makeRow values).at column) <;> rfl

end Chronicles

/-- However a table came about whose indexes are not refreshed, each index holds the values that
rows were inserted with, in order, and a look-up goes to the row that came with a value, as it is
now or as it was when it was deleted. Assignments and deletions do not touch the indexes. So a row
is refused for the first of its indexed values that some row ever came with, and rows share none
while no assignment sets one. -/
theorem stale_history (owner : Value) (columns : List Column) (changes : List Change)
    (written : owner.printable) (scalars : ∀ change ∈ changes, change.isScalar) :
    let table := (new owner columns false).run changes
    let lives := (new owner columns false).history [] changes
    table.rows = (lives.filter Life.present).map Life.last ∧
    (∀ column ∈ indexedNames columns,
      (Fields.find? table.indexes.entries column).map (List.map Prod.fst) =
        some (lives.map fun life => life.first.at column) ∧
      ∀ v : Value, v.isScalar → table.lookup column v =
        .ok ((lives.find? fun life => (life.first.at column).same v).map Life.last)) ∧
    (∀ column v filter, (table.update column v filter).1.indexes = table.indexes) ∧
    (∀ filter, (table.delete filter).1.indexes = table.indexes) ∧
    (∀ values : List Value, values.length = columns.length →
      (∀ v ∈ values, v.isScalar ∧ v.printable) →
        match (indexedNames columns).find? fun column =>
          lives.any fun life => (life.first.at column).same ((table.makeRow values).at column) with
        | none => ∃ after, table.insert values = .ok (after, table.makeRow values)
        | some column => table.insert values =
            .error (.engine (.duplicate column ((table.makeRow values).at column) owner))) ∧
    ((new owner columns false).sparing changes → Distinct (indexedNames columns) table.rows) := by
  intro table lives
  have chronicles := (chronicles_new owner columns).run scalars
  have names : table.indexes.names = indexedNames columns :=
    chronicles.indexed.trans (indexed_new owner columns false)
  refine ⟨chronicles.rows, ?_, ?_, ?_, ?_, ?_⟩
  · intro column known
    rw [← names] at known
    refine ⟨?_, fun v scalar => chronicles.lookup known scalar⟩
    rw [chronicles.registers.find?_entries known]
    simp [Entries.ofRows, Function.comp_def, lives]
  · intro column v filter
    rcases update_cases table column v filter with ⟨e, failed⟩ | ⟨name, _, rfl, _, made⟩
    · rw [failed]
    · rw [made]
      exact withSlots_stale chronicles.stale _ _
  · intro filter
    rw [delete_eq]
    exact withSlots_stale chronicles.stale _ _
  · intro values count each
    have made := chronicles.insert_eq (count.trans (congrArg _ chronicles.columns.symm))
      fun v member => (each v member).1
    rw [names] at made
    split
    · next free =>
      rw [free] at made
      exact ⟨_, made⟩
    · next column taken =>
      rw [taken, chronicles.owner] at made
      rw [made]
      apply fail_eq_engine
      have cell := Row.valueAt_of_forall (P := fun v => v.printable) rfl
        (fun pair member => (each pair.2 (table.mem_of_mem_makeRow member)).2) (some column)
      simpa [EngineError.values] using ⟨cell, written⟩
  · intro calm
    rw [← names]
    apply chronicles.distinct_rows
    rw [names, ← indexed_new owner columns false]
    exact (chronicles_new owner columns).unmoved_run scalars calm (by simp)

def keyedColumns : List Column :=
  [⟨"a", .text "INT", true, false⟩, ⟨"b", .text "TEXT", false, false⟩]

/-- A row that takes another value and is deleted, between others that ask for its first value. -/
def deletion : List Change :=
  [.insert [.int 1, .text "x"], .insert [.bool true, .text "y"],
    .update (some "a") (.int 5) (some ⟨some "b", .text "x"⟩),
    .delete (some ⟨some "a", .int 5⟩), .insert [.int 2, .text "z"]]

theorem stale_history_of_deletion : ∃ table : Table,
    table = (new (.text "t") keyedColumns false).run deletion ∧ table.rows.length = 1 ∧
    (∃ row, table.lookup "a" (.int 1) = .ok (some row) ∧ (row.at "a").same (.int 5)) ∧
    table.insert [.int 1, .text "w"] =
      .error (.engine (.duplicate "a" (.int 1) (.text "t"))) := by
  obtain ⟨rows, each, -, -, refused, -⟩ :=
    stale_history (.text "t") keyedColumns deletion (by decide) (by decide)
  refine ⟨_, rfl, ?_, ?_, ?_⟩
  · rw [rows]
    decide +kernel
  · have found : (((new (.text "t") keyedColumns false).history [] deletion).find? fun life =>
        (life.first.at "a").same (.int 1)).any fun life => (life.last.at "a").same (.int 5) := by
      decide +kernel
    obtain ⟨life, there, same⟩ := (Option.any_eq_true _ _).mp found
    refine ⟨life.last, ?_, same⟩
    rw [(each "a" (by decide)).2 (.int 1) rfl, there]
    rfl
  · have taken : (indexedNames keyedColumns).find? (fun column =>
        ((new (.text "t") keyedColumns false).history [] deletion).any fun life =>
          (life.first.at column).same ((((new (.text "t") keyedColumns false).run
            deletion).makeRow [.int 1, .text "w"]).at column)) = some ("a" : Text) := by
      decide +kernel
    have made := refused [.int 1, .text "w"] rfl (by decide +kernel)
    rw [taken] at made
    exact made

end Table
end RowStore
