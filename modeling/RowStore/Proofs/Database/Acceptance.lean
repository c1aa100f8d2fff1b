import RowStore.Proofs.Database.Reopening
import RowStore.Proofs.Table.Acceptance

/-! Which texts can be opened as databases. A text can exactly if it is a record of records of
tables. Any other is refused in words, and a database that goes back to its store then stays as it
is, however many of the tables could be made. -/
namespace RowStore

namespace Snapshot

theorem decode_eq_ok_iff (text : Text) (fields : Fields Value) :
    decode text = .ok fields ↔ Json.read text = .ok (.record fields) := by
  unfold decode
  split <;> simp_all [fail]

theorem decode_error {text : Text} {e : Failure} (failed : decode text = .error e) :
    e.OfSnapshot := by
  have refused : ∃ fault, decode text = fail (.storage fault) := by
    unfold decode at failed ⊢
    split
    · exact ⟨_, rfl⟩
    · simp_all
    · exact ⟨_, rfl⟩
  obtain ⟨fault, refused⟩ := refused
  rw [refused, fail_eq_engine (List.forall_mem_nil _)] at failed
  obtain rfl := Except.error.inj failed
  exact .storage fault

end Snapshot

namespace Database

section tables

variable {snapshot : Fields Value} (kept : (Value.record snapshot).storable) {refresh : Bool}
include kept

theorem tablesOf_iff : (∃ tables, tablesOf snapshot refresh = .ok tables) ↔
    ∀ pair ∈ snapshot, pair.2.IsTableRecord := by
  obtain ⟨-, kept⟩ := (Value.storable_record snapshot).mp kept
  rw [tablesOf, exists_mapM_iff]
  refine forall₂_congr fun pair member => ?_
  rw [← Table.ofValue_iff (kept pair member) refresh]
  constructor
  · rintro ⟨_, made⟩
    obtain ⟨table, made, -⟩ := bind_eq_ok.mp made
    exact ⟨table, made⟩
  · rintro ⟨table, made⟩
    exact ⟨(pair.1, table), bind_eq_ok.mpr ⟨table, made, rfl⟩⟩

theorem tablesOf_error {e : Failure} (failed : tablesOf snapshot refresh = .error e) :
    e.OfSnapshot := by
  obtain ⟨-, kept⟩ := (Value.storable_record snapshot).mp kept
  obtain ⟨pair, member, refused⟩ := exists_of_mapM_error failed
  cases made : Table.ofValue pair.2 refresh with
  | error fault =>
    simp only [made, bind, Except.bind, Except.error.injEq] at refused
    exact refused ▸ Table.ofValue_error (kept pair member) made
  | ok table => simp [made, bind, Except.bind, pure, Except.pure] at refused

end tables

/-- Going back to a store that holds something is opening it, except that nothing changes if it
cannot be opened. -/
theorem reload_eq {db : Database} (present : db.store.load ≠ .ok none) :
    db.reload = match openOn db.store db.refresh with
      | .ok opened => (opened, .ok ())
      | .error e => (db, .error e) := by
  cases loaded : db.store.load with
  | error e => simp only [reload, openOn_of_load_error db.refresh loaded, loaded]
  | ok held =>
    cases held with
    | none => exact absurd loaded present
    | some snapshot =>
      rw [openOn_of_load db.refresh loaded, reload_of_load loaded]
      cases tablesOf snapshot db.refresh <;> rfl

section memory

variable {memory : Memory} {blob : Text} (held : memory.blob = some blob)
include held

theorem load_memory : (Store.memory memory).load = (Snapshot.decode blob).map some := by
  simp only [Store.load, Memory.load, held]

theorem openOn_memory (refresh : Bool) :
    openOn (.memory memory) refresh = (do
      let snapshot ← Snapshot.decode blob
      let tables ← tablesOf snapshot refresh
      return ⟨tables, .memory memory, refresh⟩) := by
  have load := load_memory held
  cases decoded : Snapshot.decode blob with
  | error e =>
    rw [decoded] at load
    exact openOn_of_load_error refresh load
  | ok snapshot =>
    rw [decoded] at load
    rw [openOn_of_load refresh load]
    cases made : tablesOf snapshot refresh <;>
      simp only [made, Except.map, bind, Except.bind, pure, Except.pure]

/-- A text can be opened exactly if it is a record of records of tables. If it is not, it is refused
in words, and a database that goes back to it keeps its tables. -/
theorem openOn_iff_tableRecords (refresh : Bool) :
    ((∃ db, openOn (.memory memory) refresh = .ok db) ↔
      ∃ snapshot, Json.read blob = .ok (.record snapshot) ∧
        ∀ pair ∈ snapshot, pair.2.IsTableRecord) ∧
    (∀ e, openOn (.memory memory) refresh = .error e → e.OfSnapshot) ∧
    ∀ db : Database, db.store = .memory memory →
      db.reload = match openOn (.memory memory) db.refresh with
        | .ok opened => (opened, .ok ())
        | .error e => (db, .error e) := by
  refine ⟨?_, ?_, ?_⟩
  · rw [openOn_memory held]
    constructor
    · rintro ⟨db, opened⟩
      obtain ⟨snapshot, decoded, opened⟩ := bind_eq_ok.mp opened
      obtain ⟨tables, made, -⟩ := bind_eq_ok.mp opened
      exact ⟨snapshot, (Snapshot.decode_eq_ok_iff blob snapshot).mp decoded,
        (tablesOf_iff (Snapshot.decode_spec decoded).1).mp ⟨tables, made⟩⟩
    · rintro ⟨snapshot, read, records⟩
      have decoded := (Snapshot.decode_eq_ok_iff blob snapshot).mpr read
      obtain ⟨tables, made⟩ := (tablesOf_iff (Snapshot.decode_spec decoded).1).mpr records
      exact ⟨_, bind_eq_ok.mpr ⟨snapshot, decoded, bind_eq_ok.mpr ⟨tables, made, rfl⟩⟩⟩
  · intro e failed
    rw [openOn_memory held] at failed
    cases decoded : Snapshot.decode blob with
    | error fault =>
      rw [decoded] at failed
      obtain rfl := Except.error.inj failed
      exact Snapshot.decode_error decoded
    | ok snapshot =>
      cases made : tablesOf snapshot refresh with
      | error fault =>
        simp only [decoded, made, bind, Except.bind, Except.error.injEq] at failed
        exact failed ▸ tablesOf_error (Snapshot.decode_spec decoded).1 made
      | ok tables => simp [decoded, made, bind, Except.bind, pure, Except.pure] at failed
  · intro db same
    rw [← same]
    apply reload_eq
    rw [same, load_memory held]
    cases Snapshot.decode blob <;> simp [Except.map]

end memory

/-- The record of a table with one column and a row for each of some values. -/
def oneColumn (flag : Value) (cells : List Value) : Value :=
  .record [("name", .text "t"),
    ("columns", .list [.record [("name", .text "a"), ("unique", flag)]]),
    ("rows", .list (cells.map fun v => .record [("a", v)]))]

/-- A memory that holds the text of some members. -/
def holding (members : Fields Value) : Memory :=
  ⟨some (.ofString (Json.write (.record members))), 0, none⟩

/-- Any text that is not empty is a flag that counts as set. -/
def flagged : Memory := holding [("t", oneColumn (.text "no") [.int 1, .int 2])]

/-- The first table can be made. The second has the same value twice, since true counts as one. -/
def halfMade : Memory :=
  holding [("t", oneColumn .null []), ("u", oneColumn (.int 1) [.int 1, .bool true])]

theorem openOn_iff_tableRecords_of_flags : ∃ blob snapshot db e, flagged.blob = some blob ∧
    Json.read blob = .ok (.record snapshot) ∧ (∀ pair ∈ snapshot, pair.2.IsTableRecord) ∧
    openOn (.memory flagged) false = .ok db ∧
    (db.on (.memory halfMade)).reload = (db.on (.memory halfMade), .error e) ∧ e.OfSnapshot := by
  obtain ⟨db, opened⟩ := exists_ok_of_isSome (x := openOn (.memory flagged) false) (by decide +kernel)
  obtain ⟨e, failed⟩ := exists_error_of_isNone (x := openOn (.memory halfMade) false)
    (by decide +kernel)
  obtain ⟨snapshot, read, records⟩ := (openOn_iff_tableRecords rfl false).1.mp ⟨db, opened⟩
  obtain ⟨-, refused, again⟩ := @openOn_iff_tableRecords halfMade _ rfl false
  have policy : (db.on (.memory halfMade)).refresh = false := (valid_of_openOn opened).2.1
  refine ⟨_, snapshot, db, e, rfl, read, records, opened, ?_, refused e failed⟩
  rw [again _ rfl, policy, failed]

/-! A column may have any type, so there are texts that can be opened and not saved again. -/
section deep

/-- Nothing inside of lists. -/
def nested : Nat → Value
  | 0 => .null
  | n + 1 => .list [nested n]

theorem depth_nested (n : Nat) : (nested n).depth = n := by
  induction n with
  | zero => rfl
  | succ n ih => simp [nested, Value.depth, Value.depthOfItems, ih]

theorem storable_nested (n : Nat) : (nested n).storable ∧ (nested n).settled := by
  induction n with
  | zero => exact ⟨rfl, rfl⟩
  | succ n ih => simpa [nested] using ih

/-- A table of one column, which has a nested type. -/
def deepTable (n : Nat) : Table := .new (.text "t") [⟨"a", nested n, false, false⟩] false

/-- A database with this table, over a memory that holds its text. -/
def deepTyped (n : Nat) : Database where
  tables := [("t", deepTable n)]
  store := saved ⟨[("t", deepTable n)], .bare, false⟩ 0
  refresh := false

theorem openOn_deepTyped (n : Nat) : openOn (deepTyped n).store false = .ok (deepTyped n) := by
  have sound : (deepTable n).Sound :=
    Table.sound_new false rfl (by simpa using (storable_nested n).1)
  have valid : (deepTyped n).Valid :=
    ⟨by simp [deepTyped, Fields.names], by simpa [deepTyped] using ⟨sound, rfl, by simp⟩⟩
  have settled : (deepTyped n).record.settled := by
    rw [record_settled_iff]
    simp only [deepTyped, List.forall_mem_singleton, Table.record_settled_iff]
    refine ⟨by decide, show (Value.text "t").settled by decide, ?_, by simp [deepTable]⟩
    simpa [deepTable, Table.new] using ⟨by decide, (storable_nested n).2⟩
  rw [openOn_of_load false (show (deepTyped n).store.load = _ from valid.load_saved 0 settled)]
  rfl

theorem shallow_deepTyped_iff (n : Nat) : (deepTyped n).Shallow ↔ n ≤ Column.copyDepth := by
  simp [Shallow, Table.Shallow, deepTyped, deepTable, Table.new, depth_nested]

end deep

end Database
end RowStore
