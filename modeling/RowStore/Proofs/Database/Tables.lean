import RowStore.Proofs.Database.Opening
import RowStore.Proofs.Table.Refreshed

/-! Where the tables of a database come from. Queries create tables and change them one by one, so
every table that a database comes to have can be reached by the operations of tables alone. -/
namespace RowStore.Database

section commands

variable {db : Database} (each : ∀ pair ∈ db.tables, pair.2.Reachable db.refresh)
include each

theorem reachable_put {table : Table} (reachable : table.Reachable db.refresh) (name : Text) :
    ∀ pair ∈ Fields.put db.tables name table, pair.2.Reachable db.refresh := by
  intro pair member
  rcases Fields.mem_put member with there | rfl
  · exact each pair there
  · exact reachable

theorem reachable_change {change : Change} (scalars : ∀ v ∈ change.values, v.isScalar)
    {act : Table → Table × Result Unit} (same : ∀ table, (act table).1 = (table.apply change).1)
    (name : Option Text) :
    ∀ pair ∈ (db.change name act).1.tables, pair.2.Reachable db.refresh := by
  unfold Database.change
  split
  · exact each
  · next key table found =>
    have before := each _ (Fields.mem_of_find? (named_eq_ok found).2)
    exact reachable_put each (same table ▸ before.changed scalars) key

theorem reachable_executeCommand {command : Command} {P : Text → Prop}
    (cells : command.Brings P) :
    ∀ pair ∈ (db.executeCommand command).1.tables, pair.2.Reachable db.refresh := by
  cases command with
  | createTable name columns =>
    simp only [executeCommand, create]
    split
    · exact each
    · exact reachable_put each (.new (.text name) columns) name
  | insert name values =>
    have scalars : ∀ v ∈ (Change.insert values).values, v.isScalar :=
      fun v member => Value.isScalar_of_isCell (cells v member).1
    exact reachable_change each scalars (fun _ => rfl) name
  | update name column v filter =>
    have scalars : ∀ w ∈ (Change.update column v filter).values, w.isScalar :=
      List.forall_mem_singleton.mpr (Value.isScalar_of_isCell cells.1)
    exact reachable_change each scalars (fun _ => rfl) name
  | delete name filter =>
    have scalars : ∀ v ∈ (Change.delete filter).values, v.isScalar := List.forall_mem_nil _
    exact reachable_change each scalars (fun _ => rfl) name
  | select name columns filter join => exact each
  | showIndex name => exact each

theorem reachable_execute (query : Text) :
    ∀ pair ∈ (db.execute query).1.tables, pair.2.Reachable db.refresh := by
  cases read : Query.parseText (some query) with
  | error e => simpa only [execute, read] using each
  | ok command =>
    obtain ⟨store, left⟩ := db.exists_execute_on read
    rw [left]
    exact reachable_executeCommand each (brings_of_parseText read)

end commands

/-- Every table of a database can be reached under the policy of the database. -/
theorem Reachable.tables {refresh : Bool} {db : Database} (reachable : Reachable refresh db) :
    ∀ pair ∈ db.tables, pair.2.Reachable refresh := by
  induction reachable with
  | opened opened =>
    rcases openOn_cases opened with ⟨_, rfl⟩ | ⟨snapshot, tables, _, made, rfl⟩
    · exact List.forall_mem_nil _
    · intro pair member
      obtain ⟨entry, _, done⟩ := mem_of_mapM made member
      obtain ⟨table, read, same⟩ := bind_eq_ok.mp done
      obtain rfl := Except.ok.inj same
      exact .made read
  | queried query before each =>
    rw [← before.valid.2] at each ⊢
    exact reachable_execute each query
  | moved store _ each => exact each

end RowStore.Database
