import RowStore.Proofs.Database.Invariant

/-! Databases that can be reached from what a store holds, whatever stores do in between. The tables
of a snapshot are made one after the other and take their places together. No two members of a
snapshot share a name, so this is to make a table of each member. -/
namespace RowStore.Database

theorem storable_of_load {store : Store} {snapshot : Fields Value}
    (loaded : store.load = .ok (some snapshot)) : (Value.record snapshot).storable := by
  cases store with
  | memory memory =>
    simp only [Store.load, Memory.load] at loaded
    split at loaded
    · simp at loaded
    · obtain ⟨fields, read, same⟩ := map_eq_ok.mp loaded
      obtain rfl := Option.some.inj same
      exact (Snapshot.decode_spec read).1
  | file place disk =>
    simp only [Store.load, Place.load, Folder.load] at loaded
    split at loaded
    · split at loaded
      · split at loaded
        · obtain ⟨fields, read, same⟩ := map_eq_ok.mp loaded
          obtain rfl := Option.some.inj same
          exact (Snapshot.decode_spec read).1
        · simp [fail] at loaded
      · simp at loaded
    · simp at loaded
  | bare => simp [Store.load] at loaded

/-- The tables in a snapshot, each made from its record. -/
def tablesOf (snapshot : Fields Value) (refresh : Bool) : Result (Fields Table) :=
  snapshot.mapM fun (name, v) => return (name, ← Table.ofValue v refresh)

theorem tablesOf_cons (name : Text) (v : Value) (rest : Fields Value) (refresh : Bool) :
    tablesOf ((name, v) :: rest) refresh = (do
      let table ← Table.ofValue v refresh
      let tables ← tablesOf rest refresh
      return (name, table) :: tables) := by
  simp only [tablesOf, List.mapM_cons, bind, Except.bind]
  cases Table.ofValue v refresh <;> rfl

theorem tablesOf_valid {snapshot : Fields Value} {refresh : Bool} {tables : Fields Table}
    (kept : ∀ pair ∈ snapshot, pair.2.storable) (made : tablesOf snapshot refresh = .ok tables) :
    Fields.names tables = Fields.names snapshot ∧
      ∀ pair ∈ tables, pair.2.Valid refresh ∧ pair.2.Current := by
  induction snapshot generalizing tables with
  | nil =>
    obtain rfl := Except.ok.inj made
    exact ⟨rfl, by simp⟩
  | cons pair rest ih =>
    obtain ⟨name, v⟩ := pair
    obtain ⟨first, kept⟩ := List.forall_mem_cons.mp kept
    rw [tablesOf_cons] at made
    obtain ⟨table, read, made⟩ := bind_eq_ok.mp made
    obtain ⟨others, later, same⟩ := bind_eq_ok.mp made
    obtain rfl := Except.ok.inj same
    obtain ⟨names, valid⟩ := ih kept later
    refine ⟨?_, List.forall_mem_cons.mpr ⟨Table.ofValue_valid first read, valid⟩⟩
    simp only [Fields.names, List.map_cons] at names ⊢
    rw [names]

theorem replaceTables_eq (db : Database) {made : Fields Table} {snapshot : Fields Value}
    (apart : (Fields.names made ++ Fields.names snapshot).Nodup) :
    db.replaceTables made snapshot =
      match tablesOf snapshot db.refresh with
      | .ok tables => ({ db with tables := made ++ tables }, .ok ())
      | .error e => (db, .error e) := by
  induction snapshot generalizing made with
  | nil => simp [replaceTables, tablesOf, pure, Except.pure]
  | cons pair rest ih =>
    obtain ⟨name, v⟩ := pair
    have new : name ∉ Fields.names made := by
      intro known
      exact (List.nodup_append.mp apart).2.2 name known name List.mem_cons_self rfl
    rw [tablesOf_cons, replaceTables]
    cases Table.ofValue v db.refresh with
    | error e => rfl
    | ok table =>
      simp only [bind, Except.bind, Fields.put_of_not_mem new]
      rw [ih (by simpa [Fields.names] using apart)]
      cases tablesOf rest db.refresh <;> simp [pure, Except.pure]

/-- A snapshot that is loaded takes the place of the tables, or none of it does. -/
theorem reload_of_load {db : Database} {snapshot : Fields Value}
    (loaded : db.store.load = .ok (some snapshot)) :
    db.reload = match tablesOf snapshot db.refresh with
      | .ok tables => ({ db with tables }, .ok ())
      | .error e => (db, .error e) := by
  have apart := ((Value.storable_record snapshot).mp (storable_of_load loaded)).1
  simp only [reload, loaded]
  exact @replaceTables_eq db [] snapshot apart

section opening

variable {store : Store} (policy : Bool)

theorem openOn_of_load_error {e : Failure} (failed : store.load = .error e) :
    openOn store policy = .error e := by
  simp only [openOn, reload, failed]

theorem openOn_of_load_none (nothing : store.load = .ok none) :
    openOn store policy = .ok ⟨[], store, policy⟩ := by
  simp only [openOn, reload, nothing]

theorem openOn_of_load {snapshot : Fields Value} (loaded : store.load = .ok (some snapshot)) :
    openOn store policy = (tablesOf snapshot policy).map fun tables => ⟨tables, store, policy⟩ := by
  rw [openOn, @reload_of_load ⟨[], store, policy⟩ snapshot loaded]
  cases tablesOf snapshot policy <;> rfl

end opening

/-- A database that was opened has the tables of what its store loaded, if that was anything. -/
theorem openOn_cases {store : Store} {refresh : Bool} {db : Database}
    (opened : openOn store refresh = .ok db) :
    (store.load = .ok none ∧ db = ⟨[], store, refresh⟩) ∨
      ∃ snapshot tables, store.load = .ok (some snapshot) ∧
        tablesOf snapshot refresh = .ok tables ∧ db = ⟨tables, store, refresh⟩ := by
  cases loaded : store.load with
  | error e =>
    rw [openOn_of_load_error refresh loaded] at opened
    contradiction
  | ok held =>
    cases held with
    | none =>
      rw [openOn_of_load_none refresh loaded] at opened
      exact .inl ⟨rfl, (Except.ok.inj opened).symm⟩
    | some snapshot =>
      rw [openOn_of_load refresh loaded] at opened
      obtain ⟨tables, made, rfl⟩ := map_eq_ok.mp opened
      exact .inr ⟨snapshot, tables, rfl, made, rfl⟩

theorem valid_of_openOn {store : Store} {refresh : Bool} {db : Database}
    (opened : openOn store refresh = .ok db) :
    db.Valid ∧ db.refresh = refresh ∧ db.store = store := by
  rcases openOn_cases opened with ⟨_, rfl⟩ | ⟨snapshot, tables, loaded, made, rfl⟩
  · exact ⟨⟨.nil, by simp⟩, rfl, rfl⟩
  · obtain ⟨distinct, kept⟩ := (Value.storable_record snapshot).mp (storable_of_load loaded)
    obtain ⟨names, valid⟩ := tablesOf_valid kept made
    exact ⟨⟨names ▸ distinct, fun pair member => (valid pair member).1⟩, rfl, rfl⟩

/-- The databases that can be reached under a policy. Between queries the store may turn into any
other one. -/
inductive Reachable (refresh : Bool) : Database → Prop
  | opened {store : Store} {db : Database} :
    openOn store refresh = .ok db → Reachable refresh db
  | queried {db : Database} (query : Text) :
    Reachable refresh db → Reachable refresh (db.execute query).1
  | moved {db : Database} (store : Store) : Reachable refresh db → Reachable refresh (db.on store)

theorem Reachable.valid {refresh : Bool} {db : Database} (reachable : Reachable refresh db) :
    db.Valid ∧ db.refresh = refresh := by
  induction reachable with
  | opened opened => exact ⟨(valid_of_openOn opened).1, (valid_of_openOn opened).2.1⟩
  | queried query _ ih => exact ⟨(ih.1.execute query).1, (ih.1.execute query).2.trans ih.2⟩
  | moved store _ ih => exact ⟨ih.1.on store, ih.2⟩

/-- Queries one after the other, whatever becomes of each. -/
def run (db : Database) (queries : List Text) : Database :=
  queries.foldl (fun db query => (db.execute query).1) db

theorem run_append_singleton (db : Database) (queries : List Text) (last : Text) :
    db.run (queries ++ [last]) = ((db.run queries).execute last).1 := by
  simp [run]

theorem Reachable.run {refresh : Bool} {db : Database} (reachable : Reachable refresh db)
    (queries : List Text) : Reachable refresh (db.run queries) := by
  induction queries generalizing db with
  | nil => exact reachable
  | cons query rest ih => exact ih (reachable.queried query)

/-- A database without tables over an empty memory. -/
def fresh (refresh : Bool) : Database := ⟨[], .memory .empty, refresh⟩

theorem valid_fresh (refresh : Bool) : (fresh refresh).Valid := ⟨.nil, by simp [fresh]⟩

theorem openOn_empty (refresh : Bool) : openOn (.memory .empty) refresh = .ok (fresh refresh) := rfl

end RowStore.Database
