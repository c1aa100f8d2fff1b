import RowStore.Proofs.Database.Acceptance
import RowStore.Proofs.Store.Mirror

/-! A database over a file beside one over a memory. They give the same answers and hold the same
tables at every step, and the file holds the text of the memory, as long as the names of the folder
and of the spare file are not too long. -/
namespace RowStore.Database

open Files

/-- What is asked of a database. A database that is opened again may be under another policy; if it
cannot be opened, the old one stays. -/
inductive Request where
  | execute (query : Text)
  | persist
  | load
  | reopen (refresh : Bool)

def perform (db : Database) : Request → Database × Result Answer
  | .execute query => db.execute query
  | .persist => (db.persist.1, db.persist.2.map fun () => .done)
  | .load => (db.reload.1, db.reload.2.map fun () => .done)
  | .reopen refresh =>
    match openOn db.store refresh with
    | .ok opened => (opened, .ok .done)
    | .error e => (db, .error e)

/-- Requests one after the other, and their answers. -/
def performAll (db : Database) : List Request → Database × List (Result Answer)
  | [] => (db, [])
  | first :: rest =>
    let (after, answer) := db.perform first
    let (last, answers) := after.performAll rest
    (last, answer :: answers)

section requests

variable {folder : Folder} {memory : Memory} {disk : Disk} {db : Database}

/-- An outcome over a memory, and the same one over a copy of it. -/
def Pairs (folder : Folder) (plain filed : Database × α) : Prop :=
  filed.2 = plain.2 ∧ ∃ memory disk, plain.1.store = .memory memory ∧
    folder.Mirrors memory disk ∧ filed.1 = plain.1.on (.file folder disk)

theorem persist_pairs (fits : folder.Fits) (mirrors : folder.Mirrors memory disk)
    (held : db.store = .memory memory) :
    Pairs folder db.persist (db.on (.file folder disk)).persist := by
  by_cases shallow : db.Shallow
  · have moved : (db.on (.file folder disk)).Shallow := shallow
    obtain ⟨same, kept⟩ := mirrors.save fits db.record
    rw [shallow.persist, moved.persist, held,
      show (db.on (.file folder disk)).store = .file folder disk from rfl, Store.save_file]
    exact ⟨congrArg (Except.mapError saveFailure) same, (memory.save db.record).1,
      (folder.save db.record disk).1.disk, rfl, kept, rfl⟩
  · have moved : ¬(db.on (.file folder disk)).Shallow := shallow
    rw [persist_of_not_shallow shallow, persist_of_not_shallow moved]
    exact ⟨rfl, memory, disk, held, mirrors, rfl⟩

theorem store_of_executeCommand (db : Database) (command : Command) :
    (db.executeCommand command).1.store = db.store := by
  have same := congrArg (·.1.store) (executeCommand_on db db.store command)
  exact same

theorem execute_pairs (fits : folder.Fits) (mirrors : folder.Mirrors memory disk)
    (held : db.store = .memory memory) (query : Text) :
    Pairs folder (db.execute query) ((db.on (.file folder disk)).execute query) := by
  unfold execute
  cases Query.parseText (some query) with
  | error e => exact ⟨rfl, memory, disk, held, mirrors, rfl⟩
  | ok command =>
    have store := store_of_executeCommand db command
    simp only [executeCommand_on]
    cases done : db.executeCommand command with
    | mk after result =>
      rw [done, held] at store
      cases result with
      | error e => exact ⟨rfl, memory, disk, store, mirrors, rfl⟩
      | ok answer =>
        obtain ⟨same, saved⟩ := persist_pairs fits mirrors store
        exact ⟨congrArg (Except.map fun () => answer) same, saved⟩

theorem replaceTables_on (db : Database) (store : Store) (made : Fields Table)
    (snapshot : Fields Value) : (db.on store).replaceTables made snapshot =
      ((db.replaceTables made snapshot).1.on store, (db.replaceTables made snapshot).2) := by
  induction snapshot generalizing made with
  | nil => rfl
  | cons pair rest ih =>
    obtain ⟨name, v⟩ := pair
    simp only [replaceTables, show (db.on store).refresh = db.refresh from rfl]
    cases Table.ofValue v db.refresh with
    | error e => rfl
    | ok table => exact ih _

theorem store_of_replaceTables (db : Database) (made : Fields Table) (snapshot : Fields Value) :
    (db.replaceTables made snapshot).1.store = db.store :=
  congrArg (·.1.store) (replaceTables_on db db.store made snapshot)

theorem reload_pairs (mirrors : folder.Mirrors memory disk) (held : db.store = .memory memory) :
    Pairs folder db.reload (db.on (.file folder disk)).reload := by
  have loads : (db.on (.file folder disk)).store.load = db.store.load := by
    rw [held]
    exact (Store.load_file folder disk).trans mirrors.load
  unfold reload
  rw [loads]
  cases db.store.load with
  | error e => exact ⟨rfl, memory, disk, held, mirrors, rfl⟩
  | ok loaded =>
    cases loaded with
    | none => exact ⟨rfl, memory, disk, held, mirrors, rfl⟩
    | some snapshot =>
      simp only [replaceTables_on]
      exact ⟨rfl, memory, disk, (store_of_replaceTables ..).trans held, mirrors, rfl⟩

theorem openOn_file (mirrors : folder.Mirrors memory disk) (refresh : Bool) :
    openOn (.file folder disk) refresh =
      (openOn (.memory memory) refresh).map (·.on (.file folder disk)) := by
  have loads : (Store.file folder disk).load = (Store.memory memory).load :=
    (Store.load_file folder disk).trans mirrors.load
  cases loaded : (Store.memory memory).load with
  | error e =>
    rw [openOn_of_load_error refresh (loads.trans loaded), openOn_of_load_error refresh loaded]
    rfl
  | ok held =>
    cases held with
    | none =>
      rw [openOn_of_load_none refresh (loads.trans loaded), openOn_of_load_none refresh loaded]
      rfl
    | some snapshot =>
      rw [openOn_of_load refresh (loads.trans loaded), openOn_of_load refresh loaded]
      cases tablesOf snapshot refresh <;> rfl

theorem perform_pairs (fits : folder.Fits) (mirrors : folder.Mirrors memory disk)
    (held : db.store = .memory memory) (asked : Request) :
    Pairs folder (db.perform asked) ((db.on (.file folder disk)).perform asked) := by
  cases asked with
  | execute query => exact execute_pairs fits mirrors held query
  | persist =>
    obtain ⟨same, saved⟩ := persist_pairs fits mirrors held
    exact ⟨by simp only [perform, same], saved⟩
  | load =>
    obtain ⟨same, loaded⟩ := reload_pairs mirrors held
    exact ⟨by simp only [perform, same], loaded⟩
  | reopen refresh =>
    simp only [perform, show (db.on (.file folder disk)).store = .file folder disk from rfl, held,
      openOn_file mirrors]
    cases opened : openOn (.memory memory) refresh with
    | error e => exact ⟨rfl, memory, disk, held, mirrors, rfl⟩
    | ok new => exact ⟨rfl, memory, disk, (valid_of_openOn opened).2.2, mirrors, rfl⟩

theorem performAll_pairs (fits : folder.Fits) (mirrors : folder.Mirrors memory disk)
    (held : db.store = .memory memory) (asked : List Request) :
    Pairs folder (db.performAll asked) ((db.on (.file folder disk)).performAll asked) := by
  induction asked generalizing db memory disk with
  | nil => exact ⟨rfl, memory, disk, held, mirrors, rfl⟩
  | cons first rest ih =>
    obtain ⟨answer, memory, disk, held, mirrors, after⟩ := perform_pairs fits mirrors held first
    obtain ⟨answers, ending⟩ := ih mirrors held
    rw [← after] at answers ending
    exact ⟨List.cons_eq_cons.mpr ⟨answer, answers⟩, ending⟩

end requests

/-- From an empty working folder on, a database over a file does what a database over an empty
memory does, and what the memory holds stands in the file. -/
theorem performAll_on_file {folder : Folder} {disk : Disk} (fits : folder.Fits)
    (empty : disk.root.at? disk.here = some .empty) (refresh : Bool) (asked : List Request) :
    ∃ filed, openOn (.memory .empty) refresh = .ok (fresh refresh) ∧
      openOn (.file folder disk) refresh = .ok filed ∧
      (filed.performAll asked).2 = ((fresh refresh).performAll asked).2 ∧
      (filed.performAll asked).1.tables = ((fresh refresh).performAll asked).1.tables ∧
      (filed.performAll asked).1.refresh = ((fresh refresh).performAll asked).1.refresh ∧
      ∃ memory after, ((fresh refresh).performAll asked).1.store = .memory memory ∧
        (filed.performAll asked).1.store = .file folder after ∧
          folder.Copies memory.blob after := by
  have mirrors := fits.mirrors_empty empty
  obtain ⟨answers, memory, after, held, kept, same⟩ :=
    performAll_pairs fits mirrors (show (fresh refresh).store = .memory .empty from rfl) asked
  refine ⟨(fresh refresh).on (.file folder disk), openOn_empty refresh, ?_, answers, ?_, ?_,
    memory, after, held, ?_, kept.copies⟩
  · rw [openOn_file mirrors, openOn_empty]
    rfl
  · rw [same]
    rfl
  · rw [same]
    rfl
  · rw [same]
    rfl

theorem performAll_on_file_of_fresh : ∃ filed,
    openOn (.file (⟨"data", "k"⟩ : Folder) .fresh) false = .ok filed ∧
      (filed.performAll [.execute "CREATE TABLE t (a TEXT)", .execute "INSERT INTO t (1)",
        .reopen true]).1.tables =
      ((fresh false).performAll [.execute "CREATE TABLE t (a TEXT)", .execute "INSERT INTO t (1)",
        .reopen true]).1.tables := by
  obtain ⟨filed, -, opened, -, same, -⟩ := performAll_on_file Folder.fits_small
    (show Disk.fresh.root.at? Disk.fresh.here = some .empty from rfl) false
    [.execute "CREATE TABLE t (a TEXT)", .execute "INSERT INTO t (1)", .reopen true]
  exact ⟨filed, opened, same⟩

theorem saved_of_execute {db : Database} {query : Text} {answer : Answer}
    (done : (db.execute query).2 = .ok answer) :
    ∃ v, (db.store.save v).2 = .ok () := by
  unfold execute at done
  cases read : Query.parseText (some query) with
  | error e => simp [read] at done
  | ok command =>
    have store := store_of_executeCommand db command
    cases carried : db.executeCommand command with
    | mk after result =>
      rw [carried] at store
      cases result with
      | error e => simp [read, carried] at done
      | ok result =>
        simp only [read, carried] at done
        obtain ⟨⟨⟩, saved, -⟩ := map_eq_ok.mp done
        unfold persist at saved
        split at saved
        · contradiction
        · next snapshot _ => exact ⟨snapshot, store ▸ mapError_eq_ok.mp saved⟩

/-- A key of which the spare file has a name with a byte too many. -/
def longKey : Folder := ⟨"data", String.ofList (List.replicate 247 'k')⟩

/-- The system refuses such a name, and a database over a memory does not need it. -/
theorem not_performAll_on_file : longKey.Plain ∧ ∃ filed,
    openOn (.file longKey .fresh) false = .ok filed ∧
      ((fresh false).execute "CREATE TABLE t (a INT)").2.toOption.isSome ∧
      (filed.execute "CREATE TABLE t (a INT)").2.toOption.isNone := by
  have key : longKey.key.toList = List.replicate 247 'k' := String.toList_ofList
  have plain : longKey.Plain := by
    refine ⟨by decide +kernel, fun member => ?_, fun member => ?_⟩
    · rw [key] at member
      exact absurd (List.eq_of_mem_replicate member) (by decide)
    · rw [key] at member
      rcases List.mem_append.mp member with dir | member
      · exact absurd dir (by decide +kernel)
      · exact absurd (List.eq_of_mem_replicate member) (by decide)
  have size (n : Nat) : ((List.replicate n 'k').flatMap Text.encodeChar).length = n := by
    rw [List.length_flatMap, List.map_replicate, List.sum_replicate_nat]
    exact Nat.mul_one n
  have long : nameLimit < byteLength (longKey.key ++ ".json.tmp") := by
    rw [byteLength, Text.encode, String.toList_append, key, List.flatMap_append,
      List.length_append, size]
    decide
  have missing := plain.nodeAt?_of_empty (by decide +kernel)
    (show Disk.fresh.root.at? Disk.fresh.here = some .empty from rfl)
  have opened : openOn (.file longKey .fresh) false = .ok ⟨[], .file longKey .fresh, false⟩ := by
    apply openOn_of_load_none
    rw [Store.load_file]
    simp only [Folder.load, Disk.isPresent, missing]
    rfl
  refine ⟨plain, _, opened, by decide +kernel, ?_⟩
  cases done : (execute ⟨[], .file longKey .fresh, false⟩ "CREATE TABLE t (a INT)").2 with
  | error e => rfl
  | ok answer =>
    obtain ⟨v, saved⟩ := saved_of_execute done
    rw [Store.save_file] at saved
    exact absurd saved (Folder.save_ne_ok plain long v)

end RowStore.Database
