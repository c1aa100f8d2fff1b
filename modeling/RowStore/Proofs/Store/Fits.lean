import RowStore.Proofs.Files.Making
import RowStore.Proofs.Store.Folder

/-! Folders in which a snapshot can be saved: their names and paths are short enough, and no other
file or folder is in the way. -/
namespace RowStore.Folder

open Files

/-- A folder below the working folder, with names and paths that calls accept. -/
structure Fits (folder : Folder) : Prop extends Plain folder where
  present : folder.dir ≠ ""
  relative : folder.dir.startsWith "/" = false
  short : ∀ name ∈ steps folder.dir ++ [folder.key ++ ".json.tmp"], byteLength name ≤ nameLimit
  brief : byteLength folder.sparePath ≤ pathLimit

section fits

variable {folder : Folder}

theorem Fits.proper_spare (fits : folder.Fits) : Proper folder.sparePath where
  clean := fits.spare.clean
  checked := by
    refine checkPath_iff.mpr ⟨?_, fits.brief⟩
    intro none
    have size := congrArg (·.toList.length) none
    simp [sparePath] at size
  short := fits.spare.names ▸ fits.short

theorem Fits.proper_path (fits : folder.Fits) : Proper folder.path := by
  have whole : folder.sparePath.toList = folder.path.toList ++ ".tmp".toList := by
    simp [sparePath]
  have present : folder.path ≠ "" := by
    intro none
    have member : folder.key ++ ".json" ∈ steps folder.path := by simp [fits.path.names]
    rw [none] at member
    contradiction
  refine ⟨fits.path.clean, checkPath_iff.mpr ⟨present, ?_⟩, fun name member => ?_⟩
  · exact Nat.le_trans (byteLength_le whole) fits.brief
  · rw [fits.path.names] at member
    rcases List.mem_append.mp member with above | last
    · exact fits.short name (List.mem_append_left _ above)
    · rw [List.mem_singleton.mp last]
      have longer : (folder.key ++ ".json.tmp").toList =
          (folder.key ++ ".json").toList ++ ".tmp".toList := by
        simp
      exact Nat.le_trans (byteLength_le longer) (fits.short _ (by simp))

theorem Fits.proper_dir (fits : folder.Fits) : Proper folder.dir := by
  have flat : '/' ∉ (folder.key ++ ".json").toList := by
    simpa using fits.flat
  obtain ⟨slashes, cut⟩ := joined_cut folder.dir flat
  refine fits.proper_path.front fits.present (cut.whole.trans (List.append_assoc ..)) ?_
  rw [fits.path.names]
  exact List.prefix_append _ _

end fits

/-- Nothing stands in the way of a snapshot. -/
structure Free (folder : Folder) (disk : Disk) : Prop where
  room : disk.Room (disk.target folder.dir)
  path : ∀ entries, disk.root.at? (disk.target folder.path) ≠ some (.folder entries)
  spare : ∀ entries, disk.root.at? (disk.target folder.sparePath) ≠ some (.folder entries)

section free

variable {folder : Folder} {disk : Disk}

section empty

variable (relative : folder.dir.startsWith "/" = false)
  (empty : disk.root.at? disk.here = some .empty)
include relative empty

theorem Within.at?_of_empty {path name : String} (inside : folder.Within path name) :
    disk.root.at? (disk.target path) = none := by
  rw [Disk.target, inside.start, inside.names, Disk.start_of_relative relative, Node.at?_append,
    empty, Option.bind_some]
  exact Node.at?_empty (by simp)

theorem Plain.nodeAt?_of_empty (plain : folder.Plain) : disk.nodeAt? folder.path = none := by
  cases seen : disk.nodeAt? folder.path with
  | none => rfl
  | some node =>
    obtain ⟨-, -, there⟩ := Disk.nodeAt?_some plain.path.level seen
    rw [plain.path.at?_of_empty relative empty] at there
    contradiction

end empty

theorem Fits.free_of_empty (fits : folder.Fits) (empty : disk.root.at? disk.here = some .empty) :
    folder.Free disk := by
  refine ⟨⟨Node.sight_eq_folder.mpr ⟨[], empty⟩, fun names way bytes file => ?_⟩, ?_, ?_⟩
  · rw [Disk.target, Disk.start_of_relative fits.relative] at way
    rcases List.prefix_or_prefix_of_prefix way (List.prefix_append _ _) with above | ⟨rest, rfl⟩
    · obtain ⟨rest, same⟩ := above
      obtain ⟨entries, folder⟩ := Node.folder_of_folder
        (show disk.root.at? (names ++ rest) = some (.folder []) from same ▸ empty)
      simp [folder] at file
    · rw [Node.at?_append, empty, Option.bind_some] at file
      cases rest with
      | nil => simp [Node.at?, Node.empty] at file
      | cons name rest => simp [Node.at?_empty (List.cons_ne_nil name rest)] at file
  · simp [fits.path.at?_of_empty fits.relative empty]
  · simp [fits.spare.at?_of_empty fits.relative empty]

theorem makeFolders_spare (plain : folder.Plain) (disk : Disk) :
    (makeFolders folder.dir (.start disk)).1.disk.root.sight (disk.target folder.sparePath) =
      disk.root.sight (disk.target folder.sparePath) := by
  have kept : (makeFolders folder.dir (.start disk)).1.Holds fun d => d.here = disk.here ∧
      d.root.sight (disk.target folder.sparePath) =
        disk.root.sight (disk.target folder.sparePath) := by
    refine makeDown_holds (fun path leads before after ⟨here, shown⟩ made => ?_) _
      (Leads.refl folder.dir) (Session.holds_start ⟨rfl, rfl⟩)
    obtain ⟨stands, free, rfl⟩ :=
      Disk.makeFolder_ok (fun climbs => plain.level_steps (leads.steps.subset climbs)) made
    have changed := stands.changedAt .empty (fun _ => Node.at?_empty) (by simp [free])
    have other : disk.target folder.sparePath ≠ before.target path := by
      rw [plain.spare.target, Disk.target, Disk.target, Disk.start, Disk.start, here, leads.start,
        List.append_assoc]
      intro same
      have size := leads.steps.length_le
      have count := congrArg List.length (List.append_cancel_left same)
      simp only [List.length_append, List.length_singleton] at count
      omega
    exact ⟨here, (changed.sight_of_ne other).trans shown⟩
  exact kept.1.2

theorem Within.locateFile {path name : String} (inside : folder.Within path name)
    (proper : Proper path) (home : disk.root.sight (disk.target folder.dir) = some none)
    (free : ∀ entries, disk.root.at? (disk.target path) ≠ some (.folder entries)) :
    disk.locateFile path = .ok (disk.target path) := by
  obtain ⟨front, ends⟩ := inside.ends
  obtain ⟨entries, found⟩ := Node.sight_eq_folder.mp home
  have above : namesIn front = steps folder.dir :=
    List.append_cancel_right (ends.steps.symm.trans inside.names)
  refine Disk.locateFile_of_endsIn ends inside.level proper
    (show disk.root.at? _ = some (.folder entries) from ?_) free
  rw [above, inside.start]
  exact found

theorem Keeps.writes {before : Disk} (fits : folder.Fits) (keeps : folder.Keeps disk before)
    (home : before.root.sight (disk.target folder.dir) = some none)
    (free : ∀ entries, before.root.at? (disk.target folder.sparePath) ≠ some (.folder entries))
    (bytes : List UInt8) : ∃ after, before.writeFile folder.sparePath bytes = .ok after ∧
      folder.Keeps disk after ∧ after.root.sight (disk.target folder.dir) = some none ∧
        after.root.at? (disk.target folder.sparePath) = some (.file bytes) := by
  rw [← keeps.target] at home free
  have located := fits.spare.locateFile fits.proper_spare home free
  have written := Disk.writeFile_of_locateFile fits.spare.clean located bytes
  obtain ⟨further, filled⟩ := keeps_writeFile fits.toPlain written
  refine ⟨_, written, keeps.trans further, ?_, ?_⟩
  · rw [← keeps.target]
    exact further.home home
  · rw [← keeps.target]
    exact filled

theorem put_succeeds (fits : folder.Fits) (free : folder.Free disk) (text : String) :
    ∃ session, folder.put text disk = (session, .ok ()) := by
  have plain := fits.toPlain
  obtain ⟨made, done, opened⟩ := makeDown_ok plain.level_steps fits.relative folder.dir.length
    (Leads.refl folder.dir) fits.proper_dir (Nat.le_refl _) (.start disk) free.room
  change makeFolders folder.dir (.start disk) = _ at done
  have keeps := (makeFolders_keeps plain disk).1
  have beside := makeFolders_spare plain disk
  simp only [done] at keeps beside
  have home : made.disk.root.sight (disk.target folder.dir) = some none := opened.folder
  have clear : ∀ entries, made.disk.root.at? (disk.target folder.sparePath) ≠
      some (.folder entries) := by
    intro entries taken
    have shown := Node.sight_eq_folder.mpr ⟨entries, taken⟩
    rw [beside] at shown
    obtain ⟨inner, folder⟩ := Node.sight_eq_folder.mp shown
    exact free.spare inner folder
  obtain ⟨blanked, first, keeps, home, blank⟩ := keeps.writes fits home clear []
  obtain ⟨filled, second, keeps, home, full⟩ := keeps.writes fits home (by simp [blank])
    (Text.encode text)
  obtain ⟨front, ends⟩ := plain.spare.ends
  have seen := Disk.nodeAt?_of_endsIn ends plain.spare.level fits.proper_spare
    (by rw [keeps.target, full])
  obtain ⟨-, found, there⟩ := Disk.nodeAt?_some plain.spare.level seen
  have located : filled.locateFile folder.path = .ok (filled.target folder.path) := by
    refine plain.path.locateFile fits.proper_path (by rw [keeps.target, home]) ?_
    rw [keeps.target, keeps.at?_path plain]
    exact free.path
  obtain ⟨final, moved⟩ : ∃ final, filled.renameFile folder.sparePath folder.path = .ok final :=
    ⟨_, Disk.renameFile_of_locate plain.spare.clean plain.path.clean found there located⟩
  refine ⟨⟨final, filled :: blanked :: made.disk :: made.past⟩, ?_⟩
  simp only [put, done, Session.andThen, Session.call, first, second, moved]

end free

end RowStore.Folder
