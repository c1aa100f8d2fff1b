import RowStore.Proofs.Files.Sessions
import RowStore.Proofs.Registration
import RowStore.Store.Folder

/-! Saving a snapshot in a file. Until the spare file takes its place nothing has changed but the
spare file and folders that were missing on the way, so that a save that fails leaves what was
there, and at no time is there anything else than the old snapshot or the new one. -/
namespace RowStore

open Files

/-- Nothing has changed but what stands under a name of a folder, and the folders on the way to it
that were missing. -/
structure Disk.Kept (home : List String) (spare : String) (before after : Disk) : Prop where
  here : after.here = before.here
  below : ∀ names, ¬names <+: home ++ [spare] → after.root.at? names = before.root.at? names
  above : ∀ names, names <+: home → after.root.sight names = before.root.sight names ∨
    before.root.at? names = none ∧ after.root.sight names = some none

/-- Every other place shows what it showed, but for folders on a way that were missing. -/
def Disk.SameBut (before : Disk) (excepted : List (List String)) (way : List String)
    (after : Disk) : Prop :=
  ∀ names, names ∉ excepted → after.root.sight names = before.root.sight names ∨
    names <+: way ∧ before.root.at? names = none ∧ after.root.sight names = some none

namespace Disk.Kept

variable {home : List String} {spare : String} {first before after : Disk}

theorem refl (disk : Disk) : Kept home spare disk disk :=
  ⟨rfl, fun _ _ => rfl, fun _ _ => .inl rfl⟩

theorem trans (kept : Kept home spare first before) (further : Kept home spare before after) :
    Kept home spare first after where
  here := further.here.trans kept.here
  below names beside := (further.below names beside).trans (kept.below names beside)
  above names upper := by
    rcases further.above names upper with same | ⟨missing, new⟩
    · rw [same]
      exact kept.above names upper
    · rcases kept.above names upper with same | ⟨free, -⟩
      · have none : first.root.sight names = none := by
          rw [← same, Node.sight, missing]
          rfl
        exact .inr ⟨Option.map_eq_none_iff.mp none, new⟩
      · exact .inr ⟨free, new⟩

theorem of_folder {target : List String} (way : target <+: home) (here : after.here = before.here)
    (changed : Node.ChangedAt target before.root after.root)
    (free : before.root.at? target = none) (new : after.root.sight target = some none) :
    Kept home spare before after where
  here := here
  below names beside := changed.apart names fun upper =>
    beside (upper.trans (way.trans (List.prefix_append home [spare])))
  above names upper := by
    by_cases under : target <+: names
    · obtain ⟨rest, rfl⟩ := under
      cases rest with
      | nil => exact .inr (by simpa using ⟨free, new⟩)
      | cons name rest =>
        have aside : ¬target ++ name :: rest <+: target := by
          intro short
          have count := short.length_le
          simp only [List.length_append, List.length_cons] at count
          omega
        exact .inl (congrArg (Option.map Node.bytes?) (changed.apart _ aside))
    · exact .inl (changed.sight names under)

theorem of_spare (here : after.here = before.here)
    (changed : Node.ChangedAt (home ++ [spare]) before.root after.root) :
    Kept home spare before after where
  here := here
  below names beside := changed.apart names beside
  above names upper := .inl <| changed.sight names fun under => by
    have count := (under.trans upper).length_le
    simp only [List.length_append, List.length_singleton] at count
    omega

end Disk.Kept

namespace Folder

/-- A folder that a path without climbing leads to, and a name without slashes. -/
structure Plain (folder : Folder) : Prop where
  level : ".." ∉ Text.partsOf '/' folder.dir
  flat : '/' ∉ folder.key.toList
  clean : Char.ofNat 0 ∉ folder.dir.toList ++ folder.key.toList

section joined

variable {dir name : String}

theorem joined_cut (dir : String) (flat : '/' ∉ name.toList) :
    ∃ slashes, Cut (joined dir name) dir slashes name := by
  unfold joined
  rw [not_startsWith flat]
  simp only [Bool.false_eq_true, ↓reduceIte, Bool.or_eq_true, String.isEmpty_iff]
  split
  · next closed =>
    refine ⟨[], by simp, by simp, flat, ?_⟩
    rw [List.append_nil]
    rcases closed with rfl | closed
    · exact .inl rfl
    · rw [String.endsWith_eq_endsWith_toSlice, String.Slice.endsWith_string_iff,
        String.copy_toSlice] at closed
      obtain ⟨front, same⟩ := closed
      exact .inr ⟨front, same.symm⟩
  · refine ⟨['/'], ?_, by simp, flat, .inr ⟨dir.toList, rfl⟩⟩
    rw [String.toList_append, String.toList_append]
    rfl

theorem joined_start (flat : '/' ∉ name.toList) (disk : Disk) :
    disk.start (joined dir name) = disk.start dir := by
  by_cases top : dir = ""
  · subst top
    simp [Disk.start, joined, not_startsWith flat]
  · obtain ⟨slashes, cut⟩ := joined_cut dir flat
    rw [Disk.start, startsWith_of_front top (cut.whole.trans (List.append_assoc ..)), Disk.start]

theorem joined_endsIn (dir : String) (flat : '/' ∉ name.toList) (moves : ¬(name = "" ∨ name = "."))
    (level : name ≠ "..") :
    ∃ front, EndsIn (joined dir name) front name ∧ namesIn front = steps dir := by
  obtain ⟨slashes, cut⟩ := joined_cut dir flat
  obtain ⟨front, parts, same⟩ := cut.parts
  exact ⟨front, ⟨parts, moves, level⟩, same⟩

theorem mem_joined (flat : '/' ∉ name.toList) {c : Char} (member : c ∈ (joined dir name).toList) :
    c ∈ dir.toList ∨ c = '/' ∨ c ∈ name.toList := by
  obtain ⟨slashes, cut⟩ := joined_cut dir flat
  rw [cut.whole, List.append_assoc] at member
  rcases List.mem_append.mp member with member | member
  · exact .inl member
  · exact .inr ((List.mem_append.mp member).imp_left (cut.all c))

end joined

/-- A path to a name in the folder. -/
structure Within (folder : Folder) (path name : String) : Prop where
  ends : ∃ front, EndsIn path front name
  names : steps path = steps folder.dir ++ [name]
  start : ∀ disk : Disk, disk.start path = disk.start folder.dir
  level : ".." ∉ steps path
  clean : Char.ofNat 0 ∉ path.toList

section plain

variable {folder : Folder}

theorem Within.target {path name : String} (inside : folder.Within path name) (disk : Disk) :
    disk.target path = disk.target folder.dir ++ [name] := by
  rw [Disk.target, inside.start, inside.names, Disk.target, List.append_assoc]

theorem Plain.level_steps (plain : folder.Plain) : ".." ∉ steps folder.dir :=
  level_iff.mpr plain.level

theorem Plain.within (plain : folder.Plain) {ending : String} (flat : '/' ∉ ending.toList)
    (clean : Char.ofNat 0 ∉ ending.toList) (long : 2 < ending.toList.length) :
    folder.Within (joined folder.dir (folder.key ++ ending)) (folder.key ++ ending) := by
  have size : 2 < (folder.key ++ ending).toList.length := by
    rw [String.toList_append, List.length_append]
    omega
  have apart {other : String} (short : other.toList.length ≤ 2) : folder.key ++ ending ≠ other := by
    rintro rfl
    omega
  have bare : '/' ∉ (folder.key ++ ending).toList := by
    simpa using ⟨plain.flat, flat⟩
  have climbs : folder.key ++ ending ≠ ".." := apart (by decide)
  obtain ⟨front, ends, same⟩ := joined_endsIn folder.dir bare
    (not_or.mpr ⟨apart (by decide), apart (by decide)⟩) climbs
  have names : steps (joined folder.dir (folder.key ++ ending)) =
      steps folder.dir ++ [folder.key ++ ending] := by
    rw [ends.steps, same]
  have neither := plain.clean
  simp only [List.mem_append, not_or] at neither
  refine ⟨⟨front, ends⟩, names, joined_start bare, ?_, fun member => ?_⟩
  · rw [names]
    simpa using ⟨plain.level_steps, climbs.symm⟩
  · rcases mem_joined bare member with member | slash | member
    · exact neither.1 member
    · contradiction
    · rcases List.mem_append.mp (String.toList_append ▸ member) with member | member
      · exact neither.2 member
      · exact clean member

theorem Plain.path (plain : folder.Plain) : folder.Within folder.path (folder.key ++ ".json") :=
  plain.within (by decide) (by decide) (by decide)

theorem Plain.spare (plain : folder.Plain) :
    folder.Within folder.sparePath (folder.key ++ ".json.tmp") := by
  have flat : '/' ∉ (folder.key ++ ".json").toList := by
    simpa using plain.flat
  have flat' : '/' ∉ (folder.key ++ ".json.tmp").toList := by
    simpa using plain.flat
  have whole : folder.sparePath = joined folder.dir (folder.key ++ ".json.tmp") := by
    have name : folder.key ++ ".json.tmp" = folder.key ++ ".json" ++ ".tmp" := by
      rw [String.append_assoc]
      rfl
    rw [sparePath, Folder.path, name]
    unfold joined
    rw [← name, not_startsWith flat, not_startsWith flat', name]
    simp only [Bool.false_eq_true, ↓reduceIte]
    split <;> simp only [String.append_assoc]
  rw [whole]
  exact plain.within (by decide) (by decide) (by decide)

end plain

theorem Plain.spare_beside {folder : Folder} (plain : folder.Plain) (disk : Disk) :
    ¬disk.target folder.sparePath <+: disk.target folder.path := by
  rw [plain.spare.target, plain.path.target, List.prefix_append_right_inj]
  simp

/-- Nothing has changed but the spare file and folders that were missing on the way to it. -/
def Keeps (folder : Folder) (before after : Disk) : Prop :=
  Disk.Kept (before.target folder.dir) (folder.key ++ ".json.tmp") before after

section keeps

variable {folder : Folder} {first before after : Disk}

theorem Keeps.target (keeps : folder.Keeps before after) (path : String) :
    after.target path = before.target path :=
  Disk.target_congr keeps.here path

theorem Keeps.trans (keeps : folder.Keeps first before) (further : folder.Keeps before after) :
    folder.Keeps first after := by
  rw [Keeps, keeps.target] at further
  exact Disk.Kept.trans keeps further

theorem keeps_makeFolder (plain : folder.Plain) {path : String} (leads : Leads path folder.dir)
    (made : before.makeFolder path = .ok after) : folder.Keeps before after := by
  have level : ".." ∉ steps path := fun climbs => plain.level_steps (leads.steps.subset climbs)
  obtain ⟨stands, free, rfl⟩ := Disk.makeFolder_ok level made
  have way : before.target path <+: before.target folder.dir := by
    rw [Disk.target, Disk.target, Disk.start, Disk.start, leads.start]
    exact (List.prefix_append_right_inj _).mpr leads.steps
  have changed := stands.changedAt .empty (fun _ => Node.at?_empty) (by simp [free])
  refine Disk.Kept.of_folder way rfl changed free ?_
  exact Node.sight_eq_folder.mpr ⟨[], stands.at?_place _⟩

theorem keeps_writeFile (plain : folder.Plain) {bytes : List UInt8}
    (written : before.writeFile folder.sparePath bytes = .ok after) :
    folder.Keeps before after ∧
      after.root.at? (before.target folder.sparePath) = some (.file bytes) := by
  have spare := plain.spare
  obtain ⟨stands, free, rfl⟩ := Disk.writeFile_ok spare.level written
  have changed := stands.changedAt (.file bytes) (fun _ => Node.at?_file) free
  refine ⟨?_, stands.at?_place _⟩
  rw [spare.target] at changed ⊢
  exact Disk.Kept.of_spare rfl changed

/-- The disk without the spare file. -/
def withoutSpare (folder : Folder) (disk : Disk) : Disk :=
  ⟨disk.root.remove (disk.target folder.sparePath), disk.here⟩

theorem keeps_withoutSpare (plain : folder.Plain) {bytes : List UInt8}
    (file : before.root.at? (before.target folder.sparePath) = some (.file bytes)) :
    folder.Keeps before (folder.withoutSpare before) ∧
      (folder.withoutSpare before).root.at? (before.target folder.sparePath) = none := by
  have present : before.target folder.sparePath ≠ [] := by
    simp [plain.spare.target]
  have changed := Node.changedAt_remove present fun rest below => Node.at?_below_file file below
  have gone := Node.at?_remove before.root present []
  rw [List.append_nil] at gone
  refine ⟨Disk.Kept.of_spare rfl ?_, gone⟩
  rw [withoutSpare, ← plain.spare.target]
  exact changed

theorem keeps_removeFile (plain : folder.Plain)
    (removed : before.removeFile folder.sparePath = .ok after) : folder.Keeps before after ∧
      after.root.at? (before.target folder.sparePath) = none := by
  obtain ⟨⟨bytes, file⟩, rfl⟩ := Disk.removeFile_ok plain.spare.level removed
  exact keeps_withoutSpare plain file

theorem Keeps.at?_path (plain : folder.Plain) (keeps : folder.Keeps before after) :
    after.root.at? (before.target folder.path) = before.root.at? (before.target folder.path) := by
  refine keeps.below _ fun upper => ?_
  rw [plain.path.target, List.prefix_append_right_inj] at upper
  simp at upper

theorem Keeps.nodeAt? (plain : folder.Plain) (keeps : folder.Keeps before after) :
    after.nodeAt? folder.path = before.nodeAt? folder.path := by
  obtain ⟨front, ends⟩ := plain.path.ends
  exact Disk.nodeAt?_congr ends plain.path.level keeps.here (keeps.at?_path plain)

theorem Keeps.home (keeps : folder.Keeps before after)
    (found : before.root.sight (before.target folder.dir) = some none) :
    after.root.sight (before.target folder.dir) = some none := by
  rcases keeps.above _ List.prefix_rfl with same | ⟨-, new⟩
  · exact same.trans found
  · exact new

theorem Keeps.stands {name : String} (keeps : folder.Keeps before after)
    (stands : before.Stands (before.target folder.dir ++ [name])) :
    after.Stands (before.target folder.dir ++ [name]) := by
  obtain ⟨home, last, entries, same, found⟩ := stands
  obtain ⟨rfl, -⟩ := List.append_inj' same rfl
  obtain ⟨inner, kept⟩ :=
    Node.sight_eq_folder.mp (keeps.home (Node.sight_eq_folder.mpr ⟨entries, found⟩))
  exact ⟨_, name, inner, rfl, kept⟩

theorem Keeps.sameBut (plain : folder.Plain) (keeps : folder.Keeps before after) :
    before.SameBut [before.target folder.sparePath] (before.target folder.dir) after := by
  intro names other
  rw [List.mem_singleton, plain.spare.target] at other
  by_cases upper : names <+: before.target folder.dir
  · exact (keeps.above names upper).imp_right fun ⟨free, new⟩ => ⟨upper, free, new⟩
  · have beside : ¬names <+: before.target folder.dir ++ [folder.key ++ ".json.tmp"] := by
      rw [List.prefix_concat_iff]
      exact not_or.mpr ⟨other, upper⟩
    exact .inl (congrArg (Option.map Node.bytes?) (keeps.below names beside))

theorem changedAt_renameFile (plain : folder.Plain) {bytes : List UInt8}
    (file : before.root.at? (before.target folder.sparePath) = some (.file bytes))
    (moved : before.renameFile folder.sparePath folder.path = .ok after) :
    Node.ChangedAt (before.target folder.path) (folder.withoutSpare before).root after.root ∧
      after.nodeAt? folder.path = some (.file bytes) ∧ after.here = before.here := by
  obtain ⟨node, there, stands, free, proper, rfl⟩ :=
    Disk.renameFile_ok plain.spare.level plain.path.level moved
  obtain rfl : node = .file bytes := Option.some.inj (there.symm.trans file)
  obtain ⟨keeps, -⟩ := keeps_withoutSpare plain file
  have parent : (folder.withoutSpare before).Stands (before.target folder.path) := by
    rw [plain.path.target] at stands ⊢
    exact keeps.stands stands
  obtain ⟨front, ends⟩ := plain.path.ends
  refine ⟨parent.changedAt (.file bytes) (fun _ => Node.at?_file) ?_, ?_, rfl⟩
  · rw [keeps.at?_path plain]
    exact free
  · exact Disk.nodeAt?_of_endsIn ends plain.path.level proper (parent.at?_place _)

end keeps

section save

variable {folder : Folder} {disk : Disk} {session : Session}

theorem makeFolders_keeps (plain : folder.Plain) (disk : Disk) :
    (makeFolders folder.dir (.start disk)).1.Holds (folder.Keeps disk) :=
  makeDown_holds (fun _ leads _ _ keeps made => keeps.trans (keeps_makeFolder plain leads made))
    _ (Leads.refl folder.dir) (Session.holds_start (Disk.Kept.refl disk))

/-- The spare file made and filled. -/
def fill (folder : Folder) (text : String) (disk : Disk) : Session × Except CallError Unit :=
  Session.andThen
    (Session.andThen (makeFolders folder.dir (.start disk))
      fun session => session.call (·.writeFile folder.sparePath []))
    fun session => session.call (·.writeFile folder.sparePath (Text.encode text))

theorem put_eq (text : String) (disk : Disk) : folder.put text disk =
    Session.andThen (folder.fill text disk)
      fun session => session.call (·.renameFile folder.sparePath folder.path) := rfl

theorem fill_keeps (plain : folder.Plain) (text : String) (disk : Disk) :
    (folder.fill text disk).1.Holds (folder.Keeps disk) := by
  have write {s : Session} {bytes : List UInt8} (holds : s.Holds (folder.Keeps disk)) :
      (s.call (·.writeFile folder.sparePath bytes)).1.Holds (folder.Keeps disk) :=
    holds.call fun after written => holds.1.trans (keeps_writeFile plain written).1
  have made := makeFolders_keeps plain disk
  have opened : (Session.andThen (makeFolders folder.dir (.start disk))
      fun session => session.call (·.writeFile folder.sparePath [])).1.Holds (folder.Keeps disk) :=
    Session.andThen_holds made fun s same => write (by simpa [same] using made)
  exact Session.andThen_holds opened fun s same => write (by simpa [same] using opened)

theorem fill_ok (plain : folder.Plain) {text : String}
    (done : folder.fill text disk = (session, .ok ())) :
    session.disk.root.at? (disk.target folder.sparePath) = some (.file (Text.encode text)) := by
  have keeps := (fill_keeps plain text disk).1
  rw [done] at keeps
  obtain ⟨opened, -, written⟩ := Session.andThen_ok.mp done
  have filled := (keeps_writeFile plain (Session.call_ok written))
  have same : opened.disk.target folder.sparePath = disk.target folder.sparePath := by
    rw [← filled.1.target, keeps.target]
  rw [← same, filled.2]

theorem fill_refused (plain : folder.Plain) {text : String} {e : CallError}
    (failed : (folder.fill text disk).2 = .error e) : ∃ fault, e = .refused fault := by
  have write {s : Session} {bytes : List UInt8}
      (failed : (s.call (·.writeFile folder.sparePath bytes)).2 = .error e) :
      ∃ fault, e = .refused fault :=
    Disk.call_refused plain.spare.clean (Session.call_error failed).1
  have clean : Char.ofNat 0 ∉ folder.dir.toList := fun member =>
    plain.clean (List.mem_append_left _ member)
  rcases Session.andThen_error failed with failed | ⟨_, _, failed⟩
  · rcases Session.andThen_error failed with failed | ⟨_, _, failed⟩
    · exact makeDown_refused _ clean failed
    · exact write failed
  · exact write failed

/-- Either the new text took the place of the snapshot in the last call, or a call was refused. In
both cases the snapshot was kept until then. -/
theorem put_cases (plain : folder.Plain) {text : String} {result : Except CallError Unit}
    (done : folder.put text disk = (session, result)) :
    (result = .ok () ∧ ∃ last : Session, last.Holds (folder.Keeps disk) ∧
      last.disk.root.at? (disk.target folder.sparePath) = some (.file (Text.encode text)) ∧
      last.disk.renameFile folder.sparePath folder.path = .ok session.disk ∧
      session.past = last.disk :: last.past) ∨
    (∃ fault, result = .error (.refused fault)) ∧ session.Holds (folder.Keeps disk) := by
  have keeps := fill_keeps plain text disk
  rw [put_eq] at done
  cases filled : folder.fill text disk with
  | mk last outcome =>
    rw [filled] at done keeps
    cases outcome with
    | error e =>
      obtain ⟨fault, rfl⟩ := fill_refused plain (by rw [filled])
      obtain ⟨rfl, rfl⟩ := Prod.mk.inj done
      exact .inr ⟨⟨fault, rfl⟩, keeps⟩
    | ok nothing =>
      cases nothing
      have done : last.call (·.renameFile folder.sparePath folder.path) = (session, result) := done
      cases moved : last.disk.renameFile folder.sparePath folder.path with
      | ok after =>
        rw [Session.call, moved] at done
        obtain ⟨rfl, rfl⟩ := Prod.mk.inj done
        exact .inl ⟨rfl, last, keeps, fill_ok plain filled, moved, rfl⟩
      | error e =>
        rw [Session.call, moved] at done
        obtain ⟨rfl, rfl⟩ := Prod.mk.inj done
        obtain ⟨fault, rfl⟩ := Disk.renameFile_refused plain.spare.clean plain.path.clean moved
        exact .inr ⟨⟨fault, rfl⟩, keeps⟩

end save

end Folder
end RowStore
