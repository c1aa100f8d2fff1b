import RowStore.Proofs.Files.Sessions

/-! Calls that succeed. Where no file stands on the way, all folders that lead to a path can be
made, and a file can be written in the last of them. -/
namespace RowStore

open Files

namespace Files

theorem byteLength_append (front rest : List Char) :
    byteLength (String.ofList (front ++ rest)) =
      byteLength (String.ofList front) + byteLength (String.ofList rest) := by
  simp [byteLength, Text.encode]

theorem byteLength_le {path front : String} {rest : List Char}
    (whole : path.toList = front.toList ++ rest) : byteLength front ≤ byteLength path := by
  have parted := byteLength_append front.toList rest
  rw [← whole, String.ofList_toList, String.ofList_toList] at parted
  omega

theorem checkPath_iff {path : String} :
    Disk.checkPath path = .ok () ↔ path ≠ "" ∧ byteLength path ≤ pathLimit := by
  unfold Disk.checkPath
  simp only [String.isEmpty_iff]
  by_cases blank : path = ""
  · simp [blank]
  by_cases long : pathLimit < byteLength path
  · simp [blank, long]
  · simp [blank, long, Nat.le_of_not_lt long]

theorem Proper.front {path front : String} {rest : List Char} (proper : Proper path)
    (present : front ≠ "") (whole : path.toList = front.toList ++ rest)
    (names : steps front <+: steps path) : Proper front where
  clean member := proper.clean (whole ▸ List.mem_append_left _ member)
  checked := checkPath_iff.mpr
    ⟨present, Nat.le_trans (byteLength_le whole) (checkPath_iff.mp proper.checked).2⟩
  short name member := proper.short name (names.subset member)

end Files

namespace Disk

variable {disk : Disk} {path : String}

theorem locateNew_of_folder {front : List String} {name : String}
    (bare : bareParts path = front ++ [name]) (level : ".." ∉ steps path) (proper : Proper path)
    {entries : List (String × Node)}
    (folder : disk.root.at? (disk.start path ++ namesIn front) = some (.folder entries)) :
    disk.locateNew path = .ok (disk.start path ++ namesIn front, name) := by
  have within : ∀ part ∈ namesIn front, part ∈ steps path := fun part member => by
    rw [← namesIn_bareParts, bare, namesIn_append]
    exact List.mem_append_left _ member
  have walked := walk_front within level proper folder
  have parts : ((Text.partsOf '/' path).reverse.dropWhile (· == "")).reverse = front ++ [name] :=
    bare
  unfold locateNew
  rw [proper.checked, parts]
  simp [walked, folder, bind, Except.bind, pure, Except.pure]

/-- A file can be written where a folder is and no other one is in its place. -/
theorem locateFile_of_endsIn {front : List String} {name : String} (ends : EndsIn path front name)
    (level : ".." ∉ steps path) (proper : Proper path) {entries : List (String × Node)}
    (folder : disk.root.at? (disk.start path ++ namesIn front) = some (.folder entries))
    (free : ∀ es, disk.root.at? (disk.target path) ≠ some (.folder es)) :
    disk.locateFile path = .ok (disk.target path) := by
  have short := proper.short name (by simp [ends.steps])
  have moves : ¬(name = "" ∨ name = "." ∨ name = "..") := by
    have still := ends.moves
    have level := ends.level
    simp_all
  rw [target_of_endsIn ends] at free ⊢
  rw [locateFile, locateNew_of_folder ends.bareParts level proper folder]
  simp only [bind, Except.bind, if_neg moves, if_neg (Nat.not_lt.mpr short)]
  rfl

section makeFolder

variable {front : List String} {name : String} (bare : bareParts path = front ++ [name])
  (named : name ≠ "")
include bare named

theorem steps_of_bareParts (ordinary : name ≠ ".") : steps path = namesIn front ++ [name] := by
  rw [← namesIn_bareParts, bare, namesIn_append, namesIn_cons_of_name (by simp [named, ordinary])]
  rfl

theorem target_of_bareParts (ordinary : name ≠ ".") :
    disk.target path = disk.start path ++ namesIn front ++ [name] := by
  rw [target, steps_of_bareParts bare named ordinary, List.append_assoc]

variable (level : ".." ∉ steps path) (proper : Proper path) {entries : List (String × Node)}
  (folder : disk.root.at? (disk.start path ++ namesIn front) = some (.folder entries))
include level proper folder

theorem makeFolder_of_free (ordinary : name ≠ ".")
    (free : disk.root.at? (disk.target path) = none) :
    disk.makeFolder path = .ok ⟨disk.root.place (disk.target path) .empty, disk.here⟩ := by
  have names := steps_of_bareParts bare named ordinary
  have short := proper.short name (by simp [names])
  have climbs : name ≠ ".." := by
    rintro rfl
    exact level (by simp [names])
  rw [target_of_bareParts bare named ordinary] at free ⊢
  refine call_ok.mpr ⟨proper.clean, ?_⟩
  rw [locateNew_of_folder bare level proper folder]
  simpa [bind, Except.bind, pure, Except.pure, named, ordinary, climbs, Nat.not_lt.mpr short]
    using free

theorem makeFolder_of_taken {node : Node} (taken : disk.root.at? (disk.target path) = some node) :
    disk.makeFolder path = .error (.refused ⟨.exists, path, none⟩) := by
  rw [makeFolder, call, if_neg proper.clean,
    locateNew_of_folder bare level proper folder]
  by_cases still : name = "."
  · simp [bind, Except.bind, still, mapError_error]
  · have short := proper.short name (by simp [steps_of_bareParts bare named still])
    rw [target_of_bareParts bare named still] at taken
    simp only [bind, Except.bind, if_neg (Nat.not_lt.mpr short), taken, Option.isSome_some,
      ↓reduceIte, ite_self, mapError_error]

end makeFolder

theorem writeFile_of_locateFile (clean : Char.ofNat 0 ∉ path.toList) {names : List String}
    (found : disk.locateFile path = .ok names) (bytes : List UInt8) :
    disk.writeFile path bytes = .ok ⟨disk.root.place names (.file bytes), disk.here⟩ := by
  refine call_ok.mpr ⟨clean, ?_⟩
  rw [found]
  rfl

theorem renameFile_of_locate {other : String} (clean : Char.ofNat 0 ∉ path.toList)
    (otherClean : Char.ofNat 0 ∉ other.toList) {names targets : List String} {node : Node}
    (found : disk.locate path = .ok names) (there : disk.root.at? names = some node)
    (free : disk.locateFile other = .ok targets) :
    disk.renameFile path other =
      .ok ⟨(disk.root.remove names).place targets node, disk.here⟩ := by
  unfold renameFile
  rw [if_neg (not_or.mpr ⟨clean, otherClean⟩), found, free]
  simp [there, bind, Except.bind, pure, Except.pure, mapError_ok]

end Disk

namespace Disk

/-- A way from the working folder on which no file stands. -/
structure Room (disk : Disk) (way : List String) : Prop where
  here : disk.root.sight disk.here = some none
  clear : ∀ names, names <+: way → ∀ bytes, disk.root.at? names ≠ some (.file bytes)

theorem Room.makeFolder {disk after : Disk} {way : List String} {path : String}
    (room : disk.Room way) (level : ".." ∉ steps path) (made : disk.makeFolder path = .ok after) :
    after.Room way := by
  obtain ⟨stands, free, rfl⟩ := makeFolder_ok level made
  have changed := stands.changedAt .empty (fun _ => Node.at?_empty) (by simp [free])
  refine ⟨?_, fun names onWay bytes file => ?_⟩
  · have other : disk.here ≠ disk.target path := by
      intro same
      obtain ⟨entries, folder⟩ := Node.sight_eq_folder.mp room.here
      rw [same, free] at folder
      contradiction
    exact (changed.sight_of_ne other).trans room.here
  · by_cases same : names = disk.target path
    · subst same
      simp [stands.at?_place, Node.empty] at file
    · have before := (changed.sight_of_ne same).symm.trans (Node.sight_eq_file.mpr file)
      exact room.clear names onWay bytes (Node.sight_eq_file.mp before)

/-- A disk after folders were made: one is where a path leads, and still no file is on the way. -/
structure Opened (path : String) (way : List String) (before after : Disk) : Prop where
  here : after.here = before.here
  folder : after.root.sight (before.target path) = some none
  room : after.Room way

end Disk

namespace Files

theorem makeLast_ok {session : Session} {path name : String} {front way : List String}
    (bare : bareParts path = front ++ [name]) (named : name ≠ "") (level : ".." ∉ steps path)
    (proper : Proper path) (room : session.disk.Room way)
    (onWay : session.disk.target path <+: way)
    (home : session.disk.root.sight (session.disk.start path ++ namesIn front) = some none) :
    ∃ s, makeLast path session = (s, .ok ()) ∧ Disk.Opened path way session.disk s.disk := by
  obtain ⟨entries, folder⟩ := Node.sight_eq_folder.mp home
  cases found : session.disk.root.at? (session.disk.target path) with
  | none =>
    have ordinary : name ≠ "." := by
      rintro rfl
      have same : session.disk.target path = session.disk.start path ++ namesIn front := by
        rw [Disk.target, ← namesIn_bareParts, bare, namesIn_append]
        exact congrArg _ (List.append_nil _)
      rw [same, folder] at found
      contradiction
    have made := Disk.makeFolder_of_free bare named level proper folder ordinary found
    obtain ⟨stands, -, -⟩ := Disk.makeFolder_ok level made
    refine ⟨⟨⟨session.disk.root.place _ .empty, session.disk.here⟩, session.disk :: session.past⟩,
      by simp only [makeLast, Session.call, made], rfl, ?_, room.makeFolder level made⟩
    exact Node.sight_eq_folder.mpr ⟨[], stands.at?_place _⟩
  | some node =>
    cases node with
    | file bytes => exact absurd found (room.clear _ onWay bytes)
    | folder inner =>
      have refused := Disk.makeFolder_of_taken bare named level proper folder found
      have seen : session.disk.isFolder path = true := by
        rw [Disk.isFolder, Disk.nodeAt?_of_folder level proper found]
        rfl
      refine ⟨session, ?_, rfl, Node.sight_eq_folder.mpr ⟨inner, found⟩, room⟩
      simp only [makeLast, Session.call, refused, seen, ↓reduceIte]

section down

variable {top path above name : String}

theorem Proper.aboveOf (proper : Proper path) (cut : aboveOf path = (above, name))
    (present : above ≠ "") (named : name ≠ "") : Proper above := by
  obtain ⟨-, rest, -, whole⟩ := aboveOf_parts cut named
  exact proper.front present whole (steps_aboveOf cut named)

theorem Leads.target (leads : Leads path top) (relative : top.startsWith "/" = false)
    (disk : Disk) : disk.target path = disk.here ++ Files.steps path := by
  rw [Disk.target, Disk.start_of_relative (leads.start.trans relative)]

theorem Leads.onWay (leads : Leads path top) (relative : top.startsWith "/" = false)
    (disk : Disk) : disk.target path <+: disk.target top := by
  rw [leads.target relative, (Leads.refl top).target relative, List.prefix_append_right_inj]
  exact leads.steps

/-- A path is made from the top down: first what is above, unless it is there, and then its end. -/
theorem makeDown_ok (level : ".." ∉ steps top) (relative : top.startsWith "/" = false)
    (depth : Nat) (leads : Leads path top) (proper : Proper path) (bound : path.length ≤ depth)
    (session : Session) (room : session.disk.Room (session.disk.target top)) :
    ∃ s, makeDown depth path session = (s, .ok ()) ∧
      Disk.Opened path (session.disk.target top) session.disk s.disk := by
  induction depth generalizing path session with
  | zero =>
    have none : path = "" :=
      String.toList_eq_nil_iff.mp (List.length_eq_zero_iff.mp (by simpa using bound))
    exact absurd none (checkPath_iff.mp proper.checked).1
  | succ depth ih =>
    have flat : ".." ∉ steps path := fun climbs => level (leads.steps.subset climbs)
    have present := (checkPath_iff.mp proper.checked).1
    cases cut : aboveOf path with
    | mk above name =>
      have named := aboveOf_named cut present (leads.start.trans relative)
      obtain ⟨⟨front, bare, same⟩, -⟩ := aboveOf_parts cut named
      have last {s : Session} (room : s.disk.Room (s.disk.target top))
          (home : s.disk.root.sight (s.disk.here ++ steps above) = some none) :
          ∃ t, makeLast path s = (t, .ok ()) ∧
            Disk.Opened path (s.disk.target top) s.disk t.disk := by
        refine makeLast_ok bare named flat proper room (leads.onWay relative _) ?_
        rw [Disk.start_of_relative (leads.start.trans relative), same, home]
      unfold makeDown
      simp only [cut]
      by_cases bottom : above = ""
      · have start : session.disk.here ++ steps above = session.disk.here := by
          rw [bottom]
          exact List.append_nil _
        rw [if_pos (by simp [bottom])]
        exact last room (by rw [start, room.here])
      have up := leads.above cut bottom named
      by_cases there : session.disk.isPresent above
      · obtain ⟨node, seen⟩ := Option.isSome_iff_exists.mp there
        obtain ⟨-, -, found⟩ :=
          Disk.nodeAt?_some (fun climbs => level (up.steps.subset climbs)) seen
        rw [if_pos (by simp [there])]
        cases node with
        | file bytes => exact absurd found (room.clear _ (up.onWay relative _) bytes)
        | folder entries =>
          rw [up.target relative] at found
          exact last room (Node.sight_eq_folder.mpr ⟨entries, found⟩)
      have shorter := length_aboveOf cut named
      obtain ⟨s, made, opened⟩ :=
        ih up (proper.aboveOf cut bottom named) (by omega) session room
      have target := Disk.target_congr opened.here
      rw [if_neg (by simp [bottom, named, there]), made]
      dsimp only
      split
      · next still =>
        have same : session.disk.target path = session.disk.target above := by
          rw [leads.target relative, up.target relative, ← namesIn_bareParts path, bare,
            namesIn_append, same, still]
          exact congrArg _ (List.append_nil _)
        exact ⟨s, rfl, opened.here, same ▸ opened.folder, opened.room⟩
      · have home := opened.folder
        rw [← target, up.target relative] at home
        obtain ⟨t, done, further⟩ := last (target top ▸ opened.room) home
        rw [target top] at further
        exact ⟨t, done, further.here.trans opened.here, target path ▸ further.folder,
          further.room⟩

end down

end Files

end RowStore
