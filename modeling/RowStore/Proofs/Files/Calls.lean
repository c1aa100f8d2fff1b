import RowStore.Proofs.Files.Paths

/-! Calls on paths that do not climb. A call that succeeds found its path in order and its place in
a folder, and it changed the tree at this place; a call whose path is in order and whose place is
right succeeds. -/
namespace RowStore

open Files

namespace Files

/-- The parts of a path without the empty ones at its end. -/
def bareParts (path : String) : List String :=
  ((Text.partsOf '/' path).reverse.dropWhile (· == "")).reverse

theorem namesIn_dropWhile (parts : List String) :
    namesIn (parts.dropWhile (· == "")) = namesIn parts := by
  induction parts with
  | nil => rfl
  | cons part rest ih =>
    by_cases blank : part = ""
    · subst blank
      exact ih.trans (namesIn_cons_of_still (.inl rfl) rest).symm
    · simp [blank]

theorem namesIn_reverse (parts : List String) : namesIn parts.reverse = (namesIn parts).reverse :=
  List.filter_reverse

theorem namesIn_bareParts (path : String) : namesIn (bareParts path) = steps path := by
  rw [bareParts, namesIn_reverse, namesIn_dropWhile, namesIn_reverse, List.reverse_reverse, steps]

theorem EndsIn.bareParts {path name : String} {front : List String}
    (ends : EndsIn path front name) : bareParts path = front ++ [name] := by
  have some : name ≠ "" := fun none => ends.moves (.inl none)
  rw [Files.bareParts, ends.parts]
  simp [some]

end Files

namespace Disk

variable {disk after : Disk} {path : String}

theorem call_ok {α : Type} {act : Except Reason α} {a : α} :
    call path act = .ok a ↔ Char.ofNat 0 ∉ path.toList ∧ act = .ok a := by
  unfold call
  split
  · simp_all
  · simp_all [mapError_eq_ok]

theorem call_refused {α : Type} {act : Except Reason α} {e : CallError}
    (clean : Char.ofNat 0 ∉ path.toList) (failed : call path act = .error e) :
    ∃ fault, e = .refused fault := by
  rw [call, if_neg clean] at failed
  obtain ⟨reason, -, rfl⟩ := mapError_eq_error.mp failed
  exact ⟨_, rfl⟩

/-- Where names lead that end in a name of a folder. -/
def Stands (disk : Disk) (names : List String) : Prop :=
  ∃ folder name entries, names = folder ++ [name] ∧ disk.root.at? folder = some (.folder entries)

theorem Stands.changedAt {names : List String} (stands : disk.Stands names) (new : Node)
    (bare : ∀ rest, rest ≠ [] → new.at? rest = none)
    (free : ∀ entries, disk.root.at? names ≠ some (.folder entries)) :
    Node.ChangedAt names disk.root (disk.root.place names new) := by
  obtain ⟨folder, name, entries, rfl, parent⟩ := stands
  exact Node.changedAt_place parent bare fun rest below => Node.at?_below free below

theorem Stands.at?_place {names : List String} (stands : disk.Stands names) (new : Node) :
    (disk.root.place names new).at? names = some new := by
  obtain ⟨folder, name, entries, rfl, parent⟩ := stands
  simpa [Node.at?] using Node.at?_place new parent []

theorem locateNew_ok (level : ".." ∉ steps path) {folder : List String} {name : String}
    (moves : ¬(name = "" ∨ name = "." ∨ name = "..")) (short : byteLength name ≤ nameLimit)
    (found : disk.locateNew path = .ok (folder, name)) : disk.target path = folder ++ [name] ∧
      checkPath path = .ok () ∧ (∀ n ∈ steps path, byteLength n ≤ nameLimit) ∧
        ∃ entries, disk.root.at? folder = some (.folder entries) := by
  obtain ⟨⟨⟩, checked, found⟩ := bind_eq_ok.mp found
  obtain ⟨there, walked, found⟩ := bind_eq_ok.mp found
  split at found
  · next entries standing =>
    obtain ⟨rfl, last⟩ := Prod.mk.inj (Except.ok.inj found)
    have last : (bareParts path).getLast?.getD "" = name := last
    have present : bareParts path ≠ [] := by
      intro bare
      rw [bare] at last
      exact moves (.inl last.symm)
    have whole : bareParts path = (bareParts path).dropLast ++ [name] := by
      rw [List.getLast?_eq_some_getLast present, Option.getD_some] at last
      rw [← last, List.dropLast_concat_getLast]
    have still : ¬(name = "" ∨ name = ".") := fun h => moves (h.imp_right .inl)
    have names : steps path = namesIn (bareParts path).dropLast ++ [name] := by
      rw [← namesIn_bareParts, whole, namesIn_append, namesIn_cons_of_name still]
      simp [namesIn]
    have front : ".." ∉ (bareParts path).dropLast := by
      intro climbs
      exact level (names ▸ List.mem_append_left _ (mem_namesIn.mpr ⟨climbs, by decide⟩))
    obtain ⟨same, brief, -⟩ := walk_ok front walked
    refine ⟨?_, checked, ?_, entries, standing⟩
    · rw [same, target, names, List.append_assoc]
    · intro n member
      rw [names] at member
      rcases List.mem_append.mp member with member | member
      · exact brief n (mem_namesIn.mp member).1
      · exact List.mem_singleton.mp member ▸ short
  · contradiction

theorem makeFolder_ok (level : ".." ∉ steps path) (done : disk.makeFolder path = .ok after) :
    disk.Stands (disk.target path) ∧ disk.root.at? (disk.target path) = none ∧
      after = ⟨disk.root.place (disk.target path) .empty, disk.here⟩ := by
  obtain ⟨-, done⟩ := call_ok.mp done
  obtain ⟨⟨folder, name⟩, found, done⟩ := bind_eq_ok.mp done
  dsimp only at done
  split at done
  · contradiction
  split at done
  · contradiction
  split at done
  · contradiction
  · next moves long taken =>
    obtain ⟨same, -, -, entries, standing⟩ :=
      locateNew_ok level moves (Nat.le_of_not_lt long) found
    rw [same]
    exact ⟨⟨folder, name, entries, rfl, standing⟩, by simpa using taken,
      (Except.ok.inj done).symm⟩

theorem locateFile_ok (level : ".." ∉ steps path) {names : List String}
    (found : disk.locateFile path = .ok names) : names = disk.target path ∧
      checkPath path = .ok () ∧ (∀ n ∈ steps path, byteLength n ≤ nameLimit) ∧
        disk.Stands names ∧ ∀ entries, disk.root.at? names ≠ some (.folder entries) := by
  obtain ⟨⟨folder, name⟩, located, found⟩ := bind_eq_ok.mp found
  dsimp only at found
  split at found
  · contradiction
  split at found
  · contradiction
  · next moves long =>
    obtain ⟨same, checked, short, entries, standing⟩ :=
      locateNew_ok level moves (Nat.le_of_not_lt long) located
    split at found
    · contradiction
    · next free =>
      obtain rfl := Except.ok.inj found
      exact ⟨same.symm, checked, short, ⟨folder, name, entries, rfl, standing⟩,
        fun es folder => free es folder⟩

theorem writeFile_ok (level : ".." ∉ steps path) {bytes : List UInt8}
    (done : disk.writeFile path bytes = .ok after) : disk.Stands (disk.target path) ∧
      (∀ entries, disk.root.at? (disk.target path) ≠ some (.folder entries)) ∧
        after = ⟨disk.root.place (disk.target path) (.file bytes), disk.here⟩ := by
  obtain ⟨-, done⟩ := call_ok.mp done
  obtain ⟨names, found, done⟩ := bind_eq_ok.mp done
  obtain ⟨rfl, -, -, stands, free⟩ := locateFile_ok level found
  exact ⟨stands, free, (Except.ok.inj done).symm⟩

theorem writeFile_short (level : ".." ∉ steps path) {bytes : List UInt8}
    (done : disk.writeFile path bytes = .ok after) :
    ∀ name ∈ steps path, byteLength name ≤ nameLimit := by
  obtain ⟨-, done⟩ := call_ok.mp done
  obtain ⟨names, found, -⟩ := bind_eq_ok.mp done
  exact (locateFile_ok level found).2.2.1

theorem removeFile_ok (level : ".." ∉ steps path) (done : disk.removeFile path = .ok after) :
    (∃ bytes, disk.root.at? (disk.target path) = some (.file bytes)) ∧
      after = ⟨disk.root.remove (disk.target path), disk.here⟩ := by
  obtain ⟨-, done⟩ := call_ok.mp done
  obtain ⟨names, found, done⟩ := bind_eq_ok.mp done
  obtain ⟨rfl, -, -⟩ := locate_ok level found
  split at done
  · next bytes file => exact ⟨⟨bytes, file⟩, (Except.ok.inj done).symm⟩
  · contradiction
  · contradiction

theorem readFile_of_nodeAt? {node : Node} (seen : disk.nodeAt? path = some node) :
    disk.readFile path =
      node.bytes?.elim (.error (.refused ⟨.isFolder, path, none⟩)) Except.ok := by
  unfold nodeAt? at seen
  rw [readFile, call]
  split at seen
  · contradiction
  · next clean =>
    split at seen
    · next names found =>
      rw [if_neg clean, found]
      cases node <;>
        simp [seen, Node.bytes?, bind, Except.bind, pure, Except.pure, mapError_ok, mapError_error]
    · contradiction

theorem removeFile_of_file {bytes : List UInt8} (seen : disk.nodeAt? path = some (.file bytes)) :
    ∃ after, disk.removeFile path = .ok after := by
  unfold nodeAt? at seen
  split at seen
  · contradiction
  · next clean =>
    split at seen
    · next names found =>
      refine ⟨{ disk with root := disk.root.remove names },
        call_ok.mpr ⟨by simpa using clean, ?_⟩⟩
      simp [found, seen, bind, Except.bind, pure, Except.pure]
    · contradiction

theorem renameFile_ok {other : String} (level : ".." ∉ steps path) (otherLevel : ".." ∉ steps other)
    (done : disk.renameFile path other = .ok after) :
    ∃ node, disk.root.at? (disk.target path) = some node ∧ disk.Stands (disk.target other) ∧
      (∀ entries, disk.root.at? (disk.target other) ≠ some (.folder entries)) ∧ Proper other ∧
        after = ⟨(disk.root.remove (disk.target path)).place (disk.target other) node,
          disk.here⟩ := by
  unfold renameFile at done
  split at done
  · contradiction
  · next clean =>
    simp only [not_or] at clean
    have moved := mapError_eq_ok.mp done
    obtain ⟨names, found, moved⟩ := bind_eq_ok.mp moved
    obtain ⟨targets, free, moved⟩ := bind_eq_ok.mp moved
    obtain ⟨rfl, -, -⟩ := locate_ok level found
    obtain ⟨rfl, checked, short, stands, file⟩ := locateFile_ok otherLevel free
    split at moved
    · next node there =>
      exact ⟨node, there, stands, file, ⟨clean.2, checked, short⟩, (Except.ok.inj moved).symm⟩
    · contradiction

theorem renameFile_refused {other : String} {e : CallError} (clean : Char.ofNat 0 ∉ path.toList)
    (otherClean : Char.ofNat 0 ∉ other.toList) (failed : disk.renameFile path other = .error e) :
    ∃ fault, e = .refused fault := by
  unfold renameFile at failed
  rw [if_neg (not_or.mpr ⟨clean, otherClean⟩)] at failed
  obtain ⟨reason, -, rfl⟩ := mapError_eq_error.mp failed
  exact ⟨_, rfl⟩

end Disk
end RowStore
