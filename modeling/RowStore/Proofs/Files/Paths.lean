import RowStore.Files.Session
import RowStore.Proofs.Files.Tree
import RowStore.Proofs.Results

/-! Where paths lead. A path that does not climb leads to one place: the names on it behind the
place where it starts. What a call can accept of it does not depend on the tree. -/
namespace RowStore

namespace Files

/-- The names among the parts of a path. The other parts stay where they are. -/
def namesIn (parts : List String) : List String :=
  parts.filter fun part => part ≠ "" ∧ part ≠ "."

/-- The names on a path. -/
def steps (path : String) : List String := namesIn (Text.partsOf '/' path)

@[simp] theorem namesIn_append (parts more : List String) :
    namesIn (parts ++ more) = namesIn parts ++ namesIn more :=
  List.filter_append parts more

theorem namesIn_cons_of_still {part : String} (still : part = "" ∨ part = ".")
    (parts : List String) : namesIn (part :: parts) = namesIn parts :=
  List.filter_cons_of_neg (by rcases still with rfl | rfl <;> decide)

theorem namesIn_cons_of_name {part : String} (moves : ¬(part = "" ∨ part = "."))
    (parts : List String) : namesIn (part :: parts) = part :: namesIn parts :=
  List.filter_cons_of_pos (by simpa using moves)

theorem mem_namesIn {parts : List String} {part : String} :
    part ∈ namesIn parts ↔ part ∈ parts ∧ ¬(part = "" ∨ part = ".") := by
  simp [namesIn]

theorem level_iff {parts : List String} : ".." ∉ namesIn parts ↔ ".." ∉ parts := by
  simp [mem_namesIn]

theorem short_of_still {part : String} (still : part = "" ∨ part = ".") :
    byteLength part ≤ nameLimit := by
  rcases still with rfl | rfl <;> decide

/-- What calls ask of a path, whatever the tree is. -/
structure Proper (path : String) : Prop where
  clean : Char.ofNat 0 ∉ path.toList
  checked : Disk.checkPath path = .ok ()
  short : ∀ name ∈ steps path, byteLength name ≤ nameLimit

/-- A path that leads to a name in a folder and has nothing behind the name. -/
structure EndsIn (path : String) (front : List String) (name : String) : Prop where
  parts : Text.partsOf '/' path = front ++ [name]
  moves : ¬(name = "" ∨ name = ".")
  level : name ≠ ".."

end Files

theorem Files.EndsIn.steps {path name : String} {front : List String}
    (ends : Files.EndsIn path front name) :
    Files.steps path = Files.namesIn front ++ [name] := by
  rw [Files.steps, ends.parts, Files.namesIn_append, Files.namesIn_cons_of_name ends.moves]
  rfl

namespace Disk

open Files

/-- The place to which a path that does not climb leads. -/
def target (disk : Disk) (path : String) : List String := disk.start path ++ steps path

theorem start_of_relative {path : String} (relative : path.startsWith "/" = false) (disk : Disk) :
    disk.start path = disk.here := by
  simp [start, relative]

theorem target_congr {disk other : Disk} (here : other.here = disk.here) (path : String) :
    other.target path = disk.target path := by
  simp [target, start, here]

theorem target_of_endsIn {path name : String} {front : List String} (ends : EndsIn path front name)
    (disk : Disk) : disk.target path = disk.start path ++ namesIn front ++ [name] := by
  rw [target, ends.steps, List.append_assoc]

section walk

variable {root : Node} {place parts names : List String}

theorem walk_ok (level : ".." ∉ parts) (walked : walk root place parts = .ok names) :
    names = place ++ namesIn parts ∧ (∀ part ∈ parts, byteLength part ≤ nameLimit) ∧
      (parts ≠ [] → ∃ entries, root.at? place = some (.folder entries)) := by
  induction parts generalizing place with
  | nil =>
    obtain rfl := Except.ok.inj walked
    simp [namesIn]
  | cons part rest ih =>
    simp only [List.mem_cons, not_or] at level
    obtain ⟨first, level⟩ := level
    unfold walk at walked
    split at walked
    · next entries folder =>
      rw [← and_assoc, List.forall_mem_cons]
      refine ⟨?_, fun _ => ⟨entries, folder⟩⟩
      split at walked
      · next still =>
        obtain ⟨same, short, -⟩ := ih level walked
        rw [namesIn_cons_of_still still]
        exact ⟨same, short_of_still still, short⟩
      · next moves =>
        rw [if_neg (Ne.symm first)] at walked
        split at walked
        · contradiction
        · next short =>
          split at walked
          · obtain ⟨same, rest, -⟩ := ih level walked
            rw [namesIn_cons_of_name moves]
            exact ⟨by simpa using same, Nat.le_of_not_lt short, rest⟩
          · contradiction
    · contradiction

theorem walk_of_folder (level : ".." ∉ parts) (short : ∀ part ∈ parts, byteLength part ≤ nameLimit)
    {entries : List (String × Node)}
    (found : root.at? (place ++ namesIn parts) = some (.folder entries)) :
    walk root place parts = .ok (place ++ namesIn parts) := by
  induction parts generalizing place with
  | nil => simp [walk, namesIn]
  | cons part rest ih =>
    simp only [List.mem_cons, not_or] at level
    obtain ⟨first, level⟩ := level
    obtain ⟨brief, short⟩ := List.forall_mem_cons.mp short
    obtain ⟨outer, above⟩ := Node.folder_of_folder found
    unfold walk
    simp only [above]
    by_cases still : part = "" ∨ part = "."
    · rw [namesIn_cons_of_still still] at found ⊢
      rw [if_pos still, ih level short found]
    · have onward : place ++ namesIn (part :: rest) = place ++ [part] ++ namesIn rest := by
        simp [namesIn_cons_of_name still]
      rw [onward] at found ⊢
      obtain ⟨inner, below⟩ := Node.folder_of_folder found
      rw [Node.at?_concat above] at below
      simp only [if_neg still, if_neg (Ne.symm first), if_neg (Nat.not_lt.mpr brief), below,
        Option.isSome_some, ↓reduceIte]
      exact ih level short found

theorem walk_append (front rest : List String) :
    walk root place (front ++ rest) = (walk root place front).bind (walk root · rest) := by
  induction front generalizing place with
  | nil => rfl
  | cons part front ih =>
    simp only [List.cons_append, walk]
    split
    · split
      · exact ih
      split
      · exact ih
      split
      · rfl
      split
      · exact ih
      · rfl
    · rfl

theorem walk_name {name : String} {entries : List (String × Node)}
    (folder : root.at? place = some (.folder entries)) (moves : ¬(name = "" ∨ name = "."))
    (level : name ≠ "..") (short : byteLength name ≤ nameLimit) :
    walk root place [name] =
      if (Fields.find? entries name).isSome then .ok (place ++ [name]) else .error .missing := by
  simp [walk, folder, moves, level, Nat.not_lt.mpr short]

end walk

section node

variable {disk : Disk} {path : String} {node : Node}

theorem locate_ok (level : ".." ∉ steps path) {names : List String}
    (found : disk.locate path = .ok names) : names = disk.target path ∧ checkPath path = .ok () ∧
      ∀ name ∈ steps path, byteLength name ≤ nameLimit := by
  unfold locate at found
  obtain ⟨⟨⟩, checked, walked⟩ := bind_eq_ok.mp found
  obtain ⟨same, short, -⟩ := walk_ok (level_iff.mp level) walked
  exact ⟨same, checked, fun name member => short name (mem_namesIn.mp member).1⟩

theorem nodeAt?_some (level : ".." ∉ steps path) (seen : disk.nodeAt? path = some node) :
    Proper path ∧ disk.locate path = .ok (disk.target path) ∧
      disk.root.at? (disk.target path) = some node := by
  unfold nodeAt? at seen
  split at seen
  · contradiction
  · next clean =>
    split at seen
    · next names found =>
      obtain ⟨rfl, checked, short⟩ := locate_ok level found
      exact ⟨⟨by simpa using clean, checked, short⟩, found, seen⟩
    · contradiction

theorem nodeAt?_of_locate (clean : Char.ofNat 0 ∉ path.toList) {names : List String}
    (found : disk.locate path = .ok names) : disk.nodeAt? path = disk.root.at? names := by
  simp [nodeAt?, clean, found]

theorem walk_front {place front : List String} {root : Node}
    (within : ∀ name ∈ namesIn front, name ∈ steps path) (level : ".." ∉ steps path)
    (proper : Proper path) {entries : List (String × Node)}
    (found : root.at? (place ++ namesIn front) = some (.folder entries)) :
    walk root place front = .ok (place ++ namesIn front) := by
  have flat : ".." ∉ front := level_iff.mp fun climbs => level (within _ climbs)
  refine walk_of_folder flat (fun part member => ?_) found
  by_cases still : part = "" ∨ part = "."
  · exact short_of_still still
  · exact proper.short part (within part (mem_namesIn.mpr ⟨member, still⟩))

theorem nodeAt?_of_folder (level : ".." ∉ steps path) (proper : Proper path)
    {entries : List (String × Node)}
    (found : disk.root.at? (disk.target path) = some (.folder entries)) :
    disk.nodeAt? path = some (.folder entries) := by
  have walked := walk_front (fun _ member => member) level proper found
  have located : disk.locate path = .ok (disk.target path) := by
    rw [locate, proper.checked]
    exact walked
  rw [nodeAt?_of_locate proper.clean located, found]

theorem nodeAt?_of_endsIn {front : List String} {name : String} (ends : EndsIn path front name)
    (level : ".." ∉ steps path) (proper : Proper path)
    (found : disk.root.at? (disk.target path) = some node) : disk.nodeAt? path = some node := by
  rw [target_of_endsIn ends] at found
  have member : name ∈ steps path := by simp [ends.steps]
  have within : ∀ part ∈ namesIn front, part ∈ steps path := fun part there =>
    ends.steps ▸ List.mem_append_left _ there
  obtain ⟨entries, above⟩ := Node.folder_of_at? (List.cons_ne_nil name []) found
  have known := found
  rw [Node.at?_concat above] at known
  have located : disk.locate path = .ok (disk.start path ++ namesIn front ++ [name]) := by
    rw [locate, proper.checked, ends.parts, walk_append, walk_front within level proper above]
    refine (walk_name above ends.moves ends.level (proper.short name member)).trans ?_
    simp [known]
  rw [nodeAt?_of_locate proper.clean located, found]

/-- What is seen at such a path depends on its place only. -/
theorem nodeAt?_congr {other : Disk} {front : List String} {name : String}
    (ends : EndsIn path front name) (level : ".." ∉ steps path) (here : other.here = disk.here)
    (same : other.root.at? (disk.target path) = disk.root.at? (disk.target path)) :
    other.nodeAt? path = disk.nodeAt? path := by
  have target := target_congr here path
  ext node
  constructor
  · intro seen
    obtain ⟨proper, -, found⟩ := nodeAt?_some level seen
    exact nodeAt?_of_endsIn ends level proper (by rw [← same, ← target, found])
  · intro seen
    obtain ⟨proper, -, found⟩ := nodeAt?_some level seen
    exact nodeAt?_of_endsIn ends level proper (by rw [target, same, found])

end node

end Disk
end RowStore
