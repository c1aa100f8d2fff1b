import RowStore.Proofs.Json.Basic
import RowStore.Proofs.Store.Place
import RowStore.Proofs.Utf8

/-! A file that holds what a memory holds. Where nothing is in the way of the file, saving in it
does what saving in the memory does, and since JSON texts are plain, so does loading. -/
namespace RowStore.Folder

open Files

/-- What a memory holds is in the file of the snapshot: nothing, or the bytes of its text. -/
def Copies (folder : Folder) (blob : Option Text) (disk : Disk) : Prop :=
  match blob with
  | none => disk.nodeAt? folder.path = none
  | some text => ∃ s : String, text = .ofString s ∧ (∀ c ∈ s.toList, Text.isBasic c) ∧
      disk.nodeAt? folder.path = some (.file (Text.encode s))

/-- A memory without an outage and a disk with a copy of it. -/
structure Mirrors (folder : Folder) (memory : Memory) (disk : Disk) : Prop where
  calm : memory.outage = none
  free : folder.Free disk
  copies : folder.Copies memory.blob disk

variable {folder : Folder} {memory : Memory} {disk : Disk}

theorem Fits.mirrors_empty (fits : folder.Fits) (empty : disk.root.at? disk.here = some .empty) :
    folder.Mirrors .empty disk :=
  ⟨rfl, fits.free_of_empty empty, fits.nodeAt?_of_empty fits.relative empty⟩

theorem Mirrors.load (mirrors : folder.Mirrors memory disk) : folder.load disk = memory.load := by
  have copies := mirrors.copies
  unfold Folder.load Memory.load Disk.isPresent
  cases held : memory.blob with
  | none =>
    have missing : disk.nodeAt? folder.path = none := by simpa only [Copies, held] using copies
    rw [missing]
    rfl
  | some text =>
    simp only [Copies, held] at copies
    obtain ⟨s, rfl, basic, seen⟩ := copies
    have read : readText disk folder.path = .ok (.ofString s) := by
      rw [readText, Disk.readFile_of_nodeAt? seen]
      simp only [Node.bytes?, Option.elim_some, Text.decode_encode, Text.unifyLines_of_basic basic]
      rfl
    simp only [seen, read, Option.isSome_some, ↓reduceIte]

theorem Fits.free_of_put (fits : folder.Fits) (free : folder.Free disk) {text : String}
    {session : Session} (done : folder.put text disk = (session, .ok ())) :
    folder.Free session.disk := by
  obtain ⟨here, final, gone, others⟩ := put_ok fits.toPlain done
  have target := Disk.target_congr here
  have way {names : List String} (upper : names <+: disk.target folder.dir) :
      session.disk.root.sight names = disk.root.sight names ∨
        session.disk.root.sight names = some none := by
    refine (others names ?_).imp_right fun ⟨_, _, new⟩ => new
    intro member
    have count := upper.length_le
    simp only [fits.spare.target, fits.path.target, List.mem_cons, List.not_mem_nil, or_false]
      at member
    rcases member with rfl | rfl <;>
      simp only [List.length_append, List.length_singleton] at count <;> omega
  refine ⟨⟨?_, fun names upper bytes file => ?_⟩, fun entries taken => ?_, fun entries taken => ?_⟩
  · have start : disk.here <+: disk.target folder.dir := by
      simp [Disk.target, Disk.start_of_relative fits.relative]
    rw [here]
    exact (way start).elim (·.trans free.room.here) id
  · rw [target] at upper
    rcases way upper with same | new
    · have before := same.symm.trans (Node.sight_eq_file.mpr file)
      exact free.room.clear names upper bytes (Node.sight_eq_file.mp before)
    · simp [Node.sight_eq_file.mpr file] at new
  · obtain ⟨-, -, there⟩ := Disk.nodeAt?_some fits.path.level final
    rw [taken] at there
    simp at there
  · obtain ⟨front, ends⟩ := fits.spare.ends
    have seen := Disk.nodeAt?_of_endsIn ends fits.spare.level fits.proper_spare taken
    rw [gone] at seen
    contradiction

/-- Saving the copy is saving in the memory. -/
theorem Mirrors.save (fits : folder.Fits) (mirrors : folder.Mirrors memory disk) (v : Value) :
    (folder.save v disk).2 = (memory.save v).2 ∧
      folder.Mirrors (memory.save v).1 (folder.save v disk).1.disk := by
  cases encoded : Snapshot.encode v with
  | error e =>
    simp only [Folder.save, Memory.save, mirrors.calm, encoded]
    exact ⟨trivial, mirrors⟩
  | ok text =>
    obtain ⟨session, done⟩ := put_succeeds fits mirrors.free text
    obtain ⟨-, final, -⟩ := put_ok fits.toPlain done
    have written : text = Json.write v := by
      unfold Snapshot.encode at encoded
      split at encoded
      · exact (Except.ok.inj encoded).symm
      · contradiction
    simp only [Folder.save, Memory.save, mirrors.calm, encoded, done]
    refine ⟨trivial, rfl, fits.free_of_put mirrors.free done, text, rfl, ?_, final⟩
    rw [written]
    exact Json.isBasic_write v

end RowStore.Folder
