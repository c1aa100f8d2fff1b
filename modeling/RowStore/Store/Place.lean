import RowStore.Store.Folder

/-! Places of files as they are given, by texts. Calls take names of characters. A path with a half
in it gets to no call, and looks as if nothing were there. -/
namespace RowStore

/-- A half that stands for a byte of a name which is no text. -/
def Point.isByte : Point → Bool
  | .half h => 0x480 ≤ h.val && h.val < 0x500
  | .char _ => false

/-- The characters of a text, if it has no halves. -/
def Text.word? (s : Text) : Option String := s.chars?.map String.ofList

/-- A folder and a name in it. Names with bytes that are no text are left out. -/
structure Place where
  dir : Text
  key : Text
  textual : (dir.points ++ key.points).all fun p => !p.isByte

def Folder.toPlace (folder : Folder) : Place where
  dir := folder.dir
  key := folder.key
  textual := by simp [Text.ofString, Text.ofChars, Point.isByte]

instance : Coe Folder Place := ⟨Folder.toPlace⟩

namespace Place

open Files

/-- A name behind a path. A name that starts with a slash stands for itself. -/
def joined (path name : Text) : Text :=
  if name.points.head? = some (.char '/') then name
  else if path.points.getLast?.all (· = .char '/') then path ++ name
  else path ++ "/" ++ name

def path (place : Place) : Text := joined place.dir (place.key ++ ".json")

def sparePath (place : Place) : Text := place.path ++ ".tmp"

def folder? (place : Place) : Option Folder := do
  return ⟨← place.dir.word?, ← place.key.word?⟩

/-- What leads to the file, if it can be told by characters. A name that starts with a slash needs
no folder. -/
def file? (place : Place) : Option Folder :=
  match place.folder?, place.key.word? with
  | some folder, _ => some folder
  | none, some key => if key.startsWith "/" then some ⟨"", key⟩ else none
  | none, none => none

def load (place : Place) (disk : Disk) : Result (Option (Fields Value)) :=
  match place.file? with
  | some folder => folder.load disk
  | none => .ok none

/-- The folders that lead to the first name with a half. -/
def makeAbove (dir : Text) (session : Session) : Session × Except CallError Unit :=
  let front := (dir.points.takeWhile fun p => p.char?.isSome).filterMap Point.char?
  let (above, _) := cutLast (String.ofList front)
  if above.isEmpty || session.disk.isPresent above then (session, .ok ())
  else
    match makeFolders above session with
    | (session, .error (.refused ⟨.exists, _, _⟩)) => (session, .ok ())
    | outcome => outcome

/-- The snapshot replaced. With a half in one of the names there comes a path that no call takes, at
the latest when the spare file is to be made or taken away. -/
def save (place : Place) (snapshot : Value) (disk : Disk) : Session × Result Unit :=
  match place.folder? with
  | some folder => folder.save snapshot disk
  | none =>
    match Snapshot.encode snapshot with
    | .error e => (.start disk, .error e)
    | .ok _ =>
      let (made, next) :=
        match place.dir.word? with
        | some dir => (makeFolders dir (.start disk), place.sparePath)
        | none => (makeAbove place.dir (.start disk), place.dir)
      match made, place.file? with
      | (session, .ok ()), _ => (session, .error (.crash (.unencodable next)))
      | (session, .error .nullCharacter), _ => (session, .error (.crash .nullCharacter))
      | (session, .error (.refused fault)), some folder => folder.giveUp fault session
      | (session, .error (.refused _)), none =>
        (session, .error (.crash (.unencodable place.sparePath)))

end Place
end RowStore
