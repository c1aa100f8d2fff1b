import RowStore.Files.Session
import RowStore.Snapshot
import RowStore.Text.Line

/-! A file that holds a snapshot. A new text is written to a spare file beside it, which then takes
its place in one step. -/
namespace RowStore

structure Folder where
  dir : String
  key : String
  deriving DecidableEq, Repr

namespace Folder

/-- A name behind a path. A name that starts with a slash stands for itself. -/
def joined (path name : String) : String :=
  if name.startsWith "/" then name
  else if path.isEmpty || path.endsWith "/" then path ++ name
  else path ++ "/" ++ name

def path (folder : Folder) : String := joined folder.dir (folder.key ++ ".json")

def sparePath (folder : Folder) : String := folder.path ++ ".tmp"

/-- The text of a file with every end of line as one line feed. -/
def readText (disk : Disk) (path : String) : Except ReadFault Text :=
  match disk.readFile path with
  | .ok bytes =>
    match Text.decode bytes with
    | .ok text => .ok (Text.ofChars (Text.unifyLines text.toList))
    | .error fault => .error (.bytes fault)
  | .error (.refused fault) => .error (.call fault)
  | .error .nullCharacter => .error (.call ⟨.missing, path, none⟩)

def load (folder : Folder) (disk : Disk) : Result (Option (Fields Value)) :=
  if disk.isPresent folder.path then
    match readText disk folder.path with
    | .ok text => (Snapshot.decode text).map some
    | .error fault => fail (.storage (.unread folder.path fault))
  else .ok none

/-- A text put into the place of the snapshot. The spare file is made, filled and moved. -/
def put (folder : Folder) (text : String) (disk : Disk) :
    Files.Session × Except Files.CallError Unit :=
  Files.Session.andThen
    (Files.Session.andThen
      (Files.Session.andThen (Files.makeFolders folder.dir (.start disk))
        fun session => session.call (·.writeFile folder.sparePath []))
      fun session => session.call (·.writeFile folder.sparePath (Text.encode text)))
    fun session => session.call (·.renameFile folder.sparePath folder.path)

/-- After a call that was refused the spare file is taken away, if that can be done. -/
def giveUp (folder : Folder) (fault : Files.Fault) (session : Files.Session) :
    Files.Session × Result Unit :=
  match session.call (·.removeFile folder.sparePath) with
  | (session, .error .nullCharacter) => (session, .error (.crash .nullCharacter))
  | (session, _) => (session, fail (.storage (.unwritten folder.path fault)))

def save (folder : Folder) (snapshot : Value) (disk : Disk) : Files.Session × Result Unit :=
  match Snapshot.encode snapshot with
  | .error e => (.start disk, .error e)
  | .ok text =>
    match folder.put text disk with
    | (session, .ok ()) => (session, .ok ())
    | (session, .error .nullCharacter) => (session, .error (.crash .nullCharacter))
    | (session, .error (.refused fault)) => folder.giveUp fault session

end Folder
end RowStore
