import RowStore.Files

/-! Calls on a disk, one after the other. A session remembers the disk before each call that changed
it, so that one can say what was to be seen between two calls. -/
namespace RowStore.Files

/-- The disk as it is, and the disks before it with the latest first. -/
structure Session where
  disk : Disk
  past : List Disk

namespace Session

def start (disk : Disk) : Session := ⟨disk, []⟩

def call (session : Session) (act : Disk → Except CallError Disk) :
    Session × Except CallError Unit :=
  match act session.disk with
  | .ok disk => (⟨disk, session.disk :: session.past⟩, .ok ())
  | .error e => (session, .error e)

def andThen (so : Session × Except CallError Unit)
    (next : Session → Session × Except CallError Unit) : Session × Except CallError Unit :=
  match so with
  | (session, .ok ()) => next session
  | stopped => stopped

end Session

/-- A path cut behind its last slash. The front loses the slashes at its end, unless it has nothing
else. -/
def cutLast (path : String) : String × String :=
  let cs := path.toList.reverse
  let front := cs.dropWhile (· ≠ '/')
  let front := if front.all (· = '/') then front else front.dropWhile (· = '/')
  (String.ofList front.reverse, String.ofList (cs.takeWhile (· ≠ '/')).reverse)

/-- The folder above the one that a path names, and the name itself. -/
def aboveOf (path : String) : String × String :=
  let (front, name) := cutLast path
  if name.isEmpty then cutLast front else (front, name)

def makeLast (path : String) (session : Session) : Session × Except CallError Unit :=
  match session.call (·.makeFolder path) with
  | (session, .error (.refused fault)) =>
    (session, if session.disk.isFolder path then .ok () else .error (.refused fault))
  | outcome => outcome

/-- The folders that lead to a path, and then the folder of the path itself. The number bounds the
depth; each path is longer than the one above it. -/
def makeDown : Nat → String → Session → Session × Except CallError Unit
  | 0, path, session => makeLast path session
  | depth + 1, path, session =>
    let (above, name) := aboveOf path
    if above.isEmpty || name.isEmpty || session.disk.isPresent above then makeLast path session
    else
      match makeDown depth above session with
      | (session, .ok ()) | (session, .error (.refused ⟨.exists, _, _⟩)) =>
        if name = "." then (session, .ok ()) else makeLast path session
      | stopped => stopped

def makeFolders (path : String) (session : Session) : Session × Except CallError Unit :=
  makeDown path.length path session

end RowStore.Files
