import RowStore.Fields
import RowStore.Text.Parts
import RowStore.Text.Quoted
import RowStore.Text.Utf8

/-! A tree of folders and files, and the calls that read and change it. There are no links and no
permissions. A call either changes the tree at one place or leaves it as it was and says why. -/
namespace RowStore

inductive Node where
  | file (bytes : List UInt8)
  | folder (entries : List (String × Node))

/-- A tree and the names that lead from its root to the working folder. -/
structure Disk where
  root : Node
  here : List String

namespace Files

inductive Reason where
  | missing
  | exists
  | notFolder
  | isFolder
  | nameTooLong
  deriving DecidableEq, Repr

def Reason.number : Reason → Nat
  | .missing => 2
  | .exists => 17
  | .notFolder => 20
  | .isFolder => 21
  | .nameTooLong => 36

def Reason.text : Reason → String
  | .missing => "No such file or directory"
  | .exists => "File exists"
  | .notFolder => "Not a directory"
  | .isFolder => "Is a directory"
  | .nameTooLong => "File name too long"

/-- A refused call: the reason, the path it was made with, and the new path of a renaming. -/
structure Fault where
  reason : Reason
  path : String
  target : Option String
  deriving DecidableEq, Repr

def Fault.message (fault : Fault) : String :=
  "[Errno " ++ toString fault.reason.number ++ "] " ++ fault.reason.text ++ ": " ++
    Text.quoted fault.path ++
    (match fault.target with
      | some target => " -> " ++ Text.quoted target
      | none => "")

/-- A call that does not happen: it is refused, or its path has a character that no path can
hold. -/
inductive CallError where
  | refused (fault : Fault)
  | nullCharacter
  deriving DecidableEq, Repr

/-- The longest name and the longest path, in bytes. -/
def nameLimit : Nat := 255

def pathLimit : Nat := 4095

def byteLength (s : String) : Nat := (Text.encode s).length

end Files

namespace Node

def empty : Node := .folder []

def at? : Node → List String → Option Node
  | node, [] => some node
  | .file _, _ :: _ => none
  | .folder entries, name :: rest => (Fields.find? entries name).bind fun node => node.at? rest

def isFolder : Node → Bool
  | .folder _ => true
  | .file _ => false

/-- The tree with a node put where names lead. Missing folders on the way are made; a file on the
way stays. -/
def place : Node → List String → Node → Node
  | _, [], new => new
  | .file bytes, _ :: _, _ => .file bytes
  | .folder entries, name :: rest, new =>
    .folder (Fields.put entries name (place ((Fields.find? entries name).getD empty) rest new))

/-- The tree without the node that names lead to. -/
def remove : Node → List String → Node
  | .folder entries, name :: rest =>
    if rest.isEmpty then .folder (entries.filter fun e => e.1 ≠ name)
    else
      match Fields.find? entries name with
      | some node => .folder (Fields.put entries name (remove node rest))
      | none => .folder entries
  | node, _ => node

mutual

def listing (path : String) : Node → List (String × Option (List UInt8))
  | .file _ => []
  | .folder entries => entryListing path entries

def entryListing (path : String) : List (String × Node) → List (String × Option (List UInt8))
  | [] => []
  | (name, .file bytes) :: rest => (path ++ name, some bytes) :: entryListing path rest
  | (name, .folder entries) :: rest =>
    (path ++ name, none) :: entryListing (path ++ name ++ "/") entries ++ entryListing path rest

end

end Node

namespace Disk

open Files

def fresh : Disk := ⟨.folder [("home", .folder [("work", .empty)])], ["home", "work"]⟩

/-- Where the parts of a path lead from a folder. Every part but the last needs a folder to stand
in, and so does an empty last part. -/
def walk (root : Node) : List String → List String → Except Reason (List String)
  | place, [] => .ok place
  | place, part :: rest =>
    match root.at? place with
    | some (.folder entries) =>
      if part = "" ∨ part = "." then walk root place rest
      else if part = ".." then walk root place.dropLast rest
      else if nameLimit < byteLength part then .error .nameTooLong
      else if (Fields.find? entries part).isSome then walk root (place ++ [part]) rest
      else .error .missing
    | _ => .error .notFolder

def start (disk : Disk) (path : String) : List String :=
  if path.startsWith "/" then [] else disk.here

def checkPath (path : String) : Except Reason Unit :=
  if path.isEmpty then .error .missing
  else if pathLimit < byteLength path then .error .nameTooLong
  else .ok ()

def locate (disk : Disk) (path : String) : Except Reason (List String) := do
  checkPath path
  walk disk.root (disk.start path) (Text.partsOf '/' path)

/-- The folder in which the last part of a path stands, and that part. Slashes behind it do not
count. -/
def locateNew (disk : Disk) (path : String) : Except Reason (List String × String) := do
  checkPath path
  let bare := ((Text.partsOf '/' path).reverse.dropWhile (· == "")).reverse
  let folder ← walk disk.root (disk.start path) bare.dropLast
  match disk.root.at? folder with
  | some (.folder _) => return (folder, bare.getLast?.getD "")
  | _ => .error .notFolder

def nodeAt? (disk : Disk) (path : String) : Option Node :=
  if Char.ofNat 0 ∈ path.toList then none
  else
    match disk.locate path with
    | .ok names => disk.root.at? names
    | .error _ => none

def isPresent (disk : Disk) (path : String) : Bool := (disk.nodeAt? path).isSome

def isFolder (disk : Disk) (path : String) : Bool := (disk.nodeAt? path).any Node.isFolder

def call (path : String) (act : Except Reason α) : Except CallError α :=
  if Char.ofNat 0 ∈ path.toList then .error .nullCharacter
  else act.mapError fun reason => .refused ⟨reason, path, none⟩

def makeFolder (disk : Disk) (path : String) : Except CallError Disk :=
  call path do
    let (folder, name) ← disk.locateNew path
    if name = "" ∨ name = "." ∨ name = ".." then .error .exists
    else if nameLimit < byteLength name then .error .nameTooLong
    else if (disk.root.at? (folder ++ [name])).isSome then .error .exists
    else return { disk with root := disk.root.place (folder ++ [name]) .empty }

def readFile (disk : Disk) (path : String) : Except CallError (List UInt8) :=
  call path do
    let names ← disk.locate path
    match disk.root.at? names with
    | some (.file bytes) => return bytes
    | some (.folder _) => .error .isFolder
    | none => .error .missing

/-- Where a file may be written: the place of a file, or a free place in a folder. -/
def locateFile (disk : Disk) (path : String) : Except Reason (List String) := do
  let (folder, name) ← disk.locateNew path
  if name = "" ∨ name = "." ∨ name = ".." then .error .isFolder
  else if nameLimit < byteLength name then .error .nameTooLong
  else
    match disk.root.at? (folder ++ [name]) with
    | some (.folder _) => .error .isFolder
    | _ => return folder ++ [name]

/-- A file with the given bytes, new or in place of the file that was there. -/
def writeFile (disk : Disk) (path : String) (bytes : List UInt8) : Except CallError Disk :=
  call path do
    let names ← disk.locateFile path
    return { disk with root := disk.root.place names (.file bytes) }

/-- A file moved to another path in one step, in place of the file that was there. -/
def renameFile (disk : Disk) (path target : String) : Except CallError Disk :=
  if Char.ofNat 0 ∈ path.toList ∨ Char.ofNat 0 ∈ target.toList then .error .nullCharacter
  else
    (do
      let names ← disk.locate path
      let targets ← disk.locateFile target
      match disk.root.at? names with
      | some node => return { disk with root := (disk.root.remove names).place targets node }
      | none => .error .missing
      : Except Reason Disk).mapError fun reason => .refused ⟨reason, path, some target⟩

def removeFile (disk : Disk) (path : String) : Except CallError Disk :=
  call path do
    let names ← disk.locate path
    match disk.root.at? names with
    | some (.file _) => return { disk with root := disk.root.remove names }
    | some (.folder _) => .error .isFolder
    | none => .error .missing

/-- A node put at a path with all folders that lead there. A folder that is there already stays. -/
def plant (disk : Disk) (path : String) (node : Node) : Disk :=
  let names := disk.here ++ (Text.partsOf '/' path).filter fun p => p ≠ "" ∧ p ≠ "."
  match node, disk.root.at? names with
  | .folder [], some (.folder _) => disk
  | node, _ => { disk with root := disk.root.place names node }

def listing (disk : Disk) : List (String × Option (List UInt8)) :=
  match disk.root.at? disk.here with
  | some node => (node.listing "").mergeSort fun a b => decide (a.1 ≤ b.1)
  | none => []

end Disk
end RowStore
