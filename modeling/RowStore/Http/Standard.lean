import RowStore.Http.Framework
import RowStore.Http.Target
import RowStore.Json.Encoding
import RowStore.Text.Upper

/-! A framework that reads its requests from addresses and bytes. -/
namespace RowStore.Http

structure Request where
  method : Text
  target : Target
  contentType : String
  body : List UInt8

inductive RequestFault where
  | address (fault : AddressFault)
  | brokenHeader
  | name (fault : NameFault)
  deriving DecidableEq, Repr

def RequestFault.message : RequestFault → String
  | .address fault => fault.message
  | .brokenHeader => "Header values must not contain newline characters."
  | .name fault => fault.message

/-- The request with a method, a text as its target, and contents of a type. -/
def Request.of (method : Text) (target contentType : String) (body : List UInt8) :
    Except RequestFault Request := do
  let target ← (Target.read target).mapError .address
  if contentType.toList.any fun c => c = '\n' ∨ c = '\r' then throw .brokenHeader
  let host ← target.plainHost.mapError .name
  (checkAuthority (host.filterMap Point.char?)).mapError .address
  return ⟨method, target, contentType, body⟩

/-- The blanks that may stand around a type of contents. With any other it is not that of JSON. -/
def isMargin (c : Char) : Bool := c == ' ' || c == '\t'

/-- Whether a type of contents, its parameters and the space around it aside, is JSON or written in
JSON. -/
def isJson (contentType : String) : Bool :=
  let kind := (contentType.toList.takeWhile (· ≠ ';')).dropWhile isMargin
  let kind := (kind.reverse.dropWhile isMargin).reverse
  let kind := String.ofList (kind.map Char.toLower)
  kind == "application/json" || kind.startsWith "application/" && kind.endsWith "+json"

def Request.value? (request : Request) : Option Value :=
  if isJson request.contentType then Json.ofBytes? request.body else none

inductive Site where
  | ours (route : Route)
  /-- The place of fixed files, of which there are none. -/
  | asset
  deriving DecidableEq, Repr

namespace Site

/-- Whether a place may hold a fixed file: its first part is not empty, and no line ends in it but
before its second character. -/
def isAsset (name : String) (more : List String) : Bool :=
  !name.isEmpty && !name.toList.tail.contains '\n' &&
    more.all fun part => !part.toList.contains '\n'

def ofSegments? : List String → Option Site
  | ["api", "execute"] => some (.ours .execute)
  | ["api", "execute", "batch"] => some (.ours .batch)
  | ["api", "tables"] => some (.ours .tables)
  | ["api", "tables", name] => if name.isEmpty then none else some (.ours (.table name))
  | ["api", "tables", name, "indexes"] =>
    if name.isEmpty then none else some (.ours (.indexes name))
  | ["api", "health"] => some (.ours .health)
  | "static" :: name :: more => if isAsset name more then some .asset else none
  | _ => none

def isPosted : Site → Bool
  | .ours route => route.isPosted
  | .asset => false

def takes (site : Site) (method : Text) : Bool :=
  if site.isPosted then method == "POST" else method == "GET" || method == "HEAD"

def destination : Site → Destination
  | .ours route => .found route
  | .asset => .unknown

/-- The way to a site for a method, and what is done there. A lasting connection is refused. -/
def enter (site : Site) (method : Text) (target : Target) (there : Destination) : Destination :=
  if !site.takes method && method != "OPTIONS" then .wrongMethod
  else if target.isSocket then .apart 400
  else there

end Site

/-- Where a method and a target lead. A path that leads nowhere is tried once more with its runs of
slashes merged, and if that leads on, the caller is sent there. -/
def destination (method : Text) (target : Target) : Destination :=
  let method := Text.upper method
  let path := target.path
  if !target.hasFitHost then .apart 400
  else
    match Site.ofSegments? (segments path) with
    | some site =>
      site.enter method target (if method = "OPTIONS" then .apart 200 else site.destination)
    | none =>
      match Site.ofSegments? (segments (mergeSlashes (path.dropWhile (· = '/')))) with
      | some site => site.enter method target (.apart 308)
      | none => .unknown

/-- A request for the head of an answer has its method in capitals. -/
def standard : Framework Request where
  destination request := destination request.method request.target
  value? := Request.value?
  isHead request := request.method = "HEAD"
  raised
    | answer, .engine error => answer error
    | _, .crash _ => ⟨500, none⟩
  get? address := (Request.of "GET" address "" []).toOption

end RowStore.Http
