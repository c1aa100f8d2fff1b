import RowStore.Http.Address

/-! Targets of requests. A target is an address, of which often only the path is given, and such a
path is read as it stands. -/
namespace RowStore.Http

structure Target where
  scheme : List Char
  host : List Char
  path : List Char
  deriving DecidableEq, Repr

def ownHost : List Char := "localhost".toList

/-- What a target says. Its path is read as an address two more times: once where it is sent, and
once where it is brought into plain form. The host in front is brought into plain form too and must
still be one. -/
def Target.read (text : String) : Except AddressFault Target := do
  let whole ← Address.read text.toList
  let sent ← Address.read whole.path
  let path ← (← Address.read sent.path).text
  let host ←
    if whole.authority.isEmpty then pure ownHost else (Authority.read whole.authority).text
  checkAuthority host
  return ⟨whole.scheme, host, unescaped path⟩

/-- Whether a target asks for a lasting connection and not for an answer. -/
def Target.isSocket (target : Target) : Bool :=
  target.scheme = "ws".toList || target.scheme = "wss".toList

def isNameChar (c : Char) : Bool := c.isLower || c.isDigit || c == '-' || c == '.'

/-- The name that a host is, and the port behind it with its colon. Where there is a user, another
character or a port of zero the host is no name. -/
def Target.name? (target : Target) : Option (List Char × List Char) :=
  let (name, port) := target.host.span (· ≠ ':')
  let isPort := (port.drop 1).all Char.isDigit && port != [':', '0']
  if !name.isEmpty && name.all isNameChar && isPort then some (name, port) else none

/-- Whether the labels of the host are as they should be. A host that is no name has none. -/
def Target.hasFitHost (target : Target) : Bool :=
  target.name?.all fun (name, _) => (encodeName name).isOk

def Target.usualPort (target : Target) : List Char :=
  if target.scheme = "https".toList || target.scheme = "wss".toList then ":443".toList
  else if target.scheme.isEmpty || target.scheme = "http".toList || target.scheme = "ws".toList then
    ":80".toList
  else []

def Target.plainHost (target : Target) : Except NameFault (List Point) := do
  match target.name? with
  | none => return []
  | some (name, port) =>
    let port := if port = target.usualPort then [] else port
    return (← decodeName name) ++ port.map .char

theorem Target.read_path {c : Char} {cs : List Char} (apart : c ≠ '/')
    (plain : ∀ x ∈ c :: cs, isPathChar x) :
    Target.read (String.ofList ('/' :: c :: cs)) =
      .ok ⟨[], ownHost, unescaped ('/' :: c :: cs)⟩ := by
  have own : checkAuthority ownHost = .ok () := by
    rw [checkAuthority, show authorityFault? ownHost = none by decide +kernel]
  have text : Address.text ⟨[], [], '/' :: c :: cs⟩ = .ok ('/' :: c :: cs) := rfl
  simp only [Target.read, String.toList_ofList, Address.read_path apart plain, text, own,
    List.isEmpty_nil, if_true, pure, Except.pure, bind, Except.bind]

end RowStore.Http
