import RowStore.Http.Host
import RowStore.Http.Label
import RowStore.Http.Path
import RowStore.Value.Show

/-! Addresses: a scheme, a host behind two slashes, a path, and what follows a question mark or a
number sign, all but the path optional. An address that is read has brackets around a host only if
the host is a number. -/
namespace RowStore.Http

inductive AddressFault where
  /-- A bracket without the other one, or something between the brackets and what belongs around
  them. -/
  | bracket
  | laterIP
  | shortIP
  | notIP (text : List Char)
  /-- A character that stands for a mark between the parts of an address. -/
  | disguise (authority : List Char)
  | notPort (text : List Char)
  | portDigits (count : Nat)
  | portRange
  | label (fault : LabelFault)
  deriving DecidableEq, Repr

def AddressFault.message : AddressFault → String
  | .bracket => "Invalid IPv6 URL"
  | .laterIP => "IPvFuture address is invalid"
  | .shortIP => "An IPv4 address cannot be in brackets"
  | .notIP text =>
    Text.quoted (String.ofList text) ++ " does not appear to be an IPv4 or IPv6 address"
  | .disguise authority =>
    "netloc '" ++ String.ofList authority ++
      "' contains invalid characters under NFKC normalization"
  | .notPort text =>
    "Port could not be cast to integer value as " ++ Text.quoted (String.ofList text)
  | .portDigits count => Value.limitText (some count)
  | .portRange => "Port out of range 0-65535"
  | .label fault => fault.message

def isPadding (c : Char) : Bool := c ≤ ' '

def cleaned (address : List Char) : List Char :=
  (address.dropWhile isPadding).filter fun c => c ≠ '\t' ∧ c ≠ '\n' ∧ c ≠ '\r'

def isSchemeChar (c : Char) : Bool := c.isAlphanum || c == '+' || c == '-' || c == '.'

/-- The scheme in front of a colon, if it starts with a letter, and what follows. -/
def takeScheme (address : List Char) : List Char × List Char :=
  match address.head?, address.dropWhile isSchemeChar with
  | some c, ':' :: rest =>
    if c.isAlpha then ((address.takeWhile isSchemeChar).map Char.toLower, rest) else ([], address)
  | _, _ => ([], address)

def isDelimiter (c : Char) : Bool := c == '/' || c == '?' || c == '#'

def takeAuthority : List Char → List Char × List Char
  | '/' :: '/' :: cs =>
    (cs.takeWhile fun c => !isDelimiter c, cs.dropWhile fun c => !isDelimiter c)
  | cs => ([], cs)

/-- The characters whose plain form holds a slash, a question mark, a number sign, an at sign or a
colon. -/
def disguises : List Nat :=
  [0x2047, 0x2048, 0x2049, 0x2100, 0x2101, 0x2105, 0x2106, 0x2A74, 0xFE13, 0xFE16, 0xFE55, 0xFE56,
   0xFE5F, 0xFE6B, 0xFF03, 0xFF0F, 0xFF1A, 0xFF1F, 0xFF20]

def hostPart (authority : List Char) : List Char :=
  (authority.reverse.takeWhile (· ≠ '@')).reverse

/-- Whether brackets are the first of a host, with nothing behind them but a port. -/
def isEnclosed (host : List Char) : Bool :=
  host.head? == some '[' && (((host.dropWhile (· ≠ ']')).drop 1).head?.all (· = ':'))

def numberFault? (name : List Char) : Option AddressFault :=
  if name.head? = some 'v' then if isLaterIP name then none else some .laterIP
  else if isIPv4 name then some .shortIP
  else if isIPv6 name then none
  else some (.notIP name)

/-- The fault in the brackets of a host with all that belongs to it. Brackets of a user ask for a
number too. -/
def bracketFault? (authority : List Char) : Option AddressFault :=
  let host := hostPart authority
  if authority.contains '[' != authority.contains ']' then some .bracket
  else if !authority.contains '[' then none
  else if !host.contains '[' then numberFault? (host.takeWhile (· ≠ ':'))
  else if isEnclosed host then numberFault? ((host.drop 1).takeWhile (· ≠ ']'))
  else some .bracket

def authorityFault? (authority : List Char) : Option AddressFault :=
  (bracketFault? authority).or
    (if authority.any fun c => disguises.contains c.toNat then some (.disguise authority) else none)

def checkAuthority (authority : List Char) : Except AddressFault Unit :=
  match authorityFault? authority with
  | some fault => .error fault
  | none => .ok ()

structure Address where
  scheme : List Char
  authority : List Char
  path : List Char
  deriving DecidableEq, Repr

def Address.read (text : List Char) : Except AddressFault Address := do
  let (scheme, rest) := takeScheme (cleaned text)
  let (authority, rest) := takeAuthority rest
  checkAuthority authority
  return ⟨scheme, authority, rest.takeWhile fun c => c ≠ '?' ∧ c ≠ '#'⟩

/-- A host with what belongs to it: a user, a password and a port, as texts that may be empty. -/
structure Authority where
  user : List Char
  password : List Char
  name : List Char
  port : List Char
  deriving DecidableEq, Repr

def afterColon (cs : List Char) : List Char := (cs.dropWhile (· ≠ ':')).drop 1

/-- Basic letters made small, the kelvin sign among them. All others wait for the plain form. -/
def lowered (name : List Char) : List Char :=
  name.map fun c => if c.toNat = 0x212A then 'k' else c.toLower

/-- The user stands before the last at sign. A name in brackets may hold colons. Letters of a name
are made small, up to the zone of a number. -/
def Authority.read (cs : List Char) : Authority :=
  let host := hostPart cs
  let user := cs.take (cs.length - host.length - 1)
  let (name, port) :=
    match host.dropWhile (· ≠ '[') with
    | _ :: inner => (inner.takeWhile (· ≠ ']'), afterColon (inner.dropWhile (· ≠ ']')))
    | [] => (host.takeWhile (· ≠ ':'), afterColon host)
  let name := lowered (name.takeWhile (· ≠ '%')) ++ name.dropWhile (· ≠ '%')
  ⟨user.takeWhile (· ≠ ':'), afterColon user, name, port⟩

def portOf (cs : List Char) : Except AddressFault Nat :=
  let n := Text.ofDigits 10 (Text.digits cs).1
  if !cs.all Char.isDigit then .error (.notPort cs)
  else if Value.maxDigits < cs.length then .error (.portDigits cs.length)
  else if 65535 < n then .error .portRange
  else .ok n

def isPlain (c : Char) : Bool := c.isAlphanum || "_.-~%!$&'()*+,;=".toList.contains c

def escaped (cs : List Char) : List Char :=
  cs.flatMap fun c =>
    if isPlain c then [c]
    else (Text.encodeChar c).flatMap escapeOf

/-- The plain text of a host with what belongs to it. A password without a user is left out. -/
def Authority.text (authority : Authority) : Except AddressFault (List Char) := do
  let name ← (encodeName authority.name).mapError .label
  let port ← portOf authority.port
  let host :=
    (if name.contains ':' then '[' :: name ++ [']'] else name) ++
      if authority.port.isEmpty then [] else ':' :: Value.intText port
  if authority.user.isEmpty then return host
  else if authority.password.isEmpty then return escaped authority.user ++ '@' :: host
  else return escaped authority.user ++ ':' :: escaped authority.password ++ '@' :: host

def Address.text (address : Address) : Except AddressFault (List Char) := do
  let authority ← (Authority.read address.authority).text
  let rest := if authority.isEmpty then address.path else '/' :: '/' :: authority ++ address.path
  return if address.scheme.isEmpty then rest else address.scheme ++ ':' :: rest

def isPathChar (c : Char) : Bool :=
  c != '?' && c != '#' && c != '\t' && c != '\n' && c != '\r'

/-- A path behind one slash is an address as it stands. -/
theorem Address.read_path {c : Char} {cs : List Char} (apart : c ≠ '/')
    (plain : ∀ x ∈ c :: cs, isPathChar x) :
    Address.read ('/' :: c :: cs) = .ok ⟨[], [], '/' :: c :: cs⟩ := by
  have parts : ∀ x ∈ '/' :: c :: cs, x ≠ '?' ∧ x ≠ '#' ∧ x ≠ '\t' ∧ x ≠ '\n' ∧ x ≠ '\r' := by
    intro x member
    rcases List.mem_cons.mp member with rfl | member
    · decide
    · simpa [isPathChar, and_assoc] using plain x member
  have whole : cleaned ('/' :: c :: cs) = '/' :: c :: cs := by
    rw [cleaned, List.dropWhile_cons_of_neg (by decide), List.filter_eq_self]
    intro x member
    exact decide_eq_true (parts x member).2.2
  have scheme : takeScheme ('/' :: c :: cs) = ([], '/' :: c :: cs) := by
    rw [takeScheme, List.dropWhile_cons_of_neg (by decide)]
    simp
  have authority : takeAuthority ('/' :: c :: cs) = ([], '/' :: c :: cs) := by
    unfold takeAuthority
    split
    · next same => exact absurd (List.cons.inj (List.cons.inj same).2).1 apart
    · rfl
  have path : ('/' :: c :: cs).takeWhile (fun c => decide (c ≠ '?' ∧ c ≠ '#')) =
      '/' :: c :: cs := by
    rw [← List.append_nil ('/' :: c :: cs), List.takeWhile_append_of_pos, List.takeWhile_nil]
    intro x member
    exact decide_eq_true ⟨(parts x member).1, (parts x member).2.1⟩
  simp only [Address.read, whole, scheme, authority, path]
  rfl

end RowStore.Http
