import RowStore.Value.Show
import RowStore.Text.Line
import RowStore.Text.Utf16

/-! Values from JSON texts. Beyond the plain grammar the words for infinity and for what is not a
number are read, and the last of several fields of one name counts. A fault names the first place
where no value can go on. -/
namespace RowStore.Json

inductive Problem where
  | value
  | name
  | colon
  | comma
  | extra
  | openText
  | control
  | escape
  | codeUnit
  | mark
  deriving DecidableEq, Repr

def Problem.message : Problem → String
  | .value => "Expecting value"
  | .name => "Expecting property name enclosed in double quotes"
  | .colon => "Expecting ':' delimiter"
  | .comma => "Expecting ',' delimiter"
  | .extra => "Extra data"
  | .openText => "Unterminated string starting at"
  | .control => "Invalid control character at"
  | .escape => "Invalid \\escape"
  | .codeUnit => "Invalid \\uXXXX escape"
  | .mark => "Unexpected UTF-8 BOM (decode using utf-8-sig)"

/-- Why reading stops: a problem, with the number of characters from its place to the end, or a
whole number with too many digits. -/
inductive Stop where
  | problem (p : Problem) (left : Nat)
  | tooManyDigits (count : Nat)
  deriving DecidableEq, Repr

inductive Fault where
  | problem (p : Problem) (place : Text.Place)
  | tooManyDigits (count : Nat)
  deriving DecidableEq, Repr

def Fault.message : Fault → String
  | .problem p place =>
    p.message ++ ": line " ++ toString place.line ++ " column " ++ toString place.column ++
      " (char " ++ toString place.offset ++ ")"
  | .tooManyDigits count => Value.limitText (some count)

def stopAt (p : Problem) (ps : List Point) : Except Stop α := .error (.problem p ps.length)

def isSpace (p : Point) : Bool :=
  p == .char ' ' || p == .char '\t' || p == .char '\n' || p == .char '\r'

def skip (ps : List Point) : List Point := ps.dropWhile isSpace

/-- A part of a text between quotes: a point, or a unit of sixteen bits from an escape. -/
inductive Piece where
  | plain (p : Point)
  | unit (n : Nat)

def unit? (a b c d : Point) : Option Nat := do
  let ds ← [a, b, c, d].mapM Text.hexPoint?
  return Text.ofDigits 16 ds

def escape? (p : Point) : Option Char := do
  let c ← p.char?
  if c = '"' ∨ c = '\\' ∨ c = '/' then some c
  else if c = 'b' then some '\x08'
  else if c = 'f' then some '\x0c'
  else if c = 'n' then some '\n'
  else if c = 'r' then some '\r'
  else if c = 't' then some '\t'
  else none

/-- The pieces up to the closing quote, and what follows it. `opened` starts with the opening one.
A unit must not be the last thing in the text. -/
def pieces (opened : List Point) : List Point → Except Stop (List Piece × List Point)
  | [] => stopAt .openText opened
  | .char '"' :: ps => .ok ([], ps)
  | .char '\\' :: .char 'u' :: a :: b :: c :: d :: ps =>
    match unit? a b c d with
    | some n =>
      if ps.isEmpty then stopAt .codeUnit (.char 'u' :: a :: b :: c :: d :: ps)
      else do
        let (found, rest) ← pieces opened ps
        return (.unit n :: found, rest)
    | none => stopAt .codeUnit (.char 'u' :: a :: b :: c :: d :: ps)
  | .char '\\' :: .char 'u' :: ps => stopAt .codeUnit (.char 'u' :: ps)
  | [.char '\\'] => stopAt .openText opened
  | .char '\\' :: p :: ps =>
    match escape? p with
    | some e => do
      let (found, rest) ← pieces opened ps
      return (.plain (.char e) :: found, rest)
    | none => stopAt .escape (.char '\\' :: p :: ps)
  | p :: ps =>
    if p.toNat < 0x20 then stopAt .control (p :: ps)
    else do
      let (found, rest) ← pieces opened ps
      return (.plain p :: found, rest)

/-- The points that pieces write. A high unit and the low unit behind it are one character. -/
def joined : List Piece → List Point
  | [] => []
  | .plain p :: rest => p :: joined rest
  | .unit h :: .unit l :: rest =>
    if Text.isHigh h && Text.isLow l then .char (Text.pairChar h l) :: joined rest
    else Point.ofNat h :: joined (.unit l :: rest)
  | .unit n :: rest => Point.ofNat n :: joined rest

def text (ps : List Point) : Except Stop (Text × List Point) := do
  let (found, rest) ← pieces (.char '"' :: ps) ps
  return (⟨joined found⟩, rest)

/-- The longest run of basic digits at the front, as values, and what follows it. -/
def basicDigits : List Point → List Nat × List Point
  | [] => ([], [])
  | p :: ps =>
    if 48 ≤ p.toNat ∧ p.toNat ≤ 57 then
      let (ds, rest) := basicDigits ps
      ((p.toNat - 48) :: ds, rest)
    else ([], p :: ps)

/-- The digits before the point: a zero alone, or a run that starts with another digit. -/
def wholeDigits : List Point → Option (List Nat × List Point)
  | .char '0' :: ps => some ([0], ps)
  | ps =>
    match basicDigits ps with
    | ([], _) => none
    | (ds, rest) => some (ds, rest)

/-- A point and at least one digit, or nothing. -/
def fractionDigits : List Point → List Nat × List Point
  | .char '.' :: ps =>
    match basicDigits ps with
    | ([], _) => ([], .char '.' :: ps)
    | (ds, rest) => (ds, rest)
  | ps => ([], ps)

/-- The letter of a power, a sign or none, and at least one digit, or nothing. -/
def powerOfTen (ps : List Point) : Option Int × List Point :=
  match ps with
  | e :: rest =>
    if e = .char 'e' ∨ e = .char 'E' then
      let (negative, tail) :=
        match rest with
        | .char '-' :: tail => (true, tail)
        | .char '+' :: tail => (false, tail)
        | tail => (false, tail)
      match basicDigits tail with
      | ([], _) => (none, ps)
      | (ds, after) =>
        let n : Int := Text.ofDigits 10 ds
        (some (if negative then -n else n), after)
    else (none, ps)
  | [] => (none, ps)

/-- A number and what follows it. With a point or a power it is no whole number. -/
def number (ps : List Point) : Except Stop (Value × List Point) :=
  let (negative, unsigned) :=
    match ps with
    | .char '-' :: rest => (true, rest)
    | rest => (false, rest)
  match wholeDigits unsigned with
  | none => stopAt .value ps
  | some (whole, rest) =>
    let (fraction, rest) := fractionDigits rest
    match fraction, powerOfTen rest with
    | [], (none, rest) =>
      if Value.maxDigits < whole.length then .error (.tooManyDigits whole.length)
      else
        let n : Int := Text.ofDigits 10 whole
        .ok (.int (if negative then -n else n), rest)
    | fraction, (exponent, rest) =>
      let d : Decimal := ⟨negative, whole ++ fraction, exponent.getD 0 - fraction.length⟩
      .ok (.float d.toBinary64, rest)

def keywords : List (Text × Value) :=
  [("null", .null), ("true", .bool true), ("false", .bool false), ("NaN", .float (.nan .json)),
    ("Infinity", .float (.infinite false)), ("-Infinity", .float (.infinite true))]

def keyword? (ps : List Point) : Option (Value × List Point) :=
  (keywords.find? fun k => k.1.points.isPrefixOf ps).map fun k => (k.2, ps.drop k.1.points.length)

mutual

/-- A value at the front of a text. The first argument bounds the depth of calls. -/
def value : Nat → List Point → Except Stop (Value × List Point)
  | 0, ps => stopAt .value ps
  | fuel + 1, ps =>
    match ps with
    | .char '"' :: rest => do
      let (s, rest) ← text rest
      return (.text s, rest)
    | .char '[' :: rest =>
      match skip rest with
      | .char ']' :: rest => .ok (.list [], rest)
      | rest => do
        let (xs, rest) ← items fuel rest
        return (.list xs, rest)
    | .char '\x7b' :: rest =>
      match skip rest with
      | .char '\x7d' :: rest => .ok (.record [], rest)
      | rest => do
        let (pairs, rest) ← members fuel rest
        return (.record (Fields.ofPairs pairs), rest)
    | ps =>
      match keyword? ps with
      | some found => .ok found
      | none => number ps

def items : Nat → List Point → Except Stop (List Value × List Point)
  | 0, ps => stopAt .value ps
  | fuel + 1, ps => do
    let (x, rest) ← value fuel ps
    match skip rest with
    | .char ']' :: rest => return ([x], rest)
    | .char ',' :: rest => do
      let (xs, rest) ← items fuel (skip rest)
      return (x :: xs, rest)
    | rest => stopAt .comma rest

def members : Nat → List Point → Except Stop (List (Text × Value) × List Point)
  | 0, ps => stopAt .name ps
  | fuel + 1, ps =>
    match ps with
    | .char '"' :: rest => do
      let (name, rest) ← text rest
      match skip rest with
      | .char ':' :: rest => do
        let (x, rest) ← value fuel (skip rest)
        match skip rest with
        | .char '\x7d' :: rest => return ([(name, x)], rest)
        | .char ',' :: rest => do
          let (pairs, rest) ← members fuel (skip rest)
          return ((name, x) :: pairs, rest)
        | rest => stopAt .comma rest
      | rest => stopAt .colon rest
    | ps => stopAt .name ps

end

/-- One value and nothing else but space around it. Every two calls take a character. -/
def whole (ps : List Point) : Except Stop Value := do
  if ps.head? = some (.char (Char.ofNat 0xFEFF)) then stopAt .mark ps
  else
    let (x, rest) ← value (2 * ps.length + 2) (skip ps)
    match skip rest with
    | [] => return x
    | rest => stopAt .extra rest

def read (s : Text) : Except Fault Value :=
  let ps := s.points
  match whole ps with
  | .ok x => .ok x
  | .error (.problem p left) => .error (.problem p (.behind (ps.take (ps.length - left))))
  | .error (.tooManyDigits count) => .error (.tooManyDigits count)

end RowStore.Json
