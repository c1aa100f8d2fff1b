import RowStore.Text.Composition
import RowStore.Text.Direction
import RowStore.Text.Folding
import RowStore.Text.Parts
import RowStore.Text.Punycode
import RowStore.Text.Quoted

/-! Labels of host names. A label in characters of any script is brought into plain form and written
with basic characters behind a mark. A label with the mark can be read if its characters are written
as that very label again. -/
namespace RowStore.Http

/-- The bounds of what no label holds: spaces, controls, private characters and the like. -/
def forbiddenBounds : List Nat :=
  [0x80, 0xa1, 0x340, 0x342, 0x6dd, 0x6de, 0x70f, 0x710, 0x1680, 0x1681, 0x180e, 0x180f, 0x2000,
   0x2010, 0x2028, 0x2030, 0x205f, 0x2064, 0x206a, 0x2070, 0x2ff0, 0x2ffc, 0x3000, 0x3001, 0xd800,
   0xf900, 0xfdd0, 0xfdf0, 0xfeff, 0xff00, 0xfff9, 0x10000, 0x1d173, 0x1d17b, 0x1fffe, 0x20000,
   0x2fffe, 0x30000, 0x3fffe, 0x40000, 0x4fffe, 0x50000, 0x5fffe, 0x60000, 0x6fffe, 0x70000,
   0x7fffe, 0x80000, 0x8fffe, 0x90000, 0x9fffe, 0xa0000, 0xafffe, 0xb0000, 0xbfffe, 0xc0000,
   0xcfffe, 0xd0000, 0xdfffe, 0xe0000, 0xe0001, 0xe0002, 0xe0020, 0xe0080, 0xefffe]

def isForbidden (p : Point) : Bool := Text.insideBounds forbiddenBounds p.toNat

inductive LabelFault where
  /-- It has no character, or more than sixty-three. -/
  | width
  /-- The last label of a name has more than sixty-three characters. -/
  | lastWidth
  | forbidden (p : Point)
  | direction (fault : Text.DirectionFault)
  /-- It has the mark already. -/
  | marked
  deriving DecidableEq, Repr

def LabelFault.reason : LabelFault → String
  | .width => "label empty or too long"
  | .lastWidth => "label too long"
  | .forbidden p => "Invalid character " ++ Text.quoted ⟨[p]⟩
  | .direction .mixed => "Violation of BIDI requirement 2"
  | .direction .ends => "Violation of BIDI requirement 3"
  | .marked => "Label starts with ACE prefix"

def LabelFault.message (fault : LabelFault) : String :=
  "encoding with 'idna' codec failed (UnicodeError: " ++ fault.reason ++ ")"

def isBasic (cs : List Char) : Bool := cs.all fun c => c.toNat < 128

def basic? (label : List Point) : Option (List Char) :=
  (label.mapM Point.char?).filter isBasic

def fitting (label : List Char) : Except LabelFault (List Char) :=
  if label.isEmpty || 63 < label.length then .error .width else .ok label

def plainForm (label : List Point) : Except LabelFault (List Point) :=
  let plain := Text.compose (Text.orderMarks (label.flatMap Text.fold))
  match plain.find? isForbidden, Text.directionFault? plain with
  | some p, _ => .error (.forbidden p)
  | none, some fault => .error (.direction fault)
  | none, none => .ok plain

/-- What stands in front of a label that is written with basic characters. -/
def labelMark : List Char := "xn--".toList

def encodeLabel (label : List Point) : Except LabelFault (List Char) :=
  match basic? label with
  | some label => fitting label
  | none => do
    let plain ← plainForm label
    match basic? plain with
    | some label => fitting label
    | none =>
      if (labelMark.map Point.char).isPrefixOf plain then .error .marked
      else fitting (labelMark ++ Text.Punycode.encode (plain.map Point.toNat))

def isDot (c : Char) : Bool :=
  c == '.' || c.toNat == 0x3002 || c.toNat == 0xFF0E || c.toNat == 0xFF61

/-- A name in basic characters. Its last label may be empty. -/
def encodeName (name : List Char) : Except LabelFault (List Char) := do
  if isBasic name then
    let labels := Text.parts '.' name
    let _ ← labels.dropLast.mapM fitting
    if 63 < (labels.getLast?.getD []).length then .error .lastWidth else return name
  else
    let labels := Text.parts '.' (name.map fun c => if isDot c then '.' else c)
    let closed := if labels.getLast? = some [] then labels.dropLast else labels
    let encoded ← closed.mapM fun label => encodeLabel (label.map .char)
    return ['.'].intercalate encoded ++ if closed.length < labels.length then ['.'] else []

inductive NameFault where
  | code (fault : Text.Punycode.Fault)
  | unfit (fault : LabelFault)
  | changed (label made : List Char)
  deriving DecidableEq, Repr

def NameFault.message : NameFault → String
  | .code fault =>
    "decoding with 'idna' codec failed (UnicodeError: decoding with 'punycode' codec failed " ++
      "(UnicodeError: " ++ fault.message ++ "))"
  | .unfit fault => "decoding with 'idna' codec failed (UnicodeError: " ++ fault.reason ++ ")"
  | .changed label made =>
    "('IDNA does not round-trip', b" ++ Text.quoted (Text.ofChars label) ++ ", b" ++
      Text.quoted (Text.ofChars made) ++ ")"

/-- The characters that a label of basic ones stands for. One without the mark stands for itself. -/
def decodeLabel (label : List Char) : Except NameFault (List Point) := do
  if labelMark.isPrefixOf label then
    let numbers ← (Text.Punycode.decode (label.drop labelMark.length)).mapError .code
    let points := numbers.map Point.ofNat
    let made ← (encodeLabel points).mapError .unfit
    if made = label then return points else throw (.changed label made)
  else return label.map .char

def decodeName (name : List Char) : Except NameFault (List Point) := do
  return [Point.char '.'].intercalate (← (Text.parts '.' name).mapM decodeLabel)

end RowStore.Http
