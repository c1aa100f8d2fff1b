import RowStore.Text.Utf16
import RowStore.Value.Show

/-! Values as JSON texts of plain characters. Items and fields stand in order, each comma and colon
is followed by a space, and every character outside the printable basic ones is written by its
sixteen-bit units. -/
namespace RowStore.Json

/-- A sixteen-bit unit in an escape. -/
def unitEscape (n : Nat) : List Char := '\\' :: 'u' :: Text.hexDigits 4 n

/-- A point of a text, as it stands between the quotes. -/
def escaped (p : Point) : List Char :=
  match p with
  | .half _ => (Text.units p).flatMap unitEscape
  | .char c =>
    if c = '"' then ['\\', '"']
    else if c = '\\' then ['\\', '\\']
    else if c = '\n' then ['\\', 'n']
    else if c = '\r' then ['\\', 'r']
    else if c = '\t' then ['\\', 't']
    else if c = '\x0c' then ['\\', 'f']
    else if c = '\x08' then ['\\', 'b']
    else if 0x20 ≤ c.toNat ∧ c.toNat < 0x7F then [c]
    else (Text.units p).flatMap unitEscape

def writeText (s : Text) : List Char :=
  '"' :: s.points.flatMap escaped ++ ['"']

def comma : List Char := [',', ' ']

def colon : List Char := [':', ' ']

mutual

def writeValue : Value → List Char
  | .null => ['n', 'u', 'l', 'l']
  | .bool true => ['t', 'r', 'u', 'e']
  | .bool false => ['f', 'a', 'l', 's', 'e']
  | .int n => Value.intText n
  | .float x => x.text "Infinity" "NaN"
  | .text s => writeText s
  | .list [] => ['[', ']']
  | .list (x :: xs) => '[' :: writeValue x ++ writeItems xs ++ [']']
  | .record [] => ['\x7b', '\x7d']
  | .record ((name, x) :: rest) =>
    '\x7b' :: writeText name ++ colon ++ writeValue x ++ writeFields rest ++ ['\x7d']

def writeItems : List Value → List Char
  | [] => []
  | x :: xs => comma ++ writeValue x ++ writeItems xs

def writeFields : List (Text × Value) → List Char
  | [] => []
  | (name, x) :: rest => comma ++ writeText name ++ colon ++ writeValue x ++ writeFields rest

end

def write (v : Value) : String := String.ofList (writeValue v)

end RowStore.Json
