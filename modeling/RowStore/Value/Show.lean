import RowStore.Value
import RowStore.Binary64.Decimal
import RowStore.Text.Quoted

/-! Values as messages show them. Whole numbers are shown only up to a limit of digits. -/
namespace RowStore.Value

/-- The greatest number of decimal digits that a whole number is read from or written with. -/
def maxDigits : Nat := 4300

/-- The least whole number with too many digits to be written. -/
def tooLong : Nat := Nat.pow 10 maxDigits

def intText (n : Int) : List Char :=
  Binary64.sign (n < 0) ++ Nat.toDigits 10 n.natAbs

def boolText (b : Bool) : String := if b then "True" else "False"

/-- What is said of a whole number beyond the limit: on reading, with the count of its digits. -/
def limitText (count : Option Nat) : String :=
  "Exceeds the limit (" ++ toString maxDigits ++ " digits) for integer string conversion" ++
    (match count with
      | some n => ": value has " ++ toString n ++ " digits"
      | none => "") ++
    "; use sys.set_int_max_str_digits() to increase the limit"

mutual

/-- Whether all whole numbers inside a value can be written. -/
def printable : Value → Bool
  | .int n => decide (n.natAbs < tooLong)
  | .list items => printableItems items
  | .record fields => printableFields fields
  | _ => true

def printableItems : List Value → Bool
  | [] => true
  | x :: xs => printable x && printableItems xs

def printableFields : List (Text × Value) → Bool
  | [] => true
  | (_, x) :: rest => printable x && printableFields rest

end

mutual

def shown : Value → String
  | .null => "None"
  | .bool b => boolText b
  | .int n => String.ofList (intText n)
  | .float x => String.ofList (x.text "inf" "nan")
  | .text s => Text.quoted s
  | .list items => "[" ++ ", ".intercalate (shownItems items) ++ "]"
  | .record fields => "\x7b" ++ ", ".intercalate (shownFields fields) ++ "\x7d"

def shownItems : List Value → List String
  | [] => []
  | x :: xs => shown x :: shownItems xs

def shownFields : List (Text × Value) → List String
  | [] => []
  | (name, x) :: rest => (Text.quoted name ++ ": " ++ shown x) :: shownFields rest

end

/-- A value as part of a sentence: a text stands for itself. -/
def plain : Value → Text
  | .text s => s
  | v => shown v

def namesText (names : List Text) : String :=
  shown (.list (names.map .text))

end RowStore.Value
