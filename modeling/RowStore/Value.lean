import RowStore.Binary64
import RowStore.Fields

/-! Values of cells, and of the texts that hold snapshots. Numbers of all kinds and the two truth
values compare as exact numbers. -/
namespace RowStore

inductive Value where
  | null
  | bool (b : Bool)
  | int (n : Int)
  | float (x : Binary64)
  | text (s : Text)
  | list (items : List Value)
  | record (fields : List (Text × Value))
  deriving Repr, Inhabited

namespace Value

/-- The whole number that a value stands for, truth values included. -/
def whole? : Value → Option Int
  | .bool b => some (if b then 1 else 0)
  | .int n => some n
  | _ => none

def scalarEqual : Value → Value → Bool
  | .null, .null => true
  | .text s, .text t => s == t
  | .float x, .float y => x.equal y
  | .float x, b => b.whole?.any x.equalInt
  | a, .float y => a.whole?.any y.equalInt
  | a, b =>
    match a.whole?, b.whole? with
    | some m, some n => m == n
    | _, _ => false

mutual

/-- Equality as a filter asks for it. Records do not mind the order of their fields. -/
def equal : Value → Value → Bool
  | .list xs, .list ys => sameItems xs ys
  | .record fs, .record gs => fs.length == gs.length && sameFields fs gs
  | a, b => scalarEqual a b

/-- Equality as a key or a part: what is not a number is the same as itself. -/
def same : Value → Value → Bool
  | .float (.nan o), .float (.nan p) => o == p
  | .list xs, .list ys => sameItems xs ys
  | .record fs, .record gs => fs.length == gs.length && sameFields fs gs
  | a, b => scalarEqual a b

def sameItems : List Value → List Value → Bool
  | [], [] => true
  | x :: xs, y :: ys => same x y && sameItems xs ys
  | _, _ => false

def sameFields : List (Text × Value) → List (Text × Value) → Bool
  | [], _ => true
  | (name, x) :: rest, others =>
    (match Fields.find? others name with
      | some y => same x y
      | none => false) && sameFields rest others

end

def isScalar : Value → Bool
  | .list _ | .record _ => false
  | _ => true

mutual

/-- How many lists and records stand around the innermost part of a value. -/
def depth : Value → Nat
  | .list items => depthOfItems items + 1
  | .record fields => depthOfFields fields + 1
  | _ => 0

def depthOfItems : List Value → Nat
  | [] => 0
  | v :: rest => max (depth v) (depthOfItems rest)

def depthOfFields : List (Text × Value) → Nat
  | [] => 0
  | (_, v) :: rest => max (depth v) (depthOfFields rest)

end

/-- Whether a value counts as set when a flag is wanted: nothing, zero and what is empty do not. -/
def truthy : Value → Bool
  | .null => false
  | .bool b => b
  | .int n => n != 0
  | .float x => !x.isZero
  | .text s => !s.isEmpty
  | .list items => !items.isEmpty
  | .record fields => !fields.isEmpty

def kindName : Value → String
  | .null => "NoneType"
  | .bool _ => "bool"
  | .int _ => "int"
  | .float _ => "float"
  | .text _ => "str"
  | .list _ => "list"
  | .record _ => "dict"

/-- The text that a missing text is taken for. -/
def ofText? : Option Text → Value
  | some s => .text s
  | none => .null

end Value
end RowStore
