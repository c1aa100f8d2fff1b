/-! Double-precision binary numbers as exact values. A magnitude counts units of the smallest
positive number, two to the power -1074, so that equal numbers have equal counts and no rounding
happens outside `roundRatio`. -/
namespace RowStore

/-- What made a value that is not a number: a reader, which makes one for all, or a caller, who may
bring several. -/
inductive NanOrigin where
  | query
  | json
  | caller (identity : Nat)
  deriving DecidableEq, Repr

namespace Binary64

/-- How many units lie between neighbours at a magnitude: fifty-three bits are kept. -/
def gap (units : Nat) : Nat := Nat.pow 2 (units.log2 - 52)

def one : Nat := Nat.pow 2 1074

/-- A magnitude that fifty-three bits can hold and whose highest bit is in range. -/
structure Magnitude where
  units : Nat
  onGrid : gap units ∣ units
  inRange : units.log2 < 2098
  deriving DecidableEq, Repr

def Magnitude.zero : Magnitude := ⟨0, Nat.dvd_zero _, by decide⟩

end Binary64

/-- A double-precision number. Two values that are not numbers are told apart by their origin. -/
inductive Binary64 where
  | finite (negative : Bool) (magnitude : Binary64.Magnitude)
  | infinite (negative : Bool)
  | nan (origin : NanOrigin)
  deriving DecidableEq, Repr

namespace Binary64

def signedUnits : Bool → Nat → Int
  | false, n => n
  | true, n => -(n : Int)

def isNan : Binary64 → Bool
  | .nan _ => true
  | _ => false

def isZero : Binary64 → Bool
  | .finite _ m => m.units == 0
  | _ => false

/-- Numeric equality: both zeros are equal, and nothing equals what is not a number. -/
def equal : Binary64 → Binary64 → Bool
  | .finite a m, .finite b n => signedUnits a m.units == signedUnits b n.units
  | .infinite a, .infinite b => a == b
  | _, _ => false

/-- Exact equality with a whole number, however large. -/
def equalInt : Binary64 → Int → Bool
  | .finite a m, n => signedUnits a m.units == n * one
  | _, _ => false

/-- The magnitude nearest to `num / den` units among those that fifty-three bits can hold. Of two
that are equally near, the one that is an even multiple of the gap is taken. -/
def roundRatio (num den : Nat) : Nat :=
  let step := gap (num / den)
  let low := num / (den * step)
  let twice := 2 * (num % (den * step))
  if twice < den * step ∨ twice = den * step ∧ low % 2 = 0 then low * step else (low + 1) * step

/-- A number from its sign and its magnitude in units; infinite if the magnitude is too large. -/
def ofUnits (negative : Bool) (units : Nat) : Binary64 :=
  if h : gap units ∣ units ∧ units.log2 < 2098 then .finite negative ⟨units, h.1, h.2⟩
  else .infinite negative

end Binary64
end RowStore
