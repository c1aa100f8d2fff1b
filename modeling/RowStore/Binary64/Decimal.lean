import RowStore.Binary64
import RowStore.Text.Digit

/-! Decimal texts and double-precision numbers. Reading rounds to the nearest number. Writing takes
the fewest digits that read back, and of those the nearest to the number. -/
namespace RowStore

/-- A decimal: its digits are a whole number, to be multiplied by a power of ten. -/
structure Decimal where
  negative : Bool
  digits : List Nat
  exponent : Int
  deriving DecidableEq, Repr

namespace Decimal

def nearest (n : Nat) (exponent : Int) : Nat :=
  match exponent with
  | .ofNat e => Binary64.roundRatio (n * Nat.pow 10 e * Binary64.one) 1
  | .negSucc e => Binary64.roundRatio (n * Binary64.one) (Nat.pow 10 (e + 1))

/-- The number that a decimal reads as. The places of its first digit decide alone when it is far
above the largest number or far below the smallest one. -/
def toBinary64 (d : Decimal) : Binary64 :=
  let digits := d.digits.dropWhile (· == 0)
  let top : Int := digits.length + d.exponent
  if digits.isEmpty ∨ top < -330 then .finite d.negative .zero
  else if 310 < top then .infinite d.negative
  else .ofUnits d.negative (nearest (Text.ofDigits 10 digits) d.exponent)

end Decimal

namespace Binary64

/-- Enough places to keep seventeen digits of the smallest number before the point. -/
def places : Nat := 340

/-- The whole number whose digits are those of a magnitude, from the first one on. -/
def expansion (units : Nat) : Nat := units * Nat.pow 10 places / one

/-- The two decimals of `count` digits around a magnitude, the nearer one first. Of two that are
equally near, the one with an even last digit comes first. -/
def neighbours (units count : Nat) : List (Nat × Int) :=
  let whole := expansion units
  let width := (Nat.toDigits 10 whole).length
  let cut := Nat.pow 10 (width - count)
  let low := whole / cut
  let exponent : Int := width - count - places
  let twice := 2 * units * Nat.pow 10 places
  let middle := (2 * low + 1) * cut * one
  if twice < middle ∨ twice = middle ∧ low % 2 = 0 then [(low, exponent), (low + 1, exponent)]
  else [(low + 1, exponent), (low, exponent)]

def readsBack (units : Nat) (d : Nat × Int) : Bool :=
  Decimal.nearest d.1 d.2 == units

/-- The shortest decimal that reads back. If no short one does, all digits are written. -/
def shortest (units : Nat) : Nat × Int :=
  ((List.range 17).findSome? fun i => (neighbours units (i + 1)).find? (readsBack units)).getD
    (units * Nat.pow 5 1074, -1074)

structure Style where
  /-- The least and the greatest power of ten of a first digit that keep the point in its place. -/
  least : Int
  greatest : Int
  powerDigits : Nat

/-- Numbers from a ten-thousandth up to sixteen digits before the point are written in place. -/
def standard : Style := ⟨-4, 15, 2⟩

def padded (width : Nat) (n : Nat) : List Char :=
  let digits := Nat.toDigits 10 n
  List.replicate (width - digits.length) '0' ++ digits

def power (style : Style) (e : Int) : List Char :=
  'e' :: (if e < 0 then '-' else '+') :: padded style.powerDigits e.natAbs

def inPlace (digits : List Char) (point : Int) : List Char :=
  match point with
  | .negSucc k => '0' :: '.' :: List.replicate (k + 1) '0' ++ digits
  | .ofNat 0 => '0' :: '.' :: digits
  | .ofNat k =>
    if digits.length ≤ k then digits ++ List.replicate (k - digits.length) '0' ++ ['.', '0']
    else digits.take k ++ '.' :: digits.drop k

def inPowers (style : Style) (digits : List Char) (e : Int) : List Char :=
  match digits with
  | [] => []
  | [d] => d :: power style e
  | d :: ds => d :: '.' :: ds ++ power style e

def layout (style : Style) (digits : List Char) (exponent : Int) : List Char :=
  let significant := (digits.reverse.dropWhile (· == '0')).reverse
  let first : Int := digits.length + exponent - 1
  if style.least ≤ first ∧ first ≤ style.greatest then inPlace significant (first + 1)
  else inPowers style significant first

def magnitudeText (units : Nat) : List Char :=
  if units = 0 then ['0', '.', '0']
  else
    let (n, exponent) := shortest units
    layout standard (Nat.toDigits 10 n) exponent

def sign (negative : Bool) : List Char := if negative then ['-'] else []

/-- The text of a number, with the given words for the infinite ones and for what is no number. -/
def text (infinity notANumber : String) : Binary64 → List Char
  | .finite negative m => sign negative ++ magnitudeText m.units
  | .infinite negative => sign negative ++ infinity.toList
  | .nan _ => notANumber.toList

end Binary64
end RowStore
