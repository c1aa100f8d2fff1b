import RowStore.Text.Digit
import RowStore.Text.Parts

/-! Hosts that are told by numbers: four bytes, eight groups, or a number of a later kind. -/
namespace RowStore.Http

def isByte (cs : List Char) : Bool :=
  cs.all Char.isDigit && !cs.isEmpty && cs.length ≤ 3 && (cs = ['0'] || cs.head? != some '0') &&
    Text.ofDigits 10 (Text.digits cs).1 < 256

def isIPv4 (cs : List Char) : Bool :=
  let bytes := Text.parts '.' cs
  bytes.length = 4 && bytes.all isByte

/-- Whether a text is a group of a long number: one to four digits in base sixteen. -/
def isGroup (cs : List Char) : Bool :=
  !cs.isEmpty && cs.length ≤ 4 && cs.all fun c => (Text.hexDigit? c).isSome

/-- A long number without the zone behind it, which is a percent sign and a name. -/
def withoutZone (cs : List Char) : Option (List Char) :=
  match cs.dropWhile (· ≠ '%') with
  | [] => some cs
  | _ :: zone => if zone.isEmpty || zone.contains '%' then none else some (cs.takeWhile (· ≠ '%'))

/-- Groups of which the last may be a short number, which stands for two. -/
def widened (groups : List (List Char)) : List (List Char) :=
  match groups.getLast? with
  | some last => if isIPv4 last then groups.dropLast ++ [['0'], ['0']] else groups
  | none => []

def sideWidth (groups : List (List Char)) : Option Nat :=
  if groups = [[]] then some 0
  else if groups.all isGroup then some groups.length
  else none

/-- Whether texts are eight groups, or fewer with one gap for the rest. The gap is an empty text
that is neither the first nor the last one. -/
def areGroups (groups : List (List Char)) : Bool :=
  let front := groups.take 1 ++ ((groups.drop 1).dropLast.takeWhile (!·.isEmpty))
  match groups.drop (front.length + 1) with
  | [] => groups.length = 8 && groups.all isGroup
  | back =>
    match sideWidth front, sideWidth back with
    | some a, some b => a + b ≤ 7
    | _, _ => false

def isIPv6 (cs : List Char) : Bool :=
  match withoutZone cs with
  | none => false
  | some cs =>
    let groups := Text.parts ':' cs
    3 ≤ groups.length && areGroups (widened groups)

/-- Whether a text is a number of a later kind: the letter v, digits in base sixteen that tell the
kind, a point, and something behind it. -/
def isLaterIP (cs : List Char) : Bool :=
  match cs with
  | 'v' :: rest =>
    let isHex := fun c => (Text.hexDigit? c).isSome
    match rest.takeWhile isHex, rest.dropWhile isHex with
    | _ :: _, '.' :: _ :: _ => true
    | _, _ => false
  | _ => false

end RowStore.Http
