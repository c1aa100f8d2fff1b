import RowStore.Failure
import RowStore.Text.Blank

/-! Numbers in words of a query. A whole number is signed digits of any script, or digits in base
sixteen, eight or two behind `0x`, `0o` or `0b`. Other decimals and the word `Infinity` are read as
double-precision numbers, and a blank word counts as zero. -/
namespace RowStore.Query

inductive Numeral where
  | blank
  | whole (negative : Bool) (digits : List Nat)
  | decimal (d : Decimal)
  | infinite (negative : Bool)
  | radix (base : Nat) (digits : List Nat)
  deriving DecidableEq, Repr

namespace Numeral

def signed : List Char → Bool × List Char
  | '-' :: cs => (true, cs)
  | '+' :: cs => (false, cs)
  | cs => (false, cs)

/-- The power of ten behind the letter that announces it, with nothing else behind it; without the
letter there is no power. -/
def power? : List Char → Option (Option Int)
  | [] => some none
  | e :: cs =>
    if e = 'e' ∨ e = 'E' then
      let (negative, cs) := signed cs
      match Text.digits cs with
      | ([], _) => none
      | (ds, []) => some (some (if negative then -Text.ofDigits 10 ds else Text.ofDigits 10 ds))
      | _ => none
    else none

/-- Digits with a point or a power: at least one digit stands beside the point. -/
def unsigned? (negative : Bool) (cs : List Char) : Option Numeral :=
  match Text.digits cs with
  | (ds, '.' :: cs) =>
    match Text.digits cs with
    | (fs, cs) =>
      if ds.isEmpty && fs.isEmpty then none
      else (power? cs).map fun e => .decimal ⟨negative, ds ++ fs, e.getD 0 - fs.length⟩
  | ([], cs) => if cs = "Infinity".toList then some (.infinite negative) else none
  | (ds, cs) =>
    (power? cs).map fun
      | none => .whole negative ds
      | some e => .decimal ⟨negative, ds, e⟩

def base? (c : Char) : Option Nat :=
  if c = 'x' ∨ c = 'X' then some 16
  else if c = 'o' ∨ c = 'O' then some 8
  else if c = 'b' ∨ c = 'B' then some 2
  else none

def baseDigits? (base : Nat) : List Char → Option (List Nat)
  | [] => some []
  | c :: cs => do
    let d ← Text.hexDigit? c
    if d < base then return d :: (← baseDigits? base cs) else none

def radix? : List Char → Option Numeral
  | '0' :: x :: c :: cs => do
    let base ← base? x
    return .radix base (← baseDigits? base (c :: cs))
  | _ => none

def ofChars? : List Char → Option Numeral
  | [] => some .blank
  | cs =>
    let (negative, rest) := signed cs
    (radix? cs).or (unsigned? negative rest)

def ofWord? (word : Text) : Option Numeral :=
  ((Text.strip word.points).mapM Point.char?).bind ofChars?

/-- The value of a number. Whole decimal numbers have a limit of digits, leading zeros included. -/
def value : Numeral → Result Value
  | .blank => .ok (.int 0)
  | .whole negative digits =>
    if Value.maxDigits < digits.length then .error (.crash (.tooManyDigits (some digits.length)))
    else
      let n : Int := Text.ofDigits 10 digits
      .ok (.int (if negative then -n else n))
  | .decimal d => .ok (.float d.toBinary64)
  | .infinite negative => .ok (.float (.infinite negative))
  | .radix base digits => .ok (.int (Text.ofDigits base digits))

end Numeral

/-- Whether a word reads as a number. A missing word does not. -/
def isNumeric (word : Option Text) : Bool :=
  (word.bind Numeral.ofWord?).isSome

/-- The number that a word is. Any other word is not a number. -/
def toNumber (word : Option Text) : Result Value :=
  match word.bind Numeral.ofWord? with
  | some n => n.value
  | none => .ok (.float (.nan .query))

/-- The number that a word is. Any other word stands for itself. -/
def coerce (word : Option Text) : Result Value :=
  match word.bind Numeral.ofWord? with
  | some n => n.value
  | none => .ok (.ofText? word)

end RowStore.Query
