import RowStore.Text
import RowStore.Text.Printable

/-! Texts between quotes, as messages show them. A single quote is used unless the text has one and
has no double quote. The quote in use and the backslash take a backslash, and a character that is
not printable is shown by its code point. -/
namespace RowStore.Text

def hexChar (d : Nat) : Char :=
  Char.ofNat (if d < 10 then 48 + d else 87 + d)

/-- The last `width` digits of a number in base sixteen. -/
def hexDigits : Nat → Nat → List Char
  | 0, _ => []
  | width + 1, n => hexDigits width (n / 16) ++ [hexChar (n % 16)]

/-- A code point by the shortest of the three forms that can hold it. -/
def codePoint (n : Nat) : List Char :=
  if n < 0x100 then '\\' :: 'x' :: hexDigits 2 n
  else if n < 0x10000 then '\\' :: 'u' :: hexDigits 4 n
  else '\\' :: 'U' :: hexDigits 8 n

def quoteFor (ps : List Point) : Char :=
  if ps.contains (.char '\'') && !ps.contains (.char '"') then '"' else '\''

def quotedPoint (quote : Char) : Point → List Char
  | .half h => codePoint (Point.half h).toNat
  | .char c =>
    if c = quote ∨ c = '\\' then ['\\', c]
    else if c = '\t' then ['\\', 't']
    else if c = '\n' then ['\\', 'n']
    else if c = '\r' then ['\\', 'r']
    else if isPrintable c then [c]
    else codePoint c.toNat

def quoted (s : Text) : String :=
  let quote := quoteFor s.points
  String.ofList (quote :: s.points.flatMap (quotedPoint quote) ++ [quote])

end RowStore.Text
