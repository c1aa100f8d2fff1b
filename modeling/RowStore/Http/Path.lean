import RowStore.Text.Digit
import RowStore.Text.Parts
import RowStore.Text.Quoted
import RowStore.Text.Utf8

/-! Paths of requests. Their escapes are bytes, and the slashes in front of them count as one. -/
namespace RowStore.Http

/-- The byte that two digits in base sixteen behind a percent sign write. -/
def escape? : List Char → Option UInt8
  | a :: b :: _ => do return UInt8.ofNat (16 * (← Text.hexDigit? a) + (← Text.hexDigit? b))
  | _ => none

/-- The bytes that a text with escapes stands for: those of escapes, and the own bytes of all other
characters. The number counts characters that belong to the escape read last. -/
def unescape : Nat → List Char → List UInt8
  | _, [] => []
  | skip + 1, _ :: cs => unescape skip cs
  | 0, c :: cs =>
    match if c = '%' then escape? cs else none with
    | some byte => byte :: unescape 2 cs
    | none => Text.encodeChar c ++ unescape 0 cs

def unescaped (cs : List Char) : List Char := (Text.decodeLossy (unescape 0 cs)).toList

def isUnreserved (c : Char) : Bool := c.isAlphanum || "-._~".toList.contains c

def escapeOf (b : UInt8) : List Char := '%' :: (Text.hexDigits 2 b.toNat).map Char.toUpper

def segmentChar (c : Char) : List Char :=
  if isUnreserved c then [c] else (Text.encodeChar c).flatMap escapeOf

/-- A name as one part of a path. -/
def asSegment (name : List Char) : List Char := name.flatMap segmentChar

def pathOf (parts : List String) : List Char :=
  parts.flatMap fun part => '/' :: asSegment part.toList

/-- The parts of a path between its slashes, those in front aside. -/
def segments (path : List Char) : List String :=
  (Text.parts '/' (path.dropWhile (· = '/'))).map String.ofList

/-- A path with each run of slashes written as one. -/
def mergeSlashes : List Char → List Char
  | [] => []
  | c :: cs =>
    let rest := mergeSlashes cs
    if c = '/' ∧ rest.head? = some '/' then rest else c :: rest

end RowStore.Http
