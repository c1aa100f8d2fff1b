import RowStore.Json.Reader
import RowStore.Text.Utf16
import RowStore.Text.Utf8

/-! JSON texts as bytes. A mark in front tells their encoding. Without one it is told by the zeros
among the first bytes, since the first character of a text is a basic one. Halves of pairs that
stand alone are read in each encoding. -/
namespace RowStore.Json

inductive ByteOrder where
  | highFirst
  | lowFirst
  deriving DecidableEq, Repr

inductive Encoding where
  | utf8
  | utf16 (order : ByteOrder)
  | utf32 (order : ByteOrder)
  deriving DecidableEq, Repr

/-- The encoding that a mark in front of a text tells, and the bytes behind the mark. -/
def Encoding.ofMark? : List UInt8 → Option (Encoding × List UInt8)
  | 0x00 :: 0x00 :: 0xFE :: 0xFF :: rest => some (.utf32 .highFirst, rest)
  | 0xFF :: 0xFE :: 0x00 :: 0x00 :: rest => some (.utf32 .lowFirst, rest)
  | 0xFE :: 0xFF :: rest => some (.utf16 .highFirst, rest)
  | 0xFF :: 0xFE :: rest => some (.utf16 .lowFirst, rest)
  | 0xEF :: 0xBB :: 0xBF :: rest => some (.utf8, rest)
  | _ => none

/-- The encoding that the first bytes of a text without a mark tell. -/
def Encoding.ofZeros : List UInt8 → Encoding
  | a :: b :: c :: d :: _ =>
    if a = 0 then if b = 0 then .utf32 .highFirst else .utf16 .highFirst
    else if b = 0 then if c = 0 ∧ d = 0 then .utf32 .lowFirst else .utf16 .lowFirst
    else .utf8
  | [a, b] =>
    if a = 0 then .utf16 .highFirst else if b = 0 then .utf16 .lowFirst else .utf8
  | _ => .utf8

/-- Neighbours put together to numbers of twice the width. `base` is the number of values that one
of them can have. None may be left over. -/
def ByteOrder.doubled? (order : ByteOrder) (base : Nat) : List Nat → Option (List Nat)
  | [] => some []
  | [_] => none
  | a :: b :: rest => do
    let ns ← order.doubled? base rest
    return (match order with
      | .highFirst => a * base + b
      | .lowFirst => b * base + a) :: ns

def point? (n : Nat) : Option Point := if n < 0x110000 then some (.ofNat n) else none

/-- The half of a pair that three bytes write as if it were a character. -/
def half? : List Nat → Option Point
  | a :: b :: c :: _ =>
    if a = 0xED ∧ 0xA0 ≤ b ∧ Text.isTail b ∧ Text.isTail c then
      some (.ofNat (0xD000 + (b - 0x80) * 0x40 + (c - 0x80)))
    else none
  | _ => none

/-- The points of bytes. The number counts bytes that belong to the point read last. -/
def points? : Nat → List UInt8 → Option (List Point)
  | _, [] => some []
  | skip + 1, _ :: bytes => points? skip bytes
  | 0, b :: bytes => do
    let more := (bytes.take 3).map UInt8.toNat
    let (point, width) ←
      match Text.front b.toNat more with
      | .ok (c, width) => some (Point.char c, width)
      | .error _ => (half? (b.toNat :: more)).map fun half => (half, 3)
    return point :: (← points? (width - 1) bytes)

def Encoding.decode? (encoding : Encoding) (bytes : List UInt8) : Option Text :=
  match encoding with
  | .utf8 => (points? 0 bytes).map Text.mk
  | .utf16 order => do
    let units ← order.doubled? 0x100 (bytes.map UInt8.toNat)
    return ⟨Text.ofUnits units⟩
  | .utf32 order => do
    let units ← order.doubled? 0x100 (bytes.map UInt8.toNat)
    let points ← order.doubled? 0x10000 units
    return ⟨← points.mapM point?⟩

def ofBytes? (bytes : List UInt8) : Option Value := do
  let (encoding, rest) := (Encoding.ofMark? bytes).getD (.ofZeros bytes, bytes)
  (read (← encoding.decode? rest)).toOption

end RowStore.Json
