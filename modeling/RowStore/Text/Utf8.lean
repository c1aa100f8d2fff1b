/-! Characters as bytes, one to four for each. Reading finds the longest start of a character, so
that a fault says which bytes are to blame and why. -/
namespace RowStore.Text

inductive Utf8Reason where
  | start
  | continuation
  | cut
  deriving DecidableEq, Repr

/-- The first bytes that are no character: how many bytes stand before them, how many they are,
and the first of them. -/
structure Utf8Fault where
  position : Nat
  width : Nat
  byte : UInt8
  reason : Utf8Reason
  deriving DecidableEq, Repr

def Utf8Reason.message : Utf8Reason → String
  | .start => "invalid start byte"
  | .continuation => "invalid continuation byte"
  | .cut => "unexpected end of data"

def encodeChar (c : Char) : List UInt8 :=
  let n := c.toNat
  if n < 0x80 then [UInt8.ofNat n]
  else if n < 0x800 then [UInt8.ofNat (0xC0 + n / 0x40), UInt8.ofNat (0x80 + n % 0x40)]
  else if n < 0x10000 then
    [UInt8.ofNat (0xE0 + n / 0x1000), UInt8.ofNat (0x80 + n / 0x40 % 0x40),
      UInt8.ofNat (0x80 + n % 0x40)]
  else
    [UInt8.ofNat (0xF0 + n / 0x40000), UInt8.ofNat (0x80 + n / 0x1000 % 0x40),
      UInt8.ofNat (0x80 + n / 0x40 % 0x40), UInt8.ofNat (0x80 + n % 0x40)]

def encode (s : String) : List UInt8 :=
  s.toList.flatMap encodeChar

def isTail (b : Nat) : Bool := 0x80 ≤ b && b ≤ 0xBF

/-- Which second bytes may follow a first one: some firsts leave out the code points that a shorter
form holds, the surrogates, or those beyond the last plane. -/
def isSecond (first second : Nat) : Bool :=
  isTail second &&
    if first = 0xE0 then decide (0xA0 ≤ second)
    else if first = 0xED then decide (second < 0xA0)
    else if first = 0xF0 then decide (0x90 ≤ second)
    else if first = 0xF4 then decide (second < 0x90)
    else true

def announced (first : Nat) : Option Nat :=
  if first < 0x80 then some 1
  else if first < 0xC2 then none
  else if first < 0xE0 then some 2
  else if first < 0xF0 then some 3
  else if first < 0xF5 then some 4
  else none

/-- What the bytes at the front of a sequence are: a character and the number of its bytes, or a
reason and the number of bytes that are to blame. -/
def front (first : Nat) (rest : List Nat) : Except (Utf8Reason × Nat) (Char × Nat) :=
  match announced first with
  | none => .error (.start, 1)
  | some 1 => .ok (Char.ofNat first, 1)
  | some width =>
    match rest with
    | [] => .error (.cut, 1)
    | b :: rest =>
      if !isSecond first b then .error (.continuation, 1)
      else if width = 2 then .ok (Char.ofNat ((first - 0xC0) * 0x40 + (b - 0x80)), 2)
      else
        match rest with
        | [] => .error (.cut, 2)
        | c :: rest =>
          if !isTail c then .error (.continuation, 2)
          else if width = 3 then
            .ok (Char.ofNat ((first - 0xE0) * 0x1000 + (b - 0x80) * 0x40 + (c - 0x80)), 3)
          else
            match rest with
            | [] => .error (.cut, 3)
            | d :: _ =>
              if !isTail d then .error (.continuation, 3)
              else
                .ok (Char.ofNat ((first - 0xF0) * 0x40000 + (b - 0x80) * 0x1000 +
                  (c - 0x80) * 0x40 + (d - 0x80)), 4)

/-- The characters of a sequence of bytes. At a fault the given function says what stands for the
bytes to blame, or stops. The number counts bytes that belong to what was read last. -/
def decodeWith (atFault : Utf8Fault → Except Utf8Fault Char) :
    Nat → Nat → List UInt8 → Except Utf8Fault (List Char)
  | _, _, [] => .ok []
  | position, skip + 1, _ :: bytes => decodeWith atFault (position + 1) skip bytes
  | position, 0, b :: bytes =>
    match front b.toNat ((bytes.take 3).map UInt8.toNat) with
    | .ok (c, width) => do
      let cs ← decodeWith atFault (position + 1) (width - 1) bytes
      return c :: cs
    | .error (reason, width) => do
      let c ← atFault ⟨position, width, b, reason⟩
      let cs ← decodeWith atFault (position + 1) (width - 1) bytes
      return c :: cs

/-- The text that bytes hold, or the first fault. -/
def decode (bytes : List UInt8) : Except Utf8Fault String :=
  (decodeWith .error 0 0 bytes).map String.ofList

/-- The text that bytes hold, with the replacement character for each fault. -/
def decodeLossy (bytes : List UInt8) : String :=
  match decodeWith (fun _ => .ok (Char.ofNat 0xFFFD)) 0 0 bytes with
  | .ok cs => String.ofList cs
  | .error _ => ""

end RowStore.Text
