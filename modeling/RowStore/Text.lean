/-! Texts, as values and names hold them: characters, and halves of a pair of sixteen-bit units that
stand alone. Texts are ordered by the numbers of their points. -/
namespace RowStore

/-- What a text is made of. A half is told by its distance from the first one. -/
inductive Point where
  | char (c : Char)
  | half (h : Fin 0x800)
  deriving DecidableEq, Repr, Inhabited

namespace Point

def toNat : Point → Nat
  | .char c => c.toNat
  | .half h => 0xD800 + h

def ofNat (n : Nat) : Point :=
  if h : 0xD800 ≤ n ∧ n < 0xE000 then .half ⟨n - 0xD800, by omega⟩ else .char (Char.ofNat n)

def char? : Point → Option Char
  | .char c => some c
  | .half _ => none

end Point

structure Text where
  points : List Point
  deriving DecidableEq, Repr, Inhabited

namespace Text

def ofChars (cs : List Char) : Text := ⟨cs.map .char⟩

def ofString (s : String) : Text := ofChars s.toList

instance : Coe String Text := ⟨ofString⟩

instance : Append Text := ⟨fun s t => ⟨s.points ++ t.points⟩⟩

def isEmpty (s : Text) : Bool := s.points.isEmpty

def chars? (s : Text) : Option (List Char) := s.points.mapM Point.char?

/-- Texts one after the other with a mark between them. -/
def join (mark : Text) : List Text → Text
  | [] => ⟨[]⟩
  | [s] => s
  | s :: rest => s ++ mark ++ join mark rest

def pointsLe : List Point → List Point → Bool
  | [], _ => true
  | _ :: _, [] => false
  | p :: ps, q :: qs => if p = q then pointsLe ps qs else decide (p.toNat < q.toNat)

def le (s t : Text) : Bool := pointsLe s.points t.points

end Text

theorem Point.ofNat_toNat (p : Point) : Point.ofNat p.toNat = p := by
  cases p with
  | char c =>
    have valid := c.valid
    simp only [UInt32.isValidChar, Nat.isValidChar] at valid
    have apart : ¬(0xD800 ≤ c.toNat ∧ c.toNat < 0xE000) := by
      change ¬(_ ≤ c.val.toNat ∧ c.val.toNat < _)
      omega
    simp [Point.toNat, Point.ofNat, apart]
  | half h =>
    have bound : 0xD800 ≤ 0xD800 + h.val ∧ 0xD800 + h.val < 0xE000 := by omega
    simp [Point.toNat, Point.ofNat, bound]

theorem Point.toNat_inj {p q : Point} (same : p.toNat = q.toNat) : p = q := by
  rw [← Point.ofNat_toNat p, same, Point.ofNat_toNat]

end RowStore
