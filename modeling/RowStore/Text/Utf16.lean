import RowStore.Text

/-! Texts as units of sixteen bits: one for most characters, and a high and a low one for those
beyond the first plane. Halves of pairs that have no other half stand for themselves, so only they
can be lost on the way: the units of characters are read back as the same characters. -/
namespace RowStore.Text

def isHigh (n : Nat) : Bool := 0xD800 ≤ n && n < 0xDC00

def isLow (n : Nat) : Bool := 0xDC00 ≤ n && n < 0xE000

def units (p : Point) : List Nat :=
  if p.toNat < 0x10000 then [p.toNat]
  else [0xD800 + (p.toNat - 0x10000) / 0x400, 0xDC00 + (p.toNat - 0x10000) % 0x400]

/-- The character that a high and a low unit write together. -/
def pairChar (high low : Nat) : Char :=
  Char.ofNat (0x10000 + (high - 0xD800) * 0x400 + (low - 0xDC00))

def ofUnits : List Nat → List Point
  | [] => []
  | h :: l :: ns =>
    if isHigh h && isLow l then .char (pairChar h l) :: ofUnits ns
    else Point.ofNat h :: ofUnits (l :: ns)
  | [n] => [Point.ofNat n]

/-- No character is half of a pair. -/
theorem toNat_apart (c : Char) : c.toNat < 0xD800 ∨ 0xE000 ≤ c.toNat ∧ c.toNat < 0x110000 := by
  have valid := c.valid
  simp only [UInt32.isValidChar, Nat.isValidChar] at valid
  change c.val.toNat < _ ∨ _ ≤ c.val.toNat ∧ c.val.toNat < _
  omega

theorem isHigh_toNat (c : Char) : isHigh c.toNat = false := by
  have := toNat_apart c
  simp only [isHigh, Bool.and_eq_false_iff, decide_eq_false_iff_not]
  omega

theorem ofUnits_cons {n : Nat} (apart : isHigh n = false) (ns : List Nat) :
    ofUnits (n :: ns) = Point.ofNat n :: ofUnits ns := by
  cases ns <;> simp [ofUnits, apart]

theorem ofUnits_units_append (c : Char) (ns : List Nat) :
    ofUnits (units (.char c) ++ ns) = .char c :: ofUnits ns := by
  have range := toNat_apart c
  have same : (Point.char c).toNat = c.toNat := rfl
  unfold units
  by_cases plane : (Point.char c).toNat < 0x10000
  · have apart : isHigh (Point.char c).toNat = false := isHigh_toNat c
    rw [if_pos plane, List.singleton_append, ofUnits_cons apart, Point.ofNat_toNat]
  · have high : isHigh (0xD800 + ((Point.char c).toNat - 0x10000) / 0x400) = true := by
      simp only [isHigh, Bool.and_eq_true, decide_eq_true_eq]; omega
    have low : isLow (0xDC00 + ((Point.char c).toNat - 0x10000) % 0x400) = true := by
      simp only [isLow, Bool.and_eq_true, decide_eq_true_eq]; omega
    have whole : pairChar (0xD800 + ((Point.char c).toNat - 0x10000) / 0x400)
        (0xDC00 + ((Point.char c).toNat - 0x10000) % 0x400) = c := by
      rw [pairChar, show 0x10000 + (0xD800 + ((Point.char c).toNat - 0x10000) / 0x400 - 0xD800) *
        0x400 + (0xDC00 + ((Point.char c).toNat - 0x10000) % 0x400 - 0xDC00) = c.toNat by omega,
        Char.ofNat_toNat]
    simp [plane, ofUnits, high, low, whole]

end RowStore.Text
