import RowStore.Binary64.Decimal
import RowStore.Proofs.Digits

/-! Rounding looks at the value of a fraction alone, so zeros at either end of a decimal change
nothing. The decimal that is chosen for a magnitude reads as this magnitude: short ones are tried by
reading them, and the exact one is on the grid. -/
namespace RowStore.Binary64

theorem pow_two_pos (k : Nat) : 0 < Nat.pow 2 k := Nat.two_pow_pos k

theorem gap_pos (units : Nat) : 0 < gap units := pow_two_pos _

theorem pos_one : 0 < one := by
  unfold one
  exact pow_two_pos 1074

theorem gap_le {units : Nat} (positive : 0 < units) : gap units ≤ units :=
  calc 2 ^ (units.log2 - 52) ≤ 2 ^ units.log2 := Nat.pow_le_pow_right (by decide) (Nat.sub_le ..)
    _ ≤ units := Nat.log2_self_le (Nat.ne_of_gt positive)

theorem roundRatio_mul {k : Nat} (positive : 0 < k) (num den : Nat) :
    roundRatio (num * k) (den * k) = roundRatio num den := by
  have quotient : num * k / (den * k) = num / den := Nat.mul_div_mul_right _ _ positive
  unfold roundRatio
  rw [quotient]
  generalize gap (num / den) = step
  have scaled : den * k * step = den * step * k := Nat.mul_right_comm ..
  have low : num * k / (den * step * k) = num / (den * step) :=
    Nat.mul_div_mul_right _ _ positive
  have twice : 2 * (num * k % (den * step * k)) = 2 * (num % (den * step)) * k := by
    rw [Nat.mul_mod_mul_right, Nat.mul_assoc]
  have less : 2 * (num % (den * step)) * k < den * step * k ↔
      2 * (num % (den * step)) < den * step := Nat.mul_lt_mul_right positive
  have even : 2 * (num % (den * step)) * k = den * step * k ↔
      2 * (num % (den * step)) = den * step := Nat.mul_left_inj (Nat.ne_of_gt positive)
  simp only [scaled, low, twice, less, even]

theorem roundRatio_congr {num den num' den' : Nat} (left : 0 < den) (right : 0 < den')
    (same : num * den' = num' * den) : roundRatio num den = roundRatio num' den' :=
  calc roundRatio num den = roundRatio (num * den') (den * den') := (roundRatio_mul right ..).symm
    _ = roundRatio (num' * den) (den' * den) := by rw [same, Nat.mul_comm den]
    _ = roundRatio num' den' := roundRatio_mul left ..

theorem roundRatio_of_onGrid {units : Nat} (onGrid : gap units ∣ units) :
    roundRatio units 1 = units := by
  have exact : units % gap units = 0 := Nat.mod_eq_zero_of_dvd onGrid
  have positive := gap_pos units
  simp [roundRatio, exact, positive, Nat.div_mul_cancel onGrid]

theorem div_le_two_mul_roundRatio (num den : Nat) : num / den ≤ 2 * roundRatio num den := by
  have low : num / (den * gap (num / den)) * gap (num / den) ≤ roundRatio num den := by
    unfold roundRatio
    dsimp only
    split
    · exact Nat.le_refl _
    · exact Nat.mul_le_mul_right _ (Nat.le_succ _)
  rw [← Nat.div_div_eq_div_mul] at low
  generalize num / den = q at low ⊢
  cases q with
  | zero => exact Nat.zero_le _
  | succ q =>
    have small := gap_le (Nat.succ_pos q)
    have positive := gap_pos (q + 1)
    generalize gap (q + 1) = step at low small positive
    have below := Nat.lt_mul_div_succ (q + 1) positive
    have step_le : step ≤ (q + 1) / step * step :=
      Nat.le_mul_of_pos_left _ (Nat.div_pos small positive)
    rw [Nat.mul_add, Nat.mul_comm step] at below
    omega

theorem Magnitude.lt_limit (m : Magnitude) : m.units < 2 ^ 2098 :=
  Nat.lt_of_lt_of_le Nat.lt_log2_self (Nat.pow_le_pow_right (by decide) m.inRange)

theorem ofUnits_units (negative : Bool) (m : Magnitude) :
    ofUnits negative m.units = .finite negative m :=
  dif_pos ⟨m.onGrid, m.inRange⟩

theorem roundRatio_eq_zero {num den : Nat} (small : 2 * num < den) : roundRatio num den = 0 := by
  have quotient : num / den = 0 := Nat.div_eq_of_lt (by omega)
  have step : gap 0 = 1 := by decide
  have rest : num % den = num := Nat.mod_eq_of_lt (by omega)
  simp [roundRatio, quotient, step, rest, small]

end RowStore.Binary64

namespace RowStore.Decimal

open Binary64

theorem nearest_eq (n : Nat) (e : Int) :
    nearest n e = roundRatio (n * 10 ^ e.toNat * one) (10 ^ (-e).toNat) := by
  cases e with
  | ofNat e =>
    have none : (-Int.ofNat e).toNat = 0 := by simp
    rw [none]
    rfl
  | negSucc e =>
    have none : (Int.negSucc e).toNat = 0 := rfl
    have power : (-Int.negSucc e).toNat = e + 1 := rfl
    rw [none, power, Nat.pow_zero, Nat.mul_one]
    rfl

theorem nearest_shift (n k : Nat) (e : Int) : nearest (n * 10 ^ k) (e - k) = nearest n e := by
  rw [nearest_eq, nearest_eq]
  apply roundRatio_congr (Nat.pow_pos (by decide)) (Nat.pow_pos (by decide))
  have powers : 10 ^ k * 10 ^ (e - k).toNat * 10 ^ (-e).toNat =
      10 ^ e.toNat * 10 ^ (-(e - k)).toNat := by
    rw [← Nat.pow_add, ← Nat.pow_add, ← Nat.pow_add]
    congr 1
    omega
  generalize one = unit
  calc n * 10 ^ k * 10 ^ (e - k).toNat * unit * 10 ^ (-e).toNat
      = n * unit * (10 ^ k * 10 ^ (e - k).toNat * 10 ^ (-e).toNat) := by ac_rfl
    _ = n * unit * (10 ^ e.toNat * 10 ^ (-(e - k)).toNat) := by rw [powers]
    _ = n * 10 ^ e.toNat * unit * 10 ^ (-(e - k)).toNat := by ac_rfl

theorem nearest_of_low {n width : Nat} {e : Int} (short : n < 10 ^ width)
    (low : width + e < -330) : nearest n e = 0 := by
  have whole : e.toNat = 0 := by omega
  have tiny : 2 * one ≤ 10 ^ 331 := by decide +kernel
  rw [nearest_eq, whole, Nat.pow_zero, Nat.mul_one]
  apply roundRatio_eq_zero
  calc 2 * (n * one) = n * (2 * one) := Nat.mul_left_comm ..
    _ < 10 ^ width * (2 * one) := Nat.mul_lt_mul_of_pos_right short (Nat.mul_pos (by decide) pos_one)
    _ ≤ 10 ^ width * 10 ^ 331 := Nat.mul_le_mul_left _ tiny
    _ = 10 ^ (width + 331) := (Nat.pow_add 10 width 331).symm
    _ ≤ 10 ^ (-e).toNat := Nat.pow_le_pow_right (by decide) (by omega)

theorem nearest_of_high {n width : Nat} {e : Int} (long : 10 ^ width ≤ n)
    (high : 310 ≤ width + e) : 2 ^ 2098 ≤ nearest n e := by
  have huge : 2 * 2 ^ 2098 ≤ 10 ^ 310 * one := by decide +kernel
  have below : 10 ^ 310 * one ≤ n * 10 ^ e.toNat * one / 10 ^ (-e).toNat := by
    rw [Nat.le_div_iff_mul_le (Nat.pow_pos (by decide)), Nat.mul_right_comm]
    apply Nat.mul_le_mul_right _
    calc 10 ^ 310 * 10 ^ (-e).toNat = 10 ^ (310 + (-e).toNat) := (Nat.pow_add 10 310 _).symm
      _ ≤ 10 ^ (width + e.toNat) := Nat.pow_le_pow_right (by decide) (by omega)
      _ = 10 ^ width * 10 ^ e.toNat := Nat.pow_add ..
      _ ≤ n * 10 ^ e.toNat := Nat.mul_le_mul_right _ long
  have twice := div_le_two_mul_roundRatio (n * 10 ^ e.toNat * one) (10 ^ (-e).toNat)
  rw [← nearest_eq] at twice
  generalize 2 ^ 2098 = limit at *
  omega

theorem dropWhile_zeros (n : Nat) (ds : List Nat) :
    (List.replicate n 0 ++ ds).dropWhile (· == 0) = ds.dropWhile (· == 0) := by
  induction n with
  | zero => rfl
  | succ n ih => simp [List.replicate_succ, ih]

theorem toBinary64_zeros (negative : Bool) (n : Nat) (e : Int) :
    toBinary64 ⟨negative, List.replicate n 0, e⟩ = .finite negative .zero := by
  have none := dropWhile_zeros n []
  rw [List.append_nil] at none
  simp [toBinary64, none]

/-- Zeros around the digits of a decimal do not change what it reads as. -/
theorem toBinary64_padded (negative : Bool) {d : Nat} (apart : d ≠ 0) (ds : List Nat) (i j : Nat)
    (e : Int) :
    toBinary64 ⟨negative, List.replicate i 0 ++ (d :: ds) ++ List.replicate j 0, e - j⟩ =
      toBinary64 ⟨negative, d :: ds, e⟩ := by
  have padded : (List.replicate i 0 ++ (d :: ds) ++ List.replicate j 0).dropWhile (· == 0) =
      d :: ds ++ List.replicate j 0 := by
    rw [List.append_assoc, dropWhile_zeros]
    simp [apart]
  have plain : (d :: ds).dropWhile (· == 0) = d :: ds := by simp [apart]
  have top : ((d :: ds ++ List.replicate j 0).length : Int) + (e - j) = (d :: ds).length + e := by
    simp
    omega
  have digits : Text.ofDigits 10 (d :: ds ++ List.replicate j 0) =
      Text.ofDigits 10 (d :: ds) * 10 ^ j := by
    rw [Text.ofDigits_append]
    simp
  simp only [toBinary64, padded, plain, top, digits, nearest_shift]
  simp

theorem nearest_zero (e : Int) : nearest 0 e = 0 := by
  rw [nearest_eq, Nat.zero_mul, Nat.zero_mul]
  exact roundRatio_eq_zero (Nat.pow_pos (by decide))

theorem toBinary64_of_nearest (negative : Bool) {n : Nat} {e : Int} {m : Magnitude}
    (positive : 0 < m.units) (rounds : nearest n e = m.units) :
    toBinary64 ⟨negative, (Nat.toDigits 10 n).map Text.digitValue, e⟩ = .finite negative m := by
  have counted : 0 < n := by
    apply Nat.pos_of_ne_zero
    intro zero
    rw [zero, nearest_zero] at rounds
    omega
  obtain ⟨c, cs, front, apart⟩ := Text.head_toDigits counted
  have digit : c.isDigit := Text.isDigit_of_mem_toDigits (n := n) (by simp [front])
  have plain : ((Nat.toDigits 10 n).map Text.digitValue).dropWhile (· == 0) =
      (Nat.toDigits 10 n).map Text.digitValue := by
    simp [front, Text.digitValue_ne_zero digit apart]
  have low : ¬((Nat.toDigits 10 n).length + e < -330) := by
    intro low
    rw [nearest_of_low (Text.lt_pow_length n) low] at rounds
    omega
  have high : ¬(310 < (Nat.toDigits 10 n).length + e) := by
    intro high
    have far := nearest_of_high (Text.pow_le_of_positive counted) (e := e) (by omega)
    rw [rounds] at far
    exact absurd m.lt_limit (Nat.not_lt_of_le far)
  have some : ((Nat.toDigits 10 n).map Text.digitValue).isEmpty = false := by simp
  simp only [toBinary64, plain, some, List.length_map, low, high, Text.ofDigits_toDigits, rounds,
    ofUnits_units]
  simp

end RowStore.Decimal

namespace RowStore.Binary64

theorem roundRatio_fives (units k : Nat) :
    roundRatio (units * Nat.pow 5 k * Nat.pow 2 k) (10 ^ k) = roundRatio units 1 := by
  have tens : Nat.pow 5 k * Nat.pow 2 k = 10 ^ k := (Nat.mul_pow 5 2 k).symm
  have same := roundRatio_mul (Nat.pow_pos (by decide : 0 < 10) (n := k)) units 1
  rw [Nat.one_mul] at same
  rwa [Nat.mul_assoc, tens]

/-- The decimal that is chosen for a magnitude rounds to it. -/
theorem nearest_shortest (m : Magnitude) :
    Decimal.nearest (shortest m.units).1 (shortest m.units).2 = m.units := by
  unfold shortest
  cases found : (List.range 17).findSome? fun i =>
      (neighbours m.units (i + 1)).find? (readsBack m.units) with
  | some d =>
    obtain ⟨i, _, chosen⟩ := List.exists_of_findSome?_eq_some found
    simpa [readsBack] using List.find?_some chosen
  | none =>
    have whole : (-1074 : Int).toNat = 0 := rfl
    have power : (-(-1074) : Int).toNat = 1074 := rfl
    rw [Option.getD_none, Decimal.nearest_eq, whole, power, Nat.pow_zero, Nat.mul_one]
    exact (roundRatio_fives m.units 1074).trans (roundRatio_of_onGrid m.onGrid)

end RowStore.Binary64
