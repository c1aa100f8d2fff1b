import Mathlib.Algebra.Group.Nat.Defs
import RowStore.Text.Digit

/-! Digits and the numbers that they write. -/
namespace RowStore.Text

/-- The value of a basic digit. -/
def digitValue (c : Char) : Nat := c.toNat - 48

theorem foldl_digits (base start : Nat) (ds : List Nat) :
    ds.foldl (fun n d => base * n + d) start = start * base ^ ds.length + ofDigits base ds := by
  induction ds generalizing start with
  | nil => simp [ofDigits]
  | cons d ds ih =>
    have tail := ih (base * 0 + d)
    rw [ofDigits, List.foldl_cons, List.foldl_cons, ih, tail, List.length_cons, Nat.pow_succ]
    simp only [Nat.add_mul, Nat.mul_zero, Nat.zero_add]
    rw [Nat.mul_comm base start, Nat.mul_assoc, Nat.mul_comm base]
    omega

theorem ofDigits_append (base : Nat) (ds es : List Nat) :
    ofDigits base (ds ++ es) = ofDigits base ds * base ^ es.length + ofDigits base es := by
  rw [ofDigits, List.foldl_append, foldl_digits]
  rfl

theorem ofDigits_cons (base d : Nat) (ds : List Nat) :
    ofDigits base (d :: ds) = d * base ^ ds.length + ofDigits base ds := by
  rw [← List.singleton_append, ofDigits_append]
  simp [ofDigits]

@[simp] theorem ofDigits_zeros (base n : Nat) : ofDigits base (List.replicate n 0) = 0 := by
  induction n with
  | zero => rfl
  | succ n ih => simp [List.replicate_succ, ofDigits_cons, ih]

theorem ofDigits_lt {base : Nat} {ds : List Nat} (bound : ∀ d ∈ ds, d < base) :
    ofDigits base ds < base ^ ds.length := by
  induction ds with
  | nil => simp [ofDigits]
  | cons d ds ih =>
    obtain ⟨first, rest⟩ := List.forall_mem_cons.mp bound
    have whole : (d + 1) * base ^ ds.length ≤ base * base ^ ds.length :=
      Nat.mul_le_mul_right _ first
    rw [ofDigits_cons, List.length_cons, Nat.pow_succ, Nat.mul_comm (base ^ _)]
    rw [Nat.add_mul] at whole
    have := ih rest
    omega

theorem ofDigits_toDigits (n : Nat) : ofDigits 10 ((Nat.toDigits 10 n).map digitValue) = n := by
  rw [ofDigits, List.foldl_map]
  exact Nat.ofDigitChars_ten_toDigits

theorem isDigit_of_mem_toDigits {n : Nat} {c : Char} (member : c ∈ Nat.toDigits 10 n) : c.isDigit :=
  Nat.isDigit_of_mem_toDigits (by decide) (by decide) member

theorem digitValue_ne_zero {c : Char} (digit : c.isDigit) (apart : c ≠ '0') :
    digitValue c ≠ 0 := by
  simp only [Char.isDigit, Bool.and_eq_true, decide_eq_true_eq] at digit
  have bound : 48 ≤ c.toNat := digit.1
  have other : c.toNat ≠ 48 := fun same => apart (Char.toNat_inj.mp same)
  simp only [digitValue]
  omega

theorem head_toDigits {n : Nat} (positive : 0 < n) :
    ∃ c cs, Nat.toDigits 10 n = c :: cs ∧ c ≠ '0' := by
  induction n using Nat.strongRecOn with
  | ind n ih =>
    by_cases small : n < 10
    · refine ⟨n.digitChar, [], Nat.toDigits_of_lt_base small, ?_⟩
      simpa using Nat.ne_of_gt positive
    · obtain ⟨c, cs, front, apart⟩ := ih (n / 10) (by omega) (by omega)
      refine ⟨c, cs ++ [(n % 10).digitChar], ?_, apart⟩
      rw [Nat.toDigits_of_base_le (by decide) (by omega), front]
      rfl

theorem pow_le_of_positive {n : Nat} (positive : 0 < n) :
    10 ^ ((Nat.toDigits 10 n).length - 1) ≤ n := by
  by_cases single : (Nat.toDigits 10 n).length - 1 = 0
  · rw [single]
    exact positive
  · have long := mt (Nat.length_toDigits_le_iff (n := n) (k := (Nat.toDigits 10 n).length - 1)
      (by decide : 1 < 10) (by omega)).mpr (by omega)
    omega

theorem lt_pow_length (n : Nat) : n < 10 ^ (Nat.toDigits 10 n).length :=
  (Nat.length_toDigits_le_iff (by decide) Nat.length_toDigits_pos).mp (Nat.le_refl _)

theorem lt_length_toDigits_iff {limit : Nat} (positive : 0 < limit) (n : Nat) :
    limit < (Nat.toDigits 10 n).length ↔ Nat.pow 10 limit ≤ n := by
  rw [← Nat.not_le, Nat.length_toDigits_le_iff (by decide) positive]
  exact Nat.not_lt

end RowStore.Text
