import RowStore.Text.Utf8

/-! Characters as bytes and back. The bytes of a character start with one that announces their
number and no second byte is out of its range, so a character is read from them whatever follows,
and every text is read from its bytes. -/
namespace RowStore.Text

theorem front_one {a : Nat} (first : a < 0x80) (rest : List Nat) :
    front a rest = .ok (Char.ofNat a, 1) := by
  simp [front, announced, first]

theorem front_two {a b : Nat} (first : 0xC2 ≤ a ∧ a < 0xE0) (second : isSecond a b)
    (rest : List Nat) :
    front a (b :: rest) = .ok (Char.ofNat ((a - 0xC0) * 0x40 + (b - 0x80)), 2) := by
  have width : announced a = some 2 := by
    unfold announced
    rw [if_neg (by omega), if_neg (by omega), if_pos (by omega)]
  simp [front, width, second]

theorem front_three {a b c : Nat} (first : 0xE0 ≤ a ∧ a < 0xF0) (second : isSecond a b)
    (third : isTail c) (rest : List Nat) :
    front a (b :: c :: rest) =
      .ok (Char.ofNat ((a - 0xE0) * 0x1000 + (b - 0x80) * 0x40 + (c - 0x80)), 3) := by
  have width : announced a = some 3 := by
    unfold announced
    rw [if_neg (by omega), if_neg (by omega), if_neg (by omega), if_pos (by omega)]
  simp [front, width, second, third]

theorem front_four {a b c d : Nat} (first : 0xF0 ≤ a ∧ a < 0xF5) (second : isSecond a b)
    (third : isTail c) (fourth : isTail d) (rest : List Nat) :
    front a (b :: c :: d :: rest) =
      .ok (Char.ofNat ((a - 0xF0) * 0x40000 + (b - 0x80) * 0x1000 + (c - 0x80) * 0x40 +
        (d - 0x80)), 4) := by
  have width : announced a = some 4 := by
    unfold announced
    rw [if_neg (by omega), if_neg (by omega), if_neg (by omega), if_neg (by omega),
      if_pos (by omega)]
  simp [front, width, second, third, fourth]

theorem isTail_low (n : Nat) : isTail (0x80 + n % 0x40) := by
  simp only [isTail, Bool.and_eq_true, decide_eq_true_eq]
  omega

theorem isSecond_two {a n : Nat} (first : a < 0xE0) : isSecond a (0x80 + n % 0x40) := by
  have tail := isTail_low n
  simp only [isSecond, tail, Bool.true_and]
  rw [if_neg (by omega), if_neg (by omega), if_neg (by omega), if_neg (by omega)]

theorem isSecond_three {n : Nat} (range : 0x800 ≤ n ∧ n < 0x10000)
    (whole : n < 0xD800 ∨ 0xE000 ≤ n) :
    isSecond (0xE0 + n / 0x1000) (0x80 + n / 0x40 % 0x40) := by
  have tail := isTail_low (n / 0x40)
  simp only [isSecond, tail, Bool.true_and]
  split
  · simp only [decide_eq_true_eq]
    omega
  · split
    · simp only [decide_eq_true_eq]
      omega
    · rw [if_neg (by omega), if_neg (by omega)]

theorem isSecond_four {n : Nat} (range : 0x10000 ≤ n ∧ n < 0x110000) :
    isSecond (0xF0 + n / 0x40000) (0x80 + n / 0x1000 % 0x40) := by
  have tail := isTail_low (n / 0x1000)
  simp only [isSecond, tail, Bool.true_and]
  rw [if_neg (by omega), if_neg (by omega)]
  split
  · simp only [decide_eq_true_eq]
    omega
  · split
    · simp only [decide_eq_true_eq]
      omega
    · rfl

/-- A byte has the number that it was made of. The bound is spelled as a numeral. -/
theorem toNat_byte {n : Nat} (small : n < 0x100) : (UInt8.ofNat n).toNat = n :=
  UInt8.toNat_ofNat_of_lt small

/-- The bytes of a character are read as that character, whatever follows. -/
theorem front_encodeChar (c : Char) (rest : List UInt8) : ∃ b bs, encodeChar c = b :: bs ∧
    front b.toNat (((bs ++ rest).take 3).map UInt8.toNat) = .ok (c, bs.length + 1) := by
  have whole : c.toNat < 0xD800 ∨ 0xE000 ≤ c.toNat ∧ c.toNat < 0x110000 := by
    rcases c.valid with low | high
    · exact .inl low
    · exact .inr ⟨Nat.lt_of_succ_le high.1, high.2⟩
  have again : Char.ofNat c.toNat = c := Char.ofNat_toNat c
  unfold encodeChar
  dsimp only
  generalize c.toNat = n at whole again ⊢
  split
  · next small =>
    refine ⟨_, _, rfl, ?_⟩
    rw [toNat_byte (by omega), front_one small, again]
    rfl
  · split
    · refine ⟨_, _, rfl, ?_⟩
      have value : (0xC0 + n / 0x40 - 0xC0) * 0x40 + (0x80 + n % 0x40 - 0x80) = n := by omega
      simp only [List.cons_append, List.nil_append, List.take_succ_cons, List.map_cons]
      rw [toNat_byte (by omega), toNat_byte (by omega),
        front_two (by omega) (isSecond_two (by omega)), value, again]
      rfl
    · split
      · refine ⟨_, _, rfl, ?_⟩
        have value : (0xE0 + n / 0x1000 - 0xE0) * 0x1000 + (0x80 + n / 0x40 % 0x40 - 0x80) * 0x40 +
            (0x80 + n % 0x40 - 0x80) = n := by omega
        simp only [List.cons_append, List.nil_append, List.take_succ_cons, List.map_cons]
        rw [toNat_byte (by omega), toNat_byte (by omega), toNat_byte (by omega),
          front_three (by omega) (isSecond_three (by omega) (by omega)) (isTail_low n), value,
          again]
        rfl
      · refine ⟨_, _, rfl, ?_⟩
        have value : (0xF0 + n / 0x40000 - 0xF0) * 0x40000 +
            (0x80 + n / 0x1000 % 0x40 - 0x80) * 0x1000 + (0x80 + n / 0x40 % 0x40 - 0x80) * 0x40 +
              (0x80 + n % 0x40 - 0x80) = n := by omega
        simp only [List.cons_append, List.nil_append, List.take_succ_cons, List.map_cons]
        rw [toNat_byte (by omega), toNat_byte (by omega), toNat_byte (by omega),
          toNat_byte (by omega), front_four (by omega) (isSecond_four (by omega))
            (isTail_low (n / 0x40)) (isTail_low n), value, again]
        rfl

theorem decodeWith_skip (atFault : Utf8Fault → Except Utf8Fault Char) (position : Nat)
    (bytes rest : List UInt8) : decodeWith atFault position bytes.length (bytes ++ rest) =
      decodeWith atFault (position + bytes.length) 0 rest := by
  induction bytes generalizing position with
  | nil => rfl
  | cons b bytes ih =>
    rw [List.length_cons, List.cons_append, decodeWith, ih, Nat.add_right_comm, Nat.add_assoc]

theorem decodeWith_encode (atFault : Utf8Fault → Except Utf8Fault Char) (position : Nat)
    (cs : List Char) : decodeWith atFault position 0 (cs.flatMap encodeChar) = .ok cs := by
  induction cs generalizing position with
  | nil => rfl
  | cons c cs ih =>
    obtain ⟨b, bytes, encoded, read⟩ := front_encodeChar c (cs.flatMap encodeChar)
    rw [List.flatMap_cons, encoded, List.cons_append, decodeWith, read]
    simp only [Nat.add_sub_cancel, decodeWith_skip, ih]
    rfl

theorem decode_encode (s : String) : decode (encode s) = .ok s := by
  rw [decode, encode, decodeWith_encode, Except.map, String.ofList_toList]

theorem decodeLossy_encode (s : String) : decodeLossy (encode s) = s := by
  rw [decodeLossy, encode, decodeWith_encode]
  exact String.ofList_toList

end RowStore.Text
