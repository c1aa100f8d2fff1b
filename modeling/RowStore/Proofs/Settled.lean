import RowStore.Proofs.Fields
import RowStore.Proofs.Storable
import RowStore.Text.Utf16

/-! Texts that stay what they are when their units are read back. A high half right before a low one
comes back as one character, so exactly the texts without such a pair are kept. Texts of characters
alone have none. -/
namespace RowStore

namespace Text

/-- Whether no high half stands right before a low one. -/
def apart : List Point → Bool
  | p :: q :: rest => !(isHigh p.toNat && isLow q.toNat) && apart (q :: rest)
  | _ => true

def settled (s : Text) : Bool := apart s.points

/-- Whether all points of a text are characters. -/
def ofCharacters (ps : List Point) : Prop := ∀ p ∈ ps, p.char?.isSome

theorem ofCharacters_ofChars (cs : List Char) : ofCharacters (ofChars cs).points := by
  simp [ofCharacters, ofChars, Point.char?]

theorem apart_cons {p : Point} {ps : List Point} :
    apart (p :: ps) ↔ (∀ q ∈ ps.head?, isHigh p.toNat → ¬isLow q.toNat) ∧ apart ps := by
  cases ps with
  | nil => simp [apart]
  | cons q rest => cases high : isHigh p.toNat <;> simp [apart, high]

theorem apart_char_cons (c : Char) (ps : List Point) : apart (.char c :: ps) = apart ps := by
  have high : isHigh (Point.char c).toNat = false := isHigh_toNat c
  rw [Bool.eq_iff_iff, apart_cons]
  simp [high]

theorem isLow_toNat (c : Char) : isLow c.toNat = false := by
  have := toNat_apart c
  simp only [isLow, Bool.and_eq_false_iff, decide_eq_false_iff_not]
  omega

theorem apart_of_characters {ps : List Point} (plain : ofCharacters ps) : apart ps := by
  induction ps with
  | nil => rfl
  | cons p rest ih =>
    obtain ⟨first, later⟩ := List.forall_mem_cons.mp plain
    cases p with
    | char c => rw [apart_char_cons]; exact ih later
    | half h => simp [Point.char?] at first

theorem isHalf_ofNat (n : Nat) :
    isHigh (Point.ofNat n).toNat = isHigh n ∧ isLow (Point.ofNat n).toNat = isLow n := by
  by_cases half : 0xD800 ≤ n ∧ n < 0xE000
  · have same : (Point.ofNat n).toNat = n := by simp [Point.ofNat, half, Point.toNat]
    rw [same]
    exact ⟨rfl, rfl⟩
  · have char : Point.ofNat n = .char (Char.ofNat n) := by simp [Point.ofNat, half]
    have outside : isHigh n = false ∧ isLow n = false := by
      simp only [isHigh, isLow, Bool.and_eq_false_iff, decide_eq_false_iff_not]
      omega
    rw [char, outside.1, outside.2]
    exact ⟨isHigh_toNat _, isLow_toNat _⟩

theorem apart_ofUnits (ns : List Nat) : apart (ofUnits ns) := by
  fun_induction ofUnits ns with
  | case1 => rfl
  | case2 h l ns pair ih => rw [apart_char_cons]; exact ih
  | case3 h l ns lone ih =>
    apply apart_cons.mpr
    refine ⟨?_, ih⟩
    intro q first high low
    rw [(isHalf_ofNat h).1] at high
    have next : q.toNat = (Point.ofNat l).toNat := by
      cases ns with
      | nil => simp only [ofUnits, List.head?_cons, Option.mem_some_iff] at first; rw [first]
      | cons m ns =>
        simp only [ofUnits] at first
        split at first
        · obtain rfl := Option.some.inj first
          exact absurd low (by simpa [Point.toNat] using isLow_toNat _)
        · rw [Option.some.inj first]
    rw [next, (isHalf_ofNat l).2] at low
    exact lone (by simp [high, low])
  | case4 n => rfl

theorem ofUnits_cons_of_apart {n : Nat} {ns : List Nat}
    (lone : ∀ l ∈ ns.head?, isHigh n → ¬isLow l) :
    ofUnits (n :: ns) = Point.ofNat n :: ofUnits ns := by
  cases ns with
  | nil => rfl
  | cons l ns =>
    have single : (isHigh n && isLow l) = false := by
      have := lone l rfl
      cases high : isHigh n
      · rfl
      · simpa using this high
    simp [ofUnits, single]

theorem isLow_of_head_units {p : Point} {ns : List Nat} {l : Nat}
    (first : l ∈ (units p ++ ns).head?) (low : isLow l) : isLow p.toNat := by
  unfold units at first
  split at first
  · obtain rfl := Option.some.inj first
    exact low
  · next plane =>
    obtain rfl := Option.some.inj first
    simp only [isLow, Bool.and_eq_true, decide_eq_true_eq] at low
    cases p with
    | char c => have := toNat_apart c; simp only [Point.toNat] at *; omega
    | half h => simp only [Point.toNat] at plane; omega

theorem units_half (h : Fin 0x800) : units (.half h) = [(Point.half h).toNat] := by
  have plane : (Point.half h).toNat < 0x10000 := by simp only [Point.toNat]; omega
  rw [units, if_pos plane]

/-- The units of a settled text are read back as the same text. -/
theorem ofUnits_flatMap_of_apart {ps : List Point} (kept : apart ps) :
    ofUnits (ps.flatMap units) = ps := by
  induction ps with
  | nil => rfl
  | cons p rest ih =>
    obtain ⟨lone, later⟩ := apart_cons.mp kept
    rw [List.flatMap_cons]
    cases p with
    | char c => rw [ofUnits_units_append, ih later]
    | half h =>
      rw [units_half, List.singleton_append, ofUnits_cons_of_apart, ih later, Point.ofNat_toNat]
      intro l first high low
      cases rest with
      | nil => simp at first
      | cons q rest => exact lone q rfl high (isLow_of_head_units first low)

end Text

namespace Value

mutual

/-- Whether all texts inside a value, names of fields included, are settled. -/
def settled : Value → Bool
  | .text s => s.settled
  | .list items => settledItems items
  | .record fields => settledFields fields
  | _ => true

def settledItems : List Value → Bool
  | [] => true
  | x :: xs => settled x && settledItems xs

def settledFields : List (Text × Value) → Bool
  | [] => true
  | (name, x) :: rest => name.settled && settled x && settledFields rest

end

theorem settledItems_iff (items : List Value) : settledItems items ↔ ∀ x ∈ items, x.settled := by
  induction items with
  | nil => simp [settledItems]
  | cons x xs ih => simp [settledItems, ih]

theorem settledFields_iff (fields : List (Text × Value)) :
    settledFields fields ↔ ∀ pair ∈ fields, pair.1.settled ∧ pair.2.settled := by
  induction fields with
  | nil => simp [settledFields]
  | cons pair rest ih =>
    obtain ⟨name, x⟩ := pair
    simp [settledFields, ih]

@[simp] theorem settled_list (items : List Value) :
    (Value.list items).settled ↔ ∀ x ∈ items, x.settled := by
  rw [settled, settledItems_iff]

@[simp] theorem settled_record (fields : Fields Value) :
    (Value.record fields).settled ↔ ∀ pair ∈ fields, pair.1.settled ∧ pair.2.settled := by
  rw [settled, settledFields_iff]

end Value
end RowStore
