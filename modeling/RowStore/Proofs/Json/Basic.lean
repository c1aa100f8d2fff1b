import RowStore.Json.Writer
import RowStore.Proofs.Digits
import RowStore.Text.Line

/-! Texts of printable basic characters. There is no end of a line in them; every JSON text that is
written is one, whatever characters its values have. -/
namespace RowStore

namespace Text

/-- The basic characters that can be printed. -/
def isBasic (c : Char) : Bool := 0x20 ≤ c.toNat && c.toNat < 0x7F

theorem isBasic_of_isDigit {c : Char} (digit : c.isDigit) : isBasic c := by
  simp only [Char.isDigit, Bool.and_eq_true, decide_eq_true_eq] at digit
  have low : 48 ≤ c.toNat := digit.1
  have high : c.toNat ≤ 57 := digit.2
  simp only [isBasic, Bool.and_eq_true, decide_eq_true_eq]
  omega

theorem unifyLines_of_basic {cs : List Char} (basic : ∀ c ∈ cs, isBasic c) :
    unifyLines cs = cs := by
  induction cs with
  | nil => rfl
  | cons c cs ih =>
    obtain ⟨first, basic⟩ := List.forall_mem_cons.mp basic
    unfold unifyLines
    split
    · contradiction
    · next same =>
      obtain ⟨rfl, -⟩ := List.cons.inj same
      contradiction
    · next same =>
      obtain ⟨rfl, -⟩ := List.cons.inj same
      contradiction
    · next same =>
      obtain ⟨rfl, rfl⟩ := List.cons.inj same
      rw [ih basic]

theorem isBasic_of_mem_hexDigits {width n : Nat} {c : Char} (member : c ∈ hexDigits width n) :
    isBasic c := by
  have digits : ∀ d < 16, isBasic (hexChar d) := by decide
  induction width generalizing n with
  | zero => contradiction
  | succ width ih =>
    rcases List.mem_append.mp member with front | last
    · exact ih front
    · rw [List.mem_singleton.mp last]
      exact digits _ (Nat.mod_lt _ (by decide))

end Text

open Text

namespace Binary64

theorem isBasic_padded {width n : Nat} : ∀ c ∈ padded width n, isBasic c := by
  intro c member
  rcases List.mem_append.mp member with zero | digit
  · rw [List.eq_of_mem_replicate zero]
    rfl
  · exact isBasic_of_isDigit (isDigit_of_mem_toDigits digit)

theorem isBasic_power (style : Style) (e : Int) : ∀ c ∈ power style e, isBasic c := by
  have sign : isBasic (if e < 0 then '-' else '+') := by split <;> rfl
  simpa [power, sign, show isBasic 'e' from rfl] using isBasic_padded

variable {digits : List Char} (basic : ∀ c ∈ digits, isBasic c)
include basic

theorem isBasic_inPlace (point : Int) : ∀ c ∈ inPlace digits point, isBasic c := by
  have zeros (n : Nat) : ∀ c ∈ List.replicate n '0', isBasic c := fun c member =>
    List.eq_of_mem_replicate member ▸ rfl
  have marks : isBasic '0' ∧ isBasic '.' := ⟨rfl, rfl⟩
  unfold inPlace
  split
  · next k =>
    simpa only [List.cons_append, List.forall_mem_cons, List.forall_mem_append, marks, true_and]
      using ⟨zeros _, basic⟩
  · simpa [marks] using basic
  · next k _ =>
    split
    · simpa only [List.forall_mem_append, List.forall_mem_cons, marks, true_and]
        using ⟨⟨basic, zeros _⟩, by simp⟩
    · simp only [List.forall_mem_append, List.forall_mem_cons, marks, true_and]
      exact ⟨fun c member => basic c (List.mem_of_mem_take member),
        fun c member => basic c (List.mem_of_mem_drop member)⟩

theorem isBasic_inPowers (style : Style) (e : Int) : ∀ c ∈ inPowers style digits e, isBasic c := by
  have power := isBasic_power style e
  have dot : isBasic '.' := rfl
  unfold inPowers
  split
  · simp
  · next d => exact List.forall_mem_cons.mpr ⟨basic d (by simp), power⟩
  · next d ds _ =>
    obtain ⟨first, later⟩ := List.forall_mem_cons.mp basic
    simpa only [List.cons_append, List.forall_mem_cons, List.forall_mem_append]
      using ⟨first, dot, later, power⟩

theorem isBasic_layout (style : Style) (exponent : Int) :
    ∀ c ∈ layout style digits exponent, isBasic c := by
  have significant : ∀ c ∈ (digits.reverse.dropWhile (· == '0')).reverse, isBasic c := by
    intro c member
    have kept := (List.dropWhile_suffix _).subset (List.mem_reverse.mp member)
    exact basic c (List.mem_reverse.mp kept)
  unfold layout
  dsimp only
  split
  · exact isBasic_inPlace significant _
  · exact isBasic_inPowers significant style _

omit basic in
theorem isBasic_text (x : Binary64) : ∀ c ∈ x.text "Infinity" "NaN", isBasic c := by
  have sign (negative : Bool) : ∀ c ∈ sign negative, isBasic c := by
    cases negative <;> exact List.all_eq_true.mp rfl
  cases x with
  | finite negative m =>
    have magnitude : ∀ c ∈ magnitudeText m.units, isBasic c := by
      unfold magnitudeText
      split
      · exact List.all_eq_true.mp rfl
      · generalize shortest m.units = found
        obtain ⟨n, exponent⟩ := found
        exact isBasic_layout
          (fun c member => isBasic_of_isDigit (isDigit_of_mem_toDigits member)) standard exponent
    simpa only [text, List.forall_mem_append] using ⟨sign negative, magnitude⟩
  | infinite negative =>
    simpa only [text, List.forall_mem_append] using ⟨sign negative, List.all_eq_true.mp rfl⟩
  | nan o => exact List.all_eq_true.mp (show "NaN".toList.all isBasic = true by decide)

end Binary64

namespace Json

theorem isBasic_escaped (p : Point) : ∀ c ∈ escaped p, isBasic c := by
  have units : ∀ c ∈ (Text.units p).flatMap unitEscape, isBasic c := by
    intro c member
    obtain ⟨n, -, there⟩ := List.mem_flatMap.mp member
    simp only [unitEscape, List.mem_cons] at there
    rcases there with rfl | rfl | digit
    · rfl
    · rfl
    · exact isBasic_of_mem_hexDigits digit
  cases p with
  | half h => exact units
  | char c =>
    unfold escaped
    dsimp only
    repeat' split
    any_goals exact List.all_eq_true.mp rfl
    · next plain => simpa [isBasic] using plain
    · exact units

theorem isBasic_writeText (s : Text) : ∀ c ∈ writeText s, isBasic c := by
  have inner : ∀ c ∈ s.points.flatMap escaped, isBasic c := by
    intro c member
    obtain ⟨p, -, there⟩ := List.mem_flatMap.mp member
    exact isBasic_escaped p c there
  simpa only [writeText, List.cons_append, List.forall_mem_cons, List.forall_mem_append]
    using ⟨rfl, inner, rfl, by simp⟩

theorem isBasic_comma : ∀ c ∈ comma, isBasic c := List.all_eq_true.mp rfl

theorem isBasic_colon : ∀ c ∈ colon, isBasic c := List.all_eq_true.mp rfl

mutual

theorem isBasic_writeValue : ∀ v : Value, ∀ c ∈ writeValue v, isBasic c
  | .null => List.all_eq_true.mp rfl
  | .bool true => List.all_eq_true.mp rfl
  | .bool false => List.all_eq_true.mp rfl
  | .int n => by
    have sign : ∀ c ∈ Binary64.sign (n < 0), isBasic c := by
      cases decide (n < 0) <;> exact List.all_eq_true.mp rfl
    exact List.forall_mem_append.mpr
      ⟨sign, fun c member => isBasic_of_isDigit (isDigit_of_mem_toDigits member)⟩
  | .float x => Binary64.isBasic_text x
  | .text s => isBasic_writeText s
  | .list [] => List.all_eq_true.mp rfl
  | .list (x :: xs) => by
    have first := isBasic_writeValue x
    have later := isBasic_writeItems xs
    simpa only [writeValue, List.cons_append, List.forall_mem_cons, List.forall_mem_append]
      using ⟨rfl, ⟨first, later⟩, rfl, by simp⟩
  | .record [] => List.all_eq_true.mp rfl
  | .record ((name, x) :: rest) => by
    have first := isBasic_writeValue x
    have later := isBasic_writeFields rest
    simpa only [writeValue, List.cons_append, List.forall_mem_cons, List.forall_mem_append]
      using ⟨rfl, ⟨⟨⟨isBasic_writeText name, isBasic_colon⟩, first⟩, later⟩, rfl, by simp⟩

theorem isBasic_writeItems : ∀ items : List Value, ∀ c ∈ writeItems items, isBasic c
  | [] => by simp [writeItems]
  | x :: xs => by
    have first := isBasic_writeValue x
    have later := isBasic_writeItems xs
    simpa only [writeItems, List.forall_mem_append] using ⟨⟨isBasic_comma, first⟩, later⟩

theorem isBasic_writeFields : ∀ fields : List (Text × Value), ∀ c ∈ writeFields fields, isBasic c
  | [] => by simp [writeFields]
  | (name, x) :: rest => by
    have first := isBasic_writeValue x
    have later := isBasic_writeFields rest
    simpa only [writeFields, List.forall_mem_append]
      using ⟨⟨⟨⟨isBasic_comma, isBasic_writeText name⟩, isBasic_colon⟩, first⟩, later⟩

end

/-- What is written is plain, whatever it is. -/
theorem isBasic_write (v : Value) : ∀ c ∈ (write v).toList, isBasic c := by
  rw [write, String.toList_ofList]
  exact isBasic_writeValue v

end Json

end RowStore
