import RowStore.Proofs.Digits
import RowStore.Query.Numeral

/-! Digits in words. Digits of any script, behind a sign or none, are read as a whole number, and
digits behind a zero and a letter as a number in the base that the letter announces. -/
namespace RowStore

namespace Text

/-- The values of digits of any script. -/
def digitValues (ds : List Char) : List Nat := ds.filterMap digit?

theorem digits_append {ds rest : List Char} (digits : ∀ c ∈ ds, isDigit c)
    (ends : ∀ c ∈ rest.head?, ¬isDigit c) : Text.digits (ds ++ rest) = (digitValues ds, rest) := by
  induction ds with
  | nil =>
    cases rest with
    | nil => rfl
    | cons c rest =>
      have other : digit? c = none := by simpa [isDigit] using ends c rfl
      simp [Text.digits, digitValues, other]
  | cons c ds ih =>
    obtain ⟨first, digits⟩ := List.forall_mem_cons.mp digits
    obtain ⟨d, value⟩ := Option.isSome_iff_exists.mp first
    rw [List.cons_append, Text.digits, value, ih digits]
    simp [digitValues, value]

theorem digits_of_all {ds : List Char} (digits : ∀ c ∈ ds, isDigit c) :
    Text.digits ds = (digitValues ds, []) := by
  simpa using @digits_append ds [] digits (by simp)

theorem exists_digits (cs : List Char) : ∃ ds rest, cs = ds ++ rest ∧ (∀ c ∈ ds, isDigit c) ∧
    ∀ c ∈ rest.head?, ¬isDigit c := by
  refine ⟨cs.takeWhile isDigit, cs.dropWhile isDigit, List.takeWhile_append_dropWhile.symm,
    List.all_eq_true.mp List.all_takeWhile, fun c member => ?_⟩
  have stops := List.head?_dropWhile_not isDigit cs
  rw [Option.mem_def.mp member] at stops
  simpa using stops

theorem map_of_known {value : Char → Option Nat} {ds : List Char}
    (known : ∀ c ∈ ds, (value c).isSome) : ds.map value = (ds.filterMap value).map some := by
  induction ds with
  | nil => rfl
  | cons c ds ih =>
    obtain ⟨first, known⟩ := List.forall_mem_cons.mp known
    obtain ⟨d, same⟩ := Option.isSome_iff_exists.mp first
    rw [List.map_cons, ih known, List.filterMap_cons_some same, List.map_cons, same]

theorem length_digitValues {ds : List Char} (digits : ∀ c ∈ ds, isDigit c) :
    (digitValues ds).length = ds.length := by
  simpa [digitValues] using (congrArg List.length (map_of_known digits)).symm

theorem eq_nil_of_digitValues {ds : List Char} (digits : ∀ c ∈ ds, isDigit c)
    (empty : digitValues ds = []) : ds = [] := by
  have count := length_digitValues digits
  rw [empty, List.length_nil] at count
  exact List.length_eq_zero_iff.mp count.symm

theorem range_of_isBlank {c : Char} (blank : isBlank c) : c.toNat < 0x30 ∨ c.toNat = 0x85 ∨
    c.toNat = 0xA0 ∨ c.toNat = 0x1680 ∨ 0x2000 ≤ c.toNat ∧ c.toNat < 0x2060 ∨ c.toNat = 0x3000 := by
  simp only [isBlank, Bool.or_eq_true, Bool.and_eq_true, decide_eq_true_eq, beq_iff_eq] at blank
  omega

theorem not_isBlank_of_isDigit {c : Char} (digit : isDigit c) : isBlank c = false := by
  have apart : ∀ z ∈ zeros, 0x30 ≤ z ∧ (z + 9 < 0x85 ∨ 0xA0 < z) ∧ (z + 9 < 0x1680 ∨ 0x1680 < z) ∧
      (z + 9 < 0x2000 ∨ 0x3000 < z) := by decide
  cases blank : isBlank c with
  | false => rfl
  | true =>
    have range := range_of_isBlank blank
    obtain ⟨d, value⟩ := Option.isSome_iff_exists.mp digit
    unfold digit? at value
    split at value
    · split at value
      · omega
      · contradiction
    · obtain ⟨z, found, -⟩ := Option.map_eq_some_iff.mp value
      have inside := List.find?_some found
      have zero := apart z (List.mem_of_find?_eq_some found)
      simp only [decide_eq_true_eq] at inside
      omega

theorem range_of_hexDigit? {c : Char} {d : Nat} (value : hexDigit? c = some d) :
    0x30 ≤ c.toNat ∧ c.toNat < 0x80 := by
  unfold hexDigit? at value
  split at value
  · next range =>
    obtain ⟨low, high⟩ : 0x30 ≤ c.toNat ∧ c.toNat ≤ 0x39 := range
    omega
  · split at value
    · next range =>
      obtain ⟨low, high⟩ : 0x61 ≤ c.toNat ∧ c.toNat ≤ 0x66 := range
      omega
    · split at value
      · next range =>
        obtain ⟨low, high⟩ : 0x41 ≤ c.toNat ∧ c.toNat ≤ 0x46 := range
        omega
      · contradiction

theorem strip_padded {front ps back : List Point} (before : ∀ p ∈ front, isBlankPoint p)
    (plain : ∀ p ∈ ps, isBlankPoint p = false) (behind : ∀ p ∈ back, isBlankPoint p) :
    strip (front ++ ps ++ back) = ps := by
  have kept (qs blanks : List Point) (plain : ∀ p ∈ qs, isBlankPoint p = false)
      (blank : ∀ p ∈ blanks, isBlankPoint p) :
      (qs ++ blanks).dropWhile isBlankPoint = if qs = [] then [] else qs ++ blanks := by
    cases qs with
    | nil => simpa using @List.dropWhile_append_of_pos _ _ blanks [] blank
    | cons q qs => simp [plain q List.mem_cons_self]
  rw [strip, List.append_assoc, List.dropWhile_append_of_pos before, kept ps back plain behind]
  by_cases empty : ps = []
  · simp [empty]
  · have turned := kept ps.reverse [] (by simpa using plain) (by simp)
    rw [if_neg empty, List.reverse_append, List.dropWhile_append_of_pos (by simpa using behind),
      ← List.append_nil ps.reverse, turned, if_neg (by simpa using empty), List.append_nil,
      List.reverse_reverse]

theorem mapM_char?_eq_some_iff {ps : List Point} {cs : List Char} :
    ps.mapM Point.char? = some cs ↔ ps = cs.map .char := by
  induction ps generalizing cs with
  | nil => cases cs <;> simp
  | cons p ps ih =>
    rw [List.mapM_cons]
    cases p with
    | half h => cases cs <;> simp [Point.char?]
    | char c =>
      simp only [Point.char?, Option.bind_eq_bind, Option.bind_some, Option.pure_def,
        Option.bind_eq_some_iff, Option.some.injEq, ih]
      constructor
      · rintro ⟨rest, rfl, rfl⟩
        rfl
      · intro whole
        cases cs with
        | nil => contradiction
        | cons d cs =>
          obtain ⟨first, rest⟩ := List.cons.inj whole
          exact ⟨cs, rest, by rw [Point.char.inj first]⟩

end Text

namespace Query

open Numeral

/-- The letters that announce a base. -/
def bases : List (Char × Nat) :=
  [('x', 16), ('X', 16), ('o', 8), ('O', 8), ('b', 2), ('B', 2)]

theorem base?_eq_some_iff {letter : Char} {base : Nat} :
    base? letter = some base ↔ (letter, base) ∈ bases := by
  simp only [bases, List.mem_cons, List.not_mem_nil, or_false, Prod.mk.injEq]
  constructor
  · intro announced
    unfold base? at announced
    split at announced
    · obtain rfl := Option.some.inj announced
      simp_all
    · split at announced
      · obtain rfl := Option.some.inj announced
        simp_all
      · split at announced
        · obtain rfl := Option.some.inj announced
          simp_all
        · contradiction
  · rintro (⟨rfl, rfl⟩ | ⟨rfl, rfl⟩ | ⟨rfl, rfl⟩ | ⟨rfl, rfl⟩ | ⟨rfl, rfl⟩ | ⟨rfl, rfl⟩) <;> rfl

theorem base?_of_isDigit {c : Char} (digit : Text.isDigit c) : base? c = none := by
  refine Option.eq_none_iff_forall_ne_some.mpr fun base announced => ?_
  have letters : ∀ pair ∈ bases, ¬Text.isDigit pair.1 := by decide
  exact letters _ (base?_eq_some_iff.mp announced) digit

theorem radix?_of_base? {cs : List Char} (plain : ∀ c ∈ cs, base? c = none) : radix? cs = none := by
  unfold radix?
  split
  · next x c cs =>
    rw [plain x (by simp)]
    rfl
  · rfl

/-- The signs that can stand in front of a number, and whether each is a minus. -/
def signs : List (Bool × List Char) := [(false, []), (false, ['+']), (true, ['-'])]

theorem signed_append {negative : Bool} {sign rest : List Char} (known : (negative, sign) ∈ signs)
    (plain : ∀ c ∈ rest.head?, c ≠ '-' ∧ c ≠ '+') : signed (sign ++ rest) = (negative, rest) := by
  simp only [signs, List.mem_cons, Prod.mk.injEq, List.not_mem_nil, or_false] at known
  rcases known with ⟨rfl, rfl⟩ | ⟨rfl, rfl⟩ | ⟨rfl, rfl⟩
  · rw [List.nil_append]
    unfold signed
    split
    · exact absurd rfl (plain '-' rfl).1
    · exact absurd rfl (plain '+' rfl).2
    · rfl
  · rfl
  · rfl

theorem eq_of_mem_sign {negative : Bool} {sign : List Char} (known : (negative, sign) ∈ signs) :
    ∀ c ∈ sign, c = '+' ∨ c = '-' := by
  simp only [signs, List.mem_cons, Prod.mk.injEq, List.not_mem_nil, or_false] at known
  rcases known with ⟨-, rfl⟩ | ⟨-, rfl⟩ | ⟨-, rfl⟩ <;> simp

theorem base?_of_mem_sign {negative : Bool} {sign : List Char} (known : (negative, sign) ∈ signs) :
    ∀ c ∈ sign, base? c = none := by
  intro c member
  rcases eq_of_mem_sign known c member with rfl | rfl <;> rfl

theorem ofChars?_append {negative : Bool} {sign rest : List Char}
    (known : (negative, sign) ∈ signs) (present : rest ≠ [])
    (plain : ∀ c ∈ rest.head?, c ≠ '-' ∧ c ≠ '+') :
    ofChars? (sign ++ rest) = (radix? (sign ++ rest)).or (unsigned? negative rest) := by
  obtain ⟨c, more, whole⟩ := List.exists_cons_of_ne_nil
    (show sign ++ rest ≠ [] from fun empty => present (List.append_eq_nil_iff.mp empty).2)
  have parts := signed_append known plain
  rw [whole] at parts ⊢
  simp only [ofChars?, parts]

theorem exists_sign (cs : List Char) : ∃ sign, ((signed cs).1, sign) ∈ signs ∧
    cs = sign ++ (signed cs).2 := by
  unfold signed
  split
  · exact ⟨['-'], by simp [signs], rfl⟩
  · exact ⟨['+'], by simp [signs], rfl⟩
  · exact ⟨[], by simp [signs], rfl⟩

theorem unsigned?_of_digits {ds : List Char} (present : ds ≠ [])
    (digits : ∀ c ∈ ds, Text.isDigit c) (negative : Bool) :
    unsigned? negative ds = some (.whole negative (Text.digitValues ds)) := by
  rw [unsigned?, Text.digits_of_all digits]
  cases values : Text.digitValues ds with
  | nil => exact absurd (Text.eq_nil_of_digitValues digits values) present
  | cons d more => rfl

theorem ne_sign_of_isDigit {c : Char} (digit : Text.isDigit c) : c ≠ '-' ∧ c ≠ '+' := by
  constructor <;> rintro rfl <;> exact absurd digit (by decide)

theorem ofChars?_of_digits {negative : Bool} {sign ds : List Char}
    (known : (negative, sign) ∈ signs) (present : ds ≠ []) (digits : ∀ c ∈ ds, Text.isDigit c) :
    ofChars? (sign ++ ds) = some (.whole negative (Text.digitValues ds)) := by
  have noBase : radix? (sign ++ ds) = none := radix?_of_base? fun c member =>
    (List.mem_append.mp member).elim (base?_of_mem_sign known c)
      fun inside => base?_of_isDigit (digits c inside)
  rw [ofChars?_append known present
    fun c first => ne_sign_of_isDigit (digits c (List.mem_of_mem_head? first)), noBase,
    unsigned?_of_digits present digits, Option.none_or]

/-! Digits in a base that a letter announces. -/

theorem baseDigits?_of_digits {base : Nat} {ds : List Char}
    (digits : ∀ c ∈ ds, (Text.hexDigit? c).any (· < base)) :
    baseDigits? base ds = some (ds.filterMap Text.hexDigit?) := by
  induction ds with
  | nil => rfl
  | cons c ds ih =>
    obtain ⟨first, digits⟩ := List.forall_mem_cons.mp digits
    cases value : Text.hexDigit? c with
    | none => simp [value] at first
    | some d =>
      have small : d < base := by simpa [value] using first
      simp [baseDigits?, value, small, ih digits]

theorem digits_of_baseDigits? {base : Nat} {ds : List Char} {values : List Nat}
    (read : baseDigits? base ds = some values) :
    ∀ c ∈ ds, (Text.hexDigit? c).any (· < base) := by
  induction ds generalizing values with
  | nil => simp
  | cons c ds ih =>
    obtain ⟨d, value, read⟩ := Option.bind_eq_some_iff.mp read
    split at read
    · next small =>
      obtain ⟨rest, later, -⟩ := Option.bind_eq_some_iff.mp read
      exact List.forall_mem_cons.mpr ⟨by simp [value, small], ih later⟩
    · contradiction

theorem radix?_of_digits {letter : Char} {base : Nat} {ds : List Char}
    (announced : base? letter = some base) (present : ds ≠ [])
    (digits : ∀ c ∈ ds, (Text.hexDigit? c).any (· < base)) :
    radix? ('0' :: letter :: ds) = some (.radix base (ds.filterMap Text.hexDigit?)) := by
  obtain ⟨c, more, rfl⟩ := List.exists_cons_of_ne_nil present
  simp only [radix?, announced, Option.bind_eq_bind, Option.bind_some, baseDigits?_of_digits digits]
  rfl

theorem digits_of_radix? {cs : List Char} {n : Numeral} (read : radix? cs = some n) :
    ∃ letter base ds, cs = '0' :: letter :: ds ∧ base? letter = some base ∧ ds ≠ [] ∧
      ∀ c ∈ ds, (Text.hexDigit? c).any (· < base) := by
  unfold radix? at read
  split at read
  · next letter c cs =>
    obtain ⟨base, announced, read⟩ := Option.bind_eq_some_iff.mp read
    obtain ⟨values, digits, -⟩ := Option.bind_eq_some_iff.mp read
    exact ⟨letter, base, c :: cs, rfl, announced, by simp, digits_of_baseDigits? digits⟩
  · contradiction

theorem ofChars?_of_radix {letter : Char} {base : Nat} {ds : List Char}
    (announced : base? letter = some base) (present : ds ≠ [])
    (digits : ∀ c ∈ ds, (Text.hexDigit? c).any (· < base)) :
    ofChars? ('0' :: letter :: ds) = some (.radix base (ds.filterMap Text.hexDigit?)) := by
  simp only [ofChars?, radix?_of_digits announced present digits, Option.some_or]

theorem ofWord?_eq_some_iff {word : Text} {n : Numeral} :
    ofWord? word = some n ↔ ∃ cs, Text.strip word.points = cs.map .char ∧ ofChars? cs = some n := by
  simp only [ofWord?, Option.bind_eq_some_iff, Text.mapM_char?_eq_some_iff]

/-- Blanks at the ends of a word are not read. -/
theorem ofWord?_padded {cs : List Char} {front back : List Point}
    (blank : ∀ p ∈ front ++ back, Text.isBlankPoint p)
    (plain : ∀ c ∈ cs, Text.isBlank c = false) :
    ofWord? ⟨front ++ cs.map .char ++ back⟩ = ofChars? cs := by
  obtain ⟨before, behind⟩ := List.forall_mem_append.mp blank
  have none_blank : ∀ p ∈ cs.map .char, Text.isBlankPoint p = false := by
    simpa [Text.isBlankPoint, Point.char?] using plain
  rw [ofWord?, Text.strip_padded before none_blank behind, Text.mapM_char?_eq_some_iff.mpr rfl,
    Option.bind_some]

end Query
end RowStore
