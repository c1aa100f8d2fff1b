import Mathlib.Computability.Language
import RowStore.Proofs.Numerals

/-! The forms of numbers as languages of characters, and reading by form: what is read as a number
has the form of that number, and nothing that has a form is left unread. -/
namespace RowStore.Query

open Numeral hiding decimal radix
open Computability

namespace Pattern

/-- One character of a kind. -/
def one (kind : Char → Bool) : Language Char := {cs | ∃ c, kind c ∧ cs = [c]}

/-- One or more characters of a kind. -/
def run (kind : Char → Bool) : Language Char := one kind * (one kind)∗

def optional (l : Language Char) : Language Char := 1 + l

def sign : Language Char := optional (one ['+', '-'].contains)

def integer : Language Char := sign * run Text.isDigit

def power : Language Char := one ['e', 'E'].contains * integer

/-- Digits with at most one point. Digits stand on one side of it at least. -/
def mantissa : Language Char :=
  run Text.isDigit * (optional (one ['.'].contains) * (one Text.isDigit)∗) +
    one ['.'].contains * run Text.isDigit

def decimal : Language Char := sign * (mantissa * optional power)

def infinity : Language Char := sign * {"Infinity".toList}

/-- A zero, a letter that announces a base, and digits in the base. -/
def based (letters : List Char) (base : Nat) : Language Char :=
  one ['0'].contains * (one letters.contains * run fun c => (Text.hexDigit? c).any (· < base))

def radix : Language Char := based ['x', 'X'] 16 + based ['o', 'O'] 8 + based ['b', 'B'] 2

/-- The form that a number is written in. -/
def form : Numeral → Language Char
  | .blank => 1
  | .whole .. => integer
  | .decimal _ => decimal
  | .infinite _ => infinity
  | .radix .. => radix

variable {kind : Char → Bool} {cs : List Char}

theorem mem_one : cs ∈ one kind ↔ ∃ c, kind c ∧ cs = [c] := Iff.rfl

theorem mem_kstar_one : cs ∈ (one kind)∗ ↔ ∀ c ∈ cs, kind c := by
  rw [Language.mem_kstar]
  constructor
  · rintro ⟨parts, rfl, all⟩ c member
    obtain ⟨part, here, inside⟩ := List.mem_flatten.mp member
    obtain ⟨d, known, rfl⟩ := all part here
    exact List.mem_singleton.mp inside ▸ known
  · intro all
    refine ⟨cs.map fun c => [c], by rw [← List.flatMap_def, List.flatMap_singleton'],
      fun part here => ?_⟩
    obtain ⟨c, member, rfl⟩ := List.mem_map.mp here
    exact ⟨c, all c member, rfl⟩

theorem mem_run : cs ∈ run kind ↔ cs ≠ [] ∧ ∀ c ∈ cs, kind c := by
  simp only [run, Language.mem_mul, mem_one, mem_kstar_one]
  constructor
  · rintro ⟨_, ⟨c, known, rfl⟩, rest, all, rfl⟩
    exact ⟨by simp, List.forall_mem_cons.mpr ⟨known, all⟩⟩
  · rintro ⟨present, all⟩
    obtain ⟨c, rest, rfl⟩ := List.exists_cons_of_ne_nil present
    obtain ⟨known, all⟩ := List.forall_mem_cons.mp all
    exact ⟨[c], ⟨c, known, rfl⟩, rest, all, rfl⟩

theorem mem_optional {l : Language Char} : cs ∈ optional l ↔ cs = [] ∨ cs ∈ l := by
  rw [optional, Language.mem_add, Language.mem_one]

theorem mem_sign : cs ∈ sign ↔ ∃ negative, (negative, cs) ∈ signs := by
  simp only [sign, mem_optional, mem_one, signs, List.contains_iff_mem, List.mem_cons,
    List.not_mem_nil, or_false, Prod.mk.injEq]
  constructor
  · rintro (rfl | ⟨c, rfl | rfl, rfl⟩)
    · exact ⟨false, by simp⟩
    · exact ⟨false, by simp⟩
    · exact ⟨true, by simp⟩
  · rintro ⟨negative, ⟨-, rfl⟩ | ⟨-, rfl⟩ | ⟨-, rfl⟩⟩
    · exact .inl rfl
    · exact .inr ⟨'+', by simp⟩
    · exact .inr ⟨'-', by simp⟩

theorem mem_sign_mul {l : Language Char} :
    cs ∈ sign * l ↔ ∃ negative front rest, (negative, front) ∈ signs ∧ rest ∈ l ∧
      cs = front ++ rest := by
  simp only [Language.mem_mul, mem_sign]
  constructor
  · rintro ⟨front, ⟨negative, known⟩, rest, inside, rfl⟩
    exact ⟨negative, front, rest, known, inside, rfl⟩
  · rintro ⟨negative, front, rest, known, inside, rfl⟩
    exact ⟨front, ⟨negative, known⟩, rest, inside, rfl⟩

theorem mem_power : cs ∈ power ↔ ∃ e rest, (e = 'e' ∨ e = 'E') ∧ rest ∈ integer ∧
    cs = e :: rest := by
  simp only [power, Language.mem_mul, mem_one, List.contains_iff_mem, List.mem_cons,
    List.not_mem_nil, or_false]
  constructor
  · rintro ⟨_, ⟨e, letter, rfl⟩, rest, inside, rfl⟩
    exact ⟨e, rest, letter, inside, rfl⟩
  · rintro ⟨e, rest, letter, inside, rfl⟩
    exact ⟨[e], ⟨e, letter, rfl⟩, rest, inside, rfl⟩

theorem mem_mantissa : cs ∈ mantissa ↔ cs ∈ run Text.isDigit ∨
    ∃ ds fs, (∀ c ∈ ds, Text.isDigit c) ∧ (∀ c ∈ fs, Text.isDigit c) ∧ (ds ≠ [] ∨ fs ≠ []) ∧
      cs = ds ++ '.' :: fs := by
  simp only [mantissa, Language.mem_add, Language.mem_mul, mem_optional, mem_one, mem_kstar_one,
    mem_run, List.contains_iff_mem, List.mem_singleton]
  constructor
  · rintro (⟨ds, ⟨present, digits⟩, _, ⟨_, rfl | ⟨_, rfl, rfl⟩, fs, behind, rfl⟩, rfl⟩ |
      ⟨_, ⟨_, rfl, rfl⟩, fs, ⟨present, digits⟩, rfl⟩)
    · refine .inl ⟨by simp [present], fun c member => ?_⟩
      exact (List.mem_append.mp member).elim (digits c) (behind c)
    · exact .inr ⟨ds, fs, digits, behind, .inl present, rfl⟩
    · exact .inr ⟨[], fs, by simp, digits, .inr present, rfl⟩
  · rintro (⟨present, digits⟩ | ⟨ds, fs, digits, behind, present, rfl⟩)
    · exact .inl ⟨cs, ⟨present, digits⟩, [], ⟨[], .inl rfl, [], by simp, rfl⟩, by simp⟩
    · by_cases empty : ds = []
      · subst empty
        exact .inr ⟨['.'], ⟨'.', rfl, rfl⟩, fs, ⟨by simpa using present, behind⟩, rfl⟩
      · exact .inl ⟨ds, ⟨empty, digits⟩, '.' :: fs,
          ⟨['.'], .inr ⟨'.', rfl, rfl⟩, fs, behind, rfl⟩, rfl⟩

theorem mem_infinity : cs ∈ infinity ↔ ∃ negative front, (negative, front) ∈ signs ∧
    cs = front ++ "Infinity".toList := by
  simp only [infinity, mem_sign_mul]
  constructor
  · rintro ⟨negative, front, rest, known, word, rfl⟩
    exact ⟨negative, front, known, by rw [Set.mem_singleton_iff.mp word]⟩
  · rintro ⟨negative, front, known, rfl⟩
    exact ⟨negative, front, _, known, Set.mem_singleton _, rfl⟩

theorem mem_radix : cs ∈ radix ↔ ∃ letter base ds, base? letter = some base ∧ ds ≠ [] ∧
    (∀ c ∈ ds, (Text.hexDigit? c).any (· < base)) ∧ cs = '0' :: letter :: ds := by
  have known (letters : List Char) (base : Nat) : cs ∈ based letters base ↔ ∃ letter ds,
      letter ∈ letters ∧ ds ≠ [] ∧ (∀ c ∈ ds, (Text.hexDigit? c).any (· < base)) ∧
        cs = '0' :: letter :: ds := by
    simp only [based, Language.mem_mul, mem_one, mem_run, List.contains_iff_mem,
      List.mem_singleton]
    constructor
    · rintro ⟨_, ⟨_, rfl, rfl⟩, _, ⟨_, ⟨letter, listed, rfl⟩, ds, ⟨present, digits⟩, rfl⟩, rfl⟩
      exact ⟨letter, ds, listed, present, digits, rfl⟩
    · rintro ⟨letter, ds, listed, present, digits, rfl⟩
      exact ⟨['0'], ⟨'0', rfl, rfl⟩, letter :: ds,
        ⟨[letter], ⟨letter, listed, rfl⟩, ds, ⟨present, digits⟩, rfl⟩, rfl⟩
  simp only [radix, Language.mem_add, known, base?_eq_some_iff, bases, List.mem_cons,
    List.not_mem_nil, or_false, Prod.mk.injEq]
  constructor
  · rintro ((⟨letter, ds, listed, rest⟩ | ⟨letter, ds, listed, rest⟩) | ⟨letter, ds, listed, rest⟩)
    · exact ⟨letter, 16, ds, by simpa using listed, rest⟩
    · exact ⟨letter, 8, ds, by simpa using listed, rest⟩
    · exact ⟨letter, 2, ds, by simpa using listed, rest⟩
  · rintro ⟨letter, base, ds, ⟨here, rfl⟩ | ⟨here, rfl⟩ | ⟨here, rfl⟩ | ⟨here, rfl⟩ | ⟨here, rfl⟩ |
      ⟨here, rfl⟩, rest⟩
    · exact .inl (.inl ⟨letter, ds, .inl here, rest⟩)
    · exact .inl (.inl ⟨letter, ds, .inr here, rest⟩)
    · exact .inl (.inr ⟨letter, ds, .inl here, rest⟩)
    · exact .inl (.inr ⟨letter, ds, .inr here, rest⟩)
    · exact .inr ⟨letter, ds, .inl here, rest⟩
    · exact .inr ⟨letter, ds, .inr here, rest⟩

end Pattern

open Pattern

/-! What is read has a form. -/

theorem eq_nil_of_power? {cs : List Char} (read : power? cs = some none) : cs = [] := by
  cases cs with
  | nil => rfl
  | cons letter cs =>
    simp only [power?] at read
    split at read
    · split at read <;> simp at read
    · contradiction

theorem mem_power_of_power? {cs : List Char} {e : Int} (read : power? cs = some (some e)) :
    cs ∈ power := by
  cases cs with
  | nil => simp [power?] at read
  | cons letter cs =>
    obtain ⟨front, known, whole⟩ := exists_sign cs
    obtain ⟨ds, rest, parts, digits, ends⟩ := Text.exists_digits (signed cs).2
    simp only [power?, parts, Text.digits_append digits ends] at read
    split at read
    · next announced =>
      split at read
      · contradiction
      · next present same =>
        obtain ⟨rfl, rfl⟩ := Prod.mk.inj same
        refine mem_power.mpr ⟨letter, cs, announced, mem_sign_mul.mpr ⟨_, front, ds, known, ?_, ?_⟩,
          rfl⟩
        · refine mem_run.mpr ⟨?_, digits⟩
          rintro rfl
          exact present rfl
        · rw [whole, parts, List.append_nil]
      · contradiction
    · contradiction

theorem mem_optional_power {cs : List Char} {e : Option Int} (read : power? cs = some e) :
    cs ∈ optional power := by
  cases e with
  | none => exact mem_optional.mpr (.inl (eq_nil_of_power? read))
  | some e => exact mem_optional.mpr (.inr (mem_power_of_power? read))

theorem form_of_unsigned? {negative : Bool} {front cs : List Char} {n : Numeral}
    (known : (negative, front) ∈ signs) (read : unsigned? negative cs = some n) :
    front ++ cs ∈ form n := by
  obtain ⟨ds, rest, rfl, digits, ends⟩ := Text.exists_digits cs
  rw [unsigned?, Text.digits_append digits ends] at read
  split at read
  -- a point behind the digits, which may be missing if some stand behind it
  · next values rest same =>
    obtain ⟨rfl, rfl⟩ := Prod.mk.inj same
    obtain ⟨fs, tail, rfl, behind, stops⟩ := Text.exists_digits rest
    rw [Text.digits_append behind stops] at read
    dsimp only at read
    split at read
    · contradiction
    · next present =>
      obtain ⟨e, power, rfl⟩ := Option.map_eq_some_iff.mp read
      refine mem_sign_mul.mpr ⟨negative, front, _, known, Language.mem_mul.mpr
        ⟨ds ++ '.' :: fs, ?_, tail, mem_optional_power power, rfl⟩, by simp⟩
      refine mem_mantissa.mpr (.inr ⟨ds, fs, digits, behind, ?_, rfl⟩)
      rcases ds with - | ⟨d, ds⟩
      · refine .inr ?_
        rintro rfl
        exact present rfl
      · exact .inl (by simp)
  -- no digits and no point
  · next rest same =>
    obtain ⟨empty, rfl⟩ := Prod.mk.inj same
    obtain rfl := Text.eq_nil_of_digitValues digits empty
    split at read
    · next word =>
      obtain rfl := Option.some.inj read
      exact mem_infinity.mpr ⟨negative, front, known, by rw [word, List.nil_append]⟩
    · cases read
  -- digits alone, or with a power of ten
  · next values rest _ present same =>
    obtain ⟨rfl, rfl⟩ := Prod.mk.inj same
    have run : ds ∈ run Text.isDigit := by
      refine mem_run.mpr ⟨?_, digits⟩
      rintro rfl
      exact present rfl
    obtain ⟨e, power, rfl⟩ := Option.map_eq_some_iff.mp read
    cases e with
    | none =>
      obtain rfl := eq_nil_of_power? power
      exact mem_sign_mul.mpr ⟨negative, front, ds, known, run, by rw [List.append_nil]⟩
    | some e =>
      exact mem_sign_mul.mpr ⟨negative, front, _, known, Language.mem_mul.mpr
        ⟨ds, mem_mantissa.mpr (.inl run), rest, mem_optional_power power, rfl⟩, rfl⟩

theorem form_of_ofChars? {cs : List Char} {n : Numeral} (read : ofChars? cs = some n) :
    cs ∈ form n := by
  cases cs with
  | nil =>
    obtain rfl := Option.some.inj read
    exact Language.mem_one _ |>.mpr rfl
  | cons c cs =>
    simp only [ofChars?, Option.or_eq_some_iff] at read
    rcases read with based | ⟨-, unsigned⟩
    · obtain ⟨letter, base, ds, whole, announced, present, digits⟩ := digits_of_radix? based
      have same := radix?_of_digits announced present digits
      rw [← whole, based] at same
      obtain rfl := Option.some.inj same
      exact mem_radix.mpr ⟨letter, base, ds, announced, present, digits, whole⟩
    · obtain ⟨front, known, whole⟩ := exists_sign (c :: cs)
      rw [whole]
      exact form_of_unsigned? known unsigned

/-! What has a form is read. -/

theorem exists_power? {cs : List Char} (inside : cs ∈ optional power) :
    ∃ e, power? cs = some e := by
  rcases mem_optional.mp inside with rfl | inside
  · exact ⟨none, rfl⟩
  · obtain ⟨letter, rest, announced, integer, rfl⟩ := mem_power.mp inside
    obtain ⟨negative, front, ds, known, run, rfl⟩ := mem_sign_mul.mp integer
    obtain ⟨present, digits⟩ := mem_run.mp run
    have parts := signed_append known
      fun c first => ne_sign_of_isDigit (digits c (List.mem_of_mem_head? first))
    simp only [power?, announced, if_true, parts, Text.digits_of_all digits]
    cases values : Text.digitValues ds with
    | nil => exact absurd (Text.eq_nil_of_digitValues digits values) present
    | cons d more => exact ⟨_, rfl⟩

theorem head_of_optional_power {cs : List Char} (inside : cs ∈ optional power) :
    ∀ c ∈ cs.head?, c = 'e' ∨ c = 'E' := by
  rcases mem_optional.mp inside with rfl | inside
  · simp
  · obtain ⟨letter, rest, announced, -, rfl⟩ := mem_power.mp inside
    simpa using announced

theorem head_of_mantissa {cs : List Char} (inside : cs ∈ mantissa) :
    ∃ c rest, cs = c :: rest ∧ (Text.isDigit c ∨ c = '.') := by
  rcases mem_mantissa.mp inside with run | ⟨ds, fs, digits, -, -, rfl⟩
  · obtain ⟨present, digits⟩ := mem_run.mp run
    obtain ⟨c, rest, rfl⟩ := List.exists_cons_of_ne_nil present
    exact ⟨c, rest, rfl, .inl (digits c List.mem_cons_self)⟩
  · cases ds with
    | nil => exact ⟨'.', fs, rfl, .inr rfl⟩
    | cons d ds => exact ⟨d, _, rfl, .inl (digits d List.mem_cons_self)⟩

theorem exists_unsigned? {front tail : List Char} (inside : front ∈ mantissa)
    (behind : tail ∈ optional power) (negative : Bool) :
    ∃ n, unsigned? negative (front ++ tail) = some n := by
  obtain ⟨e, power⟩ := exists_power? behind
  have letters := head_of_optional_power behind
  have ends : ∀ c ∈ tail.head?, ¬Text.isDigit c := by
    intro c first
    rcases letters c first with rfl | rfl <;> decide
  rcases mem_mantissa.mp inside with run | ⟨ds, fs, digits, places, present, rfl⟩
  · obtain ⟨present, digits⟩ := mem_run.mp run
    rw [unsigned?, Text.digits_append digits ends]
    split
    · next same =>
      obtain ⟨-, rfl⟩ := Prod.mk.inj same
      exact absurd (letters '.' rfl) (by decide)
    · next same =>
      obtain ⟨empty, -⟩ := Prod.mk.inj same
      exact absurd (Text.eq_nil_of_digitValues digits empty) present
    · next same =>
      obtain ⟨-, rfl⟩ := Prod.mk.inj same
      rw [power]
      exact ⟨_, rfl⟩
  · have some_digit : ((Text.digitValues ds).isEmpty && (Text.digitValues fs).isEmpty) = false := by
      simp only [Bool.and_eq_false_imp, List.isEmpty_iff, List.isEmpty_eq_false_iff]
      intro front tail
      exact present.elim (· (Text.eq_nil_of_digitValues digits front))
        (· (Text.eq_nil_of_digitValues places tail))
    rw [List.append_assoc, List.cons_append, unsigned?,
      Text.digits_append digits (by simpa using by decide)]
    simp [Text.digits_append places ends, power, some_digit]

theorem exists_ofChars? {cs : List Char} (inside : cs ∈ 1 + decimal + infinity + radix) :
    ∃ n, ofChars? cs = some n := by
  simp only [Language.mem_add, Language.mem_one] at inside
  rcases inside with ((rfl | inside) | inside) | inside
  · exact ⟨.blank, rfl⟩
  · obtain ⟨negative, front, rest, known, unsigned, rfl⟩ := mem_sign_mul.mp inside
    obtain ⟨m, mantissa, tail, power, rfl⟩ := Language.mem_mul.mp unsigned
    obtain ⟨n, read⟩ := exists_unsigned? mantissa power negative
    obtain ⟨c, more, rfl, kind⟩ := head_of_mantissa mantissa
    have plain : c ≠ '-' ∧ c ≠ '+' := by
      rcases kind with digit | rfl
      · exact ne_sign_of_isDigit digit
      · decide
    rw [ofChars?_append known (by simp) (by simpa using plain), read]
    cases radix? (front ++ (c :: more ++ tail)) <;> exact ⟨_, rfl⟩
  · obtain ⟨negative, front, known, rfl⟩ := mem_infinity.mp inside
    have read : unsigned? negative "Infinity".toList = some (.infinite negative) := rfl
    obtain ⟨c, more, whole, plain⟩ : ∃ c more, "Infinity".toList = c :: more ∧ c ≠ '-' ∧ c ≠ '+' :=
      ⟨'I', "nfinity".toList, rfl, by decide⟩
    rw [whole] at read ⊢
    rw [ofChars?_append known (by simp) (by simpa using plain), read]
    cases radix? (front ++ c :: more) <;> exact ⟨_, rfl⟩
  · obtain ⟨letter, base, ds, announced, present, digits, rfl⟩ := mem_radix.mp inside
    exact ⟨_, ofChars?_of_radix announced present digits⟩

theorem ofChars?_of_exact {cs : List Char} (inside : cs ∈ 1 + integer + radix) :
    ofChars? cs = some .blank ∨ (∃ negative ds, ofChars? cs = some (.whole negative ds)) ∨
      ∃ base ds, ofChars? cs = some (.radix base ds) := by
  simp only [Language.mem_add, Language.mem_one] at inside
  rcases inside with (rfl | inside) | inside
  · exact .inl rfl
  · obtain ⟨negative, front, ds, known, run, rfl⟩ := mem_sign_mul.mp inside
    obtain ⟨present, digits⟩ := mem_run.mp run
    exact .inr (.inl ⟨_, _, ofChars?_of_digits known present digits⟩)
  · obtain ⟨letter, base, ds, announced, present, digits, rfl⟩ := mem_radix.mp inside
    exact .inr (.inr ⟨_, _, ofChars?_of_radix announced present digits⟩)

theorem decimal_of_integer {cs : List Char} (inside : cs ∈ integer) : cs ∈ decimal := by
  obtain ⟨negative, front, ds, known, run, rfl⟩ := mem_sign_mul.mp inside
  exact mem_sign_mul.mpr ⟨negative, front, ds, known, Language.mem_mul.mpr
    ⟨ds, mem_mantissa.mpr (.inl run), [], mem_optional.mpr (.inl rfl), by simp⟩, rfl⟩

/-- Exactly what has a form is read as a number. -/
theorem ofChars?_isSome_iff {cs : List Char} :
    (ofChars? cs).isSome ↔ cs ∈ 1 + decimal + infinity + radix := by
  rw [Option.isSome_iff_exists]
  refine ⟨fun ⟨n, read⟩ => ?_, exists_ofChars?⟩
  have shape := form_of_ofChars? read
  simp only [Language.mem_add]
  cases n with
  | blank => exact .inl (.inl (.inl shape))
  | whole => exact .inl (.inl (.inr (decimal_of_integer shape)))
  | decimal => exact .inl (.inl (.inr shape))
  | infinite => exact .inl (.inr shape)
  | radix => exact .inr shape

/-- Blank words, whole numbers and numbers in an announced base have exact values, and no other
numbers do. -/
theorem value_by_form {cs : List Char} {n : Numeral} {v : Value} (read : ofChars? cs = some n)
    (made : n.value = .ok v) : (cs ∈ 1 + integer + radix ∧ ∃ k, v = .int k) ∨
      cs ∉ 1 + integer + radix ∧ ∃ x, v = .float x := by
  have shape := form_of_ofChars? read
  have exactly := @ofChars?_of_exact cs
  rw [read] at exactly
  cases n with
  | blank =>
    obtain rfl := Except.ok.inj made
    exact .inl ⟨.inl (.inl shape), _, rfl⟩
  | whole negative ds =>
    simp only [Numeral.value] at made
    split at made
    · contradiction
    · obtain rfl := Except.ok.inj made
      exact .inl ⟨.inl (.inr shape), _, rfl⟩
  | radix base ds =>
    obtain rfl := Except.ok.inj made
    exact .inl ⟨.inr shape, _, rfl⟩
  | decimal d =>
    obtain rfl := Except.ok.inj made
    exact .inr ⟨fun inside => by simpa using exactly inside, _, rfl⟩
  | infinite negative =>
    obtain rfl := Except.ok.inj made
    exact .inr ⟨fun inside => by simpa using exactly inside, _, rfl⟩

end RowStore.Query
