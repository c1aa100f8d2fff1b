import Mathlib.Data.Nat.Digits.Lemmas
import RowStore.Proofs.Commands
import RowStore.Proofs.Patterns

/-! Integers as words, and what is read from words. The digits of an integer are read as that
integer behind any zeros and between any blanks, unless there are too many of them. A word has an
exact value, a rounded value or none by its form. -/
namespace RowStore

namespace Text

/-- Digits that write a number in a base, with zeros in front or without. -/
def Writes (value : Char → Option Nat) (base n : Nat) (ds : List Char) : Prop :=
  ds ≠ [] ∧ ∃ zeros,
    ds.map value = (List.replicate zeros 0 ++ (Nat.digits base n).reverse).map some

theorem ofDigits_eq (base : Nat) (ds : List Nat) :
    ofDigits base ds = Nat.ofDigits base ds.reverse := by
  induction ds with
  | nil => rfl
  | cons d ds ih =>
    rw [ofDigits_cons, List.reverse_cons, Nat.ofDigits_append, Nat.ofDigits_singleton,
      List.length_reverse, ih]
    ring

variable {value : Char → Option Nat} {base n : Nat} {ds : List Char}

theorem values_of_map {values : List Nat} (written : ds.map value = values.map some) :
    ds.filterMap value = values := by
  simpa [List.filterMap_map] using congrArg (List.filterMap id) written

theorem Writes.read (written : Writes value base n ds) :
    ofDigits base (ds.filterMap value) = n := by
  obtain ⟨-, zeros, same⟩ := written
  rw [values_of_map same, ofDigits_eq, List.reverse_append, List.reverse_reverse,
    List.reverse_replicate, Nat.ofDigits_append_replicate_zero, Nat.ofDigits_digits]

theorem Writes.digit (large : 1 < base) (written : Writes value base n ds) :
    ∀ c ∈ ds, (value c).any (· < base) := by
  obtain ⟨-, zeros, same⟩ := written
  intro c member
  have listed : value c ∈ ds.map value := List.mem_map_of_mem member
  rw [same] at listed
  obtain ⟨d, inside, known⟩ := List.mem_map.mp listed
  rw [← known]
  rcases List.mem_append.mp inside with zero | digit
  · obtain rfl := List.eq_of_mem_replicate zero
    simp only [Option.any_some, decide_eq_true_eq]
    omega
  · simpa using Nat.digits_lt_base large (List.mem_reverse.mp digit)

theorem exists_writes (large : 1 < base) (known : ∀ d < base, value d.digitChar = some d)
    (n : Nat) : ∃ ds, Writes value base n ds := by
  refine ⟨(0 :: (Nat.digits base n).reverse).map Nat.digitChar, by simp, 1, ?_⟩
  rw [List.map_map]
  refine List.map_congr_left fun d inside => known d ?_
  rcases List.mem_cons.mp inside with rfl | digit
  · omega
  · exact Nat.digits_lt_base large (List.mem_reverse.mp digit)

theorem writes_of_digits (large : 1 < base) (present : ds ≠ [])
    (digits : ∀ c ∈ ds, (value c).any (· < base)) :
    Writes value base (ofDigits base (ds.filterMap value)) ds := by
  have known : ∀ c ∈ ds, (value c).isSome :=
    fun c member => Option.isSome_of_any (digits c member)
  have small : ∀ d ∈ (ds.filterMap value).reverse, d < base := by
    intro d member
    obtain ⟨c, inside, found⟩ := List.mem_filterMap.mp (List.mem_reverse.mp member)
    simpa [found] using digits c inside
  have back := (Nat.setInvOn_digitsAppend_ofDigits large _).1 ⟨rfl, small⟩
  have whole := congrArg List.reverse back
  rw [List.reverse_reverse, Nat.digitsAppend, ← ofDigits_eq, List.reverse_append,
    List.reverse_replicate] at whole
  exact ⟨present, _, by rw [whole]; exact map_of_known known⟩

end Text

namespace Query

open Numeral hiding decimal radix
open Pattern Computability

/-- The words of an integer, each with its number of digits: digits of any script behind a sign, or
behind none. -/
inductive Spells : Int → Nat → List Char → Prop
  | bare {n : Nat} {ds : List Char} (written : Text.Writes Text.digit? 10 n ds) :
    Spells n ds.length ds
  | plus {n : Nat} {ds : List Char} (written : Text.Writes Text.digit? 10 n ds) :
    Spells n ds.length ('+' :: ds)
  | minus {n : Nat} {ds : List Char} (written : Text.Writes Text.digit? 10 n ds) :
    Spells (-n) ds.length ('-' :: ds)

/-- The words of a number in a base that a letter behind a zero announces. -/
inductive SpellsBased : Nat → List Char → Prop
  | digits {letter : Char} {base n : Nat} {ds : List Char} (announced : base? letter = some base)
      (written : Text.Writes Text.hexDigit? base n ds) : SpellsBased n ('0' :: letter :: ds)

/-- The words of integers that have too many digits. -/
def beyond : Language Char := {cs | ∃ n count, Spells n count cs ∧ Value.maxDigits < count}

/-- A word has a form if what stands between its blanks does. -/
def HasForm (l : Language Char) (word : Option Text) : Prop :=
  ∃ text cs, word = some text ∧ Text.strip text.points = cs.map .char ∧ cs ∈ l

theorem spells_iff {n : Int} {count : Nat} {cs : List Char} : Spells n count cs ↔
    ∃ negative sign, ∃ m : Nat, ∃ ds, (negative, sign) ∈ signs ∧ Text.Writes Text.digit? 10 m ds ∧
      n = (if negative then -(m : Int) else m) ∧ count = ds.length ∧ cs = sign ++ ds := by
  constructor
  · rintro (written | written | written)
    · exact ⟨false, [], _, _, by simp [signs], written, rfl, rfl, rfl⟩
    · exact ⟨false, ['+'], _, _, by simp [signs], written, rfl, rfl, rfl⟩
    · exact ⟨true, ['-'], _, _, by simp [signs], written, rfl, rfl, rfl⟩
  · rintro ⟨negative, sign, m, ds, known, written, rfl, rfl, rfl⟩
    simp only [signs, List.mem_cons, Prod.mk.injEq, List.not_mem_nil, or_false] at known
    rcases known with ⟨rfl, rfl⟩ | ⟨rfl, rfl⟩ | ⟨rfl, rfl⟩
    · exact .bare written
    · exact .plus written
    · exact .minus written

theorem isDigit_of_writes {n : Nat} {ds : List Char} (written : Text.Writes Text.digit? 10 n ds) :
    ∀ c ∈ ds, Text.isDigit c :=
  fun c member => Option.isSome_of_any (written.digit (by decide) c member)

theorem base?_large {letter : Char} {base : Nat} (announced : base? letter = some base) :
    1 < base ∧ base ≤ 16 :=
  (by decide : ∀ pair ∈ bases, 1 < pair.2 ∧ pair.2 ≤ 16) _ (base?_eq_some_iff.mp announced)

theorem mem_integer_iff {cs : List Char} : cs ∈ integer ↔ ∃ n count, Spells n count cs := by
  simp only [integer, mem_sign_mul, mem_run, spells_iff]
  constructor
  · rintro ⟨negative, sign, ds, known, ⟨present, digits⟩, rfl⟩
    have small : ∀ c ∈ ds, (Text.digit? c).any (· < 10) := by
      intro c member
      obtain ⟨d, value⟩ := Option.isSome_iff_exists.mp (digits c member)
      simpa [value] using Text.digit?_lt value
    exact ⟨_, _, negative, sign, _, ds, known,
      Text.writes_of_digits (by decide) present small, rfl, rfl, rfl⟩
  · rintro ⟨n, count, negative, sign, m, ds, known, written, rfl, rfl, rfl⟩
    exact ⟨negative, sign, ds, known, ⟨written.1, isDigit_of_writes written⟩, rfl⟩

theorem mem_radix_iff {cs : List Char} : cs ∈ radix ↔ ∃ n, SpellsBased n cs := by
  rw [mem_radix]
  constructor
  · rintro ⟨letter, base, ds, announced, present, digits, rfl⟩
    exact ⟨_, .digits announced
      (Text.writes_of_digits (base?_large announced).1 present digits)⟩
  · rintro ⟨n, @⟨letter, base, _, ds, announced, written⟩⟩
    exact ⟨letter, base, ds, announced, written.1, written.digit (base?_large announced).1, rfl⟩

theorem exists_spells (n : Int) : ∃ count cs, Spells n count cs := by
  have basic : ∀ d < 10, Text.digit? d.digitChar = some d := by decide
  obtain ⟨ds, written⟩ := Text.exists_writes (by decide) basic n.natAbs
  rcases n.natAbs_eq with same | same
  · exact ⟨ds.length, ds, by rw [same]; exact .bare written⟩
  · exact ⟨ds.length, '-' :: ds, by rw [same]; exact .minus written⟩

theorem exists_spellsBased {letter : Char} {base : Nat} (announced : base? letter = some base)
    (n : Nat) : ∃ ds, SpellsBased n ('0' :: letter :: ds) := by
  obtain ⟨large, small⟩ := base?_large announced
  have known : ∀ d < 16, Text.hexDigit? d.digitChar = some d := by decide
  obtain ⟨ds, written⟩ := Text.exists_writes large
    (fun d below => known d (Nat.lt_of_lt_of_le below small)) n
  exact ⟨ds, .digits announced written⟩

/-! What is read from the words of an integer. -/
section reading

variable {cs : List Char} {front back : List Point}

theorem Spells.value {n : Int} {count : Nat} (spelt : Spells n count cs) :
    ∃ m, ofChars? cs = some m ∧ m.value =
      if count ≤ Value.maxDigits then .ok (.int n)
      else .error (.crash (.tooManyDigits (some count))) := by
  obtain ⟨negative, sign, m, ds, known, written, rfl, rfl, rfl⟩ := spells_iff.mp spelt
  have digits := isDigit_of_writes written
  have value : Text.ofDigits 10 (Text.digitValues ds) = m := written.read
  refine ⟨_, ofChars?_of_digits known written.1 digits, ?_⟩
  simp only [Numeral.value, Text.length_digitValues digits, value]
  by_cases short : ds.length ≤ Value.maxDigits
  · rw [if_pos short, if_neg (Nat.not_lt.mpr short)]
  · rw [if_neg short, if_pos (Nat.not_le.mp short)]

theorem Spells.not_isBlank {n : Int} {count : Nat} (spelt : Spells n count cs) :
    ∀ c ∈ cs, Text.isBlank c = false := by
  obtain ⟨negative, sign, m, ds, known, written, -, -, rfl⟩ := spells_iff.mp spelt
  refine List.forall_mem_append.mpr ⟨fun c member => ?_, fun c member => ?_⟩
  · rcases eq_of_mem_sign known c member with rfl | rfl <;> rfl
  · exact Text.not_isBlank_of_isDigit (isDigit_of_writes written c member)

theorem toNumber_of_spells {n : Int} {count : Nat} (spelt : Spells n count cs)
    (blank : ∀ p ∈ front ++ back, Text.isBlankPoint p) :
    toNumber (some ⟨front ++ cs.map .char ++ back⟩) =
      if count ≤ Value.maxDigits then .ok (.int n)
      else .error (.crash (.tooManyDigits (some count))) := by
  obtain ⟨m, found, value⟩ := spelt.value
  have read := ofWord?_padded blank spelt.not_isBlank
  rw [found] at read
  rw [toNumber, Option.bind_some, read]
  exact value

theorem toNumber_of_spellsBased {n : Nat} (spelt : SpellsBased n cs)
    (blank : ∀ p ∈ front ++ back, Text.isBlankPoint p) :
    toNumber (some ⟨front ++ cs.map .char ++ back⟩) = .ok (.int n) := by
  obtain @⟨letter, base, _, ds, announced, written⟩ := spelt
  have digits := written.digit (base?_large announced).1
  have plain : ∀ c ∈ '0' :: letter :: ds, Text.isBlank c = false := by
    refine List.forall_mem_cons.mpr ⟨by decide, List.forall_mem_cons.mpr ⟨?_, fun c member => ?_⟩⟩
    · have letters : ∀ pair ∈ bases, Text.isBlank pair.1 = false := by decide
      exact letters (letter, base) (base?_eq_some_iff.mp announced)
    · obtain ⟨d, value, -⟩ := (Option.any_eq_true _ _).mp (digits c member)
      obtain ⟨low, high⟩ := Text.range_of_hexDigit? value
      refine Bool.eq_false_iff.mpr fun blank => ?_
      have range := Text.range_of_isBlank blank
      omega
  have read := ofWord?_padded blank plain
  rw [ofChars?_of_radix announced written.1 digits] at read
  rw [toNumber, Option.bind_some, read]
  simp only [Numeral.value, written.read]

end reading

/-! What is read from words by their form. -/

theorem isNumeric_iff {word : Option Text} :
    isNumeric word ↔ HasForm (1 + decimal + infinity + radix) word := by
  simp only [isNumeric, Option.isSome_iff_exists, Option.bind_eq_some_iff, ofWord?_eq_some_iff]
  constructor
  · rintro ⟨n, text, here, cs, parts, read⟩
    exact ⟨text, cs, here, parts, ofChars?_isSome_iff.mp (Option.isSome_of_eq_some read)⟩
  · rintro ⟨text, cs, here, parts, inside⟩
    obtain ⟨n, read⟩ := exists_ofChars? inside
    exact ⟨n, text, here, cs, parts, read⟩

theorem hasForm_iff {text : Text} {cs : List Char} {l : Language Char}
    (parts : Text.strip text.points = cs.map .char) : HasForm l (some text) ↔ cs ∈ l := by
  constructor
  · rintro ⟨other, ds, here, same, inside⟩
    obtain rfl := Option.some.inj here
    rw [parts] at same
    rwa [(List.map_inj_right fun _ _ => Point.char.inj).mp same]
  · exact fun inside => ⟨text, cs, rfl, parts, inside⟩

/-- Blank words, whole numbers and numbers in an announced base are integers, and all else that is
read is not. -/
theorem toNumber_of_form {word : Option Text} {v : Value} (read : toNumber word = .ok v) :
    (HasForm (1 + integer + radix) word ∧ ∃ n, v = .int n) ∨
      ¬HasForm (1 + integer + radix) word ∧ ∃ x, v = .float x := by
  unfold toNumber at read
  cases known : word.bind ofWord? with
  | none =>
    rw [known] at read
    obtain rfl := Except.ok.inj read
    refine .inr ⟨?_, _, rfl⟩
    rintro ⟨text, cs, rfl, parts, inside⟩
    have unread : ∀ n, ofChars? cs ≠ some n := fun n found => by
      simp [ofWord?_eq_some_iff.mpr ⟨cs, parts, found⟩] at known
    rcases ofChars?_of_exact inside with found | ⟨_, _, found⟩ | ⟨_, _, found⟩ <;>
      exact unread _ found
  | some n =>
    rw [known] at read
    obtain ⟨text, rfl, there⟩ := Option.bind_eq_some_iff.mp known
    obtain ⟨cs, parts, found⟩ := ofWord?_eq_some_iff.mp there
    rw [hasForm_iff parts]
    exact value_by_form found read

/-- Nothing but the word of an integer with too many digits is refused. -/
theorem toNumber_error_iff {word : Option Text} :
    (∃ e, toNumber word = .error e) ↔ HasForm beyond word := by
  constructor
  · rintro ⟨e, failed⟩
    unfold toNumber at failed
    cases known : word.bind ofWord? with
    | none => simp [known] at failed
    | some m =>
      rw [known] at failed
      obtain ⟨text, rfl, there⟩ := Option.bind_eq_some_iff.mp known
      obtain ⟨cs, parts, found⟩ := ofWord?_eq_some_iff.mp there
      refine (hasForm_iff parts).mpr ?_
      cases m with
      | whole negative ds =>
        obtain ⟨n, count, spelt⟩ := mem_integer_iff.mp (form_of_ofChars? found)
        obtain ⟨m, also, value⟩ := spelt.value
        obtain rfl := Option.some.inj (found.symm.trans also)
        refine ⟨n, count, spelt, Nat.lt_of_not_le fun short => ?_⟩
        rw [if_pos short] at value
        cases failed.symm.trans value
      | _ => cases failed
  · rintro ⟨text, cs, rfl, parts, n, count, spelt, long⟩
    obtain ⟨m, found, value⟩ := spelt.value
    rw [if_neg (Nat.not_le.mpr long)] at value
    have read : toNumber (some text) = m.value := by
      rw [toNumber, Option.bind_some, ofWord?_eq_some_iff.mpr ⟨cs, parts, found⟩]
    exact ⟨_, read.trans value⟩

theorem isNan_toNumber_iff {word : Option Text} {v : Value} (read : toNumber word = .ok v) :
    v.isNan ↔ isNumeric word = false := by
  rw [toNumber_eq] at read
  split at read
  · next numeric => simp [not_isNan_of_coerce read, numeric]
  · next plain =>
    obtain rfl := Except.ok.inj read
    simpa [Value.isNan, Binary64.isNan] using plain

theorem coerce_of_not_isNumeric {word : Option Text} (plain : isNumeric word = false) :
    coerce word = .ok (.ofText? word) := by
  cases word with
  | none => rfl
  | some text => exact coerce_of_plain plain

theorem coerce_eq_toNumber_iff {word : Option Text} :
    coerce word = toNumber word ↔ isNumeric word := by
  rw [toNumber_eq]
  cases known : isNumeric word with
  | true => simp
  | false =>
    rw [coerce_of_not_isNumeric known]
    cases word <;> simp [Value.ofText?]

theorem isNumeric_of_coerce_text {word : Option Text} {text : Text}
    (read : coerce word = .ok (.text text)) : isNumeric (some text) = false := by
  cases known : isNumeric word with
  | true =>
    rw [coerce_eq_toNumber_iff.mpr known] at read
    rcases toNumber_of_form read with ⟨-, n, same⟩ | ⟨-, x, same⟩ <;> contradiction
  | false =>
    rw [coerce_of_not_isNumeric known] at read
    cases word with
    | none => cases Except.ok.inj read
    | some word =>
      obtain rfl := Value.text.inj (Except.ok.inj read)
      exact known

/-- The words of integers are read as those integers between any blanks: within the limit of digits
in base ten, and without a limit in an announced base. Every integer has such words, and the words
of their forms are words of integers. A word counts as numeric by its form, and it is refused only
for too many digits. Where it is read it is an integer by its form, a double-precision number
otherwise, and not a number exactly if it does not count as numeric. The same is read where a word
may stand for itself, and it does so exactly if it does not count as numeric. -/
theorem numbers_by_form :
    (∀ n count cs front back, Spells n count cs → (∀ p ∈ front ++ back, Text.isBlankPoint p) →
      toNumber (some ⟨front ++ cs.map .char ++ back⟩) =
        if count ≤ Value.maxDigits then .ok (.int n)
        else .error (.crash (.tooManyDigits (some count)))) ∧
    (∀ (n : Nat) cs front back, SpellsBased n cs → (∀ p ∈ front ++ back, Text.isBlankPoint p) →
      toNumber (some ⟨front ++ cs.map .char ++ back⟩) = .ok (.int n)) ∧
    (∀ n, ∃ count cs, Spells n count cs) ∧
    (∀ letter base (n : Nat), base? letter = some base →
      ∃ ds, SpellsBased n ('0' :: letter :: ds)) ∧
    (∀ cs, (cs ∈ integer ↔ ∃ n count, Spells n count cs) ∧ (cs ∈ radix ↔ ∃ n, SpellsBased n cs)) ∧
    (∀ word, isNumeric word ↔ HasForm (1 + decimal + infinity + radix) word) ∧
    (∀ word, (∃ e, toNumber word = .error e) ↔ HasForm beyond word) ∧
    (∀ word v, toNumber word = .ok v →
      (v.isNan ↔ isNumeric word = false) ∧
      ((∃ n, v = .int n) ↔ HasForm (1 + integer + radix) word) ∧
      ((∃ n, v = .int n) ∨ ∃ x, v = .float x)) ∧
    ∀ word, (coerce word = toNumber word ↔ isNumeric word) ∧
      (isNumeric word = false → coerce word = .ok (.ofText? word)) ∧
      ∀ v, coerce word = .ok v →
        ¬v.isNan ∧ ∀ text, v = .text text → isNumeric (some text) = false := by
  refine ⟨fun _ _ _ _ _ => toNumber_of_spells, fun _ _ _ _ => toNumber_of_spellsBased,
    exists_spells, fun _ _ n announced => exists_spellsBased announced n,
    fun _ => ⟨mem_integer_iff, mem_radix_iff⟩, fun _ => isNumeric_iff, fun _ => toNumber_error_iff,
    fun word v read => ?_,
    fun word => ⟨coerce_eq_toNumber_iff, coerce_of_not_isNumeric, fun v read => ?_⟩⟩
  · refine ⟨isNan_toNumber_iff read, ?_⟩
    rcases toNumber_of_form read with ⟨shape, n, rfl⟩ | ⟨shape, x, rfl⟩
    · exact ⟨⟨fun _ => shape, fun _ => ⟨n, rfl⟩⟩, .inl ⟨n, rfl⟩⟩
    · exact ⟨⟨fun ⟨n, same⟩ => by contradiction, fun other => absurd other shape⟩, .inr ⟨x, rfl⟩⟩
  · refine ⟨not_isNan_of_coerce read, ?_⟩
    rintro text rfl
    exact isNumeric_of_coerce_text read

/-- A seven behind zeros, the last digit within the limit and the first one beyond it, and digits of
two scripts and of base sixteen between blanks. -/
theorem numbers_by_form_of_sevens :
    (∀ zeros, toNumber (some ⟨[] ++ (List.replicate zeros '0' ++ ['7']).map .char ++ []⟩) =
      if zeros + 1 ≤ Value.maxDigits then .ok (.int 7)
      else .error (.crash (.tooManyDigits (some (zeros + 1))))) ∧
    toNumber (some ⟨[.char '\t'] ++ ['-', '0', '٧'].map .char ++ [.char '\u3000']⟩) =
      .ok (.int (-7)) ∧
    toNumber (some ⟨[.char ' '] ++ ['0', 'X', '0', '7'].map .char ++ []⟩) = .ok (.int 7) := by
  obtain ⟨whole, based, -⟩ := numbers_by_form
  have seven : Nat.digits 10 7 = [7] := by simp
  have seven' : Nat.digits 16 7 = [7] := by simp
  refine ⟨fun zeros => ?_, ?_, ?_⟩
  · have written : Text.Writes Text.digit? 10 7 (List.replicate zeros '0' ++ ['7']) := by
      refine ⟨by simp, zeros, ?_⟩
      rw [seven, List.map_append, List.map_replicate, List.map_append, List.map_replicate]
      rfl
    have read := whole 7 _ _ [] [] (.bare written) (by simp)
    rwa [List.length_append, List.length_replicate] at read
  · have written : Text.Writes Text.digit? 10 7 ['0', '٧'] := ⟨by simp, 1, by rw [seven]; rfl⟩
    exact whole (-7) 2 _ _ _ (.minus written) (by decide)
  · have written : Text.Writes Text.hexDigit? 16 7 ['0', '7'] := ⟨by simp, 1, by rw [seven']; rfl⟩
    exact based 7 _ _ _ (.digits rfl written) (by decide)

end Query
end RowStore
