import RowStore.Proofs.Numerals
import RowStore.Query.Token

/-! Words that a query keeps as they are. Points that are no blanks stay together, what has no quote
keeps its ends, and basic digits beyond the limit are not read as a number. -/
namespace RowStore

theorem Text.words_of_not_blank {ps : List Point} (present : ps ≠ [])
    (plain : ∀ p ∈ ps, isBlankPoint p = false) : words ps = [ps] := by
  have leading : leadingWord ps = (ps, []) := by
    clear present
    induction ps with
    | nil => rfl
    | cons p ps ih =>
      obtain ⟨first, plain⟩ := List.forall_mem_cons.mp plain
      simp [leadingWord, first, ih plain]
  simp [words, leading, present]

theorem Text.mem_words {ps w : List Point} (member : w ∈ words ps) :
    w = (leadingWord ps).1 ∨ w ∈ (leadingWord ps).2 := by
  unfold words at member
  dsimp only at member
  split at member
  · exact .inr member
  · exact List.mem_cons.mp member

namespace Query

theorem unquoted_of_not_mem {ps : List Point} (bare : .char '"' ∉ ps) : unquoted ps = ps := by
  have kept {qs : List Point} (bare : .char '"' ∉ qs) : dropQuote qs = qs := by
    unfold dropQuote
    split
    · simp at bare
    · rfl
  rw [unquoted, kept bare, kept (by simpa using bare), List.reverse_reverse]

theorem mem_of_dropQuote {ps : List Point} {p : Point} (member : p ∈ dropQuote ps) : p ∈ ps := by
  unfold dropQuote at member
  split at member
  · exact List.mem_cons_of_mem _ member
  · exact member

theorem mem_of_unquoted {ps : List Point} {p : Point} (member : p ∈ unquoted ps) : p ∈ ps :=
  mem_of_dropQuote (List.mem_reverse.mp (mem_of_dropQuote (List.mem_reverse.mp member)))

/-! Words of basic digits. -/

theorem range_of_isDigit {c : Char} (digit : c.isDigit) : 48 ≤ c.toNat ∧ c.toNat ≤ 57 := by
  simp only [Char.isDigit, Bool.and_eq_true, decide_eq_true_eq] at digit
  exact digit

theorem isDigit_of_basic {c : Char} (digit : c.isDigit) : Text.isDigit c := by
  obtain ⟨low, high⟩ := range_of_isDigit digit
  have basic : c.toNat < 128 := by omega
  simp [Text.isDigit, Text.digit?, basic, low, high]

theorem ne_of_isDigit {c d : Char} (digit : c.isDigit) (other : ¬d.isDigit) : c ≠ d :=
  fun same => other (same ▸ digit)

theorem toNumber_of_isDigit {cs : List Char} (digits : ∀ c ∈ cs, c.isDigit)
    (long : Value.maxDigits < cs.length) :
    toNumber (some (.ofChars cs)) = .error (.crash (.tooManyDigits (some cs.length))) := by
  have values := fun c member => isDigit_of_basic (digits c member)
  have present : cs ≠ [] := by
    rintro rfl
    exact absurd long (Nat.not_lt_zero _)
  have read := @ofWord?_padded cs [] [] (by simp) fun c member =>
    Text.not_isBlank_of_isDigit (values c member)
  rw [List.nil_append, List.append_nil] at read
  have whole := @ofChars?_of_digits false [] cs (by simp [signs]) present values
  rw [List.nil_append] at whole
  rw [toNumber, Option.bind_some, Text.ofChars, read, whole]
  simp [Numeral.value, Text.length_digitValues values, long]

end Query
end RowStore
