import RowStore.Proofs.Clauses
import RowStore.Proofs.Definitions

/-! Commands that insert rows. Behind the first opening parenthesis stands a list of values up to
the next closing parenthesis, whatever comes after it. One comma behind a value is skipped, and any
other word, further commas and parentheses included, is a value. -/
namespace RowStore.Query

/-- Without a closing parenthesis there is no list of values, however many words can be read. -/
theorem valuesAfter_unclosed {words : List Text} (unclosed : (")" : Text) ∉ words)
    (short : ∀ word ∈ words, isOverlong word = false) (comma : Bool) :
    valuesAfter comma words = fail (.missing .closeParen) := by
  induction words generalizing comma with
  | nil => rfl
  | cons word rest ih =>
    obtain ⟨other, unclosed⟩ := List.ne_and_not_mem_of_not_mem_cons unclosed
    obtain ⟨first, short⟩ := List.forall_mem_cons.mp short
    unfold valuesAfter
    split
    · exact ih unclosed short false
    · obtain ⟨v, read, -⟩ := exists_coerce first
      rw [if_neg other.symm, read, ih unclosed short true]
      rfl

section

variable {words : List Text}

theorem parse_of_insert (kind : Text.upper (words.head?.getD "") = "INSERT")
    (short : ∀ word ∈ words, isOverlong word = false) : parse words = insert words := by
  have routed : route words = insert words := by
    rw [route, kind]
    rfl
  have settles := insert_settles words
  rw [parse, routed]
  cases made : insert words with
  | error e => rfl
  | ok command =>
    rw [made] at settles
    have printable : command.printable := by
      refine Eq.trans settles (List.all_eq_true.mpr fun word member => ?_)
      have behind := (List.takeWhile_sublist _).mem member
      cases found : Query.behind "(" words with
      | none => simp [found] at behind
      | some rest =>
        rw [short word (mem_of_behind found word (by simpa [found] using behind))]
        rfl
    simp [bind, Except.bind, pure, Except.pure, printable]

theorem insert_of_unopened (unopened : ("(" : Text) ∉ words) :
    insert words = fail (.missing .openParen) := by
  rw [insert, require, behind_of_not_mem unopened]
  rfl

section opened

variable {front rest : List Text} (cut : words = front ++ ("(" : Text) :: rest)
  (unopened : ("(" : Text) ∉ front)
include cut unopened

theorem insert_of_opened : insert words = (valuesAfter false rest).map (.insert words[2]?) := by
  have opened : behind "(" words = some rest := cut ▸ behind_append unopened rest
  rw [insert, require, opened]
  rfl

theorem insert_of_unclosed (short : ∀ word ∈ words, isOverlong word = false)
    (unclosed : (")" : Text) ∉ rest) : insert words = fail (.missing .closeParen) := by
  have shorter : ∀ word ∈ rest, isOverlong word = false := fun word member =>
    short word (by simp [cut, member])
  rw [insert_of_opened cut unopened, valuesAfter_unclosed unclosed shorter]
  rfl

theorem insert_of_closed (short : ∀ word ∈ words, isOverlong word = false)
    {inside more : List Text} (closed : rest = inside ++ (")" : Text) :: more)
    (first : (")" : Text) ∉ inside) : ∃ values,
      (items inside).map (fun word => coerce (some word)) = values.map .ok ∧
        insert words = .ok (.insert words[2]? values) := by
  have shorter : ∀ word ∈ items inside, isOverlong word = false := by
    intro word member
    have part := (items_sublist inside).mem member
    exact short word (by simp [cut, closed, part])
  obtain ⟨values, coerced, -⟩ := exists_coerceAll shorter
  refine ⟨values, map_eq_of_mapM coerced, ?_⟩
  rw [insert_of_opened cut unopened, closed, valuesAfter_closed first, coerced]
  rfl

theorem insert_eq_missing_iff (short : ∀ word ∈ words, isOverlong word = false) :
    insert words = fail (.missing .closeParen) ↔ (")" : Text) ∉ rest := by
  refine ⟨fun failed member => ?_, insert_of_unclosed cut unopened short⟩
  obtain ⟨inside, more, closed, first⟩ := List.eq_append_cons_of_mem member
  obtain ⟨values, -, made⟩ := insert_of_closed cut unopened short closed first
  rw [made] at failed
  contradiction

theorem insert_ne_missing (short : ∀ word ∈ words, isOverlong word = false) :
    insert words ≠ fail (.missing .openParen) := by
  intro failed
  by_cases member : (")" : Text) ∈ rest
  · obtain ⟨inside, more, closed, first⟩ := List.eq_append_cons_of_mem member
    obtain ⟨values, -, made⟩ := insert_of_closed cut unopened short closed first
    rw [made] at failed
    contradiction
  · rw [insert_of_unclosed cut unopened short member] at failed
    exact absurd (missing_inj failed) (by decide)

end opened

end

/-- A command that inserts needs an opening parenthesis anywhere and a closing one behind the first
of these. Then the items between them are its values in their order, whatever stands behind, and
words with single commas between them are the items. -/
theorem parse_insertion (words : List Text)
    (kind : Text.upper (words.head?.getD "") = "INSERT")
    (short : ∀ word ∈ words, isOverlong word = false) :
    (parse words = fail (.missing .openParen) ↔ ("(" : Text) ∉ words) ∧
    ∀ front rest, words = front ++ ("(" : Text) :: rest → ("(" : Text) ∉ front →
      (parse words = fail (.missing .closeParen) ↔ (")" : Text) ∉ rest) ∧
      (∀ inside more, rest = inside ++ (")" : Text) :: more → (")" : Text) ∉ inside →
        ∃ values, (items inside).map (fun word => coerce (some word)) = values.map .ok ∧
          parse words = .ok (.insert words[2]? values)) ∧
      ∀ (listed more : List Text), (∀ word ∈ listed, word ≠ ")") →
        rest = listed.intersperse ("," : Text) ++ (")" : Text) :: more →
          ∃ values, listed.map (fun word => coerce (some word)) = values.map .ok ∧
            values.length = listed.length ∧ parse words = .ok (.insert words[2]? values) := by
  rw [parse_of_insert kind short]
  refine ⟨⟨fun failed opened => ?_, insert_of_unopened⟩, fun front rest cut unopened =>
    ⟨insert_eq_missing_iff cut unopened short, fun inside more =>
      insert_of_closed cut unopened short, fun listed more apart closed => ?_⟩⟩
  · obtain ⟨front, rest, cut, unopened⟩ := List.eq_append_cons_of_mem opened
    exact insert_ne_missing cut unopened short failed
  · obtain ⟨values, coerced, made⟩ :=
      insert_of_closed cut unopened short closed (not_mem_intersperse apart)
    rw [items_intersperse] at coerced
    exact ⟨values, coerced, by simpa using (congrArg List.length coerced).symm, made⟩

theorem parse_insertion_of_commas :
    parse ["insert", "INTO", "t", "(", ",", ",", "(", "1", ",", ",", "x", ")", "(", ")"] =
      .ok (.insert (some "t") [.text ",", .text "(", .int 1, .text ",", .text "x"]) := by
  obtain ⟨values, coerced, read⟩ := ((parse_insertion
    ["insert", "INTO", "t", "(", ",", ",", "(", "1", ",", ",", "x", ")", "(", ")"] (by decide)
    (by decide)).2 ["insert", "INTO", "t"] [",", ",", "(", "1", ",", ",", "x", ")", "(", ")"] rfl
    (by decide)).2.1 [",", ",", "(", "1", ",", ",", "x"] ["(", ")"] rfl (by decide)
  have same : ([.text ",", .text "(", .int 1, .text ",", .text "x"] : List Value).map .ok =
      values.map (Except.ok : Value → Result Value) := coerced
  rw [read, (List.map_inj_right fun _ _ => Except.ok.inj).mp same]
  rfl

end RowStore.Query
