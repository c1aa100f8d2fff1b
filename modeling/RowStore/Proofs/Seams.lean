import RowStore.Proofs.Layout

/-! Seams of a text. Cutting a text at a blank, a parenthesis or a comma and cutting the parts by
themselves come to the same words, so reading the words needs no more of a text than the run of
points between two such places. -/
namespace RowStore.Query

/-- The words of a text. Where nothing but blanks stands there are none. -/
def cut (text : Text) : List Text :=
  (tokenize (some text)).toOption.getD []

/-- What is left of a word when one quote is taken from its start, if one stands there, and then
one from its end, if one is still there. -/
def Bares (word bare : List Point) : Prop :=
  ∃ front back, word = front ++ bare ++ back ∧
    (front = [.char '"'] ∨ front = [] ∧ word.head? ≠ some (.char '"')) ∧
    (back = [.char '"'] ∨ back = [] ∧ bare.getLast? ≠ some (.char '"'))

theorem tokens_mark {s : Point} (mark : isDelimiter s) : tokens [s] = [[s]] := by
  have alone : isMark [s] := mark
  rw [tokens, words_spaced_of_isToken (.inl alone) (by simp), List.map_singleton,
    unquoted_of_isMark alone]

theorem tokens_append_mark (a b : List Point) {s : Point} (mark : isDelimiter s) :
    tokens (a ++ s :: b) = tokens a ++ [s] :: tokens b := by
  have before : (spaced (s :: b)).head?.all Text.isBlankPoint := by
    rw [spaced_mark mark]
    rfl
  have behind : (spaced [s]).getLast?.all Text.isBlankPoint := by
    rw [spaced_mark mark]
    rfl
  rw [tokens_append (.inr before), ← List.singleton_append, tokens_append (.inl behind),
    tokens_mark mark, List.singleton_append]

theorem spaced_without_semicolons (a : List Point) :
    spaced (a.filter (· ≠ .char ';')) = spaced a := by
  induction a with
  | nil => rfl
  | cons p ps ih =>
    by_cases semicolon : p = .char ';'
    · subst semicolon
      exact ih
    · rw [List.filter_cons_of_pos (by simpa using semicolon), spaced, spaced, List.flatMap_cons,
        List.flatMap_cons]
      exact congrArg (spacedPoint p ++ ·) ih

theorem dropQuote_spec (ps : List Point) : ∃ front, ps = front ++ dropQuote ps ∧
    (front = [.char '"'] ∨ front = [] ∧ ps.head? ≠ some (.char '"')) := by
  unfold dropQuote
  split
  · exact ⟨[.char '"'], rfl, .inl rfl⟩
  · next other =>
    refine ⟨[], rfl, .inr ⟨rfl, fun quote => ?_⟩⟩
    obtain ⟨rest, same⟩ := List.head?_eq_some_iff.mp quote
    exact other rest same

theorem bares_unquoted (word : List Point) : Bares word (unquoted word) := by
  obtain ⟨front, whole, opened⟩ := dropQuote_spec word
  obtain ⟨back, rest, closed⟩ := dropQuote_spec (dropQuote word).reverse
  have last : dropQuote word = unquoted word ++ back.reverse := by
    simpa [unquoted] using congrArg List.reverse rest
  refine ⟨front, back.reverse, ?_, opened, ?_⟩
  · rw [List.append_assoc, ← last]
    exact whole
  · rcases closed with rfl | ⟨rfl, bare⟩
    · exact .inl rfl
    · refine .inr ⟨rfl, ?_⟩
      rw [List.head?_reverse, last] at bare
      simpa using bare

theorem cut_eq (text : Text) : cut text = (tokens text.points).map Text.mk := by
  unfold cut tokenize
  dsimp only
  by_cases blanks : text.points.all Text.isBlankPoint
  · rw [if_pos blanks, tokens_of_blanks (List.all_eq_true.mp blanks)]
    rfl
  · rw [if_neg blanks]
    rfl

theorem tokenize_of_not_blank {text : Text} (seen : ¬∀ p ∈ text.points, Text.isBlankPoint p) :
    tokenize (some text) = .ok (cut text) := by
  have notBlank : ¬text.points.all Text.isBlankPoint := by rwa [List.all_eq_true]
  rw [cut_eq, tokenize, if_neg notBlank]

theorem tokenize_eq_emptyInput_iff (query : Option Text) :
    tokenize query = fail .emptyInput ↔
      ∀ text ∈ query, ∀ p ∈ text.points, Text.isBlankPoint p := by
  cases query with
  | none => simp [tokenize]
  | some text =>
    simp only [Option.mem_some_iff, forall_eq']
    by_cases blanks : text.points.all Text.isBlankPoint
    · rw [tokenize, if_pos blanks]
      simpa using blanks
    · have seen := mt List.all_eq_true.mpr blanks
      have cut : (Except.ok (cut text) : Result (List Text)) ≠ fail .emptyInput := by
        intro same
        cases same
      simp only [tokenize_of_not_blank seen, seen, cut]

/-- The words of a text are found between seams: a blank parts the words on its two sides, a
parenthesis or a comma stands between them as a word of its own, semicolons do not matter, and what
has none of these in it is one word but for its quotes. A query is refused exactly if there is
nothing but blanks to cut. -/
theorem tokenize_by_seams :
    (∀ query, tokenize query = fail .emptyInput ↔
      ∀ text ∈ query, ∀ p ∈ text.points, Text.isBlankPoint p) ∧
    (∀ text : Text, (¬∀ p ∈ text.points, Text.isBlankPoint p) →
      tokenize (some text) = .ok (cut text)) ∧
    (∀ (a b : Text) (s : Point),
      (Text.isBlankPoint s → cut (a ++ ⟨[s]⟩ ++ b) = cut a ++ cut b) ∧
      (isDelimiter s → cut (a ++ ⟨[s]⟩ ++ b) = cut a ++ [⟨[s]⟩] ++ cut b)) ∧
    (∀ a : Text, cut ⟨a.points.filter (· ≠ .char ';')⟩ = cut a) ∧
    ∀ w : Text, w.points ≠ [] → (∀ p ∈ w.points, isInner p) →
      ∃ bare, cut w = [bare] ∧ Bares w.points bare.points := by
  have joined (a b : Text) (s : Point) : (a ++ ⟨[s]⟩ ++ b).points = a.points ++ s :: b.points :=
    List.append_assoc ..
  refine ⟨tokenize_eq_emptyInput_iff, fun _ => tokenize_of_not_blank, fun a b s => ⟨fun blank => ?_,
    fun mark => ?_⟩, fun a => ?_, fun w present inner => ?_⟩
  · rw [cut_eq, cut_eq, cut_eq, joined, tokens_append_blank _ _ blank, List.map_append]
  · rw [cut_eq, cut_eq, cut_eq, joined, tokens_append_mark _ _ mark, List.map_append,
      List.append_assoc]
    rfl
  · rw [cut_eq, cut_eq, tokens, tokens, spaced_without_semicolons]
  · refine ⟨⟨unquoted w.points⟩, ?_, bares_unquoted _⟩
    rw [cut_eq, tokens_inner present inner]
    rfl

theorem tokenize_by_seams_of_parted_quotes :
    cut (("\"a;" : Text) ++ ⟨[.char '(']⟩ ++ ("b \"" : Text)) =
      (["a", "(", "b", ""] : List Text) := by
  rw [(tokenize_by_seams.2.2.1 _ _ _).2 rfl]
  decide

end RowStore.Query
