import RowStore.Proofs.Results
import RowStore.Proofs.Words

/-! Queries laid out from pieces with blanks between them. Such a query is cut into these pieces
again, and whatever a query is, nothing else is ever cut from it. Since one quote is taken from
either end of a piece, every word can be written, also an empty one and one with quotes of its
own. -/
namespace RowStore

namespace Text

theorem words_cons_blank {p : Point} (blank : isBlankPoint p) (ps : List Point) :
    words (p :: ps) = words ps :=
  words_append_blank [] ps p blank

theorem words_append_of_parted {a b : List Point}
    (parted : a.getLast?.all isBlankPoint ∨ b.head?.all isBlankPoint) :
    words (a ++ b) = words a ++ words b := by
  rcases parted with back | front
  · rcases List.eq_nil_or_concat a with rfl | ⟨a, s, rfl⟩
    · rfl
    · have blank : isBlankPoint s := by simpa using back
      rw [List.concat_eq_append, List.append_assoc, List.singleton_append,
        words_append_blank a b s blank, words_append_blank a [] s blank,
        show words [] = [] from rfl, List.append_nil]
  · cases b with
    | nil => rw [List.append_nil, show words [] = [] from rfl, List.append_nil]
    | cons s b =>
      have blank : isBlankPoint s := by simpa using front
      rw [words_append_blank a b s blank, words_cons_blank blank]

end Text

namespace Query

/-- Whether a point can stand in a word beside others: it is no blank, no mark and no semicolon. -/
def isInner (p : Point) : Bool := !Text.isBlankPoint p && !isDelimiter p && p != .char ';'

/-- Whether some points are a parenthesis or a comma alone. -/
def isMark : List Point → Bool
  | [p] => isDelimiter p
  | _ => false

/-- What a word of a query can be: a mark, or points that stand beside others, perhaps none. -/
def IsToken (ps : List Point) : Prop := isMark ps ∨ ∀ p ∈ ps, isInner p

instance (ps : List Point) : Decidable (IsToken ps) :=
  inferInstanceAs (Decidable (isMark ps ∨ ∀ p ∈ ps, isInner p))

/-- Pieces in order with blanks anywhere between them. Behind a piece that is no mark, a blank, a
mark or nothing must follow. -/
inductive Layout : List (List Point) → List Point → Prop where
  | nil : Layout [] []
  | blank {p : Point} {pieces : List (List Point)} {text : List Point} :
      Text.isBlankPoint p → Layout pieces text → Layout pieces (p :: text)
  | piece {ps : List Point} {pieces : List (List Point)} {text : List Point} :
      isMark ps ∨ text.head?.all (fun p => Text.isBlankPoint p || isDelimiter p) →
        Layout pieces text → Layout (ps :: pieces) (ps ++ text)

/-- A word as it can be written whatever it is: a mark as it stands, and any other word between
quotes. -/
def written (word : Text) : List Point :=
  if isMark word.points then word.points else .char '"' :: (word.points ++ [.char '"'])

theorem isDelimiter_cases {p : Point} (mark : isDelimiter p) :
    p = .char '(' ∨ p = .char ')' ∨ p = .char ',' := by
  simpa [isDelimiter, or_assoc] using mark

theorem not_blank_of_isDelimiter {p : Point} (mark : isDelimiter p) :
    Text.isBlankPoint p = false := by
  rcases isDelimiter_cases mark with rfl | rfl | rfl <;> decide

theorem isMark_iff {ps : List Point} : isMark ps ↔ ∃ p, isDelimiter p ∧ ps = [p] := by
  constructor
  · intro mark
    unfold isMark at mark
    split at mark
    · next p => exact ⟨p, mark, rfl⟩
    · contradiction
  · rintro ⟨p, mark, rfl⟩
    exact mark

theorem spaced_append (a b : List Point) : spaced (a ++ b) = spaced a ++ spaced b :=
  List.flatMap_append

theorem spaced_mark {p : Point} (mark : isDelimiter p) (ps : List Point) :
    spaced (p :: ps) = [.char ' ', p] ++ .char ' ' :: spaced ps := by
  simp [spaced, spacedPoint, mark]

theorem spaced_blank {p : Point} (blank : Text.isBlankPoint p) (ps : List Point) :
    spaced (p :: ps) = p :: spaced ps := by
  have plain : isDelimiter p = false := by
    cases mark : isDelimiter p with
    | false => rfl
    | true =>
      rw [not_blank_of_isDelimiter mark] at blank
      contradiction
  have other : p ≠ .char ';' := by
    rintro rfl
    exact absurd blank (by decide)
  simp [spaced, spacedPoint, plain, other]

theorem spaced_inner {p : Point} (inner : isInner p) (ps : List Point) :
    spaced (p :: ps) = p :: spaced ps := by
  simp only [isInner, Bool.and_eq_true, Bool.not_eq_true', bne_iff_ne] at inner
  simp [spaced, spacedPoint, inner.1.2, inner.2]

theorem blank_of_isInner {p : Point} (inner : isInner p) : Text.isBlankPoint p = false := by
  simp only [isInner, Bool.and_eq_true, Bool.not_eq_true'] at inner
  exact inner.1.1

theorem words_spaced_of_isToken {ps : List Point} (token : IsToken ps) (present : ps ≠ []) :
    Text.words (spaced ps) = [ps] := by
  rcases token with mark | inner
  · obtain ⟨p, mark, rfl⟩ := isMark_iff.mp mark
    have alone : Text.words [p] = [[p]] :=
      Text.words_of_not_blank present (by simpa using not_blank_of_isDelimiter mark)
    rw [spaced_mark mark, Text.words_append_blank _ _ _ (by decide), Text.words_cons_blank
      (by decide), alone]
    rfl
  · have kept : spaced ps = ps := by
      clear present
      induction ps with
      | nil => rfl
      | cons p ps ih =>
        obtain ⟨first, inner⟩ := List.forall_mem_cons.mp inner
        rw [spaced_inner first, ih inner]
    rw [kept]
    exact Text.words_of_not_blank present fun p member => blank_of_isInner (inner p member)

/-- Whatever pieces a query is laid out from, they are its words. -/
theorem Layout.words_spaced {pieces : List (List Point)} {text : List Point}
    (laid : Layout pieces text) (tokens : ∀ ps ∈ pieces, IsToken ps ∧ ps ≠ []) :
    Text.words (spaced text) = pieces := by
  induction laid with
  | nil => rfl
  | blank blank laid ih => rw [spaced_blank blank, Text.words_cons_blank blank, ih tokens]
  | @piece ps pieces text parted laid ih =>
    obtain ⟨⟨token, present⟩, tokens⟩ := List.forall_mem_cons.mp tokens
    have apart : (spaced ps).getLast?.all Text.isBlankPoint ∨
        (spaced text).head?.all Text.isBlankPoint := by
      rcases parted with mark | follows
      · obtain ⟨p, mark, rfl⟩ := isMark_iff.mp mark
        left
        rw [spaced_mark mark]
        simp [spaced, Text.isBlankPoint, Point.char?, Text.isBlank]
      · right
        cases text with
        | nil => rfl
        | cons p text =>
          rcases Bool.or_eq_true _ _ ▸ (by simpa using follows : (Text.isBlankPoint p ||
            isDelimiter p) = true) with blank | mark
          · simpa [spaced_blank blank] using blank
          · rw [spaced_mark mark]
            rfl
    rw [spaced_append, Text.words_append_of_parted apart, words_spaced_of_isToken token present,
      ih tokens, List.singleton_append]

theorem leadingWord_spaced (ps : List Point) :
    (∀ p ∈ (Text.leadingWord (spaced ps)).1, isInner p) ∧
      ∀ w ∈ (Text.leadingWord (spaced ps)).2, IsToken w := by
  induction ps with
  | nil => simp [spaced, Text.leadingWord]
  | cons p ps ih =>
    obtain ⟨first, others⟩ := ih
    have later : ∀ w ∈ Text.words (spaced ps), IsToken w := by
      intro w member
      rcases Text.mem_words member with rfl | member
      · exact .inr first
      · exact others w member
    by_cases mark : isDelimiter p
    · have alone : Text.leadingWord [.char ' ', p] = ([], [[p]]) := by
        simp [Text.leadingWord, not_blank_of_isDelimiter mark,
          show Text.isBlankPoint (.char ' ') = true from rfl]
      rw [spaced_mark mark, Text.leadingWord_append_blank _ _ _ (by decide), alone]
      refine ⟨by simp, fun w member => ?_⟩
      rcases List.mem_cons.mp member with rfl | member
      · exact .inl mark
      · exact later w member
    · by_cases semicolon : p = .char ';'
      · subst semicolon
        exact ⟨first, others⟩
      · by_cases blank : Text.isBlankPoint p
        · have cut : Text.leadingWord (p :: spaced ps) = ([], Text.words (spaced ps)) := by
            simp only [Text.leadingWord, blank, ↓reduceIte, Text.words]
          rw [spaced_blank blank, cut]
          exact ⟨by simp, later⟩
        · have inner : isInner p := by simp [isInner, blank, mark, semicolon]
          have grown : Text.leadingWord (p :: spaced ps) =
              (p :: (Text.leadingWord (spaced ps)).1, (Text.leadingWord (spaced ps)).2) := by
            simp only [Text.leadingWord, blank, Bool.false_eq_true, ↓reduceIte]
          rw [spaced_inner inner, grown]
          exact ⟨List.forall_mem_cons.mpr ⟨inner, first⟩, others⟩

theorem isToken_of_mem_words {ps w : List Point} (member : w ∈ Text.words (spaced ps)) :
    IsToken w := by
  obtain ⟨first, others⟩ := leadingWord_spaced ps
  rcases Text.mem_words member with rfl | member
  · exact .inr first
  · exact others w member

theorem unquoted_of_isMark {ps : List Point} (mark : isMark ps) : unquoted ps = ps := by
  obtain ⟨p, mark, rfl⟩ := isMark_iff.mp mark
  apply unquoted_of_not_mem
  rcases isDelimiter_cases mark with rfl | rfl | rfl <;> decide

theorem IsToken.unquoted {ps : List Point} (token : IsToken ps) : IsToken (unquoted ps) := by
  rcases token with mark | inner
  · rw [unquoted_of_isMark mark]
    exact .inl mark
  · exact .inr fun p member => inner p (mem_of_unquoted member)

theorem unquoted_written (word : Text) : Query.unquoted (written word) = word.points := by
  unfold written
  split
  · next mark => exact unquoted_of_isMark mark
  · simp [Query.unquoted, dropQuote]

theorem isToken_written {word : Text} (token : IsToken word.points) :
    IsToken (written word) ∧ written word ≠ [] := by
  unfold written
  split
  · next mark =>
    refine ⟨.inl mark, fun empty => ?_⟩
    simp [empty, isMark] at mark
  · next plain =>
    have inner := token.resolve_left plain
    refine ⟨.inr fun p member => ?_, by simp⟩
    simp only [List.mem_cons, List.mem_append, List.not_mem_nil, or_false] at member
    rcases member with rfl | member | rfl
    · rfl
    · exact inner p member
    · rfl

/-- Words do not run together where a blank, a mark or nothing stands on either side. -/
theorem tokens_append {a b : List Point} (parted : (spaced a).getLast?.all Text.isBlankPoint ∨
    (spaced b).head?.all Text.isBlankPoint) : tokens (a ++ b) = tokens a ++ tokens b := by
  rw [tokens, spaced_append, Text.words_append_of_parted parted, List.map_append]
  rfl

theorem tokens_cons_blank {p : Point} (blank : Text.isBlankPoint p) (ps : List Point) :
    tokens (p :: ps) = tokens ps := by
  rw [tokens, spaced_blank blank, Text.words_cons_blank blank]
  rfl

theorem tokens_of_blanks {ps : List Point} (blanks : ∀ p ∈ ps, Text.isBlankPoint p) :
    tokens ps = [] := by
  induction ps with
  | nil => rfl
  | cons p ps ih =>
    obtain ⟨first, blanks⟩ := List.forall_mem_cons.mp blanks
    rw [tokens_cons_blank first, ih blanks]

theorem tokens_append_blank (a b : List Point) {s : Point} (blank : Text.isBlankPoint s) :
    tokens (a ++ s :: b) = tokens a ++ tokens b := by
  have parted : (spaced (s :: b)).head?.all Text.isBlankPoint := by
    simpa [spaced_blank blank] using blank
  rw [tokens_append (.inr parted), tokens_cons_blank blank]

theorem tokens_inner {w : List Point} (present : w ≠ []) (inner : ∀ p ∈ w, isInner p) :
    tokens w = [unquoted w] := by
  rw [tokens, words_spaced_of_isToken (.inr inner) present, List.map_singleton]

theorem tokens_of_isDigit {cs : List Char} (present : cs ≠ []) (digits : ∀ c ∈ cs, c.isDigit) :
    tokens (cs.map .char) = [cs.map .char] := by
  have inner : ∀ p ∈ cs.map .char, isInner p := by
    refine List.forall_mem_map.mpr fun c member => ?_
    have digit := digits c member
    have plain := Text.not_isBlank_of_isDigit (isDigit_of_basic digit)
    simp [isInner, isDelimiter, Text.isBlankPoint, Point.char?, plain, ne_of_isDigit digit]
  have bare : Point.char '"' ∉ cs.map Point.char := by
    simpa using fun member => by simpa using digits '"' member
  rw [tokens_inner (by simpa using present) inner, unquoted_of_not_mem bare]

theorem tokens_strip (ps : List Point) : tokens (Text.strip ps) = tokens ps := by
  have front (ps : List Point) : tokens (ps.dropWhile Text.isBlankPoint) = tokens ps := by
    induction ps with
    | nil => rfl
    | cons p ps ih =>
      by_cases blank : Text.isBlankPoint p
      · rw [List.dropWhile_cons_of_pos blank, ih, tokens_cons_blank blank]
      · rw [List.dropWhile_cons_of_neg blank]
  have back (ps : List Point) :
      tokens (ps.dropWhile Text.isBlankPoint).reverse = tokens ps.reverse := by
    induction ps with
    | nil => rfl
    | cons p ps ih =>
      by_cases blank : Text.isBlankPoint p
      · have alone : (spaced [p]).head?.all Text.isBlankPoint := by simpa [spaced_blank blank]
        rw [List.dropWhile_cons_of_pos blank, ih, List.reverse_cons, tokens_append (.inr alone),
          tokens_cons_blank blank, show tokens [] = [] from rfl, List.append_nil]
      · rw [List.dropWhile_cons_of_neg blank]
  rw [Text.strip, back, List.reverse_reverse, front]

theorem tokenize_of_tokens {query : Text} {words : List Text} (present : words ≠ [])
    (cut : tokens query.points = words.map Text.points) : tokenize (some query) = .ok words := by
  have notBlank : ¬query.points.all Text.isBlankPoint := by
    intro blanks
    rw [tokens_of_blanks (List.all_eq_true.mp blanks)] at cut
    exact present (List.map_eq_nil_iff.mp cut.symm)
  rw [tokenize, if_neg notBlank, cut, List.map_map]
  exact congrArg Except.ok (List.map_id words)

/-- A query laid out from words, however each of them is spelled, has these words if the spelling is
one token and no more than quotes are added by it. -/
theorem tokenize_of_layout {words : List Text} {spelling : Text → List Point} {query : Text}
    (present : words ≠ []) (laid : Layout (words.map spelling) query.points)
    (tokens : ∀ word ∈ words, IsToken (spelling word) ∧ spelling word ≠ [])
    (spelled : ∀ word ∈ words, unquoted (spelling word) = word.points) :
    tokenize (some query) = .ok words := by
  apply tokenize_of_tokens present
  rw [Query.tokens, laid.words_spaced (List.forall_mem_map.mpr tokens), List.map_map]
  exact List.map_congr_left spelled

theorem exists_layout (pieces : List (List Point)) : ∃ text, Layout pieces text := by
  induction pieces with
  | nil => exact ⟨[], .nil⟩
  | cons ps pieces ih =>
    obtain ⟨text, laid⟩ := ih
    exact ⟨ps ++ .char ' ' :: text, .piece (.inr rfl) (.blank rfl laid)⟩

/-- Just the lists of marks and of points that stand in words are the words of queries, and if each
is written as it can be written whatever it is, any layout of them has these words. -/
theorem tokenize_written (words : List Text) :
    ((∃ query, tokenize query = .ok words) ↔ ∀ word ∈ words, IsToken word.points) ∧
      (words ≠ [] → (∀ word ∈ words, IsToken word.points) → ∀ query : Text,
        Layout (words.map written) query.points → tokenize (some query) = .ok words) := by
  have back : words ≠ [] → (∀ word ∈ words, IsToken word.points) → ∀ query : Text,
      Layout (words.map written) query.points → tokenize (some query) = .ok words := by
    intro present tokens query laid
    exact tokenize_of_layout present laid (fun word member => isToken_written (tokens word member))
      fun word _ => unquoted_written word
  refine ⟨⟨?_, fun tokens => ?_⟩, back⟩
  · rintro ⟨query, cut⟩ word member
    cases query with
    | none => contradiction
    | some query =>
      simp only [tokenize] at cut
      split at cut
      · contradiction
      · obtain rfl := Except.ok.inj cut
        obtain ⟨ps, unquoted, rfl⟩ := List.mem_map.mp member
        obtain ⟨w, there, rfl⟩ := List.mem_map.mp unquoted
        exact (isToken_of_mem_words there).unquoted
  · -- Nothing but a semicolon is a query, though it has no words.
    cases words with
    | nil => exact ⟨some ";", rfl⟩
    | cons word words =>
      obtain ⟨text, laid⟩ := exists_layout ((word :: words).map written)
      exact ⟨some ⟨text⟩, back (by simp) tokens ⟨text⟩ laid⟩

theorem tokenize_written_of_quotes :
    tokenize (some ",\"\" \t\"\"a\"\" (") = .ok [",", "", "\"a\"", "("] := by
  have laid : Layout (([",", "", "\"a\"", "("] : List Text).map written)
      (",\"\" \t\"\"a\"\" (" : Text).points :=
    .piece (.inl rfl) <| .piece (.inr rfl) <| .blank rfl <| .blank rfl <| .piece (.inr rfl) <|
      .blank rfl <| .piece (.inl rfl) .nil
  exact (tokenize_written _).2 (by simp) (by decide) _ laid

end Query
end RowStore
