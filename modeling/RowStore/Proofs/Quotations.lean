import Mathlib.Data.List.Forall2
import RowStore.Proofs.Clauses

/-! Queries whose names and values stand between quotes. Such a query is cut where a blank or a mark
stands outside of the quotes, so each quoted word is a word of the query, whatever it is. -/
namespace RowStore

@[simp] theorem Text.points_append (s t : Text) : (s ++ t).points = s.points ++ t.points := rfl

namespace Query

/-- A word between quotes. -/
def quoted (word : Text) : Text := ⟨.char '"' :: (word.points ++ [.char '"'])⟩

/-- Whether a word is one piece between quotes: no blank, no mark and no semicolon is in it. -/
def IsWhole (word : Text) : Prop := ∀ p ∈ word.points, isInner p

instance (word : Text) : Decidable (IsWhole word) :=
  inferInstanceAs (Decidable (∀ p ∈ word.points, isInner p))

/-! The texts of queries. -/

def insertion (table : Text) (values : List Text) : Text :=
  ("INSERT INTO " : Text) ++ quoted table ++ (" (" : Text) ++
    Text.join ", " (values.map quoted) ++ (")" : Text)

def listing (table : Text) : Text := ("SELECT * FROM " : Text) ++ quoted table

def indexListing (table : Text) : Text := ("SHOW INDEX FROM " : Text) ++ quoted table

def search (table column value : Text) : Text :=
  listing table ++ (" WHERE " : Text) ++ quoted column ++ (" = " : Text) ++ quoted value

def assignment (table column value : Text) : Text :=
  ("UPDATE " : Text) ++ quoted table ++ (" SET " : Text) ++ quoted column ++ (" = " : Text) ++
    quoted value

theorem intercalate_map_singleton {α : Type} (sep : α) (xs : List α) :
    [sep].intercalate (xs.map ([·])) = xs.intersperse sep := by
  induction xs with
  | nil => rfl
  | cons x xs ih =>
    cases xs with
    | nil => rfl
    | cons y xs =>
      rw [List.intersperse_cons_cons, ← ih]
      exact List.intercalate_cons_cons

theorem tokens_quoted {word : Text} (whole : IsWhole word) :
    tokens (quoted word).points = [word.points] := by
  have piece : ∀ p ∈ (quoted word).points, isInner p := by
    intro p member
    simp only [quoted, List.mem_cons, List.mem_append, List.not_mem_nil, or_false] at member
    rcases member with rfl | member | rfl
    · rfl
    · exact whole p member
    · rfl
  have bare : unquoted (quoted word).points = word.points := by simp [unquoted, quoted, dropQuote]
  rw [tokens, words_spaced_of_isToken (.inr piece) (by simp [quoted]), List.map_singleton, bare]

theorem tokens_append_quoted {front word : Text}
    (ends : (spaced front.points).getLast?.all Text.isBlankPoint) (whole : IsWhole word) :
    tokens (front ++ quoted word).points = tokens front.points ++ [word.points] := by
  rw [Text.points_append, tokens_append (.inl ends), tokens_quoted whole]

theorem tokens_around {seam : Text} (front : (spaced seam.points).head?.all Text.isBlankPoint)
    (back : (spaced seam.points).getLast?.any Text.isBlankPoint) (s t : Text) :
    tokens (s ++ seam ++ t).points = tokens s.points ++ tokens seam.points ++ tokens t.points := by
  have behind : (spaced (s.points ++ seam.points)).getLast?.all Text.isBlankPoint := by
    rw [spaced_append, List.getLast?_append]
    cases last : (spaced seam.points).getLast? with
    | none => simp [last] at back
    | some p => simpa [last] using back
  rw [Text.points_append, Text.points_append, tokens_append (.inl behind),
    tokens_append (.inr front)]

theorem tokens_join {texts : List Text} {parts : List (List Text)}
    (cut : List.Forall₂ (fun text part => tokens text.points = part.map Text.points) texts parts) :
    tokens (Text.join ", " texts).points =
      ([("," : Text)].intercalate parts).map Text.points := by
  induction cut with
  | nil => rfl
  | @cons text part texts parts first others ih =>
    cases others with
    | nil => simpa [Text.join] using first
    | @cons second _ texts _ _ _ =>
      have step : Text.join ", " (text :: second :: texts) =
          text ++ (", " : Text) ++ Text.join ", " (second :: texts) := rfl
      rw [step, tokens_around (by decide) (by decide), first, ih, List.intercalate_cons_cons,
        List.map_append, List.map_append]
      rfl

theorem tokens_join_quoted {values : List Text} (whole : ∀ word ∈ values, IsWhole word) :
    tokens (Text.join ", " (values.map quoted)).points =
      (values.intersperse ("," : Text)).map Text.points := by
  have cut : List.Forall₂ (fun text part => tokens text.points = part.map Text.points)
      (values.map quoted) (values.map ([·])) := by
    induction values with
    | nil => exact .nil
    | cons word values ih =>
      obtain ⟨first, whole⟩ := List.forall_mem_cons.mp whole
      exact .cons (tokens_quoted first) (ih whole)
  rw [tokens_join cut, intercalate_map_singleton]

section texts

variable {table column value : Text} {values : List Text}

theorem tokenize_insertion (target : IsWhole table) (whole : ∀ word ∈ values, IsWhole word) :
    tokenize (some (insertion table values)) =
      .ok ("INSERT" :: "INTO" :: table :: "(" ::
        (values.intersperse ("," : Text) ++ [(")" : Text)])) := by
  apply tokenize_of_tokens (by simp)
  have closing : tokens (insertion table values).points =
      tokens (("INSERT INTO " : Text) ++ quoted table ++ (" (" : Text) ++
        Text.join ", " (values.map quoted)).points ++ tokens (")" : Text).points :=
    tokens_append (.inr (by decide))
  rw [closing, tokens_around (by decide) (by decide), tokens_append_quoted (by decide) target,
    tokens_join_quoted whole]
  rw [List.map_cons, List.map_cons, List.map_cons, List.map_cons, List.map_append]
  rfl

theorem tokens_listing (target : IsWhole table) :
    tokens (listing table).points =
      (["SELECT", "*", "FROM", table] : List Text).map Text.points := by
  rw [listing, tokens_append_quoted (by decide) target]
  rfl

theorem tokens_search (target : IsWhole table) (named : IsWhole column) (given : IsWhole value) :
    tokens (search table column value).points =
      (["SELECT", "*", "FROM", table, "WHERE", column, "=", value] : List Text).map
        Text.points := by
  rw [search, tokens_around (by decide) (by decide), tokens_around (by decide) (by decide),
    tokens_listing target, tokens_quoted named, tokens_quoted given]
  rfl

theorem ne_of_isWhole {word mark : Text} (whole : IsWhole word) (broken : ¬IsWhole mark) :
    word ≠ mark := by
  rintro rfl
  exact broken whole

/-- A query that inserts quoted values asks for what they stand for, in their order. -/
theorem parseText_insertion (target : IsWhole table) (whole : ∀ word ∈ values, IsWhole word)
    (short : ∀ word ∈ values, isOverlong word = false) : ∃ vs, coerceAll values = .ok vs ∧
      parseText (some (insertion table values)) = .ok (.insert (some table) vs) := by
  obtain ⟨vs, read, printable⟩ := exists_coerceAll short
  refine ⟨vs, read, parseText_of_words (tokenize_insertion target whole) ?_⟩
  refine @parse_of_route _ (.insert (some table) vs) ?_ (List.all_eq_true.mpr printable)
  rw [route_insert (ne_of_isWhole target (by decide))
    fun word member => ne_of_isWhole (whole word member) (by decide), read]
  rfl

theorem parseText_listing (target : IsWhole table) (source : table ≠ "JOIN" ∧ table ≠ "WHERE") :
    parseText (some (listing table)) = .ok (.select (some table) ["*"] none none) :=
  parseText_of_words (tokenize_of_tokens (by simp) (tokens_listing target)) (parse_listing source)

theorem parseText_indexListing (target : IsWhole table) :
    parseText (some (indexListing table)) = .ok (.showIndex (some table)) := by
  have cut : tokens (indexListing table).points =
      (["SHOW", "INDEX", "FROM", table] : List Text).map Text.points := by
    rw [indexListing, tokens_append_quoted (by decide) target]
    rfl
  exact parseText_of_words (tokenize_of_tokens (by simp) cut) (parse_indexListing table)

theorem parseText_search (target : IsWhole table) (named : IsWhole column) (given : IsWhole value)
    (source : table ≠ "JOIN" ∧ table ≠ "WHERE") (conditioned : column ≠ "JOIN" ∧ value ≠ "JOIN")
    {cell : Value} (read : coerce (some value) = .ok cell) (printable : cell.printable) :
    parseText (some (search table column value)) =
      .ok (.select (some table) ["*"] (some ⟨some column, cell⟩) none) :=
  parseText_of_words (tokenize_of_tokens (by simp) (tokens_search target named given))
    (parse_search source conditioned read printable)

theorem tokens_assignment (target : IsWhole table) (named : IsWhole column)
    (given : IsWhole value) : tokens (assignment table column value).points =
      (["UPDATE", table, "SET", column, "=", value] : List Text).map Text.points := by
  rw [assignment, tokens_around (by decide) (by decide), tokens_around (by decide) (by decide),
    tokens_append_quoted (by decide) target, tokens_quoted named, tokens_quoted given]
  rfl

/-- A query that sets a column to a quoted value has a condition exactly if the value is the anchor
of conditions. Nothing is behind it then, so it is a condition on no column. -/
theorem parseText_assignment (target : IsWhole table) (named : IsWhole column)
    (given : IsWhole value) (source : table ≠ "SET" ∧ table ≠ "WHERE") (set : column ≠ "WHERE")
    {cell : Value} (read : coerce (some value) = .ok cell) (printable : cell.printable) :
    parseText (some (assignment table column value)) =
      .ok (.update (some table) (some column) cell
        (if value = "WHERE" then some ⟨none, .float (.nan .query)⟩ else none)) := by
  refine parseText_of_words
    (tokenize_of_tokens (by simp) (tokens_assignment target named given)) ?_
  split
  · next anchor =>
    subst anchor
    exact parse_assignment_of_anchor source set read printable
  · next free =>
    refine parse_of_route ((@route_update table column value none source ⟨set, free⟩).trans ?_)
      (by simpa [Command.printable, Command.values] using printable)
    rw [Statement.command, read]
    rfl

end texts

end Query
end RowStore
