import RowStore.Proofs.Definitions
import RowStore.Proofs.Quotations

/-! Columns as they are printed, read back. The words of a printed column are its name, its type and
its flags. They are told apart by their places, so that a name or a type may be a keyword, and a
query with the printed columns of a table asks for that table. -/
namespace RowStore

namespace Column

/-- A column of which the name and the type are words that stand for themselves. -/
def IsWritable (column : Column) : Prop :=
  Query.isPlain column.name ∧ ∃ type, column.type = .text type ∧ Query.isPlain type

/-- The words that a column is printed in. -/
def words (column : Column) : List Text := column.name :: column.type.plain :: column.flags

end Column

namespace Query

variable {column : Column} {columns : List Column} {table : Text}

/-- The query for a table with printed columns. -/
def creation (table : Text) (definitions : List Text) : Text :=
  ("CREATE TABLE " : Text) ++ table ++ (" (" : Text) ++ Text.join ", " definitions ++ (")" : Text)

theorem isWhole_of_isPlain {word : Text} (plain : isPlain word) : IsWhole word :=
  (isPlain_iff.mp plain).2.1

theorem tokens_plain {word : Text} (plain : isPlain word) : tokens word.points = [word.points] := by
  rw [tokens, words_spaced_of_isToken (.inr (isWhole_of_isPlain plain)) (isPlain_iff.mp plain).1,
    List.map_singleton, unquoted_of_isPlain plain]

theorem tokens_flags (column : Column) :
    tokens (Text.join " " column.flags).points = column.flags.map Text.points := by
  obtain ⟨name, type, primary, unique⟩ := column
  cases primary <;> cases unique <;> rfl

theorem exists_text (writable : column.IsWritable) : ∃ text, column.text = .ok text ∧
    tokens text.points = column.words.map Text.points := by
  obtain ⟨named, type, same, typed⟩ := writable
  have plain : column.type.plain = type := by rw [same]; rfl
  have printable : column.type.printable := by rw [same]; rfl
  refine ⟨_, if_pos printable, ?_⟩
  rw [tokens_strip, tokens_around (by decide) (by decide), tokens_around (by decide) (by decide),
    tokens_plain named, tokens_flags, Column.words, plain, tokens_plain typed]
  rfl

theorem exists_texts (writable : ∀ column ∈ columns, column.IsWritable) :
    ∃ texts, columns.mapM Column.text = .ok texts ∧
      List.Forall₂ (fun text part => tokens text.points = part.map Text.points) texts
        (columns.map Column.words) := by
  induction columns with
  | nil => exact ⟨[], rfl, .nil⟩
  | cons column columns ih =>
    obtain ⟨first, writable⟩ := List.forall_mem_cons.mp writable
    obtain ⟨text, printed, cut⟩ := exists_text first
    obtain ⟨texts, others, later⟩ := ih writable
    refine ⟨text :: texts, ?_, .cons cut later⟩
    simp [List.mapM_cons, printed, others, bind, Except.bind, pure, Except.pure]

theorem defines_words (writable : column.IsWritable) : Defines column column.words := by
  have apart : column.name ≠ ")" := ne_of_isWhole (isWhole_of_isPlain writable.1) (by decide)
  obtain ⟨name, _, primary, unique⟩ := column
  obtain ⟨-, type, rfl, -⟩ := writable
  cases primary <;> cases unique
  · exact @Defines.intro name type [] apart (by decide)
  · exact @Defines.intro name type ["UNIQUE"] apart (by decide)
  · exact @Defines.intro name type ["PRIMARY"] apart (by decide)
  · exact @Defines.intro name type ["PRIMARY", "UNIQUE"] apart (by decide)

/-- The words of columns with commas between them list the columns up to the parenthesis. -/
theorem lists_words (writable : ∀ column ∈ columns, column.IsWritable) :
    Lists columns ([("," : Text)].intercalate (columns.map Column.words) ++ [(")" : Text)]) := by
  induction columns with
  | nil => exact .close
  | cons column columns ih =>
    obtain ⟨first, writable⟩ := List.forall_mem_cons.mp writable
    have defines := defines_words first
    cases columns with
    | nil => simpa using Lists.last defines
    | cons second columns =>
      have step : [("," : Text)].intercalate ((column :: second :: columns).map Column.words) =
          column.words ++ [("," : Text)] ++
            [("," : Text)].intercalate ((second :: columns).map Column.words) :=
        List.intercalate_cons_cons
      rw [step, List.append_assoc, List.append_assoc]
      exact .more defines (ih writable)

theorem tokenize_creation (target : isPlain table) {texts : List Text} {parts : List (List Text)}
    (cut : List.Forall₂ (fun text part => tokens text.points = part.map Text.points) texts parts) :
    tokenize (some (creation table texts)) = .ok ("CREATE" :: "TABLE" :: table :: "(" ::
      ([("," : Text)].intercalate parts ++ [(")" : Text)])) := by
  apply tokenize_of_tokens (by simp)
  have closing : tokens (creation table texts).points =
      tokens (("CREATE TABLE " : Text) ++ table ++ (" (" : Text) ++
        Text.join ", " texts).points ++ tokens (")" : Text).points :=
    tokens_append (.inr (by decide))
  have opening : tokens (("CREATE TABLE " : Text) ++ table).points =
      tokens ("CREATE TABLE " : Text).points ++ tokens table.points :=
    tokens_append (.inl (by decide))
  rw [closing, tokens_around (by decide) (by decide), opening, tokens_plain target,
    tokens_join cut]
  rw [List.map_cons, List.map_cons, List.map_cons, List.map_cons, List.map_append]
  rfl

theorem parse_of_lists (target : table ≠ "(") {list : List Text} (lists : Lists columns list) :
    parse ("CREATE" :: "TABLE" :: table :: "(" :: list) = .ok (.createTable table columns) := by
  have cut : ("CREATE" : Text) :: "TABLE" :: table :: "(" :: list =
      [("CREATE" : Text), "TABLE", table] ++ ("(" : Text) :: list := rfl
  have unopened : ("(" : Text) ∉ (["CREATE", "TABLE", table] : List Text) := by
    have others : ("(" : Text) ≠ "CREATE" ∧ ("(" : Text) ≠ "TABLE" := by decide
    simp [others, target.symm]
  obtain ⟨name, same, made⟩ := create_of_opened (by simp; decide) rfl cut unopened
  obtain rfl : table = name := Option.some.inj same
  have listed := lists.columns_append []
  rw [List.append_nil] at listed
  rw [parse_of_create rfl, made, listed]
  rfl

/-- A query for a table with columns as they are printed asks for the table with these columns,
whatever words their names and their types are. -/
theorem parseText_creation (target : isPlain table)
    (writable : ∀ column ∈ columns, column.IsWritable) :
    ∃ texts, columns.mapM Column.text = .ok texts ∧
      parseText (some (creation table texts)) = .ok (.createTable table columns) := by
  obtain ⟨texts, printed, cut⟩ := exists_texts writable
  have apart : table ≠ "(" := ne_of_isWhole (isWhole_of_isPlain target) (by decide)
  exact ⟨texts, printed, parseText_of_words (tokenize_creation target cut)
    (parse_of_lists apart (lists_words writable))⟩

/-- Names and types that are the words of flags and of queries. -/
def oddColumns : List Column :=
  [⟨"PRIMARY", .text "UNIQUE", false, false⟩, ⟨"TABLE", .text "PRIMARY", true, false⟩,
    ⟨"a", .text "WHERE", true, true⟩, ⟨"a", .text "a\"b", false, true⟩]

theorem parseText_creation_of_odd :
    parseText (some (creation "CREATE" ["PRIMARY UNIQUE", "TABLE PRIMARY PRIMARY",
      "a WHERE PRIMARY UNIQUE", "a a\"b UNIQUE"])) = .ok (.createTable "CREATE" oddColumns) := by
  have writable : ∀ column ∈ oddColumns, column.IsWritable := by
    simp only [oddColumns, List.forall_mem_cons]
    exact ⟨⟨by decide, _, rfl, by decide⟩, ⟨by decide, _, rfl, by decide⟩,
      ⟨by decide, _, rfl, by decide⟩, ⟨by decide, _, rfl, by decide⟩, by simp⟩
  obtain ⟨texts, printed, read⟩ := @parseText_creation oddColumns "CREATE" (by decide) writable
  obtain rfl := Except.ok.inj (printed.symm.trans rfl)
  exact read

end Query
end RowStore
