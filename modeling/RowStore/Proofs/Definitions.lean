import RowStore.Proofs.Overlong

/-! Definitions of columns, told by a grammar: the words of one column, and the list of them up to
its closing parenthesis. The reader accepts exactly the words that begin with such a list, and
where there is none it misses the parenthesis. -/
namespace RowStore.Query

/-- Words that define a column: its name, its type, and words up to the next comma or closing
parenthesis, of which only the two flags mean anything. -/
inductive Defines : Column → List Text → Prop where
  | intro {name type : Text} {more : List Text} : name ≠ ")" →
      (∀ word ∈ more, word ≠ "," ∧ word ≠ ")") →
        Defines ⟨name, .text type, decide (("PRIMARY" : Text) ∈ more),
          decide (("UNIQUE" : Text) ∈ more)⟩ (name :: type :: more)

/-- Words that list columns: nothing, one definition, or a definition and a comma with further
columns behind it, and in the end a closing parenthesis. -/
inductive Lists : List Column → List Text → Prop where
  | close : Lists [] [")"]
  | last {column : Column} {words : List Text} : Defines column words →
      Lists [column] (words ++ [(")" : Text)])
  | more {column : Column} {words : List Text} {columns : List Column} {rest : List Text} :
      Defines column words → Lists columns rest →
        Lists (column :: columns) (words ++ ("," : Text) :: rest)

theorem modifiers_append {more : List Text} (inside : ∀ word ∈ more, word ≠ "," ∧ word ≠ ")")
    (column : Column) (rest : List Text) :
    modifiers column (more ++ rest) =
      modifiers { column with
        primary := column.primary || decide (("PRIMARY" : Text) ∈ more)
        unique := column.unique || decide (("UNIQUE" : Text) ∈ more) } rest := by
  induction more generalizing column with
  | nil => simp
  | cons word more ih =>
    obtain ⟨⟨noComma, noClose⟩, later⟩ := List.forall_mem_cons.mp inside
    rw [List.cons_append, modifiers, if_neg noClose, if_neg noComma]
    by_cases primary : word = "PRIMARY"
    · subst primary
      rw [if_pos rfl, ih later]
      simp [show ("UNIQUE" : Text) ≠ "PRIMARY" by decide]
    · rw [if_neg primary]
      by_cases unique : word = "UNIQUE"
      · subst unique
        rw [if_pos rfl, ih later]
        simp [show ("PRIMARY" : Text) ≠ "UNIQUE" by decide]
      · rw [if_neg unique, ih later]
        simp [Ne.symm primary, Ne.symm unique]

theorem Defines.columns_append {column : Column} {words : List Text}
    (defines : Defines column words) (rest : List Text) :
    columns (words ++ rest) = modifiers column rest := by
  obtain ⟨named, inside⟩ := defines
  rw [List.cons_append, List.cons_append, columns, if_neg named]
  simp [modifiers_append inside]

/-- Columns that are listed are read, whatever follows. -/
theorem Lists.columns_append {cs : List Column} {list : List Text} (lists : Lists cs list)
    (rest : List Text) : columns (list ++ rest) = .ok cs := by
  induction lists with
  | close => simp [columns]
  | last defines =>
    rw [List.append_assoc, defines.columns_append, List.singleton_append, modifiers, if_pos rfl]
  | more defines _ ih =>
    rw [List.append_assoc, defines.columns_append, List.cons_append, modifiers,
      if_neg (by decide), if_pos rfl, ih]
    rfl

theorem exists_inside (words : List Text) : ∃ more rest, words = more ++ rest ∧
    (∀ word ∈ more, word ≠ "," ∧ word ≠ ")") ∧
      ∀ word ∈ rest.head?, word = "," ∨ word = ")" := by
  induction words with
  | nil => exact ⟨[], [], rfl, by simp, by simp⟩
  | cons word words ih =>
    by_cases ends : word = "," ∨ word = ")"
    · exact ⟨[], word :: words, rfl, by simp, by simpa using ends⟩
    · obtain ⟨more, rest, rfl, inside, follows⟩ := ih
      refine ⟨word :: more, rest, rfl, ?_, follows⟩
      exact List.forall_mem_cons.mpr ⟨not_or.mp ends, inside⟩

theorem exists_lists_or (words : List Text) :
    (∃ cs list more, words = list ++ more ∧ Lists cs list) ∨
      columns words = fail (.missing .closeParen) := by
  -- Behind a comma the columns are read anew, so the induction is on a bound of the length.
  obtain ⟨bound, size⟩ : ∃ bound, words.length < bound := ⟨_, Nat.lt_succ_self _⟩
  induction bound generalizing words with
  | zero => exact absurd size (Nat.not_lt_zero _)
  | succ bound ih =>
    cases words with
    | nil => exact .inr rfl
    | cons name words =>
      by_cases closing : name = ")"
      · subst closing
        exact .inl ⟨[], [(")" : Text)], words, rfl, .close⟩
      cases words with
      | nil =>
        right
        simp [columns, closing]
      | cons type words =>
        obtain ⟨more, rest, rfl, inside, follows⟩ := exists_inside words
        have defines := @Defines.intro _ type _ closing inside
        have read := defines.columns_append rest
        cases rest with
        | nil =>
          right
          simpa [modifiers] using read
        | cons word rest =>
          have shorter : rest.length < bound := by
            simp only [List.length_cons, List.length_append] at size
            omega
          rcases follows word rfl with rfl | rfl
          · rcases ih rest shorter with ⟨cs, list, behind, rfl, lists⟩ | missed
            · exact .inl ⟨_, _, behind, by simp, .more defines lists⟩
            · right
              rw [modifiers, if_neg (by decide), if_pos rfl, missed] at read
              exact read
          · exact .inl ⟨_, _, rest, by simp, .last defines⟩

theorem columns_eq_ok_iff {words : List Text} {cs : List Column} :
    columns words = .ok cs ↔ ∃ list more, words = list ++ more ∧ Lists cs list := by
  constructor
  · intro read
    rcases exists_lists_or words with ⟨others, list, more, rfl, lists⟩ | missed
    · rw [lists.columns_append] at read
      obtain rfl := Except.ok.inj read
      exact ⟨list, more, rfl, lists⟩
    · rw [missed] at read
      contradiction
  · rintro ⟨list, more, rfl, lists⟩
    exact lists.columns_append more

theorem columns_eq_missing_iff {words : List Text} :
    columns words = fail (.missing .closeParen) ↔
      ¬∃ cs list more, words = list ++ more ∧ Lists cs list := by
  constructor
  · rintro missed ⟨cs, list, more, rfl, lists⟩
    rw [lists.columns_append] at missed
    contradiction
  · exact (exists_lists_or words).resolve_left

theorem missing_inj {α : Type} {part other : QueryPart}
    (same : (fail (.missing part) : Result α) = fail (.missing other)) : part = other :=
  EngineError.missing.inj (Failure.engine.inj (Except.error.inj same))

theorem missing_of_columns {words : List Text} {part : QueryPart}
    (missed : columns words = fail (.missing part)) : part = .closeParen := by
  rcases exists_lists_or words with ⟨cs, list, more, rfl, lists⟩ | closing
  · rw [lists.columns_append] at missed
    contradiction
  · exact missing_inj (missed.symm.trans closing)

/-! Commands that create tables. -/

theorem parse_of_create {words : List Text}
    (kind : Text.upper (words.head?.getD "") = "CREATE") : parse words = create words := by
  have routed : route words = create words := by
    rw [route, kind]
    rfl
  have settles := create_settles words
  rw [parse, routed]
  cases made : create words with
  | error e => rfl
  | ok command =>
    rw [made] at settles
    have printable : command.printable = true := settles
    simp [bind, Except.bind, pure, Except.pure, printable]

theorem create_of_not_table {words : List Text} (other : words[1]? ≠ some ("TABLE" : Text)) :
    create words = fail (.missing .table) := by
  match words with
  | [] | [_] => rfl
  | first :: second :: rest =>
    have other : second ≠ "TABLE" := by simpa using other
    rw [create, if_pos other]

section table

variable {words : List Text} (first : words.head? ≠ some ("(" : Text))
  (table : words[1]? = some ("TABLE" : Text))
include first table

theorem create_of_unopened (unopened : ("(" : Text) ∉ words) :
    create words = fail (.missing .openParen) := by
  match words with
  | word :: second :: rest =>
    obtain rfl : second = "TABLE" := by simpa using table
    have unopened : ("(" : Text) ∉ rest := by simp_all
    rw [create, if_neg (by simp), require, behind_of_not_mem unopened]
    rfl

/-- The parenthesis is neither the first nor the second word, so there is a word for the name of the
table in front of it, or it is that name itself. -/
theorem create_of_opened {front rest : List Text} (cut : words = front ++ ("(" : Text) :: rest)
    (unopened : ("(" : Text) ∉ front) :
    ∃ name, words[2]? = some name ∧ create words = (columns rest).map (.createTable name) := by
  match front with
  | [] => simp [cut] at first
  | [_] =>
    rw [cut] at table
    exact absurd (Option.some.inj table) (by decide)
  | word :: second :: front =>
    obtain rfl : second = "TABLE" := by simpa [cut] using table
    have unopened : ("(" : Text) ∉ front := by simp_all
    obtain ⟨name, more, named⟩ : ∃ name more, front ++ ("(" : Text) :: rest = name :: more :=
      List.exists_cons_of_ne_nil (by simp)
    refine ⟨name, by simp [cut, named], ?_⟩
    have opened := behind_append unopened rest
    rw [cut, List.cons_append, List.cons_append, create, if_neg (by simp), require, opened, named]
    rfl

end table

/-- A command that creates a table needs its keyword, then an opening parenthesis anywhere, and
behind the first one it holds the columns that are listed there. -/
theorem parse_create (words : List Text) (kind : Text.upper (words.head?.getD "") = "CREATE") :
    (parse words = fail (.missing .table) ↔ words[1]? ≠ some ("TABLE" : Text)) ∧
    (words[1]? = some ("TABLE" : Text) →
      (parse words = fail (.missing .openParen) ↔ ("(" : Text) ∉ words) ∧
      ∀ front rest, words = front ++ ("(" : Text) :: rest → ("(" : Text) ∉ front →
        (∀ command, parse words = .ok command ↔ ∃ name cs, words[2]? = some name ∧
          command = .createTable name cs ∧ ∃ list more, rest = list ++ more ∧ Lists cs list) ∧
        (parse words = fail (.missing .closeParen) ↔
          ¬∃ cs list more, rest = list ++ more ∧ Lists cs list)) := by
  rw [parse_of_create kind]
  have first : words.head? ≠ some ("(" : Text) := by
    intro opened
    rw [opened] at kind
    exact absurd kind (by decide)
  have opened (table : words[1]? = some ("TABLE" : Text)) (inside : ("(" : Text) ∈ words) :
      ∃ name rest, create words = (columns rest).map (.createTable name) := by
    obtain ⟨front, rest, cut, unopened⟩ := List.eq_append_cons_of_mem inside
    obtain ⟨name, -, made⟩ := create_of_opened first table cut unopened
    exact ⟨name, rest, made⟩
  refine ⟨⟨fun failed table => ?_, create_of_not_table⟩, fun table => ⟨⟨fun failed inside => ?_,
    create_of_unopened first table⟩, fun front rest cut unopened => ?_⟩⟩
  · by_cases inside : ("(" : Text) ∈ words
    · obtain ⟨name, rest, made⟩ := opened table inside
      rw [made] at failed
      exact absurd (missing_of_columns (map_eq_error.mp failed)) (by decide)
    · rw [create_of_unopened first table inside] at failed
      exact absurd (missing_inj failed) (by decide)
  · obtain ⟨name, rest, made⟩ := opened table inside
    rw [made] at failed
    exact absurd (missing_of_columns (map_eq_error.mp failed)) (by decide)
  · obtain ⟨name, named, made⟩ := create_of_opened first table cut unopened
    rw [made, named]
    constructor
    · intro command
      rw [map_eq_ok]
      constructor
      · rintro ⟨cs, read, rfl⟩
        exact ⟨name, cs, rfl, rfl, columns_eq_ok_iff.mp read⟩
      · rintro ⟨name, cs, same, rfl, listed⟩
        obtain rfl := Option.some.inj same
        exact ⟨cs, columns_eq_ok_iff.mpr listed, rfl⟩
    · rw [← columns_eq_missing_iff]
      exact map_eq_error

theorem parse_create_of_odd_type :
    parse ["create", "TABLE", "t", "(", "a", ")", "UNIQUE", ",", ")", ";"] =
      .ok (.createTable "t" [⟨"a", .text ")", false, true⟩]) := by
  have accepts := (parse_create ["create", "TABLE", "t", "(", "a", ")", "UNIQUE", ",", ")", ";"]
    (by decide)).2 rfl
  have defines : Defines ⟨"a", .text ")", false, true⟩ ["a", ")", "UNIQUE"] :=
    @Defines.intro "a" ")" ["UNIQUE"] (by decide) (by decide)
  exact ((accepts.2 ["create", "TABLE", "t"] ["a", ")", "UNIQUE", ",", ")", ";"] rfl
    (by decide)).1 _).mpr ⟨"t", _, rfl, rfl, ["a", ")", "UNIQUE", ",", ")"], [";"], rfl,
      .more defines .close⟩

end RowStore.Query
