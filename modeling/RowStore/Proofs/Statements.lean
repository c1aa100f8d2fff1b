import RowStore.Proofs.Layout
import RowStore.Proofs.Overlong

/-! Statements that select, update, delete or show indexes, as they are printed: each word of a
statement at its place, with its clauses present or absent. Whatever blanks stand between these
words, the query is read as the command that the statement stands for. -/
namespace RowStore

namespace Text

theorem capital_of_isBlank {c : Char} (blank : isBlank c) : capital c = [c] := by
  have known : ∀ n ∈ [0x09, 0x0A, 0x0B, 0x0C, 0x0D, 0x1C, 0x1D, 0x1E, 0x1F, 0x20, 0x85, 0xA0,
      0x1680, 0x2000, 0x2001, 0x2002, 0x2003, 0x2004, 0x2005, 0x2006, 0x2007, 0x2008, 0x2009,
      0x200A, 0x2028, 0x2029, 0x202F, 0x205F, 0x3000],
      capital (Char.ofNat n) = [Char.ofNat n] := by
    decide +kernel
  have itself := known c.toNat (by
    simp only [isBlank, Bool.or_eq_true, Bool.and_eq_true, decide_eq_true_eq, beq_iff_eq] at blank
    simp only [List.mem_cons, List.not_mem_nil, or_false]
    omega)
  rwa [Char.ofNat_toNat] at itself

theorem mem_upper {s : Text} {p : Point} (member : p ∈ s.points) (stays : capitalPoint p = [p]) :
    p ∈ (upper s).points :=
  List.mem_flatMap.mpr ⟨p, member, by rw [stays]; exact List.mem_singleton_self p⟩

end Text

namespace Query

/-- Whether a word stands for itself wherever it is written: it is not empty, its points stand
beside others, and there is no quote at its ends. -/
def isPlain (word : Text) : Bool :=
  !word.isEmpty && word.points.all isInner && word.points.head? != some (.char '"') &&
    word.points.getLast? != some (.char '"')

/-- The words that parts of statements are found by. -/
def anchors : List Text := ["FROM", "JOIN", "WHERE", "SET"]

/-- Whether a plain word can be a name or a value in a statement. -/
def isClean (word : Text) : Bool := isPlain word && !anchors.contains word

structure Condition where
  column : Text
  value : Text

/-- The second table of a statement and the columns that must be equal. -/
structure Pairing where
  table : Text
  leftTable : Text
  leftColumn : Text
  rightTable : Text
  rightColumn : Text

inductive Statement where
  | select (columns : List Text) (table : Text) (pairing : Option Pairing)
      (condition : Option Condition)
  | update (table column value : Text) (condition : Option Condition)
  | delete (table : Text) (condition : Option Condition)
  | showIndex (table : Text)

def dotted (table column : Text) : Text := ⟨table.points ++ .char '.' :: column.points⟩

namespace Condition

def words (c : Condition) : List Text := ["WHERE", c.column, "=", c.value]

def isClean (c : Condition) : Bool := Query.isClean c.column && Query.isClean c.value

/-- The filter of a condition, whose value is read in one way or another. -/
def filter (read : Option Text → Result Value) (c : Condition) : Result Filter := do
  return ⟨some c.column, ← read (some c.value)⟩

end Condition

namespace Pairing

def words (p : Pairing) : List Text :=
  ["JOIN", p.table, "ON", dotted p.leftTable p.leftColumn, "=",
    dotted p.rightTable p.rightColumn]

/-- The parts of a reference have no dots of their own. -/
def isClean (p : Pairing) : Bool :=
  Query.isClean p.table &&
    [p.leftTable, p.leftColumn, p.rightTable, p.rightColumn].all fun part =>
      Query.isClean part && !part.points.contains (.char '.')

def join (p : Pairing) : Join :=
  ⟨some p.table, p.leftTable, some p.leftColumn, p.rightTable, some p.rightColumn⟩

end Pairing

namespace Statement

/-- How a statement is written in words. The word at its start may be in any case, and so may those
that ask for indexes. -/
inductive Written : Statement → List Text → Prop where
  | select {kind : Text} (columns : List Text) (table : Text) (pairing : Option Pairing)
      (condition : Option Condition) : Text.upper kind = "SELECT" →
      Written (.select columns table pairing condition)
        (kind :: columns ++ ([("FROM" : Text), table] ++ pairing.elim [] Pairing.words ++
          condition.elim [] Condition.words))
  | update {kind : Text} (table column value : Text) (condition : Option Condition) :
      Text.upper kind = "UPDATE" →
      Written (.update table column value condition)
        ([kind, table, "SET", column, "=", value] ++ condition.elim [] Condition.words)
  | delete {kind : Text} (table : Text) (condition : Option Condition) :
      Text.upper kind = "DELETE" →
      Written (.delete table condition)
        ([kind, "FROM", table] ++ condition.elim [] Condition.words)
  | showIndex {kind index source : Text} (table : Text) : Text.upper kind = "SHOW" →
      Text.upper index = "INDEX" → Text.upper source = "FROM" →
      Written (.showIndex table) [kind, index, source, table]

/-- Whether all names and values of a statement are clean. Commas may stand among the columns that
it selects. -/
def isClean : Statement → Bool
  | .select columns table pairing condition =>
    columns.all (fun word => word == "," || Query.isClean word) && Query.isClean table &&
      pairing.all Pairing.isClean && condition.all Condition.isClean
  | .update table column value condition =>
    Query.isClean table && Query.isClean column && Query.isClean value &&
      condition.all Condition.isClean
  | .delete table condition => Query.isClean table && condition.all Condition.isClean
  | .showIndex table => Query.isClean table

/-- The words of a statement that are read as numbers if they are any. -/
def values : Statement → List Text
  | .select _ _ _ condition | .delete _ condition => (condition.map Condition.value).toList
  | .update _ _ value condition => value :: (condition.map Condition.value).toList
  | .showIndex _ => []

/-- The command that a statement stands for. The value of a condition stays a text where rows are
selected, and only there, if it is no number. -/
def command : Statement → Result Command
  | .select columns table pairing condition => do
    return .select (some table) columns (← condition.mapM (Condition.filter coerce))
      (pairing.map Pairing.join)
  | .update table column value condition => do
    return .update (some table) (some column) (← coerce (some value))
      (← condition.mapM (Condition.filter toNumber))
  | .delete table condition => do
    return .delete (some table) (← condition.mapM (Condition.filter toNumber))
  | .showIndex table => .ok (.showIndex (some table))

end Statement

/-! Plain words. -/

theorem isPlain_iff {word : Text} : isPlain word ↔ word.points ≠ [] ∧
    (∀ p ∈ word.points, isInner p) ∧ word.points.head? ≠ some (.char '"') ∧
      word.points.getLast? ≠ some (.char '"') := by
  simp [isPlain, Text.isEmpty, and_assoc]

theorem unquoted_of_isPlain {word : Text} (plain : isPlain word) :
    unquoted word.points = word.points := by
  have kept {ps : List Point} (bare : ps.head? ≠ some (.char '"')) : dropQuote ps = ps := by
    unfold dropQuote
    split
    · simp at bare
    · rfl
  obtain ⟨-, -, first, last⟩ := isPlain_iff.mp plain
  rw [unquoted, kept first, kept (by simpa using last), List.reverse_reverse]

/-- Plain words and marks are read as they stand, whatever blanks are between them. -/
theorem tokenize_of_plain {words : List Text} {query : Text} (present : words ≠ [])
    (plain : ∀ word ∈ words, isMark word.points ∨ isPlain word)
    (laid : Layout (words.map Text.points) query.points) : tokenize (some query) = .ok words := by
  refine tokenize_of_layout present laid (fun word member => ?_) fun word member => ?_
  · rcases plain word member with mark | plain
    · refine ⟨.inl mark, fun empty => ?_⟩
      simp [empty, isMark] at mark
    · obtain ⟨filled, inner, -⟩ := isPlain_iff.mp plain
      exact ⟨.inr inner, filled⟩
  · rcases plain word member with mark | plain
    · exact unquoted_of_isMark mark
    · exact unquoted_of_isPlain plain

theorem capitalPoint_of_outer {p : Point} (outer : isInner p = false) :
    Text.capitalPoint p = [p] := by
  cases p with
  | half h => rfl
  | char c =>
    cases blank : Text.isBlank c with
    | true => rw [Text.capitalPoint, Text.capital_of_isBlank blank, List.map_singleton]
    | false =>
      have known : c = '(' ∨ c = ')' ∨ c = ',' ∨ c = ';' := by
        simpa [isInner, Text.isBlankPoint, Point.char?, blank, isDelimiter,
          Decidable.or_iff_not_imp_left] using outer
      rcases known with rfl | rfl | rfl | rfl <;> decide

theorem isPlain_of_upper {word keyword : Text} (upper : Text.upper word = keyword)
    (letters : keyword ≠ "" ∧ ∀ p ∈ keyword.points, isInner p ∧ p ≠ .char '"') :
    isPlain word := by
  -- Points that cannot stand in a word are their own capitals, so the keyword would have them too.
  subst upper
  have noQuote : .char '"' ∉ word.points := fun member =>
    (letters.2 _ (Text.mem_upper member (by decide))).2 rfl
  refine isPlain_iff.mpr ⟨fun empty => letters.1 ?_, fun p member => ?_, fun first => ?_,
    fun last => ?_⟩
  · rw [Text.upper, empty]
    rfl
  · cases inner : isInner p with
    | true => rfl
    | false =>
      have kept := letters.2 _ (Text.mem_upper member (capitalPoint_of_outer inner))
      rw [inner] at kept
      exact kept.1
  · exact noQuote (List.mem_of_mem_head? first)
  · exact noQuote (List.mem_of_mem_getLast? last)

/-! Clean words, which are no anchors. -/

theorem isClean_iff {word : Text} : isClean word ↔ isPlain word ∧ word ∉ anchors := by
  simp [isClean]

theorem isPlain_dotted {table column : Text} (left : isPlain table) (right : isPlain column) :
    isPlain (dotted table column) := by
  obtain ⟨leftFilled, leftInner, first, -⟩ := isPlain_iff.mp left
  obtain ⟨rightFilled, rightInner, -, last⟩ := isPlain_iff.mp right
  refine isPlain_iff.mpr ⟨by simp [dotted], fun p member => ?_, ?_, ?_⟩
  · simp only [dotted, List.mem_append, List.mem_cons] at member
    rcases member with member | rfl | member
    · exact leftInner p member
    · rfl
    · exact rightInner p member
  · obtain ⟨p, ps, filled⟩ := List.exists_cons_of_ne_nil leftFilled
    rw [filled] at first
    simpa [dotted, filled] using first
  · obtain ⟨p, ps, filled⟩ := List.exists_cons_of_ne_nil rightFilled
    rw [filled] at last
    simpa [dotted, filled] using last

theorem dotted_not_mem_anchors (table column : Text) : dotted table column ∉ anchors := by
  have noDot : ∀ anchor ∈ anchors, .char '.' ∉ anchor.points := by decide
  exact fun member => noDot _ member (by simp [dotted])

theorem not_mem_anchors_of_upper {word keyword : Text} (upper : Text.upper word = keyword)
    (apart : keyword ∉ anchors.map Text.upper) : word ∉ anchors :=
  fun member => apart (List.mem_map.mpr ⟨word, member, upper⟩)

theorem not_mem_anchors_iff {word : Text} : word ∉ anchors ↔
    word ≠ "FROM" ∧ word ≠ "JOIN" ∧ word ≠ "WHERE" ∧ word ≠ "SET" := by
  simp [anchors]

theorem ne_of_not_mem_anchors {anchor word : Text} (free : word ∉ anchors)
    (known : anchor ∈ anchors) : anchor ≠ word :=
  fun same => free (same ▸ known)

theorem reference_dotted {table column : Text} (left : .char '.' ∉ table.points)
    (right : .char '.' ∉ column.points) :
    reference (some (dotted table column)) = .ok (table, some column) := by
  rw [reference, dotted]
  simp only [Text.parts_append, Text.parts_of_not_mem left, Text.parts_of_not_mem right]
  rfl

/-! Clauses of statements behind other words. -/

theorem filter_append (read : Option Text → Result Value) {front : List Text}
    (absent : ("WHERE" : Text) ∉ front) (condition : Option Condition) :
    Query.filter read (front ++ condition.elim [] Condition.words) =
      condition.mapM (Condition.filter read) := by
  cases condition with
  | none =>
    rw [Query.filter, Option.elim_none, List.append_nil, behind_of_not_mem absent]
    rfl
  | some c =>
    rw [Query.filter, Option.elim_some, Condition.words, behind_append absent]
    change (do return some ⟨some c.column, ← read (some c.value)⟩) =
      some <$> (do return ⟨some c.column, ← read (some c.value)⟩ : Result Filter)
    cases read (some c.value) <;> rfl

theorem join_append {front rest : List Text} (absent : ("JOIN" : Text) ∉ front)
    (later : ("JOIN" : Text) ∉ rest) {pairing : Option Pairing}
    (clean : pairing.all Pairing.isClean) :
    Query.join (front ++ pairing.elim [] Pairing.words ++ rest) =
      .ok (pairing.map Pairing.join) := by
  cases pairing with
  | none =>
    rw [Query.join, Option.elim_none, List.append_nil,
      behind_of_not_mem (by simpa using ⟨absent, later⟩)]
    rfl
  | some p =>
    simp only [Option.all_some, Pairing.isClean, List.all_cons, List.all_nil, Bool.and_true,
      Bool.and_eq_true, Bool.not_eq_true', List.contains_eq_mem, decide_eq_false_iff_not] at clean
    obtain ⟨-, ⟨-, a⟩, ⟨-, b⟩, ⟨-, c⟩, -, d⟩ := clean
    rw [Query.join, Option.elim_some, Pairing.words, List.append_assoc, List.cons_append,
      behind_append absent]
    simp [reference_dotted a b, reference_dotted c d, bind, Except.bind, pure, Except.pure]
    rfl

theorem Condition.isPlain_of_mem {condition : Option Condition}
    (clean : condition.all Condition.isClean) :
    ∀ word ∈ condition.elim [] Condition.words, isPlain word := by
  cases condition with
  | none => simp
  | some c =>
    simp only [Option.all_some, Condition.isClean, Bool.and_eq_true, isClean_iff] at clean
    simp only [Option.elim_some, Condition.words, List.forall_mem_cons]
    exact ⟨by decide, clean.1.1, by decide, clean.2.1, by simp⟩

theorem Pairing.isPlain_of_mem {pairing : Option Pairing} (clean : pairing.all Pairing.isClean) :
    ∀ word ∈ pairing.elim [] Pairing.words, isPlain word := by
  cases pairing with
  | none => simp
  | some p =>
    simp only [Option.all_some, Pairing.isClean, List.all_cons, List.all_nil, Bool.and_true,
      Bool.and_eq_true, isClean_iff] at clean
    obtain ⟨⟨table, -⟩, ⟨⟨a, -⟩, -⟩, ⟨⟨b, -⟩, -⟩, ⟨⟨c, -⟩, -⟩, ⟨d, -⟩, -⟩ := clean
    simp only [Option.elim_some, Pairing.words, List.forall_mem_cons]
    exact ⟨by decide, table, by decide, isPlain_dotted a b, by decide, isPlain_dotted c d, by simp⟩

theorem Condition.not_mem_words {condition : Option Condition}
    (clean : condition.all Condition.isClean) {anchor : Text} (known : anchor ∈ anchors)
    (other : anchor ≠ "WHERE") : anchor ∉ condition.elim [] Condition.words := by
  cases condition with
  | none => simp
  | some c =>
    simp only [Option.all_some, Condition.isClean, Bool.and_eq_true, isClean_iff] at clean
    have apart {word : Text} (free : word ∉ anchors) := ne_of_not_mem_anchors free known
    simp [Condition.words, other, apart clean.1.2, apart clean.2.2,
      apart (show ("=" : Text) ∉ anchors by decide)]

theorem Pairing.not_mem_words {pairing : Option Pairing} (clean : pairing.all Pairing.isClean)
    {anchor : Text} (known : anchor ∈ anchors) (other : anchor ≠ "JOIN") :
    anchor ∉ pairing.elim [] Pairing.words := by
  cases pairing with
  | none => simp
  | some p =>
    simp only [Option.all_some, Pairing.isClean, Bool.and_eq_true, isClean_iff] at clean
    have apart {word : Text} (free : word ∉ anchors) := ne_of_not_mem_anchors free known
    simp [Pairing.words, other, apart clean.1.2, apart (dotted_not_mem_anchors _ _),
      apart (show ("ON" : Text) ∉ anchors by decide),
      apart (show ("=" : Text) ∉ anchors by decide)]

namespace Statement

variable {statement : Statement} {words : List Text}

theorem Written.plain (written : Written statement words) (clean : statement.isClean) :
    ∀ word ∈ words, isMark word.points ∨ isPlain word := by
  cases written with
  | select columns table pairing condition kind =>
    simp only [isClean, Bool.and_eq_true, List.all_eq_true, Bool.or_eq_true, beq_iff_eq,
      isClean_iff] at clean
    obtain ⟨⟨⟨named, source⟩, paired⟩, conditioned⟩ := clean
    simp only [List.forall_mem_append, List.forall_mem_cons]
    refine ⟨⟨.inr (isPlain_of_upper kind (by decide)), fun word member => ?_⟩,
      ⟨⟨.inr (by decide), .inr source.1, by simp⟩,
        fun word member => .inr (Pairing.isPlain_of_mem paired word member)⟩,
      fun word member => .inr (Condition.isPlain_of_mem conditioned word member)⟩
    rcases named word member with rfl | clean
    · exact .inl rfl
    · exact .inr clean.1
  | update table column value condition kind =>
    simp only [isClean, Bool.and_eq_true, isClean_iff] at clean
    obtain ⟨⟨⟨target, column⟩, value⟩, conditioned⟩ := clean
    simp only [List.forall_mem_append, List.forall_mem_cons]
    exact ⟨⟨.inr (isPlain_of_upper kind (by decide)), .inr target.1, .inr (by decide),
      .inr column.1, .inr (by decide), .inr value.1, by simp⟩,
      fun word member => .inr (Condition.isPlain_of_mem conditioned word member)⟩
  | delete table condition kind =>
    simp only [isClean, Bool.and_eq_true, isClean_iff] at clean
    obtain ⟨source, conditioned⟩ := clean
    simp only [List.forall_mem_append, List.forall_mem_cons]
    exact ⟨⟨.inr (isPlain_of_upper kind (by decide)), .inr (by decide), .inr source.1, by simp⟩,
      fun word member => .inr (Condition.isPlain_of_mem conditioned word member)⟩
  | showIndex table kind index source =>
    simp only [isClean, isClean_iff] at clean
    simp only [List.forall_mem_cons]
    exact ⟨.inr (isPlain_of_upper kind (by decide)), .inr (isPlain_of_upper index (by decide)),
      .inr (isPlain_of_upper source (by decide)), .inr clean.1, by simp⟩

theorem select_words {kind table : Text} {columns : List Text} {pairing : Option Pairing}
    {condition : Option Condition} (absent : ∀ anchor ∈ anchors, anchor ∉ kind :: columns)
    (source : table ∉ anchors) (paired : pairing.all Pairing.isClean)
    (conditioned : condition.all Condition.isClean) :
    Query.select (kind :: columns ++ ([("FROM" : Text), table] ++
      pairing.elim [] Pairing.words ++ condition.elim [] Condition.words)) =
      (Statement.select columns table pairing condition).command := by
  have apart : ∀ anchor ∈ anchors, anchor ≠ "FROM" →
      anchor ∉ kind :: columns ++ [("FROM" : Text), table] := by
    intro anchor known other
    have others : anchor ∉ [("FROM" : Text), table] := by
      simpa using ⟨other, ne_of_not_mem_anchors source known⟩
    rw [List.mem_append, not_or]
    exact ⟨absent anchor known, others⟩
  have unnamed := absent "FROM" (by decide)
  have unfiltered : ("WHERE" : Text) ∉
      kind :: columns ++ [("FROM" : Text), table] ++ pairing.elim [] Pairing.words := by
    rw [List.mem_append, not_or]
    exact ⟨apart "WHERE" (by decide) (by decide),
      Pairing.not_mem_words paired (by decide) (by decide)⟩
  have found := behind_append unnamed
    (table :: (pairing.elim [] Pairing.words ++ condition.elim [] Condition.words))
  have named := takeWhile_append unnamed
    (table :: (pairing.elim [] Pairing.words ++ condition.elim [] Condition.words))
  have joined := join_append (apart "JOIN" (by decide) (by decide))
    (Condition.not_mem_words conditioned (by decide) (by decide)) paired
  have filtered := filter_append coerce unfiltered condition
  simp only [List.append_assoc, List.cons_append, List.nil_append] at found named joined filtered ⊢
  simp only [Query.select, require, found, named, joined, filtered, bind, Except.bind]
  rfl

/-- The words of a statement are read as its command. -/
theorem Written.route (written : Written statement words) (clean : statement.isClean) :
    Query.route words = statement.command := by
  cases written with
  | @select start columns table pairing condition kind =>
    simp only [isClean, Bool.and_eq_true, List.all_eq_true, Bool.or_eq_true, beq_iff_eq,
      isClean_iff] at clean
    obtain ⟨⟨⟨named, source⟩, paired⟩, conditioned⟩ := clean
    have absent : ∀ anchor ∈ anchors, anchor ∉ start :: columns := by
      intro anchor known member
      rcases List.mem_cons.mp member with rfl | member
      · exact not_mem_anchors_of_upper kind (by decide) known
      · rcases named anchor member with rfl | clean
        · exact absurd known (by decide)
        · exact clean.2 known
    rw [← select_words absent source.2 paired conditioned, List.cons_append, Query.route,
      List.head?_cons, Option.getD_some, kind]
    rfl
  | @update start table column value condition kind =>
    simp only [isClean, Bool.and_eq_true, isClean_iff] at clean
    obtain ⟨⟨⟨target, assigned⟩, given⟩, conditioned⟩ := clean
    have free := not_mem_anchors_of_upper kind (by decide)
    -- The assignment is found behind the name of the table, and the condition behind its value.
    have named : ("SET" : Text) ∉ [start, table] := by
      simp only [List.mem_cons, List.not_mem_nil, or_false, not_or]
      exact ⟨ne_of_not_mem_anchors free (by decide), ne_of_not_mem_anchors target.2 (by decide)⟩
    have absent : ("WHERE" : Text) ∉ [start, table, "SET", column, "=", value] := by
      simp only [List.mem_cons, List.not_mem_nil, or_false, not_or]
      exact ⟨ne_of_not_mem_anchors free (by decide), ne_of_not_mem_anchors target.2 (by decide),
        by decide, ne_of_not_mem_anchors assigned.2 (by decide), by decide,
        ne_of_not_mem_anchors given.2 (by decide)⟩
    have found := behind_append named
      (column :: "=" :: value :: condition.elim [] Condition.words)
    have filtered := filter_append toNumber absent condition
    simp only [List.cons_append, List.nil_append] at found filtered ⊢
    rw [Query.route, List.head?_cons, Option.getD_some, kind]
    change Query.update _ = _
    simp only [Query.update, require, found, filtered]
    rfl
  | @delete start table condition kind =>
    simp only [isClean, Bool.and_eq_true, isClean_iff] at clean
    obtain ⟨source, conditioned⟩ := clean
    have free := not_mem_anchors_of_upper kind (by decide)
    have absent : ("WHERE" : Text) ∉ [start, "FROM", table] := by
      simp only [List.mem_cons, List.not_mem_nil, or_false, not_or]
      exact ⟨ne_of_not_mem_anchors free (by decide), by decide,
        ne_of_not_mem_anchors source.2 (by decide)⟩
    have filtered := filter_append toNumber absent condition
    simp only [List.cons_append, List.nil_append] at filtered ⊢
    rw [Query.route, List.head?_cons, Option.getD_some, kind]
    change Query.delete _ = _
    simp only [Query.delete, filtered]
    rfl
  | showIndex table kind index source =>
    rw [Query.route, List.head?_cons, Option.getD_some, kind]
    change Query.showIndex _ = _
    simp [Query.showIndex, index, source, command]

theorem exists_filter {read : Option Text → Result Value} {condition : Option Condition}
    (reads : ∀ word ∈ condition.map Condition.value, ∃ v, read (some word) = .ok v ∧ v.printable) :
    ∃ filter, condition.mapM (Condition.filter read) = .ok filter ∧
      ∀ v ∈ filter.map Filter.value, v.printable := by
  cases condition with
  | none => exact ⟨none, rfl, by simp⟩
  | some c =>
    obtain ⟨v, made, printable⟩ := reads c.value rfl
    refine ⟨some ⟨some c.column, v⟩, ?_, by simpa using printable⟩
    rw [Option.mapM_some, Condition.filter, made]
    rfl

/-- A statement whose values are not too long stands for a command. -/
theorem exists_command (short : ∀ word ∈ statement.values, isOverlong word = false) :
    ∃ command, statement.command = .ok command ∧ command.printable := by
  cases statement with
  | select columns table pairing condition =>
    have reads : ∀ word ∈ condition.map Condition.value,
        ∃ v, coerce (some word) = .ok v ∧ v.printable := fun word member =>
      exists_coerce (short word (Option.mem_toList.mpr member))
    obtain ⟨filter, made, printable⟩ := exists_filter reads
    refine ⟨.select (some table) columns filter (pairing.map Pairing.join), ?_, ?_⟩
    · rw [command, made]
      rfl
    · simpa [Command.printable, Command.values] using printable
  | update table column value condition =>
    obtain ⟨v, given, printable⟩ := exists_coerce (short value (by simp [values]))
    have reads : ∀ word ∈ condition.map Condition.value,
        ∃ v, toNumber (some word) = .ok v ∧ v.printable := fun word member =>
      exists_toNumber (short word (List.mem_cons_of_mem _ (Option.mem_toList.mpr member)))
    obtain ⟨filter, made, others⟩ := exists_filter reads
    refine ⟨.update (some table) (some column) v filter, ?_, ?_⟩
    · rw [command, given, made]
      rfl
    · simpa [Command.printable, Command.values, printable] using others
  | delete table condition =>
    have reads : ∀ word ∈ condition.map Condition.value,
        ∃ v, toNumber (some word) = .ok v ∧ v.printable := fun word member =>
      exists_toNumber (short word (Option.mem_toList.mpr member))
    obtain ⟨filter, made, printable⟩ := exists_filter reads
    refine ⟨.delete (some table) filter, ?_, ?_⟩
    · rw [command, made]
      rfl
    · simpa [Command.printable, Command.values] using printable
  | showIndex table => exact ⟨.showIndex (some table), rfl, rfl⟩

/-- A query that is laid out from the words of a statement is read as its command. -/
theorem parseText_of_layout {query : Text} (clean : statement.isClean)
    (short : ∀ word ∈ statement.values, isOverlong word = false)
    (written : Written statement words) (laid : Layout (words.map Text.points) query.points) :
    ∃ command, statement.command = .ok command ∧ parseText (some query) = .ok command := by
  obtain ⟨command, made, printable⟩ := exists_command short
  have present : words ≠ [] := by cases written <;> simp
  have cut := tokenize_of_plain present (written.plain clean) laid
  have routed := (written.route clean).trans made
  refine ⟨command, made, ?_⟩
  simp only [parseText, cut, parse, routed, bind, Except.bind, printable, ↓reduceIte]
  rfl

theorem parseText_of_joined_select :
    parseText (some "select a, b FROM t JOIN u ON t.x = u.y WHERE b = +31") =
      .ok (.select (some "t") ["a", ",", "b"] (some ⟨some "b", .int 31⟩)
        (some ⟨some "u", "t", some "x", "u", some "y"⟩)) := by
  have written := @Written.select "select" ["a", ",", "b"] "t"
    (some ⟨"u", "t", "x", "u", "y"⟩) (some ⟨"b", "+31"⟩) (by decide)
  have laid : Layout
      ((["select", "a", ",", "b", "FROM", "t", "JOIN", "u", "ON", "t.x", "=", "u.y", "WHERE", "b",
        "=", "+31"] : List Text).map Text.points)
      ("select a, b FROM t JOIN u ON t.x = u.y WHERE b = +31" : Text).points :=
    .piece (.inr rfl) <| .blank rfl <| .piece (.inr rfl) <| .piece (.inl rfl) <| .blank rfl <|
      .piece (.inr rfl) <| .blank rfl <| .piece (.inr rfl) <| .blank rfl <| .piece (.inr rfl) <|
      .blank rfl <| .piece (.inr rfl) <| .blank rfl <| .piece (.inr rfl) <| .blank rfl <|
      .piece (.inr rfl) <| .blank rfl <| .piece (.inr rfl) <| .blank rfl <| .piece (.inr rfl) <|
      .blank rfl <| .piece (.inr rfl) <| .blank rfl <| .piece (.inr rfl) <| .blank rfl <|
      .piece (.inr rfl) <| .blank rfl <| .piece (.inr rfl) <| .blank rfl <| .piece (.inr rfl) .nil
  obtain ⟨command, made, read⟩ := parseText_of_layout (by decide) (by decide) written laid
  rw [read, ← made]
  rfl

end Statement

end Query
end RowStore
