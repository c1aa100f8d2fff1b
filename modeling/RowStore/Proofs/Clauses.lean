import RowStore.Proofs.Statements

/-! Statements in words that need not be clean. The parts of a command are found by the first
occurrence of each anchor, so a word can be anything as long as it does not stand in front of an
anchor that it equals, and a list of values can hold anything but what closes it. -/
namespace RowStore.Query

section statements

variable {table column value : Text} {condition : Option Condition}

theorem route_select (source : table ≠ "JOIN" ∧ table ≠ "WHERE")
    (conditioned : ∀ c ∈ condition, c.column ≠ "JOIN" ∧ c.value ≠ "JOIN") :
    route ("SELECT" :: "*" :: "FROM" :: table :: condition.elim [] Condition.words) =
      (Statement.select ["*"] table none condition).command := by
  have single : ("JOIN" : Text) ∉ condition.elim [] Condition.words := by
    cases condition with
    | none => simp
    | some c =>
      obtain ⟨left, right⟩ := conditioned c rfl
      have others : ("JOIN" : Text) ≠ "WHERE" ∧ ("JOIN" : Text) ≠ "=" := by decide
      simp [Condition.words, left.symm, right.symm, others]
  have joined : join ("SELECT" :: "*" :: "FROM" :: table :: condition.elim [] Condition.words) =
      .ok none := by
    have others : ("JOIN" : Text) ≠ "SELECT" ∧ ("JOIN" : Text) ≠ "*" ∧
        ("JOIN" : Text) ≠ "FROM" := by decide
    rw [join, behind_of_not_mem (by simp [others, source.1.symm, single])]
    rfl
  have front : ("WHERE" : Text) ∉ (["SELECT", "*", "FROM", table] : List Text) := by
    have others : ("WHERE" : Text) ≠ "SELECT" ∧ ("WHERE" : Text) ≠ "*" ∧
        ("WHERE" : Text) ≠ "FROM" := by decide
    simp [others, source.2.symm]
  have filtered : filter coerce _ = _ := filter_append coerce front condition
  have found := @behind_append "FROM" ["SELECT", "*"] (by decide)
    (table :: condition.elim [] Condition.words)
  simp only [List.cons_append, List.nil_append] at found filtered
  change Query.select _ = _
  simp only [Query.select, require, found, joined, filtered]
  rfl

theorem route_update (target : table ≠ "SET" ∧ table ≠ "WHERE")
    (assigned : column ≠ "WHERE" ∧ value ≠ "WHERE") :
    route ("UPDATE" :: table :: "SET" :: column :: "=" :: value ::
      condition.elim [] Condition.words) =
        (Statement.update table column value condition).command := by
  have named : ("SET" : Text) ∉ (["UPDATE", table] : List Text) := by
    have other : ("SET" : Text) ≠ "UPDATE" := by decide
    simp [other, target.1.symm]
  have front : ("WHERE" : Text) ∉ (["UPDATE", table, "SET", column, "=", value] : List Text) := by
    have others : ("WHERE" : Text) ≠ "UPDATE" ∧ ("WHERE" : Text) ≠ "SET" ∧
        ("WHERE" : Text) ≠ "=" := by decide
    simp [others, target.2.symm, assigned.1.symm, assigned.2.symm]
  have found := behind_append named (column :: "=" :: value :: condition.elim [] Condition.words)
  have filtered := filter_append toNumber front condition
  simp only [List.cons_append, List.nil_append] at found filtered
  change Query.update _ = _
  simp only [Query.update, require, found, filtered]
  rfl

theorem route_delete (source : table ≠ "WHERE") :
    route ("DELETE" :: "FROM" :: table :: condition.elim [] Condition.words) =
      (Statement.delete table condition).command := by
  have front : ("WHERE" : Text) ∉ (["DELETE", "FROM", table] : List Text) := by
    have others : ("WHERE" : Text) ≠ "DELETE" ∧ ("WHERE" : Text) ≠ "FROM" := by decide
    simp [others, source.symm]
  have filtered := filter_append toNumber front condition
  simp only [List.cons_append, List.nil_append] at filtered
  change Query.delete _ = _
  simp only [Query.delete, filtered]
  rfl

theorem parse_of_route {words : List Text} {command : Command} (routed : route words = .ok command)
    (printable : command.printable) : parse words = .ok command := by
  simp only [parse, routed, bind, Except.bind, printable, ↓reduceIte]
  rfl

theorem parseText_of_words {query : Text} {words : List Text} {result : Result Command}
    (cut : tokenize (some query) = .ok words) (parsed : parse words = result) :
    parseText (some query) = result := by
  rw [← parsed, parseText, cut]
  rfl

theorem parse_listing (source : table ≠ "JOIN" ∧ table ≠ "WHERE") :
    parse ["SELECT", "*", "FROM", table] = .ok (.select (some table) ["*"] none none) :=
  parse_of_route (@route_select table none source (by simp)) rfl

theorem parse_indexListing (table : Text) :
    parse ["SHOW", "INDEX", "FROM", table] = .ok (.showIndex (some table)) :=
  parse_of_route rfl rfl

theorem parse_search (source : table ≠ "JOIN" ∧ table ≠ "WHERE")
    (conditioned : column ≠ "JOIN" ∧ value ≠ "JOIN") {cell : Value}
    (read : coerce (some value) = .ok cell) (printable : cell.printable) :
    parse ["SELECT", "*", "FROM", table, "WHERE", column, "=", value] =
      .ok (.select (some table) ["*"] (some ⟨some column, cell⟩) none) := by
  refine parse_of_route ((@route_select table (some ⟨column, value⟩) source
    (by simpa using conditioned)).trans ?_) (by simpa [Command.printable, Command.values])
  rw [Statement.command, Option.mapM_some, Condition.filter, read]
  rfl

theorem parse_deletion (source : table ≠ "WHERE") {number : Value}
    (read : toNumber (some value) = .ok number) (printable : number.printable) :
    parse ["DELETE", "FROM", table, "WHERE", column, "=", value] =
      .ok (.delete (some table) (some ⟨some column, number⟩)) := by
  refine parse_of_route ((@route_delete table (some ⟨column, value⟩) source).trans ?_)
    (by simpa [Command.printable, Command.values])
  rw [Statement.command, Option.mapM_some, Condition.filter, read]
  rfl

theorem parse_assignment {target assigned : Text} (source : table ≠ "SET" ∧ table ≠ "WHERE")
    (free : target ≠ "WHERE" ∧ assigned ≠ "WHERE") {cell number : Value}
    (given : coerce (some assigned) = .ok cell) (read : toNumber (some value) = .ok number)
    (printable : cell.printable ∧ number.printable) :
    parse ["UPDATE", table, "SET", target, "=", assigned, "WHERE", column, "=", value] =
      .ok (.update (some table) (some target) cell (some ⟨some column, number⟩)) := by
  have routed := @route_update table target assigned (some ⟨column, value⟩) source free
  refine parse_of_route (routed.trans ?_)
    (by simpa [Command.printable, Command.values] using printable)
  rw [Statement.command, given, Option.mapM_some, Condition.filter, read]
  rfl

/-- An anchor of conditions in the place of a value is still found, with nothing behind it. -/
theorem parse_assignment_of_anchor (source : table ≠ "SET" ∧ table ≠ "WHERE")
    (set : column ≠ "WHERE") {cell : Value} (given : coerce (some "WHERE") = .ok cell)
    (printable : cell.printable) :
    parse ["UPDATE", table, "SET", column, "=", "WHERE"] =
      .ok (.update (some table) (some column) cell (some ⟨none, .float (.nan .query)⟩)) := by
  have named : ("SET" : Text) ∉ (["UPDATE", table] : List Text) := by
    have other : ("SET" : Text) ≠ "UPDATE" := by decide
    simp [other, source.1.symm]
  have front : ("WHERE" : Text) ∉ (["UPDATE", table, "SET", column, "="] : List Text) := by
    have others : ("WHERE" : Text) ≠ "UPDATE" ∧ ("WHERE" : Text) ≠ "SET" ∧
        ("WHERE" : Text) ≠ "=" := by decide
    simp [others, source.2.symm, set.symm]
  have assigned := behind_append named [column, "=", "WHERE"]
  have ends := behind_append front []
  simp only [List.cons_append, List.nil_append] at assigned ends
  refine parse_of_route ?_
    (by simpa [Command.printable, Command.values, Value.printable] using printable)
  change Query.update _ = _
  simp only [Query.update, require, assigned, Query.filter, ends, bind, Except.bind, pure,
    Except.pure]
  simp only [List.getElem?_cons_succ, List.getElem?_cons_zero, given]
  rfl

end statements

section insertions

variable {table : Text} {values : List Text}

/-- What is read between the parentheses of an insertion. -/
def coerceAll (values : List Text) : Result (List Value) :=
  values.mapM fun word => coerce (some word)

theorem exists_coerceAll (short : ∀ word ∈ values, isOverlong word = false) :
    ∃ vs, coerceAll values = .ok vs ∧ ∀ v ∈ vs, v.printable := by
  obtain ⟨vs, read⟩ := exists_mapM_iff.mpr fun word member =>
    (exists_coerce (short word member)).imp fun _ both => both.1
  refine ⟨vs, read, fun v member => ?_⟩
  obtain ⟨word, there, made⟩ := mem_of_mapM read member
  exact Value.printable_of_isCell (isCell_of_coerce (short word there) made)

theorem valuesAfter_value {word : Text} (inside : word ≠ ")") (rest : List Text) :
    valuesAfter false (word :: rest) = (do
      let v ← coerce (some word)
      let vs ← valuesAfter true rest
      return v :: vs) := by
  simp [valuesAfter, inside]

/-- The words of a list that stand for values: each word but for one comma behind each value. -/
def items : List Text → List Text
  | [] => []
  | [value] => [value]
  | value :: word :: rest =>
    if word = "," then value :: items rest else value :: items (word :: rest)

theorem items_sublist (words : List Text) : (items words).Sublist words := by
  fun_induction items words with
  | case1 => exact .slnil
  | case2 value => exact .refl _
  | case3 value rest ih => exact .cons_cons value (.cons _ ih)
  | case4 value word rest other ih => exact .cons_cons value ih

/-- What stands in front of the first closing parenthesis is read item by item. -/
theorem valuesAfter_closed {inside : List Text} (opened : (")" : Text) ∉ inside)
    (rest : List Text) :
    valuesAfter false (inside ++ (")" : Text) :: rest) = coerceAll (items inside) := by
  fun_induction items inside with
  | case1 => rfl
  | case2 value =>
    have first : value ≠ ")" := fun same => opened (by simp [same])
    rw [List.singleton_append, valuesAfter_value first, coerceAll, List.mapM_cons]
    rfl
  | case3 value more ih =>
    have first : value ≠ ")" := fun same => opened (by simp [same])
    have comma (words : List Text) :
        valuesAfter true ("," :: words) = valuesAfter false words := rfl
    rw [List.cons_append, List.cons_append, valuesAfter_value first, comma,
      ih fun member => opened (by simp [member]), coerceAll, coerceAll, List.mapM_cons]
  | case4 value word more other ih =>
    have first : value ≠ ")" := fun same => opened (by simp [same])
    have noComma (words : List Text) :
        valuesAfter true (word :: words) = valuesAfter false (word :: words) := by
      simp [valuesAfter, other]
    rw [List.cons_append, List.cons_append, valuesAfter_value first, noComma, ← List.cons_append,
      ih fun member => opened (List.mem_cons_of_mem _ member), coerceAll, coerceAll,
      List.mapM_cons]

theorem items_intersperse (values : List Text) :
    items (values.intersperse ("," : Text)) = values := by
  induction values with
  | nil => rfl
  | cons value values ih =>
    cases values with
    | nil => rfl
    | cons second values => rw [List.intersperse_cons_cons, items, if_pos rfl, ih]

theorem not_mem_intersperse (inside : ∀ word ∈ values, word ≠ ")") :
    (")" : Text) ∉ values.intersperse ("," : Text) := by
  induction values with
  | nil => simp
  | cons value values ih =>
    obtain ⟨first, inside⟩ := List.forall_mem_cons.mp inside
    cases values with
    | nil => simpa using first.symm
    | cons second values =>
      rw [List.intersperse_cons_cons, List.mem_cons, List.mem_cons]
      rintro (rfl | comma | later)
      · exact first rfl
      · exact absurd comma (by decide)
      · exact ih inside later

theorem valuesAfter_intersperse (inside : ∀ word ∈ values, word ≠ ")") (rest : List Text) :
    valuesAfter false (values.intersperse ("," : Text) ++ (")" : Text) :: rest) =
      coerceAll values := by
  rw [valuesAfter_closed (not_mem_intersperse inside), items_intersperse]

theorem route_insert (target : table ≠ "(") (inside : ∀ word ∈ values, word ≠ ")") :
    route ("INSERT" :: "INTO" :: table :: "(" ::
      (values.intersperse ("," : Text) ++ [(")" : Text)])) = (do
        return .insert (some table) (← coerceAll values)) := by
  have front : ("(" : Text) ∉ (["INSERT", "INTO", table] : List Text) := by
    have others : ("(" : Text) ≠ "INSERT" ∧ ("(" : Text) ≠ "INTO" := by decide
    simp [others, target.symm]
  have found := behind_append front (values.intersperse ("," : Text) ++ [(")" : Text)])
  simp only [List.cons_append, List.nil_append] at found
  change Query.insert _ = _
  simp only [Query.insert, require, found, Query.values]
  rw [← valuesAfter_intersperse inside []]
  rfl

end insertions

end RowStore.Query
