import RowStore.Proofs.Database.Joins
import RowStore.Proofs.Merging
import RowStore.QueryResult

/-! The rows of a join as a whole: their order, the names that all of them have, and where the
filter of the query can be applied. -/
namespace RowStore

/-- The names of rows joined from two tables: those of the left columns, then those that only the
right table has. -/
def Table.joinedNames (left right : Table) : List Text :=
  left.columnNames.eraseDups ++
    right.columnNames.eraseDups.filter fun name => name ∉ left.columnNames

namespace Table

variable {left right : Table} {l r row : Row}

theorem Sound.nodup_names (sound : right.Sound) (member : r ∈ right.rows) :
    (Fields.names r).Nodup := by
  rw [sound.names r member]
  exact Fields.nodup_eraseDups _

theorem Sound.not_mem_names (sound : right.Sound) (member : r ∈ right.rows) {column : Option Text}
    (lacks : ¬right.HasColumn column) : ∀ name, column = some name → name ∉ Fields.names r := by
  rintro name rfl known
  rw [sound.names r member, List.mem_eraseDups] at known
  exact lacks ⟨name, known, rfl⟩

theorem Sound.names_merged (soundLeft : left.Sound) (soundRight : right.Sound)
    (memberLeft : l ∈ left.rows) (memberRight : r ∈ right.rows) (merges : l.Merges r row) :
    Fields.names row = left.joinedNames right := by
  rw [merges.names, soundLeft.names l memberLeft, soundRight.names r memberRight, joinedNames]
  simp only [List.mem_eraseDups]

end Table

namespace Database

theorem executeCommand_join {db : Database} {name : Option Text} {left right : Table}
    {columns : List Text} {filter : Option Filter} {join : Join} (first : db.table name = .ok left)
    (second : db.table join.table = .ok right) :
    db.executeCommand (.select name columns filter (some join)) = (db, .ok (.rows
      (innerJoin (left.select filter) right.rows join.leftColumn join.rightColumn))) := by
  simp only [executeCommand, select, first, second, bind, Except.bind]
  rfl

/-- The rows of a join come in the order of the left rows and then of the right ones. All have the
joined names, so the names of the first one stand for all of them, and the values of the right row
where it has the name. A filter for a column that the right table does not have could as well be
applied to what is returned without it. -/
theorem Reachable.join_shape {refresh : Bool} {db : Database} (reachable : Reachable refresh db)
    {name : Option Text} {left right : Table} {join : Join} (first : db.table name = .ok left)
    (second : db.table join.table = .ok right) (columns : List Text) (filter : Option Filter) :
    ∃ rows, db.executeCommand (.select name columns filter (some join)) = (db, .ok (.rows rows)) ∧
      (∃ places, MergedAt (fun l r => passes filter l ∧
        (l.valueAt join.leftColumn).equal (r.valueAt join.rightColumn))
        left.rows right.rows places rows) ∧
      (∀ row ∈ rows, Fields.names row = left.joinedNames right ∧
        (QueryResult.ofAnswer (.rows rows)).columns = Fields.names row) ∧
      ∀ f, filter = some f → ¬right.HasColumn f.column → ∃ all,
        db.executeCommand (.select name columns none (some join)) = (db, .ok (.rows all)) ∧
          rows = all.filter f.accepts := by
  have valid := reachable.valid.1
  have soundLeft := valid.sound_of_table first
  have soundRight := valid.sound_of_table second
  have apart : ∀ r ∈ right.rows, (Fields.names r).Nodup :=
    fun r member => soundRight.nodup_names member
  obtain ⟨places, merged⟩ :=
    @exists_mergedAt left.rows right.rows join.leftColumn join.rightColumn (passes filter) apart
  have names : ∀ row ∈ innerJoin (left.select filter) right.rows join.leftColumn join.rightColumn,
      Fields.names row = left.joinedNames right := by
    intro row member
    obtain ⟨l, here, r, there, merges⟩ := merged.exists_of_mem member
    exact soundLeft.names_merged soundRight here there merges
  refine ⟨_, executeCommand_join first second, ⟨places, merged⟩, fun row member => ?_, ?_⟩
  · refine ⟨names row member, ?_⟩
    obtain ⟨head, rest, whole⟩ := List.exists_cons_of_ne_nil (List.ne_nil_of_mem member)
    rw [names row member, QueryResult.ofAnswer, whole]
    exact names head (whole ▸ List.mem_cons_self)
  · rintro f rfl lacks
    refine ⟨_, executeCommand_join first second, ?_⟩
    rw [Table.select_none]
    exact innerJoin_filter _ _ apart fun r member => soundRight.not_mem_names member lacks

/-- The tables share a name, and the filter asks for a column of the left one alone. -/
theorem join_shape_of_matched :
    let join : Join := ⟨"b", "a", "k", "b", "k"⟩
    let filter : Filter := ⟨some "x", .int 2⟩
    ∃ row all, matched.executeCommand (.select "a" [] (some filter) (some join)) =
        (matched, .ok (.rows [row])) ∧ Fields.names row = (["k", "x", "y"] : List Text) ∧
      matched.executeCommand (.select "a" [] none (some join)) = (matched, .ok (.rows all)) ∧
        all.filter filter.accepts = [row] := by
  intro join filter
  have reachable : Reachable true matched := (Reachable.opened (openOn_empty true)).run _
  obtain ⟨left, first⟩ : ∃ left, matched.table "a" = .ok left :=
    exists_ok_of_isSome (by decide +kernel)
  obtain ⟨right, second⟩ : ∃ right, matched.table "b" = .ok right :=
    exists_ok_of_isSome (by decide +kernel)
  have known : (matched.table "a").toOption.any fun left =>
      (matched.table "b").toOption.any fun right => decide (¬right.HasColumn "x" ∧
        left.joinedNames right = (["k", "x", "y"] : List Text)) := by decide +kernel
  obtain ⟨lacks, names⟩ : ¬right.HasColumn "x" ∧
      left.joinedNames right = (["k", "x", "y"] : List Text) := by
    simpa [first, second, Except.toOption] using known
  obtain ⟨rows, done, -, shape, pushed⟩ :=
    @Reachable.join_shape _ _ reachable _ _ _ join first second [] (some filter)
  obtain ⟨all, unfiltered, same⟩ := pushed filter rfl lacks
  obtain ⟨row, single⟩ : ∃ row, (matched.executeCommand
      (.select "a" [] (some filter) (some join))).2 = .ok (.rows [row]) :=
    exists_row (by decide +kernel)
  obtain rfl : rows = [row] := by simpa [done] using single
  exact ⟨row, all, done, (shape row List.mem_cons_self).1.trans names, unfiltered, same.symm⟩

end Database
end RowStore
