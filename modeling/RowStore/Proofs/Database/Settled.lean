import RowStore.Proofs.Database.Shallow
import RowStore.Proofs.Words

/-! Databases whose texts are settled. Queries of characters alone bring no other texts, since each
word of a query is made of its points. -/
namespace RowStore

namespace Text

theorem mem_of_leadingWord (ps : List Point) :
    (∀ p ∈ (leadingWord ps).1, p ∈ ps) ∧ ∀ w ∈ (leadingWord ps).2, ∀ p ∈ w, p ∈ ps := by
  induction ps with
  | nil => simp [leadingWord]
  | cons p ps ih =>
    obtain ⟨first, others⟩ := ih
    unfold leadingWord
    dsimp only
    split
    · constructor
      · simp
      · intro w member q inside
        apply List.mem_cons_of_mem
        split at member
        · exact others w member q inside
        · rcases List.mem_cons.mp member with rfl | member
          · exact first q inside
          · exact others w member q inside
    · constructor
      · intro q member
        rcases List.mem_cons.mp member with rfl | member
        · exact List.mem_cons_self
        · exact List.mem_cons_of_mem _ (first q member)
      · intro w member q inside
        exact List.mem_cons_of_mem _ (others w member q inside)

theorem mem_of_mem_words {ps w : List Point} (member : w ∈ words ps) : ∀ p ∈ w, p ∈ ps := by
  obtain ⟨first, others⟩ := mem_of_leadingWord ps
  rcases mem_words member with rfl | member
  · exact first
  · exact others w member

end Text

namespace Query

theorem mem_of_spaced {ps : List Point} {p : Point} (member : p ∈ spaced ps) :
    p ∈ ps ∨ p = .char ' ' := by
  obtain ⟨q, there, inside⟩ := List.mem_flatMap.mp member
  unfold spacedPoint at inside
  split at inside
  · simp only [List.mem_cons, List.not_mem_nil, or_false] at inside
    rcases inside with rfl | rfl | rfl
    · exact .inr rfl
    · exact .inl there
    · exact .inr rfl
  · split at inside
    · simp at inside
    · rw [List.mem_singleton.mp inside]
      exact .inl there

theorem ofCharacters_of_mem_tokens {ps w : List Point} (plain : Text.ofCharacters ps)
    (member : w ∈ tokens ps) : Text.ofCharacters w := by
  obtain ⟨quoted, there, rfl⟩ := List.mem_map.mp member
  intro p inside
  rcases mem_of_spaced (Text.mem_of_mem_words there p (mem_of_unquoted inside)) with known | rfl
  · exact plain p known
  · rfl

theorem brings_settled {query : Text} {command : Command}
    (plain : Text.ofCharacters query.points) (read : parseText (some query) = .ok command) :
    command.Brings fun s => s.settled := by
  obtain ⟨words, found, parsed⟩ := bind_eq_ok.mp read
  refine parse_brings (fun w member => ?_) (by decide) parsed
  simp only [tokenize] at found
  split at found
  · simp [fail] at found
  · obtain rfl := Except.ok.inj found
    obtain ⟨ps, there, rfl⟩ := List.mem_map.mp member
    exact Text.apart_of_characters (ofCharacters_of_mem_tokens plain there)

end Query

theorem Value.IsCellOf.settled {v : Value} (cell : v.IsCellOf fun s => s.settled) : v.settled := by
  cases v with
  | text s => exact cell.2 s rfl
  | list | record => exact absurd (isScalar_of_isCell cell.1) (by simp [isScalar])
  | _ => rfl

namespace Table

variable {table : Table}

theorem insert_settled {after : Table} {values : List Value} {row : Row}
    (settled : table.record.settled) (cells : ∀ v ∈ values, v.settled)
    (done : table.insert values = .ok (after, row)) : after.record.settled := by
  obtain ⟨name, columns, rows⟩ := (record_settled_iff table).mp settled
  rcases insert_cases table values with ⟨e, failed⟩ | ⟨_, _, made⟩
  · simp [failed] at done
  · obtain ⟨rfl, -⟩ := Prod.mk.inj (Except.ok.inj (made.symm.trans done))
    rw [record_settled_iff, rows_appended]
    refine ⟨name, columns, List.forall_mem_append.mpr
      ⟨rows, List.forall_mem_singleton.mpr ?_⟩⟩
    rw [Value.settled_record]
    intro pair member
    obtain ⟨known, given⟩ := List.of_mem_zip (Fields.mem_ofPairs member)
    obtain ⟨c, there, same⟩ := List.mem_map.mp known
    exact ⟨same ▸ (columns c there).1, cells _ given⟩

theorem withSlots_settled (settled : table.record.settled) {slots : List Slot}
    (rows : ∀ row ∈ slots.map Slot.row, (Value.record row).settled) (deleted : List Slot) :
    (table.withSlots slots deleted).1.record.settled := by
  obtain ⟨name, columns, _⟩ := (record_settled_iff table).mp settled
  exact (record_settled_iff _).mpr ⟨name, columns, rows⟩

theorem update_settled {v : Value} (settled : table.record.settled) (cell : v.settled)
    (column : Option Text) (filter : Option Filter) :
    (table.update column v filter).1.record.settled := by
  obtain ⟨_, columns, rows⟩ := (record_settled_iff table).mp settled
  rcases update_cases table column v filter with ⟨e, failed⟩ | ⟨name, known, rfl, _, made⟩
  · rw [failed]
    exact settled
  · rw [made]
    refine withSlots_settled settled ?_ _
    rw [map_row_assignedSlot]
    intro row member
    obtain ⟨before, there, rfl⟩ := List.mem_map.mp member
    have kept := rows before there
    rw [Value.settled_record] at kept ⊢
    unfold assignedRow
    split
    · intro pair member
      rcases Fields.mem_put member with old | rfl
      · exact kept pair old
      · obtain ⟨c, there, same⟩ := List.mem_map.mp known
        exact ⟨same ▸ (columns c there).1, cell⟩
    · exact kept

theorem delete_settled (settled : table.record.settled) (filter : Option Filter) :
    (table.delete filter).1.record.settled := by
  obtain ⟨_, _, rows⟩ := (record_settled_iff table).mp settled
  rw [delete_eq]
  refine withSlots_settled settled (fun row member => rows row ?_) _
  exact (List.filter_sublist.map Slot.row).subset member

end Table

namespace Database

variable {db : Database}

theorem record_settled_iff (db : Database) :
    db.record.settled ↔ ∀ pair ∈ db.tables, pair.1.settled ∧ pair.2.record.settled := by
  rw [record, Value.settled_record, Fields.mapValues]
  exact List.forall_mem_map

theorem change_settled (settled : db.record.settled) {act : Table → Table × Result Unit}
    (keeps : ∀ table, table.record.settled → (act table).1.record.settled)
    (name : Option Text) : (db.change name act).1.record.settled := by
  unfold change
  split
  · exact settled
  · next key table found =>
    rw [record_settled_iff] at settled ⊢
    have member := Fields.mem_of_find? (named_eq_ok found).2
    intro pair there
    rcases Fields.mem_put there with old | rfl
    · exact settled pair old
    · exact ⟨(settled _ member).1, keeps table (settled _ member).2⟩

/-- A command that brings settled texts keeps a database settled. -/
theorem executeCommand_settled (settled : db.record.settled) {command : Command}
    (brings : command.Brings fun s => s.settled) :
    (db.executeCommand command).1.record.settled := by
  cases command with
  | createTable name columns =>
    simp only [executeCommand, create]
    split
    · exact settled
    · rw [record_settled_iff] at settled ⊢
      intro pair member
      rcases Fields.mem_put member with old | rfl
      · exact settled pair old
      · refine ⟨brings.1, (Table.record_settled_iff _).mpr
          ⟨by simpa [Table.new, Value.settled] using brings.1, fun c there => ?_, by simp⟩⟩
        obtain ⟨name, s, same, type⟩ := brings.2 c there
        exact ⟨name, by simpa [same, Value.settled] using type⟩
  | insert name values =>
    refine change_settled settled (fun table kept => ?_) name
    cases done : table.insert values with
    | error e => exact kept
    | ok pair => exact Table.insert_settled kept (fun v member => (brings v member).settled) done
  | select name columns filter join => exact settled
  | update name column v filter =>
    rw [executeCommand_update]
    exact change_settled settled (fun table kept =>
      Table.update_settled kept (Value.IsCellOf.settled brings) column filter) name
  | delete name filter =>
    rw [executeCommand_delete]
    exact change_settled settled (fun table kept => Table.delete_settled kept filter) name
  | showIndex name => exact settled

theorem execute_settled (settled : db.record.settled) {query : Text}
    (plain : Text.ofCharacters query.points) : (db.execute query).1.record.settled := by
  cases read : Query.parseText (some query) with
  | error e => simpa only [execute, read] using settled
  | ok command =>
    obtain ⟨store, left⟩ := db.exists_execute_on read
    rw [left]
    exact executeCommand_settled settled (Query.brings_settled plain read)

theorem run_settled (settled : db.record.settled) {queries : List Text}
    (plain : ∀ query ∈ queries, Text.ofCharacters query.points) :
    (db.run queries).record.settled := by
  induction queries generalizing db with
  | nil => exact settled
  | cons query rest ih =>
    obtain ⟨first, plain⟩ := List.forall_mem_cons.mp plain
    exact ih (execute_settled settled first) plain

theorem tablesOf_settled {snapshot : Fields Value} {refresh : Bool} {tables : Fields Table}
    (settled : ∀ pair ∈ snapshot, pair.1.settled ∧ pair.2.settled)
    (made : tablesOf snapshot refresh = .ok tables) :
    ∀ pair ∈ tables, pair.1.settled ∧ pair.2.record.settled := by
  induction snapshot generalizing tables with
  | nil =>
    obtain rfl := Except.ok.inj made
    simp
  | cons pair rest ih =>
    obtain ⟨name, v⟩ := pair
    obtain ⟨first, settled⟩ := List.forall_mem_cons.mp settled
    rw [tablesOf_cons] at made
    obtain ⟨table, read, made⟩ := bind_eq_ok.mp made
    obtain ⟨others, later, same⟩ := bind_eq_ok.mp made
    obtain rfl := Except.ok.inj same
    exact List.forall_mem_cons.mpr
      ⟨⟨first.1, Table.settled_of_ofValue first.2 read⟩, ih settled later⟩

theorem openOn_settled {memory : Memory} {refresh : Bool}
    (plain : ∀ text ∈ memory.blob, Text.ofCharacters text.points)
    (opened : openOn (.memory memory) refresh = .ok db) : db.record.settled := by
  rcases openOn_cases opened with ⟨_, rfl⟩ | ⟨snapshot, tables, loaded, made, rfl⟩
  · rw [record_settled_iff]
    simp
  · simp only [Store.load, Memory.load] at loaded
    split at loaded
    · simp at loaded
    · next text blob =>
      obtain ⟨fields, read, same⟩ := map_eq_ok.mp loaded
      obtain rfl := Option.some.inj same
      have settled := (Snapshot.decode_spec read).2 (plain text blob)
      rw [record_settled_iff]
      exact tablesOf_settled ((Value.settled_record fields).mp settled) made

end Database
end RowStore
