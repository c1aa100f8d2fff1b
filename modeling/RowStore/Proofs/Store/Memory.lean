import RowStore.Proofs.Json.RoundTrip
import RowStore.Proofs.Parts
import RowStore.Store

/-! Memories. What is saved in a memory is loaded again as it was, kind by kind and field by field,
and only a whole number with too many digits keeps a snapshot from being saved. -/
namespace RowStore

namespace Value

/-- Whether a value can be a part of a snapshot: its texts and the names of its fields are of
characters, and no record names a field twice. -/
structure Proper (v : Value) : Prop where
  texts : ∀ s, v.Holds (.text s) → Text.ofCharacters s.points
  fields : ∀ fields, v.Holds (.record fields) → (Fields.names fields).Nodup ∧
    ∀ name ∈ Fields.names fields, Text.ofCharacters name.points

theorem Proper.part {v part : Value} (proper : v.Proper)
    (inside : ∀ p, part.Holds p → v.Holds p) : part.Proper :=
  ⟨fun s held => proper.texts s (inside _ held),
    fun fields held => proper.fields fields (inside _ held)⟩

theorem proper_scalar {v : Value} (scalar : v.isScalar) :
    v.Proper ↔ ∀ s, v = .text s → Text.ofCharacters s.points := by
  constructor
  · rintro proper s rfl
    exact proper.texts s (.self _)
  · intro plain
    refine ⟨fun s held => plain s ((holds_scalar scalar _).mp held).symm, fun fields held => ?_⟩
    obtain rfl := (holds_scalar scalar _).mp held
    simp [isScalar] at scalar

theorem proper_list {items : List Value} : (list items).Proper ↔ ∀ x ∈ items, x.Proper := by
  constructor
  · intro proper x member
    exact proper.part fun _ held => .item member held
  · intro each
    refine ⟨fun s held => ?_, fun fields held => ?_⟩
    · obtain ⟨x, member, held⟩ := ((holds_list items _).mp held).resolve_left (by simp)
      exact (each x member).texts s held
    · obtain ⟨x, member, held⟩ := ((holds_list items _).mp held).resolve_left (by simp)
      exact (each x member).fields fields held

theorem proper_record {fields : Fields Value} :
    (record fields).Proper ↔ (Fields.names fields).Nodup ∧
      ∀ pair ∈ fields, Text.ofCharacters pair.1.points ∧ pair.2.Proper := by
  constructor
  · intro proper
    obtain ⟨distinct, plain⟩ := proper.fields fields (.self _)
    exact ⟨distinct, fun pair member => ⟨plain pair.1 (Fields.mem_names member),
      proper.part fun _ held => .field member held⟩⟩
  · rintro ⟨distinct, each⟩
    refine ⟨fun s held => ?_, fun others held => ?_⟩
    · obtain ⟨pair, member, held⟩ := ((holds_record fields _).mp held).resolve_left (by simp)
      exact (each pair member).2.texts s held
    · rcases (holds_record fields _).mp held with same | ⟨pair, member, held⟩
      · obtain rfl := Value.record.inj same
        refine ⟨distinct, fun name known => ?_⟩
        obtain ⟨pair, member, rfl⟩ := List.mem_map.mp known
        exact (each pair member).1
      · exact (each pair member).2.fields others held

mutual

/-- What is read from the text of a value: there is one text for what is not a number. -/
def reread : Value → Value
  | .float (.nan _) => .float (.nan .json)
  | .list items => .list (rereadItems items)
  | .record fields => .record (rereadFields fields)
  | v => v

def rereadItems : List Value → List Value
  | [] => []
  | x :: xs => reread x :: rereadItems xs

def rereadFields : List (Text × Value) → List (Text × Value)
  | [] => []
  | (name, x) :: rest => (name, reread x) :: rereadFields rest

end

theorem rereadItems_eq (items : List Value) : rereadItems items = items.map reread := by
  induction items with
  | nil => rfl
  | cons x xs ih => rw [rereadItems, ih, List.map_cons]

theorem rereadFields_eq (fields : Fields Value) :
    rereadFields fields = Fields.mapValues reread fields := by
  induction fields with
  | nil => rfl
  | cons pair rest ih =>
    obtain ⟨name, x⟩ := pair
    rw [rereadFields, ih]
    rfl

@[simp] theorem reread_list (items : List Value) :
    (list items).reread = .list (items.map reread) := by
  rw [reread, rereadItems_eq]

@[simp] theorem reread_record (fields : Fields Value) :
    (record fields).reread = .record (Fields.mapValues reread fields) := by
  rw [reread, rereadFields_eq]

theorem reread_scalar {v : Value} (scalar : v.isScalar) :
    v.reread = v ∨ (∃ origin, v = .float (.nan origin)) ∧ v.reread = .float (.nan .json) := by
  cases v with
  | list | record => simp [isScalar] at scalar
  | float x =>
    cases x with
    | nan origin => exact .inr ⟨⟨origin, rfl⟩, by simp [reread]⟩
    | _ => exact .inl (by simp [reread])
  | _ => exact .inl (by simp [reread])

/-- Only what is not a number is read as another value. -/
theorem reread_eq_self {v : Value} (numbers : ∀ origin, ¬v.Holds (.float (.nan origin))) :
    v.reread = v := by
  induction v using byParts with
  | scalar v scalar =>
    rcases reread_scalar scalar with same | ⟨⟨origin, rfl⟩, -⟩
    · exact same
    · exact absurd (.self _) (numbers origin)
  | list items each =>
    rw [reread_list, List.map_congr_left fun x member =>
      each x member fun origin held => numbers origin (.item member held), List.map_id']
  | record fields each =>
    have same : ∀ pair ∈ fields, (pair.1, pair.2.reread) = pair := fun pair member =>
      Prod.ext rfl (each pair member fun origin held => numbers origin (.field member held))
    rw [reread_record, Fields.mapValues, List.map_congr_left same, List.map_id']

theorem settled_reread {v : Value} (proper : v.Proper) : v.reread.settled := by
  induction v using byParts with
  | scalar v scalar =>
    rcases reread_scalar scalar with same | ⟨-, same⟩
    · rw [same]
      cases v with
      | list | record => simp [isScalar] at scalar
      | text s => exact Text.apart_of_characters (proper.texts s (.self _))
      | _ => rfl
    · rw [same]
      rfl
  | list items each =>
    rw [reread_list, settled_list, List.forall_mem_map]
    exact fun x member => each x member (proper_list.mp proper x member)
  | record fields each =>
    rw [reread_record, settled_record, Fields.mapValues, List.forall_mem_map]
    intro pair member
    obtain ⟨plain, inside⟩ := (proper_record.mp proper).2 pair member
    exact ⟨Text.apart_of_characters plain, each pair member inside⟩

theorem storable_reread {v : Value} (proper : v.Proper) (written : v.printable) :
    v.reread.storable := by
  induction v using byParts with
  | scalar v scalar =>
    rcases reread_scalar scalar with same | ⟨-, same⟩
    · rw [same]
      cases v with
      | list | record => simp [isScalar] at scalar
      | int n => simpa only [storable, printable] using written
      | float x => cases x <;> simp_all [storable, fromText, reread]
      | _ => rfl
    · rw [same]
      rfl
  | list items each =>
    rw [reread_list, storable_list, List.forall_mem_map]
    exact fun x member => each x member (proper_list.mp proper x member)
      ((printable_list items).mp written x member)
  | record fields each =>
    obtain ⟨distinct, inside⟩ := proper_record.mp proper
    rw [reread_record, storable_record, Fields.names_mapValues]
    refine ⟨distinct, ?_⟩
    rw [Fields.mapValues, List.forall_mem_map]
    exact fun pair member => each pair member (inside pair member).2
      ((printable_record fields).mp written pair member)

end Value

namespace Json

theorem writeItems_map {items : List Value} {f : Value → Value}
    (each : ∀ x ∈ items, writeValue (f x) = writeValue x) :
    writeItems (items.map f) = writeItems items := by
  induction items with
  | nil => rfl
  | cons x xs ih =>
    obtain ⟨first, each⟩ := List.forall_mem_cons.mp each
    rw [List.map_cons, writeItems, writeItems, first, ih each]

theorem writeFields_mapValues {fields : Fields Value} {f : Value → Value}
    (each : ∀ pair ∈ fields, writeValue (f pair.2) = writeValue pair.2) :
    writeFields (Fields.mapValues f fields) = writeFields fields := by
  induction fields with
  | nil => rfl
  | cons pair rest ih =>
    obtain ⟨name, x⟩ := pair
    obtain ⟨first, each⟩ := List.forall_mem_cons.mp each
    have later := ih each
    simp only [Fields.mapValues, List.map_cons, writeFields] at later ⊢
    rw [first, later]

/-- A value and what is read from its text are written alike. -/
theorem writeValue_reread (v : Value) : writeValue v.reread = writeValue v := by
  induction v using Value.byParts with
  | scalar v scalar =>
    rcases Value.reread_scalar scalar with same | ⟨⟨origin, rfl⟩, same⟩
    · rw [same]
    · rw [same]
      simp only [writeValue, Binary64.text]
  | list items each =>
    rw [Value.reread_list]
    cases items with
    | nil => rfl
    | cons x xs =>
      obtain ⟨first, each⟩ := List.forall_mem_cons.mp each
      rw [List.map_cons, writeValue, writeValue, first, writeItems_map each]
  | record fields each =>
    rw [Value.reread_record]
    cases fields with
    | nil => rfl
    | cons pair rest =>
      obtain ⟨name, x⟩ := pair
      obtain ⟨first, each⟩ := List.forall_mem_cons.mp each
      have later := writeFields_mapValues each
      simp only [Fields.mapValues, List.map_cons, writeValue] at later ⊢
      rw [first, later]

end Json

namespace Memory

/-- A snapshot is refused, and the memory stays as it is, exactly if a whole number in it has too
many digits. Any other is saved, and loading gives it back with all its values and in its order, up
to where what is not a number comes from. -/
theorem load_save {memory : Memory} (calm : memory.outage = none) {snapshot : Fields Value}
    (proper : (Value.record snapshot).Proper) :
    ((Value.record snapshot).HoldsOverlong → memory.save (.record snapshot) =
      (memory, .error (.engine (.storage .notWritable)))) ∧
    (¬(Value.record snapshot).HoldsOverlong → ∃ text,
      memory.save (.record snapshot) = (⟨some text, memory.saves + 1, none⟩, .ok ()) ∧
      load ⟨some text, memory.saves + 1, none⟩ =
        .ok (some (Fields.mapValues Value.reread snapshot))) ∧
    ((∀ origin, ¬(Value.record snapshot).Holds (.float (.nan origin))) →
      Fields.mapValues Value.reread snapshot = snapshot) := by
  refine ⟨fun long => ?_, fun short => ?_, fun numbers => ?_⟩
  · have unwritten : ¬(Value.record snapshot).printable := by
      rwa [Value.printable_iff_not_holdsOverlong, Classical.not_not]
    have refused :
        Snapshot.encode (.record snapshot) = .error (.engine (.storage .notWritable)) := by
      rw [Snapshot.encode, if_neg unwritten]
      exact fail_eq_engine (List.forall_mem_nil _)
    simp only [save, calm, refused]
  · have written := (Value.printable_iff_not_holdsOverlong _).mpr short
    have kept := Value.storable_reread proper written
    have settled := Value.settled_reread proper
    rw [Value.reread_record] at kept settled
    obtain ⟨text, encoded, decoded⟩ := Snapshot.decode_encode kept settled
    -- The two are written alike, so what is saved is the text of what is read.
    have same : Snapshot.encode (.record snapshot) = .ok text := by
      rw [← encoded, Snapshot.encode, if_pos written, Snapshot.encode,
        if_pos (Value.printable_of_storable _ kept), Json.write, Json.write, ← Value.reread_record,
        Json.writeValue_reread]
    refine ⟨text, ?_, ?_⟩
    · simp only [save, calm, same]
    · simp only [load, decoded]
      rfl
  · have same := Value.reread_eq_self numbers
    rw [Value.reread_record] at same
    exact Value.record.inj same

/-- A nested snapshot with numbers of all kinds is loaded again, with what is not a number as one
that was read. With one digit more than a whole number can have it is refused. -/
theorem load_save_of_nested :
    let snapshot (n : Int) : Fields Value :=
      [("b", .list [.float (.nan .query), .bool true, .float (.finite true .zero), .int 1]),
        ("a\n\"𝄞", .record [("z", .null), ("d", .int n)])]
    (∃ text, save .empty (.record (snapshot 7)) = (⟨some text, 1, none⟩, .ok ()) ∧
      load ⟨some text, 1, none⟩ = .ok (some [
        ("b", .list [.float (.nan .json), .bool true, .float (.finite true .zero), .int 1]),
        ("a\n\"𝄞", .record [("z", .null), ("d", .int 7)])])) ∧
    save .empty (.record (snapshot (-Value.tooLong))) =
      (.empty, .error (.engine (.storage .notWritable))) := by
  intro snapshot
  have apart : Text.ofString "b" ≠ "a\n\"𝄞" ∧ Text.ofString "z" ≠ "d" := by decide
  have plain (s : String) : Text.ofCharacters (Text.ofString s).points :=
    Text.ofCharacters_ofChars _
  have proper (n : Int) : (Value.record (snapshot n)).Proper := by
    have scalars : ∀ v ∈ ([.float (.nan .query), .bool true, .float (.finite true .zero), .int 1,
        .null, .int n] : List Value), v.Proper := by
      simp only [List.forall_mem_cons]
      refine ⟨?_, ?_, ?_, ?_, ?_, ?_, by simp⟩ <;> exact (Value.proper_scalar rfl).mpr (by simp)
    simp only [List.forall_mem_cons] at scalars
    simp [snapshot, Value.proper_record, Value.proper_list, Fields.names, plain, apart, scalars]
  have calm : empty.outage = none := rfl
  have size : Value.tooLong = (-(Value.tooLong : Int)).natAbs := by
    rw [Int.natAbs_neg, Int.natAbs_natCast]
  refine ⟨(load_save calm (proper 7)).2.1 ?_,
    (load_save calm (proper _)).1 ⟨-Value.tooLong, ?_, ?_⟩⟩
  · rw [← Value.printable_iff_not_holdsOverlong]
    decide +kernel
  · exact .field (.tail _ (.head _)) (.field (.tail _ (.head _)) (.self _))
  · exact (Value.maxDigits_lt_iff _).mpr (Nat.le_of_eq size)

end Memory
end RowStore
