import RowStore.Proofs.Registration
import RowStore.Value.Show

/-! Values that can be kept in a snapshot: their whole numbers can be written, what is not a number
came out of a snapshot before, and no record names a field twice. A cell holds such a value without
parts. -/
namespace RowStore.Value

/-- Whether a number can be told from its text: there is one text for what is not a number. -/
def fromText : Binary64 → Bool
  | .nan origin => origin == .json
  | _ => true

theorem isNan_toBinary64 (d : Decimal) : d.toBinary64.isNan = false := by
  simp only [Decimal.toBinary64]
  split
  · rfl
  · split
    · rfl
    · unfold Binary64.ofUnits
      split <;> rfl

theorem fromText_toBinary64 (d : Decimal) : fromText d.toBinary64 := by
  have number := isNan_toBinary64 d
  cases read : d.toBinary64 with
  | nan origin => simp [read, Binary64.isNan] at number
  | _ => rfl

mutual

/-- Whether a value is of the kinds that a snapshot can keep, its parts included. -/
def storable : Value → Bool
  | .int n => decide (n.natAbs < tooLong)
  | .float x => fromText x
  | .list items => storableItems items
  | .record fields => decide (Fields.names fields).Nodup && storableFields fields
  | _ => true

def storableItems : List Value → Bool
  | [] => true
  | x :: xs => storable x && storableItems xs

def storableFields : List (Text × Value) → Bool
  | [] => true
  | (_, x) :: rest => storable x && storableFields rest

end

/-- Whether a value can stand in a cell. -/
def isCell (v : Value) : Bool := v.isScalar && v.storable

theorem storableItems_iff (items : List Value) :
    storableItems items ↔ ∀ x ∈ items, x.storable := by
  induction items with
  | nil => simp [storableItems]
  | cons x xs ih => simp [storableItems, ih]

theorem storableFields_iff (fields : List (Text × Value)) :
    storableFields fields ↔ ∀ pair ∈ fields, pair.2.storable := by
  induction fields with
  | nil => simp [storableFields]
  | cons pair rest ih =>
    obtain ⟨name, x⟩ := pair
    simp [storableFields, ih]

@[simp] theorem storable_list (items : List Value) :
    (Value.list items).storable ↔ ∀ x ∈ items, x.storable := by
  rw [storable, storableItems_iff]

@[simp] theorem storable_record (fields : Fields Value) :
    (Value.record fields).storable ↔
      (Fields.names fields).Nodup ∧ ∀ pair ∈ fields, pair.2.storable := by
  rw [storable, Bool.and_eq_true, decide_eq_true_eq, storableFields_iff]

theorem storable_of_find? {fields : Fields Value} {name : Text} {v : Value}
    (kept : (Value.record fields).storable) (found : Fields.find? fields name = some v) :
    v.storable :=
  ((storable_record fields).mp kept).2 _ (Fields.mem_of_find? found)

mutual

theorem printable_of_storable : ∀ v : Value, v.storable → v.printable
  | .null | .bool _ | .float _ | .text _ => fun _ => by simp only [printable]
  | .int n => fun kept => by
    simp only [storable] at kept
    simpa only [printable] using kept
  | .list items => fun kept => by
    simp only [storable] at kept
    simpa only [printable] using printableItems_of_storable items kept
  | .record fields => fun kept => by
    simp only [storable, Bool.and_eq_true] at kept
    simpa only [printable] using printableFields_of_storable fields kept.2

theorem printableItems_of_storable :
    ∀ items : List Value, storableItems items → printableItems items
  | [] => fun _ => rfl
  | x :: xs => fun kept => by
    simp only [storableItems, Bool.and_eq_true] at kept
    simpa only [printableItems, Bool.and_eq_true] using
      ⟨printable_of_storable x kept.1, printableItems_of_storable xs kept.2⟩

theorem printableFields_of_storable :
    ∀ fields : List (Text × Value), storableFields fields → printableFields fields
  | [] => fun _ => rfl
  | (_, x) :: rest => fun kept => by
    simp only [storableFields, Bool.and_eq_true] at kept
    simpa only [printableFields, Bool.and_eq_true] using
      ⟨printable_of_storable x kept.1, printableFields_of_storable rest kept.2⟩

end

theorem isScalar_of_isCell {v : Value} (cell : v.isCell) : v.isScalar :=
  (Bool.and_eq_true_iff.mp cell).1

theorem storable_of_isCell {v : Value} (cell : v.isCell) : v.storable :=
  (Bool.and_eq_true_iff.mp cell).2

theorem printable_of_isCell {v : Value} (cell : v.isCell) : v.printable :=
  printable_of_storable v (storable_of_isCell cell)

end RowStore.Value

namespace RowStore

/-- Whether all values of a row can stand in cells. -/
def Row.IsStored (row : Row) : Prop := ∀ pair ∈ row, pair.2.isCell

namespace Row.IsStored

variable {row : Row}

theorem isKeyed (stored : row.IsStored) : row.IsKeyed :=
  fun pair member => Value.isScalar_of_isCell (stored pair member)

theorem put (stored : row.IsStored) {v : Value} (cell : v.isCell) (name : Text) :
    Row.IsStored (Fields.put row name v) := by
  intro pair member
  rcases Fields.mem_put member with there | rfl
  · exact stored pair there
  · exact cell

theorem isCell_at (stored : row.IsStored) (column : Text) : (row.at column).isCell :=
  @Row.valueAt_of_forall (fun v => v.isCell) rfl row stored (some column)

end Row.IsStored
end RowStore
