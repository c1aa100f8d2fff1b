import RowStore.Proofs.Digits
import RowStore.Proofs.Settled

/-! The parts of a value, at any depth. A value can be written exactly if no whole number among its
parts has too many digits. -/
namespace RowStore.Value

/-- Whether a value is another one or a part of it. The names of fields are no parts. -/
inductive Holds : Value → Value → Prop
  | self (v : Value) : Holds v v
  | item {items : List Value} {x part : Value} :
    x ∈ items → Holds x part → Holds (.list items) part
  | field {fields : Fields Value} {pair : Text × Value} {part : Value} :
    pair ∈ fields → Holds pair.2 part → Holds (.record fields) part

theorem holds_scalar {v : Value} (scalar : v.isScalar) (part : Value) :
    v.Holds part ↔ part = v := by
  constructor
  · rintro (_ | _ | _)
    · rfl
    · simp [isScalar] at scalar
    · simp [isScalar] at scalar
  · rintro rfl
    exact .self _

theorem holds_list (items : List Value) (part : Value) :
    (list items).Holds part ↔ part = .list items ∨ ∃ x ∈ items, x.Holds part := by
  constructor
  · rintro (_ | ⟨member, held⟩ | _)
    · exact .inl rfl
    · exact .inr ⟨_, member, held⟩
  · rintro (rfl | ⟨x, member, held⟩)
    · exact .self _
    · exact .item member held

theorem holds_record (fields : Fields Value) (part : Value) :
    (record fields).Holds part ↔ part = .record fields ∨ ∃ pair ∈ fields, pair.2.Holds part := by
  constructor
  · rintro (_ | _ | ⟨member, held⟩)
    · exact .inl rfl
    · exact .inr ⟨_, member, held⟩
  · rintro (rfl | ⟨pair, member, held⟩)
    · exact .self _
    · exact .field member held

/-- What holds of all values without parts, and of every list and record if it holds of all that is
in them, holds of all values. -/
@[elab_as_elim]
theorem byParts {P : Value → Prop} (scalar : ∀ v : Value, v.isScalar → P v)
    (list : ∀ items : List Value, (∀ x ∈ items, P x) → P (.list items))
    (record : ∀ fields : Fields Value, (∀ pair ∈ fields, P pair.2) → P (.record fields)) :
    ∀ v : Value, P v
  | .list items => list items fun x _ => byParts scalar list record x
  | .record fields => record fields fun pair _ => byParts scalar list record pair.2
  | .null => scalar .null rfl
  | .bool b => scalar (.bool b) rfl
  | .int n => scalar (.int n) rfl
  | .float x => scalar (.float x) rfl
  | .text s => scalar (.text s) rfl
termination_by v => sizeOf v
decreasing_by
  · next member =>
    have := List.sizeOf_lt_of_mem member
    simp
    omega
  · next member =>
    have := List.sizeOf_lt_of_mem member
    obtain ⟨name, x⟩ := pair
    simp at this ⊢
    omega

/-- Whether a whole number with too many digits to be written is among the parts of a value. -/
def HoldsOverlong (v : Value) : Prop :=
  ∃ n : Int, v.Holds (.int n) ∧ maxDigits < (Nat.toDigits 10 n.natAbs).length

theorem holdsOverlong_list (items : List Value) :
    (list items).HoldsOverlong ↔ ∃ x ∈ items, x.HoldsOverlong := by
  simp only [HoldsOverlong, holds_list, reduceCtorEq, false_or]
  constructor
  · rintro ⟨n, ⟨x, member, held⟩, long⟩
    exact ⟨x, member, n, held, long⟩
  · rintro ⟨x, member, n, held, long⟩
    exact ⟨n, ⟨x, member, held⟩, long⟩

theorem holdsOverlong_record (fields : Fields Value) :
    (record fields).HoldsOverlong ↔ ∃ pair ∈ fields, pair.2.HoldsOverlong := by
  simp only [HoldsOverlong, holds_record, reduceCtorEq, false_or]
  constructor
  · rintro ⟨n, ⟨pair, member, held⟩, long⟩
    exact ⟨pair, member, n, held, long⟩
  · rintro ⟨pair, member, n, held, long⟩
    exact ⟨n, ⟨pair, member, held⟩, long⟩

theorem printableItems_iff (items : List Value) :
    printableItems items ↔ ∀ x ∈ items, x.printable := by
  induction items with
  | nil => simp [printableItems]
  | cons x xs ih => simp [printableItems, ih]

theorem printableFields_iff (fields : Fields Value) :
    printableFields fields ↔ ∀ pair ∈ fields, pair.2.printable := by
  induction fields with
  | nil => simp [printableFields]
  | cons pair rest ih =>
    obtain ⟨name, x⟩ := pair
    simp [printableFields, ih]

@[simp] theorem printable_list (items : List Value) :
    (Value.list items).printable ↔ ∀ x ∈ items, x.printable := by
  rw [printable, printableItems_iff]

@[simp] theorem printable_record (fields : Fields Value) :
    (Value.record fields).printable ↔ ∀ pair ∈ fields, pair.2.printable := by
  rw [printable, printableFields_iff]

theorem maxDigits_lt_iff (n : Nat) : maxDigits < (Nat.toDigits 10 n).length ↔ tooLong ≤ n := by
  unfold tooLong
  exact Text.lt_length_toDigits_iff (by decide) n

/-- A value can be written exactly if no number in it has too many digits. -/
theorem printable_iff_not_holdsOverlong (v : Value) : v.printable ↔ ¬v.HoldsOverlong := by
  induction v using byParts with
  | scalar v scalar =>
    cases v with
    | list | record => simp [isScalar] at scalar
    | int n =>
      simp only [HoldsOverlong, holds_scalar scalar, int.injEq, exists_eq_left, maxDigits_lt_iff,
        Nat.not_le, printable, decide_eq_true_eq]
    | _ => simp [HoldsOverlong, holds_scalar scalar, printable]
  | list items each =>
    rw [printable_list, holdsOverlong_list]
    simpa using forall₂_congr each
  | record fields each =>
    rw [printable_record, holdsOverlong_record]
    simpa using forall₂_congr each

end RowStore.Value
