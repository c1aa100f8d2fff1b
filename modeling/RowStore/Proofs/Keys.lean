import RowStore.Index

/-! Values as keys. Two values without parts are the same key exactly if they count as the same
thing, so sameness is an equivalence; it differs from the equality of filters only where both
sides are not a number. -/
namespace RowStore

/-- What a value without parts counts as when it is a key. Numbers and truth values of one
magnitude count as the same units. -/
inductive Key where
  | null
  | text (s : Text)
  | units (n : Int)
  | infinite (negative : Bool)
  | nan (origin : NanOrigin)
  deriving DecidableEq

namespace Value

/-- Values with parts are no keys and count as nothing. -/
def asKey : Value → Option Key
  | .null => some .null
  | .bool b => some (.units ((if b then 1 else 0) * Binary64.one))
  | .int n => some (.units (n * Binary64.one))
  | .float (.finite negative m) => some (.units (Binary64.signedUnits negative m.units))
  | .float (.infinite negative) => some (.infinite negative)
  | .float (.nan origin) => some (.nan origin)
  | .text s => some (.text s)
  | .list _ | .record _ => none

def isNan : Value → Bool
  | .float x => x.isNan
  | _ => false

theorem one_ne_zero : (Binary64.one : Int) ≠ 0 := by
  have positive : 0 < Binary64.one := Nat.pow_pos (by decide)
  omega

theorem same_iff_asKey {v w : Value} (left : v.isScalar) (right : w.isScalar) :
    v.same w ↔ v.asKey = w.asKey := by
  have cancel (m n : Int) : m * Binary64.one = n * Binary64.one ↔ m = n :=
    Int.mul_eq_mul_right_iff one_ne_zero
  have swap (m n : Int) : m = n ↔ n = m := eq_comm
  cases v with
  | list | record => simp [isScalar] at left
  | float x =>
    cases w with
    | list | record => simp [isScalar] at right
    | float y =>
      cases x <;> cases y <;>
        simp only [same, scalarEqual, asKey, Binary64.equal, beq_iff_eq, Bool.false_eq_true,
          Option.some.injEq, Key.units.injEq, Key.infinite.injEq, Key.nan.injEq, reduceCtorEq]
    | _ =>
      cases x <;>
        simp only [same, scalarEqual, asKey, whole?, Binary64.equalInt, beq_iff_eq,
          Bool.false_eq_true, Option.any_none, Option.any_some, Option.some.injEq, Key.units.injEq,
          reduceCtorEq]
  | _ =>
    cases w with
    | list | record => simp [isScalar] at right
    | float y =>
      cases y <;>
        simp only [same, scalarEqual, asKey, whole?, Binary64.equalInt, beq_iff_eq,
          Bool.false_eq_true, Option.any_none, Option.any_some, Option.some.injEq, Key.units.injEq,
          reduceCtorEq, swap]
    | _ =>
      simp only [same, scalarEqual, asKey, whole?, beq_iff_eq, Bool.false_eq_true,
        Option.some.injEq, Key.units.injEq, Key.text.injEq, reduceCtorEq, cancel]

theorem same_refl {v : Value} (scalar : v.isScalar) : v.same v :=
  (same_iff_asKey scalar scalar).mpr rfl

theorem same_comm {v w : Value} (left : v.isScalar) (right : w.isScalar) :
    v.same w = w.same v := by
  rw [Bool.eq_iff_iff, same_iff_asKey left right, same_iff_asKey right left, eq_comm]

theorem same_congr {u v w : Value} (hu : u.isScalar) (hv : v.isScalar) (hw : w.isScalar)
    (same : u.same v) : u.same w = v.same w := by
  rw [Bool.eq_iff_iff, same_iff_asKey hu hw, same_iff_asKey hv hw,
    (same_iff_asKey hu hv).mp same]

/-- A filter finds what is the same key, except that it never finds what is not a number. -/
theorem equal_eq_same {v w : Value} (left : v.isScalar) (right : w.isScalar)
    (number : ¬w.isNan) : v.equal w = v.same w := by
  cases v with
  | list | record => simp [isScalar] at left
  | float x =>
    cases w with
    | list | record => simp [isScalar] at right
    | float y => cases x <;> cases y <;> simp_all [equal, same, isNan, Binary64.isNan]
    | _ => cases x <;> rfl
  | _ =>
    cases w with
    | list | record => simp [isScalar] at right
    | float y => cases y <;> rfl
    | _ => rfl

theorem equal_self {v : Value} (scalar : v.isScalar) (number : ¬v.isNan) : v.equal v := by
  rw [equal_eq_same scalar scalar number]
  exact same_refl scalar

theorem equal_of_isNan {v w : Value} (scalar : v.isScalar) (noNumber : w.isNan) :
    v.equal w = false ∧ w.equal v = false := by
  cases w with
  | float y =>
    cases y with
    | nan origin =>
      cases v with
      | list | record => simp [isScalar] at scalar
      | float x => cases x <;> exact ⟨rfl, rfl⟩
      | _ => exact ⟨rfl, rfl⟩
    | _ => simp [isNan, Binary64.isNan] at noNumber
  | _ => simp [isNan] at noNumber

theorem equal_comm {v w : Value} (left : v.isScalar) (right : w.isScalar) :
    v.equal w = w.equal v := by
  by_cases second : w.isNan
  · rw [(equal_of_isNan left second).1, (equal_of_isNan left second).2]
  · by_cases first : v.isNan
    · rw [(equal_of_isNan right first).1, (equal_of_isNan right first).2]
    · rw [equal_eq_same left right second, equal_eq_same right left first, same_comm left right]

theorem equal_of_not_isScalar {v w : Value} (left : v.isScalar) (right : ¬w.isScalar) :
    v.equal w = false := by
  cases w <;> simp [isScalar] at right <;>
    cases v <;> simp_all [isScalar, equal, scalarEqual, whole?]

end Value
end RowStore
