import RowStore.Failure
import RowStore.Text.Blank

/-! Columns of a table: a name, a type that nothing is held to, and two flags, either of which asks
for an index. -/
namespace RowStore

structure Column where
  name : Text
  type : Value
  primary : Bool
  unique : Bool
  deriving Repr

namespace Column

def indexed (column : Column) : Bool := column.primary || column.unique

def flags (column : Column) : List Text :=
  let word (held : Bool) (name : Text) : List Text := if held then [name] else []
  word column.primary "PRIMARY" ++ word column.unique "UNIQUE"

def text (column : Column) : Result Text :=
  if column.type.printable then
    let words := column.name ++ " " ++ column.type.plain ++ " " ++ Text.join " " column.flags
    .ok ⟨Text.strip words.points⟩
  else .error (.crash (.tooManyDigits none))

/-- How deep a type may be to be copied. A copy takes two calls for each level, and no more than a
thousand calls are open at a time. -/
def copyDepth : Nat := 493

def record (column : Column) : Value :=
  .record [("name", .text column.name), ("type", column.type), ("primary", .bool column.primary),
    ("unique", .bool column.unique)]

/-- The record of a column, with a copy of the type. -/
def toValue (column : Column) : Result Value :=
  if column.type.depth ≤ copyDepth then .ok column.record else .error (.crash .tooDeep)

/-- A column from its record. Only the name must be there; a flag is on if its value counts as
set. -/
def ofValue (v : Value) : Result Column :=
  match v with
  | .record fields =>
    match Fields.find? fields "name" with
    | some (.text name) =>
      let flag (key : Text) : Bool := (Fields.find? fields key).any Value.truthy
      .ok ⟨name, (Fields.find? fields "type").getD .null, flag "primary", flag "unique"⟩
    | _ => fail (.schema (.column v))
  | _ => fail (.schema (.column v))

end Column
end RowStore
