import RowStore.Column
import RowStore.Row

/-! Commands: what a query asks for. A name is missing where the query ends too early. -/
namespace RowStore

/-- The second table of a query and the columns that must be equal. -/
structure Join where
  table : Option Text
  leftTable : Text
  leftColumn : Option Text
  rightTable : Text
  rightColumn : Option Text
  deriving DecidableEq, Repr

inductive Command where
  | createTable (table : Text) (columns : List Column)
  | insert (table : Option Text) (values : List Value)
  | select (table : Option Text) (columns : List Text) (filter : Option Filter)
      (join : Option Join)
  | update (table column : Option Text) (value : Value) (filter : Option Filter)
  | delete (table : Option Text) (filter : Option Filter)
  | showIndex (table : Option Text)
  deriving Repr

namespace Command

def values : Command → List Value
  | .createTable _ columns => columns.map Column.type
  | .insert _ values => values
  | .select _ _ filter _ => (filter.map Filter.value).toList
  | .update _ _ value filter => value :: (filter.map Filter.value).toList
  | .delete _ filter => (filter.map Filter.value).toList
  | .showIndex _ => []

/-- Whether all whole numbers in a command can be written. -/
def printable (command : Command) : Bool := command.values.all Value.printable

end Command
end RowStore
