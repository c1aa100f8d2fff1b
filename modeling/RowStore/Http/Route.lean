/-! The routes of the service. -/
namespace RowStore.Http

inductive Route where
  | execute
  | batch
  | tables
  | table (name : String)
  | indexes (name : String)
  | health
  deriving DecidableEq, Repr

/-- The parts of the path behind which a route is, with the name in its place. -/
def Route.parts : Route → List String
  | .execute => ["api", "execute"]
  | .batch => ["api", "execute", "batch"]
  | .tables => ["api", "tables"]
  | .table name => ["api", "tables", name]
  | .indexes name => ["api", "tables", name, "indexes"]
  | .health => ["api", "health"]

/-- Queries are posted, and all else is got. -/
def Route.isPosted : Route → Bool
  | .execute | .batch => true
  | _ => false

end RowStore.Http
