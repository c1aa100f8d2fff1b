import RowStore.Http.Path
import RowStore.Http.Service

/-! The framework that the service runs in. It reads requests, leads them to routes by their paths
and methods, and answers for a route that raises a failure. How it does so is left open: what the
service relies on is that it keeps its promises. -/
namespace RowStore.Http

inductive Destination where
  | found (route : Route)
  | wrongMethod
  | unknown
  /-- An empty answer of the framework itself. -/
  | apart (status : Nat)
  deriving DecidableEq, Repr

structure Framework (R : Type) where
  destination : R → Destination
  /-- The value in the body of a request, if the body says that it holds JSON and does. -/
  value? : R → Option Value
  isHead : R → Bool
  /-- The answer for a failure that a route raises. The service tells how to answer an engine
  error. -/
  raised : (EngineError → Response) → Failure → Response
  /-- The request that gets what is behind an address, if there can be one. -/
  get? : String → Option R

namespace Framework

variable {R : Type}

/-- What the service relies on. -/
structure Lawful (framework : Framework R) : Prop where
  /-- An engine error is answered as the service tells. -/
  engine (answer : EngineError → Response) (error : EngineError) :
    framework.raised answer (.engine error) = answer error
  /-- For each other failure there is an answer of the framework's own, with no record. -/
  crash (answer : EngineError → Response) (cause : Crash) :
    framework.raised answer (.crash cause) = ⟨500, none⟩
  /-- A request for a head is led to no route that takes posts alone. -/
  whole {request : R} {route : Route} : framework.destination request = .found route →
    route.isPosted → framework.isHead request = false
  /-- The escapes in a path are read before the path is cut, and in the place of a name there may be
  each text that is not empty and has no slash. -/
  finds (route : Route) : route.isPosted = false →
    (∀ part ∈ route.parts, part ≠ "" ∧ '/' ∉ part.toList) →
      ∃ request, framework.get? (String.ofList (pathOf route.parts)) = some request ∧
        framework.destination request = .found route ∧ framework.isHead request = false

def respond (framework : Framework R) : Result Response → Response
  | .ok response => response
  | .error failure => framework.raised (fun error => engineRefusal error []) failure

def handle (framework : Framework R) (db : Database) (request : R) : Database × Response :=
  let (db, response) :=
    match framework.destination request with
    | .found route =>
      let (db, result) := serve db (framework.value? request) route
      (db, framework.respond result)
    | .apart status => (db, ⟨status, none⟩)
    | .wrongMethod => (db, wrongMethod)
    | .unknown => (db, notFound)
  if framework.isHead request then (db, { response with body := none })
  else (db, response)

def get (framework : Framework R) (db : Database) (address : String) :
    Option (Database × Response) :=
  (framework.get? address).map (framework.handle db)

end Framework

end RowStore.Http
