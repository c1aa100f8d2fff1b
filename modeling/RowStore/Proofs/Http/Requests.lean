import RowStore.Http.Framework

/-! Requests that are led to a route. What a lawful framework answers to them is told by the route
alone. -/
namespace RowStore.Http.Framework

variable {R : Type} {framework : Framework R} {request : R} {route : Route}

theorem handle_of_found (there : framework.destination request = .found route)
    (whole : framework.isHead request = false) (db : Database) :
    framework.handle db request = ((serve db (framework.value? request) route).1,
      framework.respond (serve db (framework.value? request) route).2) := by
  simp only [handle, there, whole, Bool.false_eq_true, ↓reduceIte]

namespace Lawful

theorem handle_posted (lawful : framework.Lawful)
    (there : framework.destination request = .found route) (posted : route.isPosted)
    (db : Database) : framework.handle db request =
      ((serve db (framework.value? request) route).1,
        framework.respond (serve db (framework.value? request) route).2) :=
  handle_of_found there (lawful.whole there posted) db

theorem respond_engine (lawful : framework.Lawful) (error : EngineError) :
    framework.respond (.error (.engine error)) = engineRefusal error [] :=
  lawful.engine _ error

theorem respond_crash (lawful : framework.Lawful) (cause : Crash) :
    framework.respond (.error (.crash cause)) = ⟨500, none⟩ :=
  lawful.crash _ cause

theorem get_route (lawful : framework.Lawful) (got : route.isPosted = false)
    (parts : ∀ part ∈ route.parts, part ≠ "" ∧ '/' ∉ part.toList) (db : Database) :
    ∃ body, framework.get db (String.ofList (pathOf route.parts)) =
      some ((serve db body route).1, framework.respond (serve db body route).2) := by
  obtain ⟨request, made, there, whole⟩ := lawful.finds route got parts
  exact ⟨framework.value? request, by rw [get, made, Option.map_some, handle_of_found there whole]⟩

end Lawful

end RowStore.Http.Framework
