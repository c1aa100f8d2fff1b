import Mathlib.Data.List.Basic
import RowStore.Http.Standard
import RowStore.Proofs.Http.Paths
import RowStore.Proofs.Results

/-! The framework that reads addresses and bytes keeps the promises that the service relies on. -/
namespace RowStore.Http

theorem Site.enter_eq_found {site : Site} {route : Route} {method : Text} {target : Target}
    {there : Destination} (led : site.enter method target there = .found route) :
    there = .found route ∧ (site.takes method ∨ method = "OPTIONS") := by
  unfold enter at led
  split at led
  · contradiction
  · next passed =>
    split at led
    · contradiction
    · simp only [Bool.and_eq_true, Bool.not_eq_true', bne_iff_ne, not_and, ne_eq] at passed
      exact ⟨led, by simpa [Decidable.or_iff_not_imp_left] using passed⟩

theorem Site.destination_eq_found {site : Site} {route : Route}
    (there : site.destination = .found route) : site = .ours route := by
  cases site with
  | ours known => exact congrArg Site.ours (Destination.found.inj there)
  | asset => contradiction

/-- A request is led only to a route that takes its method. -/
theorem takes_of_found {method : Text} {target : Target} {route : Route}
    (there : destination method target = .found route) :
    (Site.ours route).takes (Text.upper method) := by
  unfold destination at there
  simp only at there
  split at there
  · contradiction
  · split at there
    · obtain ⟨place, takes⟩ := Site.enter_eq_found there
      split at place
      · contradiction
      · next other =>
        obtain rfl := Site.destination_eq_found place
        exact takes.resolve_right other
    · split at there
      · obtain ⟨place, -⟩ := Site.enter_eq_found there
        contradiction
      · contradiction

theorem method_ne_head {request : Request} {route : Route}
    (there : destination request.method request.target = .found route) (posted : route.isPosted) :
    request.method ≠ "HEAD" := by
  intro head
  have takes := takes_of_found there
  rw [head, show Text.upper "HEAD" = "HEAD" by decide, Site.takes, Site.isPosted, posted] at takes
  contradiction

/-- A route is read back from its parts. A name among them must not be empty. -/
theorem Site.ofSegments?_parts {route : Route} (present : ∀ part ∈ route.parts, part ≠ "") :
    Site.ofSegments? route.parts = some (.ours route) := by
  cases route with
  | table name | indexes name =>
    have filled : name ≠ "" := present name (by simp [Route.parts])
    simp [Route.parts, ofSegments?, filled]
  | execute | batch | tables | health => rfl

/-- The request that gets what is at a path of this host. -/
def getting (path : List Char) : Request := ⟨"GET", ⟨[], ownHost, path⟩, "", []⟩

theorem name?_own (path : List Char) :
    (⟨[], ownHost, path⟩ : Target).name? = some (ownHost, []) := rfl

theorem plainHost_own (path : List Char) :
    (⟨[], ownHost, path⟩ : Target).plainHost = .ok (ownHost.map .char) := by
  have decoded : decodeName ownHost = .ok (ownHost.map .char) := by cbv
  simp only [Target.plainHost, name?_own, decoded]
  rfl

theorem hasFitHost_own (path : List Char) :
    (⟨[], ownHost, path⟩ : Target).hasFitHost = true := by
  rw [Target.hasFitHost, name?_own]
  cbv

theorem destination_getting {path : List Char} {route : Route}
    (known : Site.ofSegments? (segments path) = some (.ours route))
    (got : route.isPosted = false) : standard.destination (getting path) = .found route := by
  have method : Text.upper "GET" = "GET" := by decide
  have lasting : (⟨[], ownHost, path⟩ : Target).isSocket = false := rfl
  have asked : ("GET" : Text) ≠ "OPTIONS" := by decide
  simp [standard, getting, destination, Site.enter, Site.takes, Site.isPosted, Site.destination,
    method, hasFitHost_own, known, got, lasting, asked]

/-- A path behind one slash can always be got. -/
theorem Request.of_path {c : Char} {cs : List Char} (apart : c ≠ '/')
    (plain : ∀ x ∈ c :: cs, isPathChar x) :
    Request.of "GET" (String.ofList ('/' :: c :: cs)) "" [] =
      .ok (getting (unescaped ('/' :: c :: cs))) := by
  have own : checkAuthority ((ownHost.map Point.char).filterMap Point.char?) = .ok () := by cbv
  simp only [Request.of, Target.read_path apart plain, mapError_ok, plainHost_own, own, bind,
    Except.bind]
  rfl

theorem pathOf_parts (route : Route) : ∃ cs, pathOf route.parts = '/' :: 'a' :: cs := by
  cases route <;> exact ⟨_, rfl⟩

/-- The path of a route is cut into its parts again. -/
theorem segments_pathOf {route : Route}
    (parts : ∀ part ∈ route.parts, part ≠ "" ∧ '/' ∉ part.toList) :
    segments (unescaped (pathOf route.parts)) = route.parts := by
  obtain ⟨part, rest, whole⟩ : ∃ part rest, route.parts = part :: rest := by
    cases route <;> exact ⟨_, _, rfl⟩
  rw [whole] at parts ⊢
  rw [unescaped_pathOf]
  exact segments_slashed (parts part List.mem_cons_self).1 fun other member =>
    (parts other member).2

theorem lawful_standard : standard.Lawful where
  engine _ _ := rfl
  crash _ _ := rfl
  whole there posted := decide_eq_false (method_ne_head there posted)
  finds route got parts := by
    have known : Site.ofSegments? (segments (unescaped (pathOf route.parts))) =
        some (.ours route) := by
      rw [segments_pathOf parts]
      exact Site.ofSegments?_parts fun part member => (parts part member).1
    have made : standard.get? (String.ofList (pathOf route.parts)) =
        some (getting (unescaped (pathOf route.parts))) := by
      obtain ⟨cs, path⟩ := pathOf_parts route
      have plain : ∀ x ∈ 'a' :: cs, isPathChar x := fun x member =>
        isPathChar_of_mem_pathOf (path ▸ List.mem_cons_of_mem '/' member)
      rw [path]
      exact congrArg Except.toOption (Request.of_path (by decide) plain)
    exact ⟨_, made, destination_getting known got,
      decide_eq_false (by decide : ("GET" : Text) ≠ "HEAD")⟩

end RowStore.Http
