import RowStore.Failure

/-! Results of steps one after the other. -/
namespace RowStore

variable {ε α β γ : Type}

theorem bind_eq_ok {x : Except ε α} {f : α → Except ε β} {b : β} :
    (x >>= f) = .ok b ↔ ∃ a, x = .ok a ∧ f a = .ok b := by
  cases x <;> simp [bind, Except.bind]

theorem bind_eq_error {x : Except ε α} {f : α → Except ε β} {e : ε} :
    (x >>= f) = .error e ↔ x = .error e ∨ ∃ a, x = .ok a ∧ f a = .error e := by
  cases x <;> simp [bind, Except.bind]

theorem map_eq_ok {x : Except ε α} {f : α → β} {b : β} :
    x.map f = .ok b ↔ ∃ a, x = .ok a ∧ f a = b := by
  cases x <;> simp [Except.map]

theorem map_eq_error {x : Except ε α} {f : α → β} {e : ε} : x.map f = .error e ↔ x = .error e := by
  cases x <;> simp [Except.map]

theorem mapError_ok {δ : Type} (f : ε → δ) (a : α) : (Except.ok a).mapError f = .ok a := rfl

theorem mapError_error {δ : Type} (f : ε → δ) (e : ε) :
    (Except.error e : Except ε α).mapError f = .error (f e) := rfl

theorem mapError_eq_ok {δ : Type} {x : Except ε α} {f : ε → δ} {a : α} :
    x.mapError f = .ok a ↔ x = .ok a := by
  cases x <;> simp [mapError_ok, mapError_error]

theorem mapError_eq_error {δ : Type} {x : Except ε α} {f : ε → δ} {d : δ} :
    x.mapError f = .error d ↔ ∃ e, x = .error e ∧ f e = d := by
  cases x <;> simp [mapError_ok, mapError_error]

theorem exists_ok_of_isSome {x : Except ε α} (held : x.toOption.isSome) : ∃ a, x = .ok a := by
  cases x with
  | ok a => exact ⟨a, rfl⟩
  | error e => simp [Except.toOption] at held

theorem exists_error_of_isNone {x : Except ε α} (failed : x.toOption.isNone) :
    ∃ e, x = .error e := by
  cases x with
  | ok a => simp [Except.toOption] at failed
  | error e => exact ⟨e, rfl⟩

theorem exists_answer {x : γ × Except ε α} (held : x.2.toOption.isSome) :
    ∃ a, x = (x.1, .ok a) := by
  obtain ⟨rest, result⟩ := x
  obtain ⟨a, rfl⟩ := exists_ok_of_isSome held
  exact ⟨a, rfl⟩

theorem map_eq_of_mapM {f : α → Except ε β} {xs : List α} {ys : List β}
    (done : xs.mapM f = .ok ys) : xs.map f = ys.map .ok := by
  induction xs generalizing ys with
  | nil =>
    obtain rfl : [] = ys := by simpa [pure, Except.pure] using done
    rfl
  | cons x rest ih =>
    rw [List.mapM_cons] at done
    obtain ⟨y, first, done⟩ := bind_eq_ok.mp done
    obtain ⟨zs, later, same⟩ := bind_eq_ok.mp done
    obtain rfl := Except.ok.inj same
    rw [List.map_cons, List.map_cons, first, ih later]

theorem mem_of_mapM {f : α → Except ε β} {xs : List α} {ys : List β} (done : xs.mapM f = .ok ys)
    {y : β} (member : y ∈ ys) : ∃ x ∈ xs, f x = .ok y := by
  have made : Except.ok y ∈ xs.map f := map_eq_of_mapM done ▸ List.mem_map_of_mem member
  exact List.mem_map.mp made

theorem exists_of_mapM_error {f : α → Except ε β} {xs : List α} {e : ε}
    (failed : xs.mapM f = .error e) : ∃ x ∈ xs, f x = .error e := by
  induction xs with
  | nil => simp [pure, Except.pure] at failed
  | cons x rest ih =>
    rw [List.mapM_cons] at failed
    cases first : f x with
    | error fault =>
      simp only [first, bind, Except.bind, Except.error.injEq] at failed
      exact ⟨x, List.mem_cons_self, failed ▸ first⟩
    | ok y =>
      cases later : rest.mapM f with
      | error fault =>
        simp only [first, later, bind, Except.bind, Except.error.injEq] at failed
        obtain ⟨z, there, same⟩ := ih (failed ▸ later)
        exact ⟨z, List.mem_cons_of_mem _ there, same⟩
      | ok ys => simp [first, later, bind, Except.bind, pure, Except.pure] at failed

/-- Steps that go through under a condition, each with a result of its own, go through together
exactly if all of them meet it. -/
theorem mapM_eq_ok_iff {f : α → Except ε β} {good : α → Prop} {result : α → β}
    (each : ∀ x y, f x = .ok y ↔ good x ∧ result x = y) (xs : List α) (ys : List β) :
    xs.mapM f = .ok ys ↔ (∀ x ∈ xs, good x) ∧ xs.map result = ys := by
  induction xs generalizing ys with
  | nil => simp [pure, Except.pure]
  | cons x rest ih =>
    rw [List.mapM_cons]
    constructor
    · intro done
      obtain ⟨y, first, done⟩ := bind_eq_ok.mp done
      obtain ⟨zs, later, same⟩ := bind_eq_ok.mp done
      obtain rfl := Except.ok.inj same
      obtain ⟨here, rfl⟩ := (each x y).mp first
      obtain ⟨there, rfl⟩ := (ih zs).mp later
      exact ⟨List.forall_mem_cons.mpr ⟨here, there⟩, rfl⟩
    · rintro ⟨all, rfl⟩
      obtain ⟨here, there⟩ := List.forall_mem_cons.mp all
      rw [(each x _).mpr ⟨here, rfl⟩, (ih _).mpr ⟨there, rfl⟩]
      rfl

theorem exists_mapM_iff {f : α → Except ε β} {xs : List α} :
    (∃ ys, xs.mapM f = .ok ys) ↔ ∀ x ∈ xs, ∃ y, f x = .ok y := by
  induction xs with
  | nil => simp [pure, Except.pure]
  | cons x rest ih =>
    rw [List.mapM_cons, List.forall_mem_cons, ← ih]
    constructor
    · rintro ⟨ys, done⟩
      obtain ⟨y, first, done⟩ := bind_eq_ok.mp done
      obtain ⟨zs, later, -⟩ := bind_eq_ok.mp done
      exact ⟨⟨y, first⟩, zs, later⟩
    · rintro ⟨⟨y, first⟩, zs, later⟩
      exact ⟨y :: zs, bind_eq_ok.mpr ⟨y, first, bind_eq_ok.mpr ⟨zs, later, rfl⟩⟩⟩

theorem mapM_eq_ite {f : α → Except ε β} {good : α → Prop} [DecidablePred good] {result : α → β}
    {e : ε} (each : ∀ x, f x = if good x then .ok (result x) else .error e) (xs : List α) :
    xs.mapM f = if ∀ x ∈ xs, good x then .ok (xs.map result) else .error e := by
  induction xs with
  | nil => rfl
  | cons x rest ih =>
    simp only [List.mapM_cons, each x, ih, List.forall_mem_cons]
    by_cases here : good x
    · by_cases there : ∀ y ∈ rest, good y
      · rw [if_pos here, if_pos there, if_pos ⟨here, there⟩]
        rfl
      · rw [if_pos here, if_neg there, if_neg fun both => there both.2]
        rfl
    · have not : ¬(good x ∧ ∀ y ∈ rest, good y) := fun both => here both.1
      rw [if_neg here, if_neg not]
      rfl

theorem mapM_map_of_inverse {f : β → Except ε α} {g : α → β} {xs : List α}
    (inverse : ∀ x ∈ xs, f (g x) = .ok x) : (xs.map g).mapM f = .ok xs := by
  induction xs with
  | nil => rfl
  | cons x rest ih =>
    rw [List.map_cons, List.mapM_cons, inverse x List.mem_cons_self,
      ih fun y member => inverse y (List.mem_cons_of_mem _ member)]
    rfl

theorem fail_eq_engine {error : EngineError} (written : ∀ v ∈ error.values, v.printable) :
    (fail error : Result α) = .error (.engine error) := by
  rw [fail, Failure.of, if_pos (List.all_eq_true.mpr written)]

end RowStore
