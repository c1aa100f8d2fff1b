import RowStore.Fields

/-! Laws of named fields. The names of pairs that are put together are their distinct names in the
order in which they first came, and fields with distinct names are told by what is found in them. -/
namespace RowStore.Fields

variable {κ α β : Type} [DecidableEq κ]

theorem nodup_eraseDups (names : List κ) : names.eraseDups.Nodup := by
  cases names with
  | nil => simp
  | cons a rest =>
    rw [List.eraseDups_cons, List.nodup_cons]
    exact ⟨by simp, nodup_eraseDups _⟩
termination_by names.length
decreasing_by
  have := List.length_filter_le (fun b => !b == a) rest
  simp only [List.length_cons]
  omega

omit [DecidableEq κ] in
@[simp] theorem names_append (fields more : List (κ × α)) :
    names (fields ++ more) = names fields ++ names more := by
  simp [names]

omit [DecidableEq κ] in
theorem mem_names {fields : List (κ × α)} {pair : κ × α} (member : pair ∈ fields) :
    pair.1 ∈ names fields :=
  List.mem_map.mpr ⟨pair, member, rfl⟩

theorem nodup_names_put {fields : List (κ × α)} (apart : (names fields).Nodup) (name : κ) (a : α) :
    (names (put fields name a)).Nodup := by
  rw [names_put]
  split
  · exact apart
  · next new => exact List.nodup_append.mpr ⟨apart, by simp, by simpa using fun b h => by grind⟩

theorem put_of_not_mem {fields : List (κ × α)} {name : κ} (new : name ∉ names fields) (a : α) :
    put fields name a = fields ++ [(name, a)] := by
  induction fields with
  | nil => rfl
  | cons field rest ih =>
    obtain ⟨key, b⟩ := field
    simp only [names, List.map_cons, List.mem_cons, not_or] at new
    simp [put, Ne.symm new.1, ih new.2]

theorem find?_put_self (fields : List (κ × α)) (name : κ) (a : α) :
    find? (put fields name a) name = some a := by
  rw [find?_put, if_pos rfl]

theorem put_of_find? {fields : List (κ × α)} {name : κ} {a : α}
    (found : find? fields name = some a) : put fields name a = fields := by
  induction fields with
  | nil => simp [find?] at found
  | cons field rest ih =>
    obtain ⟨key, b⟩ := field
    by_cases known : key = name
    · simp_all [find?, put]
    · simp_all [find?, put]

/-- Two names can be put in in either order unless both are new. -/
theorem put_comm {fields : List (κ × α)} {name other : κ} (apart : name ≠ other)
    (known : name ∈ names fields) (a b : α) :
    put (put fields name a) other b = put (put fields other b) name a := by
  induction fields with
  | nil => contradiction
  | cons field rest ih =>
    obtain ⟨key, c⟩ := field
    by_cases here : key = name
    · subst here
      simp [put, apart]
    · have there : name ∈ names rest := by simpa [names, Ne.symm here] using known
      by_cases second : key = other
      · subst second
        simp [put, here]
      · simp [put, here, second, ih there]

theorem mem_of_find? {fields : List (κ × α)} {name : κ} {a : α}
    (found : find? fields name = some a) : (name, a) ∈ fields := by
  induction fields with
  | nil => simp [find?] at found
  | cons field rest ih =>
    obtain ⟨key, b⟩ := field
    by_cases known : key = name
    · simp_all [find?]
    · simp_all [find?]

theorem find?_eq_none_iff (fields : List (κ × α)) (name : κ) :
    find? fields name = none ↔ name ∉ names fields := by
  rw [← find?_isSome_iff fields name]
  cases find? fields name <;> simp

theorem find?_filter_self (fields : List (κ × α)) (name : κ) :
    find? (fields.filter fun e => e.1 ≠ name) name = none := by
  induction fields with
  | nil => rfl
  | cons field rest ih =>
    obtain ⟨key, a⟩ := field
    by_cases away : key = name
    · simpa [away] using ih
    · simpa [away, find?] using ih

theorem find?_filter_ne {name other : κ} (different : other ≠ name) (fields : List (κ × α)) :
    find? (fields.filter fun e => e.1 ≠ name) other = find? fields other := by
  induction fields with
  | nil => rfl
  | cons field rest ih =>
    obtain ⟨key, a⟩ := field
    by_cases away : key = name
    · simpa [away, find?, Ne.symm different] using ih
    · simpa [away, find?] using congrArg (ite (key = other) (some a)) ih

@[simp] theorem find?_mapValues (f : α → β) (fields : List (κ × α)) (name : κ) :
    find? (mapValues f fields) name = (find? fields name).map f := by
  induction fields with
  | nil => rfl
  | cons field rest ih =>
    obtain ⟨key, b⟩ := field
    by_cases known : key = name
    · simp [mapValues, find?, known]
    · simpa [mapValues, find?, known] using ih

theorem mapValues_put (f : α → β) (fields : List (κ × α)) (name : κ) (a : α) :
    mapValues f (put fields name a) = put (mapValues f fields) name (f a) := by
  induction fields with
  | nil => rfl
  | cons field rest ih =>
    obtain ⟨key, b⟩ := field
    by_cases known : key = name
    · simp [mapValues, put, known]
    · simpa [mapValues, put, known] using ih

theorem find?_append (fields more : List (κ × α)) (name : κ) :
    find? (fields ++ more) name = (find? fields name).or (find? more name) := by
  induction fields with
  | nil => rfl
  | cons field rest ih =>
    obtain ⟨key, a⟩ := field
    by_cases known : key = name
    · simp [find?, known]
    · simpa [find?, known] using ih

omit [DecidableEq κ] in
theorem mem_mapValues {f : α → β} {fields : List (κ × α)} {pair : κ × β} :
    pair ∈ mapValues f fields ↔ ∃ a, (pair.1, a) ∈ fields ∧ f a = pair.2 := by
  obtain ⟨name, b⟩ := pair
  simp only [mapValues, List.mem_map, Prod.mk.injEq, Prod.exists]
  constructor
  · rintro ⟨n, a, member, same, eq⟩
    exact ⟨a, same ▸ member, eq⟩
  · rintro ⟨a, member, eq⟩
    exact ⟨name, a, member, rfl, eq⟩

theorem mem_put {fields : List (κ × α)} {name : κ} {a : α} {pair : κ × α}
    (member : pair ∈ put fields name a) : pair ∈ fields ∨ pair = (name, a) := by
  induction fields with
  | nil => exact .inr (by simpa [put] using member)
  | cons field rest ih =>
    obtain ⟨key, b⟩ := field
    by_cases known : key = name
    · subst known
      simp only [put, ↓reduceIte, List.mem_cons] at member
      rcases member with here | there
      · exact .inr here
      · exact .inl (List.mem_cons_of_mem _ there)
    · simp only [put, known, ↓reduceIte, List.mem_cons] at member
      rcases member with here | there
      · exact .inl (here ▸ List.mem_cons_self)
      · exact (ih there).imp (List.mem_cons_of_mem _) id

theorem mem_putAll {fields pairs : List (κ × α)} {pair : κ × α}
    (member : pair ∈ putAll fields pairs) : pair ∈ fields ∨ pair ∈ pairs := by
  induction pairs generalizing fields with
  | nil => exact .inl member
  | cons first rest ih =>
    rcases @ih (put fields first.1 first.2) member with before | later
    · exact (mem_put before).imp id (fun same => by simp [same])
    · exact .inr (List.mem_cons_of_mem _ later)

theorem mem_ofPairs {pairs : List (κ × α)} {pair : κ × α} (member : pair ∈ ofPairs pairs) :
    pair ∈ pairs :=
  (mem_putAll member).resolve_left List.not_mem_nil

theorem names_putAll (fields pairs : List (κ × α)) :
    names (putAll fields pairs) =
      names fields ++ ((names pairs).removeAll (names fields)).eraseDups := by
  induction pairs generalizing fields with
  | nil => simp [putAll, names]
  | cons pair rest ih =>
    obtain ⟨key, a⟩ := pair
    have step : putAll fields ((key, a) :: rest) = putAll (put fields key a) rest := rfl
    have first : names ((key, a) :: rest) = key :: names rest := rfl
    rw [step, ih, names_put, first]
    by_cases known : key ∈ names fields
    · simp [known, List.removeAll]
    · have front : (key :: names rest).removeAll (names fields) =
          key :: (names rest).removeAll (names fields) := by
        simp [List.removeAll, known]
      have later : (names rest).removeAll (names fields ++ [key]) =
          ((names rest).removeAll (names fields)).filter fun b => !b == key := by
        rw [List.removeAll, List.removeAll, List.filter_filter]
        apply List.filter_congr
        intro b _
        by_cases same : b = key <;> simp [same]
      simp [known, front, later, List.eraseDups_cons]

@[simp] theorem names_ofPairs (pairs : List (κ × α)) :
    names (ofPairs pairs) = (names pairs).eraseDups := by
  have kept : (names pairs).removeAll (names ([] : List (κ × α))) = names pairs := by
    simp only [List.removeAll, names, List.map_nil, List.elem_nil, Bool.not_false]
    exact List.filter_eq_self.mpr fun _ _ => rfl
  rw [ofPairs, names_putAll, kept]
  rfl

/-- Of pairs that are put in one after the other, the last one of a name counts. -/
theorem find?_putAll (fields pairs : List (κ × α)) (name : κ) :
    find? (putAll fields pairs) name = (find? pairs.reverse name).or (find? fields name) := by
  induction pairs generalizing fields with
  | nil => rfl
  | cons pair rest ih =>
    obtain ⟨key, a⟩ := pair
    have step : putAll fields ((key, a) :: rest) = putAll (put fields key a) rest := rfl
    rw [step, ih, find?_put, List.reverse_cons, find?_append, Option.or_assoc]
    by_cases known : key = name <;> simp [find?, known]

theorem find?_ofPairs (pairs : List (κ × α)) (name : κ) :
    find? (ofPairs pairs) name = find? pairs.reverse name := by
  rw [ofPairs, find?_putAll]
  simp [find?]

theorem putAll_of_nodup {fields pairs : List (κ × α)} (apart : (names (fields ++ pairs)).Nodup) :
    putAll fields pairs = fields ++ pairs := by
  induction pairs generalizing fields with
  | nil => simp [putAll]
  | cons pair rest ih =>
    obtain ⟨key, a⟩ := pair
    have new : key ∉ names fields := by
      rw [names_append, List.nodup_append] at apart
      intro known
      exact apart.2.2 key known key (by simp [names]) rfl
    have step : putAll fields ((key, a) :: rest) = putAll (fields ++ [(key, a)]) rest := by
      rw [← put_of_not_mem new]
      rfl
    rw [step, ih (by simpa using apart)]
    simp

theorem ofPairs_of_nodup {pairs : List (κ × α)} (apart : (names pairs).Nodup) :
    ofPairs pairs = pairs := by
  exact putAll_of_nodup (List.nil_append pairs ▸ apart)

theorem ext_of_nodup {fields others : List (κ × α)} (same : names fields = names others)
    (apart : (names fields).Nodup) (found : ∀ name, find? fields name = find? others name) :
    fields = others := by
  induction fields generalizing others with
  | nil => cases others <;> simp_all [names]
  | cons field rest ih =>
    obtain ⟨key, a⟩ := field
    cases others with
    | nil => simp [names] at same
    | cons other more =>
      obtain ⟨otherKey, b⟩ := other
      obtain ⟨rfl, tail⟩ : key = otherKey ∧ names rest = names more := by
        simpa [names] using same
      obtain ⟨new, rest_apart⟩ := List.nodup_cons.mp apart
      have value : a = b := by simpa [find?] using found key
      have later : rest = more := by
        apply ih tail rest_apart
        intro name
        by_cases known : key = name
        · subst known
          rw [(find?_eq_none_iff rest key).mpr new,
            (find?_eq_none_iff more key).mpr (tail ▸ new)]
        · simpa [find?, known] using found name
      rw [value, later]

theorem eraseDups_of_nodup {ns : List κ} (apart : ns.Nodup) : ns.eraseDups = ns := by
  induction ns with
  | nil => rfl
  | cons n rest ih =>
    obtain ⟨new, apart⟩ := List.nodup_cons.mp apart
    have kept : rest.filter (fun b => !b == n) = rest := by
      apply List.filter_eq_self.mpr
      intro b member
      simpa using fun same : b = n => new (same ▸ member)
    rw [List.eraseDups_cons, kept, ih apart]

theorem names_putAll_of_nodup {fields pairs : List (κ × α)} (apart : (names pairs).Nodup) :
    names (putAll fields pairs) =
      names fields ++ (names pairs).filter fun name => name ∉ names fields := by
  have new : (names pairs).removeAll (names fields) =
      (names pairs).filter fun name => name ∉ names fields := by
    apply List.filter_congr
    intro name _
    simp
  rw [names_putAll, new, eraseDups_of_nodup (apart.filter _)]

theorem find?_putAll_of_nodup {fields pairs : List (κ × α)} (apart : (names pairs).Nodup)
    (name : κ) : find? (putAll fields pairs) name = (find? pairs name).or (find? fields name) := by
  induction pairs generalizing fields with
  | nil => rfl
  | cons pair rest ih =>
    obtain ⟨key, a⟩ := pair
    obtain ⟨new, apart⟩ := List.nodup_cons.mp apart
    have step : putAll fields ((key, a) :: rest) = putAll (put fields key a) rest := rfl
    rw [step, ih apart, find?_put]
    by_cases known : key = name
    · subst known
      simp [find?, (find?_eq_none_iff rest key).mpr new]
    · simp [find?, known]

theorem names_ofPairs_map (ns : List κ) (f : κ → α) :
    names (ofPairs (ns.map fun n => (n, f n))) = ns.eraseDups := by
  have whole : names (ns.map fun n => (n, f n)) = ns := by simp [names, Function.comp_def]
  rw [names_ofPairs, whole]

theorem find?_putAll_map (fields : List (κ × α)) (ns : List κ) (f : κ → α) (name : κ) :
    find? (putAll fields (ns.map fun n => (n, f n))) name =
      if name ∈ ns then some (f name) else find? fields name := by
  induction ns generalizing fields with
  | nil => simp [putAll]
  | cons n rest ih =>
    have step : putAll fields ((n :: rest).map fun n => (n, f n)) =
        putAll (put fields n (f n)) (rest.map fun n => (n, f n)) := rfl
    rw [step, ih, find?_put]
    by_cases later : name ∈ rest
    · simp [later]
    · by_cases same : n = name
      · simp [same]
      · simp [later, same, Ne.symm same]

theorem find?_ofPairs_map (ns : List κ) (f : κ → α) (name : κ) :
    find? (ofPairs (ns.map fun n => (n, f n))) name =
      if name ∈ ns then some (f name) else none := by
  rw [ofPairs, find?_putAll_map]
  rfl

end RowStore.Fields
