import RowStore.Files
import RowStore.Proofs.Fields

/-! What is to be found in a tree after a change at one place. Below the place it is the new node;
every other place shows what it showed, and the node there is the same one unless the change is
below it. -/
namespace RowStore.Node

/-- What a node shows of itself: a file its bytes, a folder nothing. -/
def bytes? : Node → Option (List UInt8)
  | .file bytes => some bytes
  | .folder _ => none

/-- What a tree shows where names lead: nothing, a folder or a file. -/
def sight (root : Node) (names : List String) : Option (Option (List UInt8)) :=
  (root.at? names).map bytes?

theorem sight_eq_file {root : Node} {names : List String} {bytes : List UInt8} :
    root.sight names = some (some bytes) ↔ root.at? names = some (.file bytes) := by
  cases found : root.at? names with
  | none => simp [sight, found]
  | some node => cases node <;> simp [sight, found, bytes?]

theorem sight_eq_folder {root : Node} {names : List String} :
    root.sight names = some none ↔ ∃ entries, root.at? names = some (.folder entries) := by
  cases found : root.at? names with
  | none => simp [sight, found]
  | some node => cases node <;> simp [sight, found, bytes?]

theorem at?_append (root : Node) (front rest : List String) :
    root.at? (front ++ rest) = (root.at? front).bind (·.at? rest) := by
  induction front generalizing root with
  | nil => rfl
  | cons name front ih =>
    cases root with
    | file bytes => rfl
    | folder entries =>
      cases found : Fields.find? entries name with
      | none => simp [at?, found]
      | some node => simpa [at?, found] using ih node

theorem at?_empty {names : List String} (below : names ≠ []) : empty.at? names = none := by
  cases names with
  | nil => contradiction
  | cons name rest => rfl

theorem at?_file {names : List String} {bytes : List UInt8} (below : names ≠ []) :
    (file bytes).at? names = none := by
  cases names with
  | nil => contradiction
  | cons name rest => rfl

theorem at?_below_file {root : Node} {front rest : List String} {bytes : List UInt8}
    (file : root.at? front = some (.file bytes)) (below : rest ≠ []) :
    root.at? (front ++ rest) = none := by
  rw [at?_append, file, Option.bind_some, at?_file below]

theorem at?_below_none {root : Node} {front : List String} (missing : root.at? front = none)
    (rest : List String) : root.at? (front ++ rest) = none := by
  rw [at?_append, missing]
  rfl

theorem at?_concat {root : Node} {front : List String} {entries : List (String × Node)}
    (folder : root.at? front = some (.folder entries)) (name : String) :
    root.at? (front ++ [name]) = Fields.find? entries name := by
  rw [at?_append, folder, Option.bind_some, at?]
  cases Fields.find? entries name <;> rfl

theorem folder_of_at? {root node : Node} {front rest : List String} (below : rest ≠ [])
    (found : root.at? (front ++ rest) = some node) :
    ∃ entries, root.at? front = some (.folder entries) := by
  cases above : root.at? front with
  | none => simp [at?_below_none above] at found
  | some upper =>
    cases upper with
    | file bytes => simp [at?_below_file above below] at found
    | folder entries => exact ⟨entries, rfl⟩

theorem at?_below {root : Node} {front rest : List String}
    (bare : ∀ entries, root.at? front ≠ some (.folder entries)) (below : rest ≠ []) :
    root.at? (front ++ rest) = none := by
  cases found : root.at? (front ++ rest) with
  | none => rfl
  | some node =>
    obtain ⟨entries, above⟩ := folder_of_at? below found
    exact absurd above (bare entries)

theorem folder_of_folder {root : Node} {front rest : List String} {entries : List (String × Node)}
    (found : root.at? (front ++ rest) = some (.folder entries)) :
    ∃ above, root.at? front = some (.folder above) := by
  cases rest with
  | nil => exact ⟨entries, by simpa using found⟩
  | cons name rest => exact folder_of_at? (List.cons_ne_nil name rest) found

section place

variable {root new : Node} {target names : List String}

/-- A node that is put into a folder is found there. -/
theorem at?_place (new : Node) {folder : List String} {name : String}
    {entries : List (String × Node)} (parent : root.at? folder = some (.folder entries))
    (rest : List String) :
    (root.place (folder ++ [name]) new).at? (folder ++ [name] ++ rest) = new.at? rest := by
  induction folder generalizing root with
  | nil =>
    obtain rfl : root = .folder entries := Option.some.inj parent
    simp [place, at?, Fields.find?_put]
  | cons first folder ih =>
    cases root with
    | file bytes => contradiction
    | folder above =>
      cases found : Fields.find? above first with
      | none => simp [at?, found] at parent
      | some node =>
        rw [at?, found] at parent
        simpa [place, at?, found, Fields.find?_put] using ih parent

theorem at?_place_apart (beside : ¬names <+: target) (above : ¬target <+: names) :
    (root.place target new).at? names = root.at? names := by
  induction target generalizing root names with
  | nil => exact absurd List.nil_prefix above
  | cons first target ih =>
    cases names with
    | nil => exact absurd List.nil_prefix beside
    | cons name names =>
      cases root with
      | file bytes => rfl
      | folder entries =>
        by_cases same : first = name
        · subst same
          rw [List.prefix_cons_inj] at beside above
          simp only [place, at?, Fields.find?_put, ↓reduceIte, Option.bind_some, ih beside above]
          cases Fields.find? entries first with
          | some node => rfl
          | none =>
            refine at?_empty ?_
            rintro rfl
            exact beside List.nil_prefix
        · simp [place, at?, Fields.find?_put, same]

theorem sight_place_apart {folder : List String} {name : String} {entries : List (String × Node)}
    (parent : root.at? folder = some (.folder entries)) (above : ¬folder ++ [name] <+: names) :
    (root.place (folder ++ [name]) new).sight names = root.sight names := by
  by_cases beside : names <+: folder ++ [name]
  · have upper : names <+: folder := by
      rcases List.prefix_concat_iff.mp beside with rfl | upper
      · exact absurd List.prefix_rfl above
      · exact upper
    clear beside above
    induction folder generalizing root names with
    | nil =>
      obtain rfl : root = .folder entries := Option.some.inj parent
      obtain rfl := List.prefix_nil.mp upper
      rfl
    | cons first folder ih =>
      cases root with
      | file bytes => contradiction
      | folder outer =>
        cases names with
        | nil => rfl
        | cons name names =>
          obtain ⟨rfl, further⟩ := List.cons_prefix_cons.mp upper
          cases found : Fields.find? outer name with
          | none => simp [at?, found] at parent
          | some node =>
            rw [at?, found] at parent
            simpa [sight, place, at?, found, Fields.find?_put] using ih parent further
  · rw [sight, sight, at?_place_apart beside above]

end place

section remove

variable {root : Node} {target names : List String}

theorem at?_remove (root : Node) (present : target ≠ []) (rest : List String) :
    (root.remove target).at? (target ++ rest) = none := by
  induction target generalizing root with
  | nil => contradiction
  | cons name target ih =>
    cases root with
    | file bytes => rfl
    | folder entries =>
      cases target with
      | nil =>
        simp only [remove, List.isEmpty_nil, ↓reduceIte, List.cons_append, at?,
          Fields.find?_filter_self, Option.bind_none]
      | cons next target =>
        cases found : Fields.find? entries name with
        | none => simp [remove, at?, found]
        | some node =>
          simpa [remove, at?, found, Fields.find?_put] using ih node (List.cons_ne_nil next target)

theorem at?_remove_apart (beside : ¬names <+: target) (above : ¬target <+: names) :
    (root.remove target).at? names = root.at? names := by
  induction target generalizing root names with
  | nil => exact absurd List.nil_prefix above
  | cons first target ih =>
    cases names with
    | nil => exact absurd List.nil_prefix beside
    | cons name names =>
      cases root with
      | file bytes => rfl
      | folder entries =>
        by_cases same : first = name
        · subst same
          rw [List.prefix_cons_inj] at beside above
          cases target with
          | nil => exact absurd List.nil_prefix above
          | cons next target =>
            cases found : Fields.find? entries first with
            | none => simp [remove, at?, found]
            | some node =>
              simpa [remove, at?, found, Fields.find?_put] using ih beside above
        · cases target with
          | nil =>
            simp only [remove, at?, List.isEmpty_nil, ↓reduceIte,
              Fields.find?_filter_ne (Ne.symm same)]
          | cons next target =>
            cases found : Fields.find? entries first with
            | none => simp [remove, at?, found]
            | some node => simp [remove, at?, found, Fields.find?_put, same]

theorem sight_remove_apart (above : ¬target <+: names) :
    (root.remove target).sight names = root.sight names := by
  by_cases beside : names <+: target
  · induction target generalizing root names with
    | nil => exact absurd List.nil_prefix above
    | cons first target ih =>
      cases names with
      | nil =>
        cases root with
        | file bytes => rfl
        | folder entries =>
          cases target with
          | nil => rfl
          | cons next target =>
            cases found : Fields.find? entries first <;> simp [sight, remove, at?, found, bytes?]
      | cons name names =>
        obtain ⟨rfl, further⟩ := List.cons_prefix_cons.mp beside
        rw [List.prefix_cons_inj] at above
        cases root with
        | file bytes => rfl
        | folder entries =>
          cases target with
          | nil => exact absurd List.nil_prefix above
          | cons next target =>
            cases found : Fields.find? entries name with
            | none => simp [sight, remove, at?, found]
            | some node =>
              simpa [sight, remove, at?, found, Fields.find?_put] using ih above further
  · rw [sight, sight, at?_remove_apart beside above]

end remove

/-- A change at one place, with nothing below it before and after. -/
structure ChangedAt (target : List String) (before after : Node) : Prop where
  apart : ∀ names, ¬names <+: target → after.at? names = before.at? names
  sight : ∀ names, ¬target <+: names → after.sight names = before.sight names

theorem ChangedAt.sight_of_ne {target names : List String} {before after : Node}
    (changed : ChangedAt target before after) (other : names ≠ target) :
    after.sight names = before.sight names := by
  by_cases beside : names <+: target
  · refine changed.sight names fun above => other ?_
    exact beside.eq_of_length_le above.length_le
  · rw [Node.sight, changed.apart names beside, Node.sight]

variable {root new : Node} {target : List String}

theorem changedAt_place {folder : List String} {name : String} {entries : List (String × Node)}
    (parent : root.at? folder = some (.folder entries))
    (bare : ∀ rest, rest ≠ [] → new.at? rest = none)
    (free : ∀ rest, rest ≠ [] → root.at? (folder ++ [name] ++ rest) = none) :
    ChangedAt (folder ++ [name]) root (root.place (folder ++ [name]) new) where
  apart names beside := by
    by_cases above : folder ++ [name] <+: names
    · obtain ⟨rest, rfl⟩ := above
      have below : rest ≠ [] := by
        rintro rfl
        exact beside (by simp)
      rw [at?_place new parent, bare rest below, free rest below]
    · exact at?_place_apart beside above
  sight names above := sight_place_apart parent above

theorem changedAt_remove (present : target ≠ [])
    (free : ∀ rest, rest ≠ [] → root.at? (target ++ rest) = none) :
    ChangedAt target root (root.remove target) where
  apart names beside := by
    by_cases above : target <+: names
    · obtain ⟨rest, rfl⟩ := above
      have below : rest ≠ [] := by
        rintro rfl
        exact beside (by simp)
      rw [at?_remove root present, free rest below]
    · exact at?_remove_apart beside above
  sight names above := sight_remove_apart above

end RowStore.Node
