import Mathlib.Data.List.Forall2
import Mathlib.Data.List.Nodup
import Mathlib.Data.List.ProdSigma
import Mathlib.Data.Prod.Basic
import RowStore.Proofs.Registration

/-! Rows merged from the pairs of two lists. A join goes through the pairs in the order of their
places, and a filter that asks for a name of the left side alone can be put before or behind it. For
two sides without common names it does not matter which of them is the left one. -/
namespace RowStore

namespace Row

/-- A row with the names of one row and, behind them, those that only another row has. The values
are those of the other row where it has the name. -/
structure Merges (l r row : Row) : Prop where
  names : Fields.names row =
    Fields.names l ++ (Fields.names r).filter fun name => name ∉ Fields.names l
  cells : ∀ name, Fields.find? row name = (Fields.find? r name).or (Fields.find? l name)

theorem merges_putAll (l : Row) {r : Row} (apart : (Fields.names r).Nodup) :
    l.Merges r (Fields.putAll l r) :=
  ⟨Fields.names_putAll_of_nodup apart, Fields.find?_putAll_of_nodup apart⟩

theorem Merges.valueAt {l r row : Row} (merges : l.Merges r row) {column : Option Text}
    (absent : ∀ name, column = some name → name ∉ Fields.names r) :
    row.valueAt column = l.valueAt column := by
  cases column with
  | none => rfl
  | some name =>
    have unknown := (Fields.find?_eq_none_iff r name).mpr (absent name rfl)
    simp only [Row.valueAt, Option.bind_some, merges.cells, unknown, Option.none_or]

end Row

/-- The pairs of places whose rows are in a relation, in the order of the left places and, for one
left place, of the right ones, and the rows merged from them. -/
structure MergedAt (P : Row → Row → Prop) (left right : List Row) (places : List (Nat × Nat))
    (rows : List Row) : Prop where
  ordered : places.Pairwise (Prod.Lex (· < ·) (· < ·))
  complete : ∀ i j, (i, j) ∈ places ↔ ∃ l r, left[i]? = some l ∧ right[j]? = some r ∧ P l r
  merged : places.Forall₂ (fun place row =>
    ∃ l r, left[place.1]? = some l ∧ right[place.2]? = some r ∧ l.Merges r row) rows

theorem MergedAt.exists_of_mem {P : Row → Row → Prop} {left right : List Row}
    {places : List (Nat × Nat)} {rows : List Row} (merged : MergedAt P left right places rows)
    {row : Row} (member : row ∈ rows) : ∃ l ∈ left, ∃ r ∈ right, l.Merges r row := by
  obtain ⟨k, bound, same⟩ := List.mem_iff_getElem.mp member
  have length := merged.merged.length_eq
  obtain ⟨l, r, here, there, merges⟩ := merged.merged.get (by omega) bound
  exact ⟨l, List.mem_of_getElem? here, r, List.mem_of_getElem? there, by simpa [same] using merges⟩

theorem filter_eq_zipIdx (p : Row → Bool) (rows : List Row) :
    rows.filter p = (rows.zipIdx.filter fun r => p r.1).map Prod.fst := by
  conv => lhs; rw [← List.zipIdx_map_fst 0 rows]
  rw [List.filter_map]
  rfl

section places

variable (keep : Row → Bool) (meet : Row → Row → Bool) (left right : List Row)

/-- Pairs of rows of two lists, with the place of each row in its list. -/
def placedPairs : List ((Row × Nat) × (Row × Nat)) :=
  (left.zipIdx.filter fun l => keep l.1).flatMap fun l =>
    (right.zipIdx.filter fun r => meet l.1 r.1).map fun r => (l, r)

theorem mem_placedPairs {pair : (Row × Nat) × (Row × Nat)} :
    pair ∈ placedPairs keep meet left right ↔ left[pair.1.2]? = some pair.1.1 ∧
      right[pair.2.2]? = some pair.2.1 ∧ keep pair.1.1 ∧ meet pair.1.1 pair.2.1 := by
  obtain ⟨l, r⟩ := pair
  simp only [placedPairs, List.mem_flatMap, List.mem_map, List.mem_filter,
    List.mem_zipIdx_iff_getElem?, Prod.mk.injEq]
  constructor
  · rintro ⟨_, ⟨here, kept⟩, _, ⟨there, met⟩, rfl, rfl⟩
    exact ⟨here, there, kept, met⟩
  · rintro ⟨here, there, kept, met⟩
    exact ⟨l, ⟨here, kept⟩, r, ⟨there, met⟩, rfl, rfl⟩

theorem pairwise_zipIdx (rows : List Row) : rows.zipIdx.Pairwise fun a b => a.2 < b.2 := by
  have places : (rows.zipIdx.map Prod.snd).Pairwise (· < ·) := by
    rw [List.zipIdx_map_snd]
    exact List.pairwise_lt_range'
  exact List.pairwise_map.mp places

theorem placedPairs_ordered :
    ((placedPairs keep meet left right).map fun pair => (pair.1.2, pair.2.2)).Pairwise
      (Prod.Lex (· < ·) (· < ·)) := by
  rw [placedPairs, List.map_flatMap, List.pairwise_flatMap]
  constructor
  · intro l _
    rw [List.map_map, List.pairwise_map]
    exact ((pairwise_zipIdx right).filter _).imp fun before => .right _ before
  · refine ((pairwise_zipIdx left).filter _).imp fun before a first b second => ?_
    simp only [List.mem_map] at first second
    obtain ⟨_, ⟨_, _, rfl⟩, rfl⟩ := first
    obtain ⟨_, ⟨_, _, rfl⟩, rfl⟩ := second
    exact .left _ _ before

end places

section joins

variable {left right : List Row} (leftColumn rightColumn : Option Text)

/-- A join of the rows that pass a test merges the placed pairs with equal values. -/
theorem innerJoin_eq_placedPairs (keep : Row → Bool) :
    innerJoin (left.filter keep) right leftColumn rightColumn =
      (placedPairs keep (fun l r => (l.valueAt leftColumn).equal (r.valueAt rightColumn))
        left right).map fun pair => Fields.putAll pair.1.1 pair.2.1 := by
  have met (l : Row) := filter_eq_zipIdx
    (fun r => (l.valueAt leftColumn).equal (r.valueAt rightColumn)) right
  rw [innerJoin, filter_eq_zipIdx keep, List.flatMap_map, placedPairs, List.map_flatMap]
  simp only [met, List.map_map]
  rfl

theorem exists_mergedAt (keep : Row → Bool) (apart : ∀ r ∈ right, (Fields.names r).Nodup) :
    ∃ places, MergedAt
      (fun l r => keep l ∧ (l.valueAt leftColumn).equal (r.valueAt rightColumn)) left right places
      (innerJoin (left.filter keep) right leftColumn rightColumn) := by
  let meet (l r : Row) : Bool := (l.valueAt leftColumn).equal (r.valueAt rightColumn)
  refine ⟨(placedPairs keep meet left right).map fun pair => (pair.1.2, pair.2.2),
    placedPairs_ordered .., fun i j => ?_, ?_⟩
  · simp only [List.mem_map, mem_placedPairs, Prod.mk.injEq]
    constructor
    · rintro ⟨⟨⟨l, _⟩, r, _⟩, ⟨here, there, both⟩, rfl, rfl⟩
      exact ⟨l, r, here, there, both⟩
    · rintro ⟨l, r, here, there, both⟩
      exact ⟨((l, i), r, j), ⟨here, there, both⟩, rfl, rfl⟩
  · rw [innerJoin_eq_placedPairs, List.forall₂_map_left_iff, List.forall₂_map_right_iff,
      List.forall₂_same]
    intro pair member
    obtain ⟨here, there, -⟩ := (mem_placedPairs ..).mp member
    exact ⟨_, _, here, there, Row.merges_putAll _ (apart _ (List.mem_of_getElem? there))⟩

/-- A filter for a name that no right row has does the same before and behind a join. -/
theorem innerJoin_filter {filter : Filter} (apart : ∀ r ∈ right, (Fields.names r).Nodup)
    (absent : ∀ r ∈ right, ∀ name, filter.column = some name → name ∉ Fields.names r) :
    innerJoin (left.filter filter.accepts) right leftColumn rightColumn =
      (innerJoin left right leftColumn rightColumn).filter filter.accepts := by
  have same (l : Row) : ∀ r ∈ right,
      filter.accepts (Fields.putAll l r) = filter.accepts l := fun r member => by
    rw [Filter.accepts, (Row.merges_putAll l (apart r member)).valueAt (absent r member)]
    rfl
  induction left with
  | nil => rfl
  | cons l left ih =>
    have whole : (right.filter fun r =>
        (l.valueAt leftColumn).equal (r.valueAt rightColumn)).filter
          (filter.accepts ∘ Fields.putAll l) =
        (right.filter fun r => (l.valueAt leftColumn).equal (r.valueAt rightColumn)).filter
          fun _ => filter.accepts l :=
      List.filter_congr fun r member => same l r (List.mem_filter.mp member).1
    simp only [innerJoin] at ih ⊢
    rw [List.flatMap_cons, List.filter_append, List.filter_map, whole, ← ih]
    cases passes : filter.accepts l <;> simp [passes]

end joins

/-! The two sides exchanged. -/
section exchange

variable {left right : List Row}

theorem nodup_placedPairs (keep : Row → Bool) (meet : Row → Row → Bool) :
    (placedPairs keep meet left right).Nodup := by
  have apart : ((placedPairs keep meet left right).map fun pair => (pair.1.2, pair.2.2)).Nodup := by
    refine (placedPairs_ordered keep meet left right).imp ?_
    rintro place _ before rfl
    rcases Prod.lex_def.mp before with before | ⟨-, before⟩
    · exact Nat.lt_irrefl _ before
    · exact Nat.lt_irrefl _ before
  exact List.Nodup.of_map _ apart

theorem Row.Merges.find?_comm {l r row other : Row} (merges : l.Merges r row)
    (exchanged : r.Merges l other)
    (disjoint : ∀ name ∈ Fields.names l, name ∉ Fields.names r) :
    Fields.find? row = Fields.find? other := by
  funext name
  rw [merges.cells, exchanged.cells]
  by_cases here : name ∈ Fields.names l
  · rw [(Fields.find?_eq_none_iff r name).mpr (disjoint name here), Option.none_or, Option.or_none]
  · rw [(Fields.find?_eq_none_iff l name).mpr here, Option.none_or, Option.or_none]

theorem length_innerJoin (leftColumn rightColumn : Option Text) :
    (innerJoin left right leftColumn rightColumn).length = (left ×ˢ right).countP fun pair =>
      (pair.1.valueAt leftColumn).equal (pair.2.valueAt rightColumn) := by
  change _ = List.countP _ (left.product right)
  rw [innerJoin, List.product, List.length_flatMap, List.countP_flatMap]
  simp only [List.length_map, ← List.countP_eq_length_filter, List.countP_map, Function.comp_def]

theorem placedPairs_swap {meet meetBack : Row → Row → Bool}
    (symmetric : ∀ l ∈ left, ∀ r ∈ right, meet l r = meetBack r l) :
    ((placedPairs (fun _ => true) meet left right).map Prod.swap).Perm
      (placedPairs (fun _ => true) meetBack right left) := by
  refine (List.perm_ext_iff_of_nodup (List.Nodup.map Prod.swap_injective (nodup_placedPairs _ _))
    (nodup_placedPairs _ _)).mpr fun pair => ?_
  obtain ⟨⟨r, j⟩, ⟨l, i⟩⟩ := pair
  simp only [List.mem_map, Prod.exists, Prod.swap_prod_mk, Prod.mk.injEq]
  constructor
  · rintro ⟨_, _, _, _, member, ⟨rfl, rfl⟩, rfl, rfl⟩
    obtain ⟨here, there, -, met⟩ := (mem_placedPairs ..).mp member
    rw [symmetric _ (List.mem_of_getElem? here) _ (List.mem_of_getElem? there)] at met
    exact (mem_placedPairs ..).mpr ⟨there, here, rfl, met⟩
  · intro member
    obtain ⟨there, here, -, met⟩ := (mem_placedPairs ..).mp member
    rw [← symmetric _ (List.mem_of_getElem? here) _ (List.mem_of_getElem? there)] at met
    exact ⟨l, i, r, j, (mem_placedPairs ..).mpr ⟨here, there, rfl, met⟩, ⟨rfl, rfl⟩, rfl, rfl⟩

/-- A join with the two sides exchanged has the same rows, each as often, if rows are told by what
stands under their names. There are as many as there are pairs with equal values. -/
theorem innerJoin_comm (apart : ∀ row ∈ left ++ right, (Fields.names row).Nodup)
    (keyed : ∀ row ∈ left ++ right, row.IsKeyed)
    (disjoint : ∀ l ∈ left, ∀ r ∈ right, ∀ name ∈ Fields.names l, name ∉ Fields.names r)
    (leftColumn rightColumn : Option Text) :
    ((innerJoin left right leftColumn rightColumn).map fun row name => Fields.find? row name).Perm
      ((innerJoin right left rightColumn leftColumn).map fun row name => Fields.find? row name) ∧
    (innerJoin left right leftColumn rightColumn).length = ((left ×ˢ right).countP fun pair =>
      (pair.1.valueAt leftColumn).equal (pair.2.valueAt rightColumn)) ∧
    (innerJoin right left rightColumn leftColumn).length = ((left ×ˢ right).countP fun pair =>
      (pair.1.valueAt leftColumn).equal (pair.2.valueAt rightColumn)) := by
  rw [List.forall_mem_append] at apart keyed
  have forth := @innerJoin_eq_placedPairs left right leftColumn rightColumn fun _ => true
  have back := @innerJoin_eq_placedPairs right left rightColumn leftColumn fun _ => true
  rw [List.filter_true] at forth back
  have exchanged := @placedPairs_swap left right
    (fun l r => (l.valueAt leftColumn).equal (r.valueAt rightColumn))
    (fun r l => (r.valueAt rightColumn).equal (l.valueAt leftColumn)) fun l here r there =>
      Value.equal_comm ((keyed.1 l here).isScalar_valueAt _) ((keyed.2 r there).isScalar_valueAt _)
  have rows : ((innerJoin left right leftColumn rightColumn).map
      fun row name => Fields.find? row name).Perm
        ((innerJoin right left rightColumn leftColumn).map
          fun row name => Fields.find? row name) := by
    rw [forth, back, List.map_map, List.map_map]
    refine List.Perm.trans (List.Perm.of_eq ?_) (exchanged.map _)
    rw [List.map_map]
    apply List.map_congr_left
    intro pair member
    obtain ⟨here, there, -⟩ := (mem_placedPairs ..).mp member
    have l := List.mem_of_getElem? here
    have r := List.mem_of_getElem? there
    exact (Row.merges_putAll _ (apart.2 _ r)).find?_comm (Row.merges_putAll _ (apart.1 _ l))
      (disjoint _ l _ r)
  refine ⟨rows, length_innerJoin .., ?_⟩
  rw [← length_innerJoin, ← List.length_map, ← rows.length_eq, List.length_map]

/-- A missing column is null and meets what is null, and numbers meet across their kinds. -/
theorem innerJoin_comm_of_missing :
    let left : List Row := [[("a", .int 0)], [("a", .null)], [("b", .bool true)]]
    let right : List Row := [[("c", .float (.finite true .zero))], [("d", .text "x")]]
    ((innerJoin left right "a" "c").map fun row name => Fields.find? row name).Perm
      ((innerJoin right left "c" "a").map fun row name => Fields.find? row name) ∧
    (innerJoin left right "a" "c").length = 3 ∧ (innerJoin right left "c" "a").length = 3 := by
  intro left right
  have keyed : ∀ row ∈ left ++ right, row.IsKeyed := by
    simp [left, right, Row.IsKeyed, Value.isScalar]
  obtain ⟨rows, forth, back⟩ := @innerJoin_comm left right (by decide) keyed (by decide) "a" "c"
  refine ⟨rows, forth.trans ?_, back.trans ?_⟩
  · decide +kernel
  · decide +kernel

end exchange

end RowStore
