import RowStore.Proofs.Results
import RowStore.Proofs.Storable
import RowStore.Query.Parser

/-! What the commands of queries bring into tables: cells, and names and texts that come from the
words of the query. -/
namespace RowStore

/-- A cell whose text, if it is one, has a property. -/
def Value.IsCellOf (P : Text → Prop) (v : Value) : Prop :=
  v.isCell ∧ ∀ s, v = .text s → P s

/-- A command brings only names and texts with a property, and only cells, into tables. -/
def Command.Brings (P : Text → Prop) : Command → Prop
  | .createTable name columns =>
    P name ∧ ∀ column ∈ columns, P column.name ∧ ∃ s, column.type = .text s ∧ P s
  | .insert _ values => ∀ v ∈ values, v.IsCellOf P
  | .update _ _ v _ => v.IsCellOf P
  | .select .. | .delete .. | .showIndex _ => True

namespace Query

variable {P : Text → Prop}

theorem coerce_cell {word : Option Text} {v : Value} (all : ∀ s ∈ word, P s)
    (read : coerce word = .ok v) (printable : v.printable) : v.IsCellOf P := by
  unfold coerce at read
  cases numeral : word.bind Numeral.ofWord? with
  | some n =>
    rw [numeral] at read
    cases n with
    | blank =>
      obtain rfl := Except.ok.inj read
      exact ⟨by
        simpa [Value.isCell, Value.isScalar, Value.storable, Value.printable] using printable,
        by simp⟩
    | whole negative digits =>
      simp only [Numeral.value] at read
      split at read
      · contradiction
      · obtain rfl := Except.ok.inj read
        exact ⟨by
          simpa [Value.isCell, Value.isScalar, Value.storable, Value.printable] using printable,
          by simp⟩
    | decimal d =>
      obtain rfl := Except.ok.inj read
      exact ⟨by
        simpa [Value.isCell, Value.isScalar, Value.storable] using Value.fromText_toBinary64 d,
        by simp⟩
    | infinite negative =>
      obtain rfl := Except.ok.inj read
      exact ⟨rfl, by simp⟩
    | radix base digits =>
      obtain rfl := Except.ok.inj read
      exact ⟨by
        simpa [Value.isCell, Value.isScalar, Value.storable, Value.printable] using printable,
        by simp⟩
  | none =>
    rw [numeral] at read
    obtain rfl := Except.ok.inj read
    cases word with
    | none => exact ⟨rfl, by simp [Value.ofText?]⟩
    | some s =>
      refine ⟨rfl, fun t same => ?_⟩
      obtain rfl := Value.text.inj same
      exact all _ rfl

theorem not_isNan_of_value {n : Numeral} {v : Value} (read : n.value = .ok v) : ¬v.isNan := by
  cases n with
  | decimal d =>
    obtain rfl := Except.ok.inj read
    simp [Value.isNan, Value.isNan_toBinary64]
  | whole negative digits =>
    simp only [Numeral.value] at read
    split at read
    · contradiction
    · obtain rfl := Except.ok.inj read
      simp [Value.isNan]
  | _ =>
    obtain rfl := Except.ok.inj read
    simp [Value.isNan, Binary64.isNan]

theorem not_isNan_of_coerce {word : Option Text} {v : Value} (read : coerce word = .ok v) :
    ¬v.isNan := by
  unfold coerce at read
  split at read
  · exact not_isNan_of_value read
  · obtain rfl := Except.ok.inj read
    cases word <;> simp [Value.ofText?, Value.isNan]

theorem coerce_of_plain {word : Text} (plain : isNumeric (some word) = false) :
    coerce (some word) = .ok (.text word) := by
  have other : (some word).bind Numeral.ofWord? = none := by simpa [isNumeric] using plain
  rw [coerce, other]
  rfl

theorem toNumber_eq (word : Option Text) :
    toNumber word = if isNumeric word then coerce word else .ok (.float (.nan .query)) := by
  unfold toNumber isNumeric coerce
  cases word.bind Numeral.ofWord? <;> rfl

theorem valuesAfter_origin {comma : Bool} {words : List Text} {vs : List Value}
    (read : valuesAfter comma words = .ok vs) {v : Value} (member : v ∈ vs) :
    ∃ word ∈ words, coerce (some word) = .ok v := by
  induction words generalizing comma vs with
  | nil => simp [valuesAfter, fail] at read
  | cons word rest ih =>
    unfold valuesAfter at read
    split at read
    · obtain ⟨w, there, made⟩ := ih read member
      exact ⟨w, List.mem_cons_of_mem _ there, made⟩
    · split at read
      · obtain rfl := Except.ok.inj read
        simp at member
      · obtain ⟨first, made, read⟩ := bind_eq_ok.mp read
        obtain ⟨others, later, same⟩ := bind_eq_ok.mp read
        obtain rfl := Except.ok.inj same
        rcases List.mem_cons.mp member with rfl | member
        · exact ⟨word, List.mem_cons_self, made⟩
        · obtain ⟨w, there, made⟩ := ih later member
          exact ⟨w, List.mem_cons_of_mem _ there, made⟩

/-- A column whose name and type are texts with a property. -/
def IsColumnOf (P : Text → Prop) (column : Column) : Prop :=
  P column.name ∧ ∃ s, column.type = .text s ∧ P s

mutual

theorem columns_origin : ∀ {words : List Text} {cs : List Column}, (∀ w ∈ words, P w) →
    columns words = .ok cs → ∀ c ∈ cs, IsColumnOf P c
  | [], _, _, read => by simp [columns, fail] at read
  | name :: rest, cs, all, read => by
    unfold columns at read
    split at read
    · obtain rfl := Except.ok.inj read
      simp
    · cases rest with
      | nil => simp [fail] at read
      | cons type rest =>
        simp only [List.forall_mem_cons] at all
        exact @modifiers_origin rest ⟨name, .text type, false, false⟩ cs all.2.2
          ⟨all.1, type, rfl, all.2.1⟩ read

theorem modifiers_origin : ∀ {words : List Text} {column : Column} {cs : List Column},
    (∀ w ∈ words, P w) → IsColumnOf P column → modifiers column words = .ok cs →
      ∀ c ∈ cs, IsColumnOf P c
  | [], _, _, _, _, read => by simp [modifiers, fail] at read
  | word :: rest, column, cs, all, good, read => by
    rw [List.forall_mem_cons] at all
    unfold modifiers at read
    split at read
    · obtain rfl := Except.ok.inj read
      simpa using good
    · split at read
      · obtain ⟨others, later, rfl⟩ := map_eq_ok.mp read
        simpa using ⟨good, columns_origin all.2 later⟩
      · split at read
        · exact @modifiers_origin rest { column with primary := true } cs all.2 good read
        · split at read
          · exact @modifiers_origin rest { column with unique := true } cs all.2 good read
          · exact modifiers_origin all.2 good read

end

theorem mem_of_behind {anchor : Text} {words rest : List Text}
    (found : behind anchor words = some rest) : ∀ w ∈ rest, w ∈ words := by
  induction words with
  | nil => simp [behind] at found
  | cons word others ih =>
    unfold behind at found
    split at found
    · obtain rfl := Option.some.inj found
      intro w member
      exact List.mem_cons_of_mem _ member
    · exact fun w member => List.mem_cons_of_mem _ (ih found w member)

theorem behind_of_not_mem {anchor : Text} {words : List Text} (absent : anchor ∉ words) :
    behind anchor words = none := by
  induction words with
  | nil => rfl
  | cons word words ih =>
    obtain ⟨apart, absent⟩ := List.ne_and_not_mem_of_not_mem_cons absent
    rw [behind, if_neg (Ne.symm apart), ih absent]

theorem behind_append {anchor : Text} {front : List Text} (absent : anchor ∉ front)
    (rest : List Text) : behind anchor (front ++ anchor :: rest) = some rest := by
  induction front with
  | nil => rw [List.nil_append, behind, if_pos rfl]
  | cons word front ih =>
    obtain ⟨apart, absent⟩ := List.ne_and_not_mem_of_not_mem_cons absent
    rw [List.cons_append, behind, if_neg (Ne.symm apart), ih absent]

theorem takeWhile_append {anchor : Text} {front : List Text} (absent : anchor ∉ front)
    (rest : List Text) : (front ++ anchor :: rest).takeWhile (· ≠ anchor) = front := by
  have ahead : ∀ word ∈ front, decide (word ≠ anchor) = true :=
    fun word member => decide_eq_true fun same => absent (same ▸ member)
  rw [List.takeWhile_append_of_pos ahead]
  simp

theorem mem_of_require {anchor : Text} {part : QueryPart} {words rest : List Text}
    (found : require anchor part words = .ok rest) : ∀ w ∈ rest, w ∈ words := by
  unfold require at found
  split at found
  · next behind =>
    obtain rfl := Except.ok.inj found
    exact mem_of_behind behind
  · simp [fail] at found

theorem create_brings {words : List Text} {command : Command} (all : ∀ w ∈ words, P w)
    (empty : P "") (read : create words = .ok command) : command.Brings P := by
  match words with
  | [] | [_] => simp [create, fail] at read
  | first :: second :: rest =>
    simp only [List.forall_mem_cons] at all
    simp only [create] at read
    split at read
    · simp [fail] at read
    · obtain ⟨opened, found, read⟩ := bind_eq_ok.mp read
      obtain ⟨cs, made, same⟩ := bind_eq_ok.mp read
      obtain rfl := Except.ok.inj same
      refine ⟨?_, columns_origin (fun w member => all.2.2 w (mem_of_require found w member)) made⟩
      cases rest with
      | nil => exact empty
      | cons name more => exact all.2.2 name List.mem_cons_self

theorem insert_brings {words : List Text} {command : Command} (all : ∀ w ∈ words, P w)
    (read : insert words = .ok command) (printable : command.printable) : command.Brings P := by
  obtain ⟨opened, found, read⟩ := bind_eq_ok.mp read
  obtain ⟨vs, made, same⟩ := bind_eq_ok.mp read
  obtain rfl := Except.ok.inj same
  intro v member
  obtain ⟨word, there, coerced⟩ := valuesAfter_origin made member
  have known := all word (mem_of_require found word there)
  exact coerce_cell (by simpa using known) coerced (List.all_eq_true.mp printable v member)

theorem update_brings {words : List Text} {command : Command} (all : ∀ w ∈ words, P w)
    (read : update words = .ok command) (printable : command.printable) : command.Brings P := by
  obtain ⟨assigned, found, read⟩ := bind_eq_ok.mp read
  obtain ⟨v, coerced, read⟩ := bind_eq_ok.mp read
  obtain ⟨condition, filtered, same⟩ := bind_eq_ok.mp read
  obtain rfl := Except.ok.inj same
  refine coerce_cell (fun s at_two => all s (mem_of_require found s ?_)) coerced ?_
  · exact List.mem_of_getElem? at_two
  · exact List.all_eq_true.mp printable v List.mem_cons_self

/-- What the command of some words brings comes from these words. -/
theorem parse_brings {words : List Text} {command : Command} (all : ∀ w ∈ words, P w)
    (empty : P "") (read : parse words = .ok command) : command.Brings P := by
  obtain ⟨routed, found, read⟩ := bind_eq_ok.mp read
  split at read
  · next printable =>
    obtain rfl := Except.ok.inj read
    unfold route at found
    simp only at found
    split at found
    · simp [fail] at found
    split at found
    · exact create_brings all empty found
    split at found
    · exact insert_brings all found printable
    split at found
    · obtain ⟨_, _, found⟩ := bind_eq_ok.mp found
      obtain ⟨_, _, found⟩ := bind_eq_ok.mp found
      obtain ⟨_, _, found⟩ := bind_eq_ok.mp found
      obtain rfl := Except.ok.inj found
      trivial
    split at found
    · exact update_brings all found printable
    split at found
    · obtain ⟨_, _, found⟩ := bind_eq_ok.mp found
      obtain rfl := Except.ok.inj found
      trivial
    split at found
    · unfold showIndex at found
      split at found
      · simp [fail] at found
      split at found
      · simp [fail] at found
      obtain rfl := Except.ok.inj found
      trivial
    · simp [fail] at found
  · contradiction

end Query
end RowStore
