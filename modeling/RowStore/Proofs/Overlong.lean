import RowStore.Proofs.Commands
import RowStore.Proofs.Json.Reading
import RowStore.Proofs.Patterns

/-! Words of a query that write whole numbers with too many digits. Every command reads some of its
words as numbers, and reading them is the only thing on the way to a command that can fail without
being foreseen: it does so only over a word that is too long, and with such a word there is no
command. -/
namespace RowStore.Query

/-- Whether a word is a whole number with too many digits: in base ten those of the word, zeros in
front included, and in another base those that the number would have in base ten. -/
def isOverlong (word : Text) : Bool :=
  match Numeral.ofWord? word with
  | some (.whole _ digits) => decide (Value.maxDigits < digits.length)
  | some (.radix base digits) => decide (Value.tooLong ≤ Text.ofDigits base digits)
  | _ => false

/-- The word behind an anchor that stands for a value. -/
def valueBehind (anchor : Text) (words : List Text) : Option Text :=
  (behind anchor words).bind (·[2]?)

/-- The words that a command reads as numbers if they are any. -/
def numberWords (words : List Text) : List Text :=
  let command := Text.upper (words.head?.getD "")
  if command = "INSERT" then ((behind "(" words).getD []).takeWhile (· ≠ (")" : Text))
  else if command = "UPDATE" then
    (valueBehind "SET" words).toList ++ (valueBehind "WHERE" words).toList
  else if command = "SELECT" ∨ command = "DELETE" then (valueBehind "WHERE" words).toList
  else []

/-- What reading some words as numbers may come to, where the result holds some values. The values
can be written exactly if no word is too long. The engine may refuse for reasons of its own, but
anything else that goes wrong is the fault of a word that is too long. -/
def Settles {α : Type} (words : List Text) (held : α → List Value) : Result α → Prop
  | .ok a => (held a).all Value.printable = words.all fun word => !isOverlong word
  | .error (.engine _) => True
  | .error (.crash cause) => words.any isOverlong ∧ ∃ count, cause = .tooManyDigits count

section settles

variable {α β γ : Type} {words more : List Text} {held : α → List Value} {further : β → List Value}

theorem Settles.andThen {x : Result α} {y : Result β} {f : α → β → γ} {whole : γ → List Value}
    (first : Settles words held x) (second : Settles more further y)
    (values : ∀ a b, (whole (f a b)).all Value.printable =
      ((held a).all Value.printable && (further b).all Value.printable)) :
    Settles (words ++ more) whole (do let a ← x; let b ← y; return f a b) := by
  match x, y with
  | .error (.engine error), _ => trivial
  | .error (.crash cause), _ =>
    exact ⟨by rw [List.any_append, first.1, Bool.true_or], first.2⟩
  | .ok a, .error (.engine error) => trivial
  | .ok a, .error (.crash cause) =>
    exact ⟨by rw [List.any_append, second.1, Bool.or_true], second.2⟩
  | .ok a, .ok b =>
    change (whole (f a b)).all Value.printable = _
    rw [values, List.all_append, ← show _ = words.all _ from first,
      ← show _ = more.all _ from second]

theorem Settles.map {x : Result α} {f : α → β} (settles : Settles words held x)
    (values : ∀ a, (further (f a)).all Value.printable = (held a).all Value.printable) :
    Settles words further (x.map f) := by
  match x with
  | .error (.engine error) => trivial
  | .error (.crash cause) => exact settles
  | .ok a => exact (values a).trans settles

/-- A step that only the engine can refuse does not matter to what is read behind it. -/
theorem Settles.behind {x : Result β} {f : β → Result α}
    (refused : ∀ e, x = .error e → ∃ error, e = .engine error)
    (later : ∀ b, x = .ok b → Settles words held (f b)) : Settles words held (x >>= f) := by
  match x with
  | .error (.engine error) => trivial
  | .error (.crash cause) =>
    obtain ⟨error, same⟩ := refused _ rfl
    contradiction
  | .ok b => exact later b rfl

theorem Settles.cons {x : Result α} {word : Text} (short : isOverlong word = false)
    (settles : Settles words held x) : Settles (word :: words) held x := by
  match x with
  | .error (.engine error) => trivial
  | .error (.crash cause) => simpa [Settles, short] using settles
  | .ok a => simpa [Settles, short] using settles

end settles

namespace Numeral

theorem ofWord?_small {word : Text} {sign : Bool} {ds : List Nat}
    (read : ofWord? word = some (.whole sign ds)) : ∀ d ∈ ds, d < 10 := by
  obtain ⟨cs, -, found⟩ := ofWord?_eq_some_iff.mp read
  obtain ⟨negative, front, written, known, run, rfl⟩ :=
    Pattern.mem_sign_mul.mp (form_of_ofChars? found)
  obtain ⟨present, digits⟩ := Pattern.mem_run.mp run
  rw [ofChars?_of_digits known present digits] at found
  obtain ⟨-, rfl⟩ := Numeral.whole.inj (Option.some.inj found)
  intro d member
  obtain ⟨c, -, value⟩ := List.mem_filterMap.mp member
  exact Text.digit?_lt value

theorem value_refused {n : Numeral} {e : Failure} (refused : n.value = .error e) :
    ∃ cause, e = .crash cause := by
  cases n with
  | whole negative digits =>
    simp only [value] at refused
    split at refused
    · exact ⟨_, (Except.error.inj refused).symm⟩
    · contradiction
  | _ => simp [value] at refused

end Numeral

theorem value_settles {word : Text} {n : Numeral} (read : Numeral.ofWord? word = some n) :
    Settles [word] ([·]) n.value := by
  cases n with
  | whole negative digits =>
    by_cases long : Value.maxDigits < digits.length
    · simp only [Numeral.value, long, ↓reduceIte]
      exact ⟨by simp [isOverlong, read, long], _, rfl⟩
    · have short := Json.lt_tooLong (Numeral.ofWord?_small read) (Nat.le_of_not_lt long)
      rw [← Json.natAbs_signed negative (Text.ofDigits 10 digits)] at short
      simp only [Numeral.value, long, ↓reduceIte]
      simpa [Settles, isOverlong, read, long, Value.printable] using short
  | radix base digits =>
    simp [Numeral.value, Settles, isOverlong, read, Value.printable, ← decide_not]
  | blank =>
    have small : 0 < Value.tooLong := @Json.lt_tooLong [] (by simp) (Nat.zero_le _)
    simpa [Numeral.value, Settles, isOverlong, read, Value.printable] using small
  | _ => simp [Numeral.value, Settles, isOverlong, read, Value.printable]

theorem read_settles (word : Option Text) {other : Value} (written : other.printable) :
    Settles word.toList ([·]) (match word.bind Numeral.ofWord? with
      | some n => n.value
      | none => .ok other) := by
  cases word with
  | none => simpa [Settles] using written
  | some s =>
    cases read : Numeral.ofWord? s with
    | some n => simpa [read] using value_settles read
    | none => simpa [read, Settles, isOverlong] using written

theorem coerce_settles (word : Option Text) : Settles word.toList ([·]) (coerce word) :=
  read_settles word (by cases word <;> rfl)

theorem toNumber_settles (word : Option Text) : Settles word.toList ([·]) (toNumber word) :=
  read_settles word rfl

theorem exists_read {word : Text} {other : Value} (written : other.printable)
    (short : isOverlong word = false) :
    ∃ v, (match (some word).bind Numeral.ofWord? with
      | some n => n.value
      | none => .ok other) = .ok v ∧ v.printable := by
  have settles := read_settles (some word) written
  rw [Option.bind_some] at settles ⊢
  cases read : Numeral.ofWord? word with
  | none => exact ⟨other, rfl, written⟩
  | some n =>
    simp only [read] at settles ⊢
    cases value : n.value with
    | ok v =>
      rw [value] at settles
      exact ⟨v, rfl, by simpa [Settles, short] using settles⟩
    | error e =>
      obtain ⟨cause, rfl⟩ := Numeral.value_refused value
      rw [value] at settles
      simp [Settles, short] at settles

theorem exists_coerce {word : Text} (short : isOverlong word = false) :
    ∃ v, coerce (some word) = .ok v ∧ v.printable :=
  exists_read rfl short

theorem exists_toNumber {word : Text} (short : isOverlong word = false) :
    ∃ v, toNumber (some word) = .ok v ∧ v.printable :=
  exists_read rfl short

theorem isCell_of_coerce {word : Text} {v : Value} (short : isOverlong word = false)
    (read : coerce (some word) = .ok v) : v.isCell := by
  obtain ⟨w, again, printable⟩ := exists_coerce short
  obtain rfl := Except.ok.inj (read.symm.trans again)
  exact (@coerce_cell (fun _ => True) _ _ (fun _ _ => trivial) read printable).1

/-! The parts of commands. -/

theorem engine_of_missing {α : Type} {part : QueryPart} {e : Failure}
    (failed : (fail (.missing part) : Result α) = .error e) : ∃ error, e = .engine error :=
  ⟨.missing part, (Except.error.inj failed).symm⟩

theorem require_refused {anchor : Text} {part : QueryPart} {words : List Text} {e : Failure}
    (failed : require anchor part words = .error e) : ∃ error, e = .engine error := by
  unfold require at failed
  split at failed
  · contradiction
  · exact engine_of_missing failed

theorem reference_refused {word : Option Text} {e : Failure}
    (failed : reference word = .error e) : ∃ error, e = .engine error := by
  unfold reference at failed
  split at failed
  · exact engine_of_missing failed
  · split at failed <;> contradiction

theorem join_refused {words : List Text} {e : Failure} (failed : join words = .error e) :
    ∃ error, e = .engine error := by
  unfold join at failed
  split at failed
  · contradiction
  · rcases bind_eq_error.mp failed with left | ⟨first, -, failed⟩
    · exact reference_refused left
    rcases bind_eq_error.mp failed with right | ⟨second, -, failed⟩
    · exact reference_refused right
    · contradiction

mutual

theorem columns_refused : ∀ {words : List Text} {e : Failure}, columns words = .error e →
    ∃ error, e = .engine error
  | [], _, failed => engine_of_missing failed
  | name :: rest, e, failed => by
    unfold columns at failed
    split at failed
    · contradiction
    · cases rest with
      | nil => exact engine_of_missing failed
      | cons type rest => exact modifiers_refused failed

theorem modifiers_refused : ∀ {words : List Text} {column : Column} {e : Failure},
    modifiers column words = .error e → ∃ error, e = .engine error
  | [], _, _, failed => engine_of_missing failed
  | word :: rest, column, e, failed => by
    unfold modifiers at failed
    split at failed
    · contradiction
    split at failed
    · exact columns_refused (map_eq_error.mp failed)
    split at failed
    · exact modifiers_refused failed
    split at failed
    · exact modifiers_refused failed
    · exact modifiers_refused failed

end

theorem valuesAfter_settles (comma : Bool) (words : List Text) :
    Settles (words.takeWhile (· ≠ (")" : Text))) id (valuesAfter comma words) := by
  induction words generalizing comma with
  | nil => trivial
  | cons word rest ih =>
    by_cases closing : word = ")"
    · subst closing
      cases comma <;> exact rfl
    · have front : (word :: rest).takeWhile (· ≠ (")" : Text)) =
          word :: rest.takeWhile (· ≠ (")" : Text)) := by
        simp [closing]
      rw [front]
      unfold valuesAfter
      split
      · next separates =>
        obtain ⟨-, rfl⟩ : comma = true ∧ word = "," := by simpa using separates
        exact (ih false).cons (by decide)
      · have first := coerce_settles (some word)
        exact first.andThen (ih true) fun v vs => by simp

theorem filter_settles {read : Option Text → Result Value}
    (reads : ∀ word, Settles word.toList ([·]) (read word)) (words : List Text) :
    Settles (valueBehind "WHERE" words).toList
      (fun f : Option Filter => (f.map Filter.value).toList) (filter read words) := by
  unfold filter valueBehind
  cases behind "WHERE" words with
  | none => exact rfl
  | some rest => exact (reads rest[2]?).map fun v => rfl

theorem create_settles (words : List Text) : Settles [] Command.values (create words) := by
  unfold create
  split
  · next first word rest =>
    split
    · trivial
    · refine Settles.behind (fun e => require_refused) fun opened _ => ?_
      refine Settles.behind (fun e => columns_refused) fun cs made => ?_
      have typed := @columns_origin (fun _ => True) _ _ (fun _ _ => trivial) made
      change (cs.map Column.type).all Value.printable = true
      rw [List.all_map, List.all_eq_true]
      intro c member
      obtain ⟨_, s, type, -⟩ := typed c member
      rw [Function.comp_apply, type]
      rfl
  · trivial

theorem insert_settles (words : List Text) :
    Settles (((behind "(" words).getD []).takeWhile (· ≠ (")" : Text))) Command.values
      (insert words) := by
  unfold insert require
  cases behind "(" words with
  | none => trivial
  | some rest => exact (valuesAfter_settles false rest).map fun vs => rfl

theorem select_settles (words : List Text) :
    Settles (valueBehind "WHERE" words).toList Command.values (select words) := by
  refine Settles.behind (fun e => require_refused) fun source _ => ?_
  refine Settles.behind (fun e => join_refused) fun second _ => ?_
  exact (filter_settles coerce_settles words).map fun f => rfl

theorem update_settles (words : List Text) :
    Settles ((valueBehind "SET" words).toList ++ (valueBehind "WHERE" words).toList) Command.values
      (update words) := by
  unfold update require
  cases found : behind "SET" words with
  | none => trivial
  | some assigned =>
    have value := coerce_settles assigned[2]?
    have set : valueBehind "SET" words = assigned[2]? := by simp [valueBehind, found]
    rw [set]
    exact value.andThen (filter_settles toNumber_settles words) fun v f => by
      simp [Command.values]

theorem delete_settles (words : List Text) :
    Settles (valueBehind "WHERE" words).toList Command.values (delete words) :=
  (filter_settles toNumber_settles words).map fun _ => rfl

theorem showIndex_settles (words : List Text) : Settles [] Command.values (showIndex words) := by
  unfold showIndex
  split
  · trivial
  split
  · trivial
  · exact rfl

theorem route_settles (words : List Text) :
    Settles (numberWords words) Command.values (route words) := by
  unfold route numberWords
  generalize Text.upper (words.head?.getD "") = command
  by_cases insert : command = "INSERT"
  · subst insert
    exact insert_settles words
  by_cases update : command = "UPDATE"
  · subst update
    exact update_settles words
  by_cases select : command = "SELECT"
  · subst select
    exact select_settles words
  by_cases delete : command = "DELETE"
  · subst delete
    exact delete_settles words
  simp only [insert, update, select, delete, or_self, ↓reduceIte]
  split
  · trivial
  split
  · exact create_settles words
  split
  · exact showIndex_settles words
  · trivial

theorem parse_settles (words : List Text) :
    Settles (numberWords words) (fun _ => []) (parse words) := by
  have routed := route_settles words
  unfold parse
  cases found : route words with
  | error e =>
    rw [found] at routed
    cases e with
    | engine error => trivial
    | crash cause => exact routed
  | ok command =>
    rw [found] at routed
    change command.printable = _ at routed
    simp only [bind, Except.bind]
    split
    · next written => exact written.symm.trans routed
    · next unwritten =>
      refine ⟨?_, none, rfl⟩
      rw [routed, Bool.not_eq_true, List.all_eq_false] at unwritten
      simpa using unwritten

/-- The words of a query. -/
def wordsOf (query : Text) : List Text := (tokens query.points).map Text.mk

theorem parseText_settles (query : Text) :
    Settles (numberWords (wordsOf query)) (fun _ => []) (parseText (some query)) := by
  unfold parseText tokenize
  dsimp only
  split
  · trivial
  · exact parse_settles (wordsOf query)

/-- A query without a word that is too long in the place of a number is read or refused. -/
theorem engine_of_parseText {query : Text} {e : Failure}
    (short : ∀ word ∈ numberWords (wordsOf query), isOverlong word = false)
    (failed : parseText (some query) = .error e) : ∃ error, e = .engine error := by
  have settles := parseText_settles query
  rw [failed] at settles
  cases e with
  | engine error => exact ⟨error, rfl⟩
  | crash cause =>
    obtain ⟨word, member, long⟩ := List.any_eq_true.mp settles.1
    rw [short word member] at long
    contradiction

/-- A query with such a word is not read. -/
theorem parseText_of_overlong {query word : Text} (member : word ∈ numberWords (wordsOf query))
    (long : isOverlong word) : ∃ e, parseText (some query) = .error e ∧
      ((∃ error, e = .engine error) ∨ ∃ count, e = .crash (.tooManyDigits count)) := by
  have settles := parseText_settles query
  cases read : parseText (some query) with
  | ok command =>
    rw [read] at settles
    have short := List.all_eq_true.mp (show _ = true from settles.symm) word member
    simp [long] at short
  | error e =>
    rw [read] at settles
    refine ⟨e, rfl, ?_⟩
    cases e with
    | engine error => exact .inl ⟨error, rfl⟩
    | crash cause =>
      obtain ⟨-, count, rfl⟩ := settles
      exact .inr ⟨count, rfl⟩

end RowStore.Query
