import RowStore.Json.Reader
import RowStore.Proofs.Digits
import RowStore.Proofs.Results
import RowStore.Proofs.Settled
import RowStore.Snapshot

/-! What the reader makes of any text. What it leaves is the end of the text, every value that it
gives can be kept in a snapshot again, and texts of characters alone give settled values. -/
namespace RowStore.Json

theorem skip_suffix (ps : List Point) : skip ps <:+ ps := List.dropWhile_suffix _

/-- The units that a piece stands for. -/
def Piece.units : Piece → List Nat
  | .plain p => Text.units p
  | .unit n => [n]

/-- Whether a piece is an escape or a character. -/
def Piece.ofCharacter : Piece → Prop
  | .plain p => p.char?.isSome
  | .unit _ => True

theorem joined_eq_ofUnits {found : List Piece} (plain : ∀ piece ∈ found, piece.ofCharacter) :
    joined found = Text.ofUnits (found.flatMap Piece.units) := by
  fun_induction joined found with
  | case1 => rfl
  | case2 p rest ih =>
    obtain ⟨first, later⟩ := List.forall_mem_cons.mp plain
    cases p with
    | char c => rw [List.flatMap_cons, Piece.units, Text.ofUnits_units_append, ih later]
    | half h => simp [Piece.ofCharacter, Point.char?] at first
  | case3 h l rest pair ih =>
    have later := (List.forall_mem_cons.mp (List.forall_mem_cons.mp plain).2).2
    simp [Piece.units, Text.ofUnits, pair, ih later]
  | case4 h l rest lone ih =>
    have later := (List.forall_mem_cons.mp plain).2
    rw [ih later]
    simp [Piece.units, Text.ofUnits, lone]
  | case5 n rest alone ih =>
    obtain ⟨_, later⟩ := List.forall_mem_cons.mp plain
    rw [List.flatMap_cons, Piece.units, List.singleton_append, ih later,
      Text.ofUnits_cons_of_apart]
    intro l first _ low
    cases rest with
    | nil => simp at first
    | cons next rest =>
      cases next with
      | unit m => exact alone m rest rfl
      | plain p =>
        cases p with
        | half h => simp [Piece.ofCharacter, Point.char?] at later
        | char c =>
          have half := Text.isLow_of_head_units first low
          simp [Point.toNat, Text.isLow_toNat] at half

theorem pieces_spec {opened ps rest : List Point} {found : List Piece}
    (read : pieces opened ps = .ok (found, rest)) :
    rest <:+ ps ∧ (Text.ofCharacters ps → ∀ piece ∈ found, piece.ofCharacter) := by
  fun_induction pieces opened ps generalizing found with
  | case1 => simp [stopAt] at read
  | case2 ps =>
    obtain ⟨rfl, rfl⟩ : [] = found ∧ ps = rest := by simpa using read
    exact ⟨List.suffix_cons .., by simp⟩
  | case3 a b c d ps n unit last => simp [stopAt] at read
  | case4 a b c d ps n unit more ih =>
    obtain ⟨⟨others, after⟩, later, same⟩ := bind_eq_ok.mp read
    obtain ⟨rfl, rfl⟩ : .unit n :: others = found ∧ after = rest := by
      simpa [pure, Except.pure] using same
    obtain ⟨tail, good⟩ := ih later
    refine ⟨tail.trans ⟨[_, _, _, _, _, _], rfl⟩, fun plain => ?_⟩
    have plain : Text.ofCharacters ps := fun p member => plain p (by simp [member])
    exact List.forall_mem_cons.mpr ⟨trivial, good plain⟩
  | case5 => simp [stopAt] at read
  | case6 => simp [stopAt] at read
  | case7 => simp [stopAt] at read
  | case8 p ps _ _ e escape ih =>
    obtain ⟨⟨others, after⟩, later, same⟩ := bind_eq_ok.mp read
    obtain ⟨rfl, rfl⟩ : .plain (.char e) :: others = found ∧ after = rest := by
      simpa [pure, Except.pure] using same
    obtain ⟨tail, good⟩ := ih later
    refine ⟨tail.trans ⟨[_, _], rfl⟩, fun plain => ?_⟩
    have plain : Text.ofCharacters ps := fun p member => plain p (by simp [member])
    exact List.forall_mem_cons.mpr ⟨rfl, good plain⟩
  | case9 => simp [stopAt] at read
  | case10 => simp [stopAt] at read
  | case11 p ps _ _ _ _ _ _ ih =>
    obtain ⟨⟨others, after⟩, later, same⟩ := bind_eq_ok.mp read
    obtain ⟨rfl, rfl⟩ : .plain p :: others = found ∧ after = rest := by
      simpa [pure, Except.pure] using same
    obtain ⟨tail, good⟩ := ih later
    refine ⟨tail.trans (List.suffix_cons ..), fun plain => ?_⟩
    obtain ⟨first, plain⟩ := List.forall_mem_cons.mp plain
    exact List.forall_mem_cons.mpr ⟨first, good plain⟩

theorem text_spec {ps rest : List Point} {s : Text} (read : text ps = .ok (s, rest)) :
    rest <:+ ps ∧ (Text.ofCharacters ps → s.settled) := by
  obtain ⟨⟨found, after⟩, pieced, same⟩ := bind_eq_ok.mp read
  obtain ⟨rfl, rfl⟩ : ⟨joined found⟩ = s ∧ after = rest := by simpa [pure, Except.pure] using same
  obtain ⟨tail, good⟩ := pieces_spec pieced
  refine ⟨tail, fun plain => ?_⟩
  rw [Text.settled, joined_eq_ofUnits (good plain)]
  exact Text.apart_ofUnits _

theorem basicDigits_spec {ps rest : List Point} {ds : List Nat}
    (read : basicDigits ps = (ds, rest)) : rest <:+ ps ∧ ∀ d ∈ ds, d < 10 := by
  induction ps generalizing ds with
  | nil =>
    obtain ⟨rfl, rfl⟩ := Prod.mk.inj read
    exact ⟨List.suffix_rfl, by simp⟩
  | cons p ps ih =>
    unfold basicDigits at read
    split at read
    · obtain ⟨rfl, rfl⟩ := Prod.mk.inj read
      obtain ⟨tail, small⟩ := ih rfl
      exact ⟨tail.trans (List.suffix_cons ..), List.forall_mem_cons.mpr ⟨by omega, small⟩⟩
    · obtain ⟨rfl, rfl⟩ := Prod.mk.inj read
      exact ⟨List.suffix_rfl, by simp⟩

theorem wholeDigits_spec {ps rest : List Point} {ds : List Nat}
    (read : wholeDigits ps = some (ds, rest)) : rest <:+ ps ∧ ∀ d ∈ ds, d < 10 := by
  unfold wholeDigits at read
  split at read
  · obtain ⟨rfl, rfl⟩ := Prod.mk.inj (Option.some.inj read)
    exact ⟨List.suffix_cons .., by simp⟩
  · split at read
    · contradiction
    · next found =>
      obtain ⟨rfl, rfl⟩ := Prod.mk.inj (Option.some.inj read)
      exact basicDigits_spec found

theorem fractionDigits_suffix (ps : List Point) : (fractionDigits ps).2 <:+ ps := by
  unfold fractionDigits
  split
  · split
    · exact List.suffix_rfl
    · next found => exact (basicDigits_spec found).1.trans (List.suffix_cons ..)
  · exact List.suffix_rfl

theorem powerOfTen_suffix (ps : List Point) : (powerOfTen ps).2 <:+ ps := by
  unfold powerOfTen
  split
  · split
    · dsimp only
      split
      · exact List.suffix_rfl
      · next found =>
        refine (basicDigits_spec found).1.trans (List.IsSuffix.trans ?_ (List.suffix_cons ..))
        split <;> simp
    · exact List.suffix_rfl
  · exact List.suffix_rfl

/-- A value that is read from a text: it can be kept, and it is settled if the text has no halves.
What is left is the end of the text. -/
structure ReadFrom (ps : List Point) (v : Value) (rest : List Point) : Prop where
  tail : rest <:+ ps
  storable : v.storable
  settled : Text.ofCharacters ps → v.settled

theorem ofDigits_lt_of_length {ds : List Nat} {limit : Nat} (small : ∀ d ∈ ds, d < 10)
    (short : ds.length ≤ limit) : Text.ofDigits 10 ds < Nat.pow 10 limit :=
  Nat.lt_of_lt_of_le (Text.ofDigits_lt small) (Nat.pow_le_pow_right (by decide) short)

theorem lt_tooLong {ds : List Nat} (small : ∀ d ∈ ds, d < 10)
    (short : ds.length ≤ Value.maxDigits) : Text.ofDigits 10 ds < Value.tooLong := by
  unfold Value.tooLong
  exact ofDigits_lt_of_length small short

theorem natAbs_signed (negative : Bool) (n : Nat) :
    (if negative then -(n : Int) else n).natAbs = n := by
  cases negative <;> simp

theorem number_spec {ps rest : List Point} {v : Value} (read : number ps = .ok (v, rest)) :
    ReadFrom ps v rest := by
  unfold number at read
  dsimp only at read
  split at read
  · simp [stopAt] at read
  · next whole after found =>
    obtain ⟨tail, small⟩ := wholeDigits_spec found
    have start : after <:+ ps := tail.trans (by split <;> simp)
    have finish := (powerOfTen_suffix (fractionDigits after).2).trans
      ((fractionDigits_suffix after).trans start)
    split at read
    · next power =>
      rw [power] at finish
      split at read
      · contradiction
      · next short =>
        obtain ⟨rfl, rfl⟩ := Prod.mk.inj (Except.ok.inj read)
        refine ⟨finish, ?_, fun _ => rfl⟩
        have bound := lt_tooLong small (Nat.le_of_not_lt short)
        rwa [Value.storable, decide_eq_true_eq, natAbs_signed]
    · next power _ =>
      rw [power] at finish
      obtain ⟨rfl, rfl⟩ := Prod.mk.inj (Except.ok.inj read)
      exact ⟨finish, by simpa [Value.storable] using Value.fromText_toBinary64 _, fun _ => rfl⟩

theorem keyword?_spec {ps rest : List Point} {v : Value} (read : keyword? ps = some (v, rest)) :
    ReadFrom ps v rest := by
  obtain ⟨word, found, same⟩ := Option.map_eq_some_iff.mp read
  obtain ⟨rfl, rfl⟩ := Prod.mk.inj same
  have known : word.2.storable ∧ word.2.settled := by
    have member := List.mem_of_find?_eq_some found
    simp only [keywords, List.mem_cons, List.not_mem_nil, or_false] at member
    rcases member with rfl | rfl | rfl | rfl | rfl | rfl <;>
      simp [Value.storable, Value.fromText, Value.settled]
  exact ⟨List.drop_suffix .., known.1, fun _ => known.2⟩

/-- What is said of single values, of items and of fields that are read with some fuel. -/
structure Reads (fuel : Nat) : Prop where
  value : ∀ {ps rest v}, value fuel ps = .ok (v, rest) → ReadFrom ps v rest
  items : ∀ {ps rest vs}, items fuel ps = .ok (vs, rest) → ReadFrom ps (.list vs) rest
  members : ∀ {ps rest pairs}, members fuel ps = .ok (pairs, rest) →
    rest <:+ ps ∧ (∀ pair ∈ pairs, pair.2.storable) ∧
      (Text.ofCharacters ps → ∀ pair ∈ pairs, pair.1.settled ∧ pair.2.settled)

theorem ofCharacters_of_suffix {ps rest : List Point} (plain : Text.ofCharacters ps)
    (tail : rest <:+ ps) : Text.ofCharacters rest :=
  fun p member => plain p (tail.subset member)

theorem value_step {fuel : Nat} (reads : Reads fuel) {ps rest : List Point} {v : Value}
    (read : value (fuel + 1) ps = .ok (v, rest)) : ReadFrom ps v rest := by
  unfold value at read
  split at read
  · obtain ⟨⟨s, after⟩, found, same⟩ := bind_eq_ok.mp read
    obtain ⟨rfl, rfl⟩ := Prod.mk.inj (Except.ok.inj same)
    obtain ⟨tail, settled⟩ := text_spec found
    exact ⟨tail.trans (List.suffix_cons ..), rfl,
      fun plain => settled (ofCharacters_of_suffix plain (List.suffix_cons ..))⟩
  · next opened =>
    have start := (skip_suffix opened).trans (List.suffix_cons (.char '[') opened)
    split at read
    · next closed =>
      rw [closed] at start
      obtain ⟨rfl, rfl⟩ := Prod.mk.inj (Except.ok.inj read)
      exact ⟨(List.suffix_cons ..).trans start, by simp, fun _ => by simp⟩
    · obtain ⟨⟨vs, after⟩, found, same⟩ := bind_eq_ok.mp read
      obtain ⟨rfl, rfl⟩ := Prod.mk.inj (Except.ok.inj same)
      have inside := reads.items found
      exact ⟨inside.tail.trans start, inside.storable,
        fun plain => inside.settled (ofCharacters_of_suffix plain start)⟩
  · next opened =>
    have start := (skip_suffix opened).trans (List.suffix_cons (.char '\x7b') opened)
    split at read
    · next closed =>
      rw [closed] at start
      obtain ⟨rfl, rfl⟩ := Prod.mk.inj (Except.ok.inj read)
      exact ⟨(List.suffix_cons ..).trans start, by simp [Fields.names], fun _ => by simp⟩
    · obtain ⟨⟨pairs, after⟩, found, same⟩ := bind_eq_ok.mp read
      obtain ⟨rfl, rfl⟩ := Prod.mk.inj (Except.ok.inj same)
      obtain ⟨tail, storable, settled⟩ := reads.members found
      refine ⟨tail.trans start, (Value.storable_record _).mpr ⟨?_, ?_⟩, fun plain => ?_⟩
      · simpa using Fields.nodup_eraseDups _
      · exact fun pair member => storable pair (Fields.mem_ofPairs member)
      · rw [Value.settled_record]
        exact fun pair member =>
          settled (ofCharacters_of_suffix plain start) pair (Fields.mem_ofPairs member)
  · split at read
    · next found =>
      obtain rfl := Except.ok.inj read
      exact keyword?_spec found
    · exact number_spec read

theorem items_step {fuel : Nat} (reads : Reads fuel) {ps rest : List Point} {vs : List Value}
    (read : items (fuel + 1) ps = .ok (vs, rest)) : ReadFrom ps (.list vs) rest := by
  unfold items at read
  obtain ⟨⟨x, after⟩, found, read⟩ := bind_eq_ok.mp read
  dsimp only at read
  have first := reads.value found
  have start := (skip_suffix after).trans first.tail
  split at read
  · next closed =>
    rw [closed] at start
    obtain ⟨rfl, rfl⟩ := Prod.mk.inj (Except.ok.inj read)
    exact ⟨(List.suffix_cons ..).trans start, by simpa using first.storable,
      fun plain => by simpa using first.settled plain⟩
  · next more between =>
    rw [between] at start
    have start := ((skip_suffix more).trans (List.suffix_cons ..)).trans start
    obtain ⟨⟨xs, after⟩, found, same⟩ := bind_eq_ok.mp read
    obtain ⟨rfl, rfl⟩ := Prod.mk.inj (Except.ok.inj same)
    have others := reads.items found
    refine ⟨others.tail.trans start, ?_, fun plain => ?_⟩
    · simpa using ⟨first.storable, by simpa using others.storable⟩
    · simpa using ⟨first.settled plain,
        by simpa using others.settled (ofCharacters_of_suffix plain start)⟩
  · simp [stopAt] at read

theorem members_step {fuel : Nat} (reads : Reads fuel) {ps rest : List Point}
    {pairs : List (Text × Value)} (read : members (fuel + 1) ps = .ok (pairs, rest)) :
    rest <:+ ps ∧ (∀ pair ∈ pairs, pair.2.storable) ∧
      (Text.ofCharacters ps → ∀ pair ∈ pairs, pair.1.settled ∧ pair.2.settled) := by
  unfold members at read
  split at read
  · next opened =>
    obtain ⟨⟨name, behind⟩, named, read⟩ := bind_eq_ok.mp read
    dsimp only at read
    obtain ⟨tail, settled⟩ := text_spec named
    have start := (skip_suffix behind).trans (tail.trans (List.suffix_cons (.char '"') opened))
    have settled (plain : Text.ofCharacters (.char '"' :: opened)) : name.settled :=
      settled (ofCharacters_of_suffix plain (List.suffix_cons ..))
    split at read
    · next assigned colon =>
      rw [colon] at start
      obtain ⟨⟨x, after⟩, found, read⟩ := bind_eq_ok.mp read
      dsimp only at read
      have first := reads.value found
      have start := ((skip_suffix assigned).trans (List.suffix_cons ..)).trans start
      have settled (plain : Text.ofCharacters (.char '"' :: opened)) :
          name.settled ∧ x.settled :=
        ⟨settled plain, first.settled (ofCharacters_of_suffix plain start)⟩
      have start := (skip_suffix after).trans (first.tail.trans start)
      split at read
      · next closed =>
        rw [closed] at start
        obtain ⟨rfl, rfl⟩ := Prod.mk.inj (Except.ok.inj read)
        exact ⟨(List.suffix_cons ..).trans start, by simpa using first.storable,
          fun plain => by simpa using settled plain⟩
      · next more between =>
        rw [between] at start
        have start := ((skip_suffix more).trans (List.suffix_cons ..)).trans start
        obtain ⟨⟨others, after⟩, found, same⟩ := bind_eq_ok.mp read
        obtain ⟨rfl, rfl⟩ := Prod.mk.inj (Except.ok.inj same)
        obtain ⟨later, storable, good⟩ := reads.members found
        exact ⟨later.trans start, List.forall_mem_cons.mpr ⟨first.storable, storable⟩,
          fun plain => List.forall_mem_cons.mpr
            ⟨settled plain, good (ofCharacters_of_suffix plain start)⟩⟩
      · simp [stopAt] at read
    · simp [stopAt] at read
  · simp [stopAt] at read

theorem reads (fuel : Nat) : Reads fuel := by
  induction fuel with
  | zero =>
    constructor
    · intro ps rest v read
      simp [value, stopAt] at read
    · intro ps rest vs read
      simp [items, stopAt] at read
    · intro ps rest pairs read
      simp [members, stopAt] at read
  | succ fuel ih => exact ⟨value_step ih, items_step ih, members_step ih⟩

/-- Whatever text a value is read from, a snapshot can keep it. -/
theorem read_spec {s : Text} {v : Value} (found : read s = .ok v) :
    v.storable ∧ (Text.ofCharacters s.points → v.settled) := by
  unfold read at found
  dsimp only at found
  split at found
  · next x done =>
    obtain rfl := Except.ok.inj found
    unfold whole at done
    split at done
    · simp [stopAt] at done
    · obtain ⟨⟨x, after⟩, inside, done⟩ := bind_eq_ok.mp done
      dsimp only at done
      have first := (reads _).value inside
      split at done
      · obtain rfl := Except.ok.inj done
        exact ⟨first.storable,
          fun plain => first.settled (ofCharacters_of_suffix plain (skip_suffix _))⟩
      · simp [stopAt] at done
  · contradiction
  · contradiction

end RowStore.Json

namespace RowStore.Snapshot

theorem decode_spec {text : Text} {fields : Fields Value} (found : decode text = .ok fields) :
    (Value.record fields).storable ∧
      (Text.ofCharacters text.points → (Value.record fields).settled) := by
  unfold decode at found
  split at found
  · simp [fail] at found
  · next read =>
    obtain rfl := Except.ok.inj found
    exact Json.read_spec read
  · simp [fail] at found

end RowStore.Snapshot
