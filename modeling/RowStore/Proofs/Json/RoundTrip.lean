import RowStore.Proofs.Json.Numbers
import RowStore.Proofs.Json.Texts

/-! A value that can be kept, and whose texts are settled, is read from its own text. Every value
and every mark of a list or a record takes a character, so the depth that the reader allows is
enough. -/
namespace RowStore.Json

/-- What a value can start with: no space, no end of a list and no mark of an encoding. -/
def Starts (ps : List Point) : Prop :=
  ∃ p rest, ps = p :: rest ∧ isSpace p = false ∧ p ≠ .char ']' ∧
    p ≠ .char (Char.ofNat 0xFEFF)

theorem skip_of_starts {ps : List Point} (starts : Starts ps) : skip ps = ps := by
  obtain ⟨p, rest, rfl, solid, _⟩ := starts
  simp [skip, solid]

theorem digit_cases {p : Point} (range : 48 ≤ p.toNat ∧ p.toNat ≤ 57) :
    ∃ c ∈ ['0', '1', '2', '3', '4', '5', '6', '7', '8', '9'], p = .char c := by
  refine ⟨Char.ofNat p.toNat, ?_, ?_⟩
  · have cases : p.toNat = 48 ∨ p.toNat = 49 ∨ p.toNat = 50 ∨ p.toNat = 51 ∨ p.toNat = 52 ∨
        p.toNat = 53 ∨ p.toNat = 54 ∨ p.toNat = 55 ∨ p.toNat = 56 ∨ p.toNat = 57 := by omega
    rcases cases with same | same | same | same | same | same | same | same | same | same <;>
      rw [same] <;> decide
  · have outside : ¬(0xD800 ≤ p.toNat ∧ p.toNat < 0xE000) := by omega
    calc p = Point.ofNat p.toNat := (Point.ofNat_toNat p).symm
      _ = .char (Char.ofNat p.toNat) := dif_neg outside

theorem wholeDigits_head {ps : List Point} {found : List Nat × List Point}
    (read : wholeDigits ps = some found) :
    ∃ c ∈ ['0', '1', '2', '3', '4', '5', '6', '7', '8', '9'], ∃ rest, ps = .char c :: rest := by
  unfold wholeDigits at read
  split at read
  · exact ⟨'0', by simp, _, rfl⟩
  · cases ps with
    | nil => simp [basicDigits] at read
    | cons p rest =>
      by_cases range : 48 ≤ p.toNat ∧ p.toNat ≤ 57
      · obtain ⟨c, known, rfl⟩ := digit_cases range
        exact ⟨c, known, rest, rfl⟩
      · simp [basicDigits, range] at read

theorem number_head {ps : List Point} {found : Value × List Point}
    (read : number ps = .ok found) :
    ∃ c ∈ ['0', '1', '2', '3', '4', '5', '6', '7', '8', '9'], ∃ rest,
      ps = .char c :: rest ∨ ps = .char '-' :: .char c :: rest := by
  unfold number at read
  dsimp only at read
  split at read
  · simp [stopAt] at read
  · next front =>
    obtain ⟨c, known, rest, same⟩ := wholeDigits_head front
    refine ⟨c, known, rest, ?_⟩
    split at same
    · exact .inr (by rw [← same])
    · exact .inl same

theorem value_of_number {ps : List Point} {found : Value × List Point}
    (read : number ps = .ok found) (fuel : Nat) : value (fuel + 1) ps = .ok found := by
  obtain ⟨c, known, rest, shape⟩ := number_head read
  have same : value (fuel + 1) ps = number ps := by
    simp only [List.mem_cons, List.not_mem_nil, or_false] at known
    rcases known with rfl | rfl | rfl | rfl | rfl | rfl | rfl | rfl | rfl | rfl <;>
      rcases shape with rfl | rfl <;> rfl
  exact same.trans read

theorem keyword?_starts {ps : List Point} {found : Value × List Point}
    (read : keyword? ps = some found) : Starts ps := by
  obtain ⟨word, front, _⟩ := Option.map_eq_some_iff.mp read
  have member := List.mem_of_find?_eq_some front
  have start : word.1.points.isPrefixOf ps := by simpa using List.find?_some front
  obtain ⟨rest, rfl⟩ := List.isPrefixOf_iff_prefix.mp start
  simp only [keywords, List.mem_cons, List.not_mem_nil, or_false] at member
  rcases member with rfl | rfl | rfl | rfl | rfl | rfl <;> exact ⟨_, _, rfl, by decide⟩

theorem value_starts {fuel : Nat} {ps : List Point} {found : Value × List Point}
    (read : value fuel ps = .ok found) : Starts ps := by
  cases fuel with
  | zero => simp [value, stopAt] at read
  | succ fuel =>
    unfold value at read
    split at read
    · exact ⟨_, _, rfl, by decide⟩
    · exact ⟨_, _, rfl, by decide⟩
    · exact ⟨_, _, rfl, by decide⟩
    · split at read
      · next word => exact keyword?_starts word
      · obtain ⟨c, known, rest, shape⟩ := number_head read
        simp only [List.mem_cons, List.not_mem_nil, or_false] at known
        rcases known with rfl | rfl | rfl | rfl | rfl | rfl | rfl | rfl | rfl | rfl <;>
          rcases shape with rfl | rfl <;> exact ⟨_, _, rfl, by decide⟩

/-- A value is read from its own text with enough fuel, up to where it is closed. -/
def ReadsBack (v : Value) : Prop :=
  ∀ (fuel : Nat) (rest : List Point), 2 * (writeValue v).length ≤ fuel → Closes rest →
    value fuel ((writeValue v).map .char ++ rest) = .ok (v, rest)

theorem readsBack_of_number {v : Value}
    (read : ∀ rest, Closes rest → number ((writeValue v).map .char ++ rest) = .ok (v, rest)) :
    ReadsBack v := by
  intro fuel rest enough closes
  cases fuel with
  | zero =>
    have none : writeValue v = [] := List.eq_nil_of_length_eq_zero (by omega)
    obtain ⟨c, _, tail, shape⟩ := number_head (read [] (by simp [Closes]))
    simp [none] at shape
  | succ fuel => exact value_of_number (read rest closes) fuel

theorem readsBack_of_keyword {v : Value} (word : List Char) (some : word ≠ [])
    (written : writeValue v = word)
    (read : ∀ fuel rest, value (fuel + 1) (word.map .char ++ rest) = .ok (v, rest)) :
    ReadsBack v := by
  intro fuel rest enough _
  rw [written] at enough ⊢
  cases fuel with
  | zero => exact absurd (List.eq_nil_of_length_eq_zero (by omega)) some
  | succ fuel => exact read fuel rest

theorem readsBack_text {s : Text} (settled : s.settled) : ReadsBack (.text s) := by
  intro fuel rest enough _
  have shape : (writeValue (.text s)).map Point.char ++ rest =
      .char '"' :: ((s.points.flatMap escaped).map .char ++ .char '"' :: rest) := by
    simp [writeValue, writeText]
  cases fuel with
  | zero => simp [writeValue, writeText] at enough
  | succ fuel =>
    rw [shape]
    simp [value, text_written settled, bind, Except.bind, pure, Except.pure]

theorem readsBack_float {x : Binary64} (kept : Value.fromText x) : ReadsBack (.float x) := by
  cases x with
  | finite negative m =>
    apply readsBack_of_number
    intro rest closes
    simpa only [writeValue, Binary64.text] using number_text negative m closes
  | infinite negative =>
    cases negative with
    | false =>
      exact readsBack_of_keyword ['I', 'n', 'f', 'i', 'n', 'i', 't', 'y'] (by simp)
        (by simp [writeValue, Binary64.text, Binary64.sign]) fun _ _ => rfl
    | true =>
      exact readsBack_of_keyword ['-', 'I', 'n', 'f', 'i', 'n', 'i', 't', 'y'] (by simp)
        (by simp [writeValue, Binary64.text, Binary64.sign]) fun _ _ => rfl
  | nan origin =>
    obtain rfl : origin = .json := by simpa [Value.fromText] using kept
    exact readsBack_of_keyword ['N', 'a', 'N'] (by simp)
      (by simp [writeValue, Binary64.text]) fun _ _ => rfl

theorem closes_cons {c : Char} {ps : List Point} (mark : c = ',' ∨ c = ']' ∨ c = '\x7d') :
    Closes (.char c :: ps) := by
  intro p first
  obtain rfl := Option.some.inj first
  simpa using mark

theorem items_starts {fuel : Nat} {ps : List Point} {found : List Value × List Point}
    (read : items fuel ps = .ok found) : Starts ps := by
  cases fuel with
  | zero => simp [items, stopAt] at read
  | succ fuel =>
    obtain ⟨_, first, _⟩ := bind_eq_ok.mp read
    exact value_starts first

theorem closes_writeItems (xs : List Value) (rest : List Point) :
    Closes ((writeItems xs).map .char ++ .char ']' :: rest) := by
  cases xs with
  | nil => exact closes_cons (.inr (.inl rfl))
  | cons x xs => exact closes_cons (.inl rfl)

theorem items_written {x : Value} (first : ReadsBack x) {xs : List Value}
    (others : ∀ y ∈ xs, ReadsBack y) (fuel : Nat) (rest : List Point)
    (enough : 2 * (writeValue x ++ writeItems xs).length + 1 ≤ fuel) :
    items fuel ((writeValue x ++ writeItems xs).map .char ++ .char ']' :: rest) =
      .ok (x :: xs, rest) := by
  induction xs generalizing x fuel with
  | nil =>
    obtain ⟨fuel, rfl⟩ : ∃ k, fuel = k + 1 := ⟨fuel - 1, by omega⟩
    have read := first fuel (.char ']' :: rest) (by simp at enough; omega)
      (closes_writeItems [] rest)
    simp [items, writeItems, read, skip, isSpace, bind, Except.bind, pure, Except.pure]
  | cons y ys ih =>
    obtain ⟨fuel, rfl⟩ : ∃ k, fuel = k + 1 := ⟨fuel - 1, by omega⟩
    have lengths : (writeValue x ++ writeItems (y :: ys)).length =
        (writeValue x).length + 2 + (writeValue y ++ writeItems ys).length := by
      simp [writeItems, comma]
      omega
    have later := ih (others y List.mem_cons_self)
      (fun z member => others z (List.mem_cons_of_mem _ member)) fuel (by omega)
    have read := first fuel _ (by omega) (closes_writeItems (y :: ys) rest)
    have behind : skip ((writeItems (y :: ys)).map .char ++ .char ']' :: rest) =
        .char ',' :: .char ' ' ::
          ((writeValue y ++ writeItems ys).map .char ++ .char ']' :: rest) := by
      simp [writeItems, comma, skip, isSpace]
    have space : skip (.char ' ' ::
        ((writeValue y ++ writeItems ys).map .char ++ .char ']' :: rest)) =
          (writeValue y ++ writeItems ys).map .char ++ .char ']' :: rest :=
      skip_of_starts (items_starts later)
    rw [List.map_append, List.append_assoc, items, read]
    simp only [bind, Except.bind, behind, space, later]
    rfl

theorem closes_writeFields (pairs : List (Text × Value)) (rest : List Point) :
    Closes ((writeFields pairs).map .char ++ .char '\x7d' :: rest) := by
  cases pairs with
  | nil => exact closes_cons (.inr (.inr rfl))
  | cons pair pairs => exact closes_cons (.inl rfl)

/-- What is written for the name and the value of a field. -/
def writeMember (name : Text) (x : Value) : List Char := writeText name ++ colon ++ writeValue x

/-- The fields from one that was read on, and what follows. -/
def membersFrom (fuel : Nat) (name : Text) (x : Value) :
    List Point → Except Stop (List (Text × Value) × List Point)
  | .char '\x7d' :: rest => .ok ([(name, x)], rest)
  | .char ',' :: rest => do
    let (pairs, rest) ← members fuel (skip rest)
    return ((name, x) :: pairs, rest)
  | rest => stopAt .comma rest

theorem members_member {name : Text} {x : Value} (settled : name.settled) (first : ReadsBack x)
    {fuel : Nat} (enough : 2 * (writeValue x).length ≤ fuel) {rest : List Point}
    (closes : Closes rest) :
    members (fuel + 1) ((writeMember name x).map .char ++ rest) =
      membersFrom fuel name x (skip rest) := by
  have read := first fuel rest enough closes
  have named := text_written settled
    (.char ':' :: .char ' ' :: ((writeValue x).map .char ++ rest))
  have shape : (writeMember name x).map Point.char ++ rest =
      .char '"' :: ((name.points.flatMap escaped).map .char ++
        .char '"' :: .char ':' :: .char ' ' :: ((writeValue x).map .char ++ rest)) := by
    simp [writeMember, writeText, colon]
  have marked : skip (.char ':' :: .char ' ' :: ((writeValue x).map .char ++ rest)) =
      .char ':' :: .char ' ' :: ((writeValue x).map .char ++ rest) := by simp [skip, isSpace]
  have space : skip (.char ' ' :: ((writeValue x).map .char ++ rest)) =
      (writeValue x).map .char ++ rest := skip_of_starts (value_starts read)
  rw [shape, members]
  simp only [named, marked, space, read, bind, Except.bind, pure, Except.pure]
  rfl

theorem members_starts {fuel : Nat} {ps : List Point} {found : List (Text × Value) × List Point}
    (read : members fuel ps = .ok found) : Starts ps := by
  cases fuel with
  | zero => simp [members, stopAt] at read
  | succ fuel =>
    unfold members at read
    split at read
    · exact ⟨_, _, rfl, by decide⟩
    · simp [stopAt] at read

theorem members_written {name : Text} {x : Value} (settled : name.settled) (first : ReadsBack x)
    {pairs : List (Text × Value)} (others : ∀ pair ∈ pairs, pair.1.settled ∧ ReadsBack pair.2)
    (fuel : Nat) (rest : List Point)
    (enough : 2 * (writeMember name x ++ writeFields pairs).length + 1 ≤ fuel) :
    members fuel ((writeMember name x ++ writeFields pairs).map .char ++ .char '\x7d' :: rest) =
      .ok ((name, x) :: pairs, rest) := by
  have member (name : Text) (x : Value) :
      (writeValue x).length ≤ (writeMember name x).length := by
    simp [writeMember]
    omega
  induction pairs generalizing name x fuel with
  | nil =>
    obtain ⟨fuel, rfl⟩ : ∃ k, fuel = k + 1 := ⟨fuel - 1, by omega⟩
    have inside := member name x
    have small : 2 * (writeValue x).length ≤ fuel := by simp [writeFields] at enough; omega
    rw [List.map_append, List.append_assoc,
      members_member settled first small (closes_writeFields [] rest)]
    rfl
  | cons pair pairs ih =>
    obtain ⟨key, y⟩ := pair
    obtain ⟨fuel, rfl⟩ : ∃ k, fuel = k + 1 := ⟨fuel - 1, by omega⟩
    obtain ⟨next, others⟩ := List.forall_mem_cons.mp others
    have inside := member name x
    have lengths : (writeMember name x ++ writeFields ((key, y) :: pairs)).length =
        (writeMember name x).length + 2 + (writeMember key y ++ writeFields pairs).length := by
      simp [writeFields, writeMember, comma]
      omega
    have later := @ih key y next.1 next.2 others fuel (by omega)
    have behind : skip ((writeFields ((key, y) :: pairs)).map .char ++ .char '\x7d' :: rest) =
        .char ',' :: .char ' ' ::
          ((writeMember key y ++ writeFields pairs).map .char ++ .char '\x7d' :: rest) := by
      simp [writeFields, writeMember, comma, skip, isSpace]
    have space : skip (.char ' ' ::
        ((writeMember key y ++ writeFields pairs).map .char ++ .char '\x7d' :: rest)) =
          (writeMember key y ++ writeFields pairs).map .char ++ .char '\x7d' :: rest :=
      skip_of_starts (members_starts later)
    rw [List.map_append, List.append_assoc, members_member settled first (by omega)
      (closes_writeFields ((key, y) :: pairs) rest), behind, membersFrom, space, later]
    rfl

theorem readsBack_items {items : List Value} (each : ∀ x ∈ items, ReadsBack x) :
    ReadsBack (.list items) := by
  intro fuel rest enough _
  match items with
  | [] =>
    obtain ⟨fuel, rfl⟩ : ∃ k, fuel = k + 1 := ⟨fuel - 1, by simp [writeValue] at enough; omega⟩
    rfl
  | x :: xs =>
    obtain ⟨fuel, rfl⟩ : ∃ k, fuel = k + 1 := ⟨fuel - 1, by simp [writeValue] at enough; omega⟩
    obtain ⟨first, others⟩ := List.forall_mem_cons.mp each
    have shape : (writeValue (.list (x :: xs))).map Point.char ++ rest =
        .char '[' :: ((writeValue x ++ writeItems xs).map .char ++ .char ']' :: rest) := by
      simp [writeValue]
    have inside := items_written first others fuel rest
      (by simp [writeValue] at enough ⊢; omega)
    have starts := items_starts inside
    rw [shape, value, skip_of_starts starts]
    obtain ⟨p, tail, same, _, apart, _⟩ := starts
    have other : ∀ after, p :: tail = .char ']' :: after → False :=
      fun after same => apart (List.cons.inj same).1
    rw [same] at inside ⊢
    simp only [inside, bind, Except.bind, pure, Except.pure]

theorem readsBack_fields {fields : List (Text × Value)} (distinct : (Fields.names fields).Nodup)
    (each : ∀ pair ∈ fields, pair.1.settled ∧ ReadsBack pair.2) : ReadsBack (.record fields) := by
  intro fuel rest enough _
  match fields with
  | [] =>
    obtain ⟨fuel, rfl⟩ : ∃ k, fuel = k + 1 := ⟨fuel - 1, by simp [writeValue] at enough; omega⟩
    rfl
  | (name, x) :: pairs =>
    obtain ⟨fuel, rfl⟩ : ∃ k, fuel = k + 1 := ⟨fuel - 1, by simp [writeValue] at enough; omega⟩
    obtain ⟨⟨settled, first⟩, others⟩ := List.forall_mem_cons.mp each
    have shape : (writeValue (.record ((name, x) :: pairs))).map Point.char ++ rest =
        .char '\x7b' ::
          ((writeMember name x ++ writeFields pairs).map .char ++ .char '\x7d' :: rest) := by
      simp [writeValue, writeMember]
    have inside := members_written settled first others fuel rest
      (by simp [writeValue, writeMember] at enough ⊢; omega)
    have other : ∀ after, (writeMember name x ++ writeFields pairs).map Point.char ++
        .char '\x7d' :: rest = .char '\x7d' :: after → False := by
      simp [writeMember, writeText]
    rw [shape, value, skip_of_starts (members_starts inside)]
    simp only [inside, bind, Except.bind, pure, Except.pure, Fields.ofPairs_of_nodup distinct]

mutual

theorem readsBack : ∀ v : Value, v.storable → v.settled → ReadsBack v
  | .null => fun _ _ =>
    readsBack_of_keyword ['n', 'u', 'l', 'l'] (by simp) rfl fun _ _ => rfl
  | .bool true => fun _ _ =>
    readsBack_of_keyword ['t', 'r', 'u', 'e'] (by simp) rfl fun _ _ => rfl
  | .bool false => fun _ _ =>
    readsBack_of_keyword ['f', 'a', 'l', 's', 'e'] (by simp) rfl fun _ _ => rfl
  | .int n => fun kept _ => by
    simp only [Value.storable, decide_eq_true_eq] at kept
    exact readsBack_of_number fun rest closes => by
      rw [writeValue]
      exact number_intText kept closes
  | .float x => fun kept _ => readsBack_float (by simpa only [Value.storable] using kept)
  | .text s => fun _ settled => readsBack_text (by simpa only [Value.settled] using settled)
  | .list items => fun kept settled => by
    simp only [Value.storable] at kept
    simp only [Value.settled] at settled
    exact readsBack_items (readsBack_each items kept settled)
  | .record fields => fun kept settled => by
    simp only [Value.storable, Bool.and_eq_true, decide_eq_true_eq] at kept
    simp only [Value.settled] at settled
    exact readsBack_fields kept.1 (readsBack_fieldwise fields kept.2 settled)

theorem readsBack_each : ∀ items : List Value, Value.storableItems items →
    Value.settledItems items → ∀ x ∈ items, ReadsBack x
  | [] => fun _ _ _ member => absurd member List.not_mem_nil
  | x :: xs => fun kept settled => by
    simp only [Value.storableItems, Bool.and_eq_true] at kept
    simp only [Value.settledItems, Bool.and_eq_true] at settled
    exact List.forall_mem_cons.mpr
      ⟨readsBack x kept.1 settled.1, readsBack_each xs kept.2 settled.2⟩

theorem readsBack_fieldwise : ∀ fields : List (Text × Value), Value.storableFields fields →
    Value.settledFields fields → ∀ pair ∈ fields, pair.1.settled ∧ ReadsBack pair.2
  | [] => fun _ _ _ member => absurd member List.not_mem_nil
  | (name, x) :: rest => fun kept settled => by
    simp only [Value.storableFields, Bool.and_eq_true] at kept
    simp only [Value.settledFields, Bool.and_eq_true] at settled
    exact List.forall_mem_cons.mpr ⟨⟨settled.1.1, readsBack x kept.1 settled.1.2⟩,
      readsBack_fieldwise rest kept.2 settled.2⟩

end

/-- The text of a value that can be kept, and whose texts are settled, holds this value. -/
theorem read_write {v : Value} (kept : v.storable) (settled : v.settled) :
    read (write v) = .ok v := by
  have points : (Text.ofString (write v)).points = (writeValue v).map .char := by
    simp [Text.ofString, Text.ofChars, write]
  have inside := readsBack v kept settled (2 * ((writeValue v).map Point.char).length + 2) []
    (by simp) (by simp [Closes])
  rw [List.append_nil] at inside
  have starts := value_starts inside
  have skipped := skip_of_starts starts
  obtain ⟨p, rest, same, _, _, unmarked⟩ := starts
  have plain : ((writeValue v).map Point.char).head? ≠ some (.char (Char.ofNat 0xFEFF)) := by
    rw [same]
    simpa using unmarked
  have done : whole ((writeValue v).map .char) = .ok v := by
    simp only [whole, plain, ↓reduceIte, skipped, inside, bind, Except.bind]
    rfl
  simp only [read, points, done]

end RowStore.Json

namespace RowStore.Snapshot

/-- What is encoded is decoded again, unless a text in it is not settled. -/
theorem decode_encode {fields : Fields Value} (kept : (Value.record fields).storable)
    (settled : (Value.record fields).settled) :
    ∃ text, encode (.record fields) = .ok text ∧ decode text = .ok fields := by
  refine ⟨Json.write (.record fields), ?_, ?_⟩
  · simp [encode, Value.printable_of_storable _ kept]
  · simp [decode, Json.read_write kept settled]

end RowStore.Snapshot
