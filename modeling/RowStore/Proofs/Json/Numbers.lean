import RowStore.Json.Reader
import RowStore.Json.Writer
import RowStore.Proofs.Binary64.Rounding

/-! Numbers are read from their own texts. A whole number is read digit by digit; the text of any
other number is read as a decimal that differs from the one that was written by zeros alone. -/
namespace RowStore.Json

/-- Whether what follows cannot go on with digits. -/
def NoDigits (ps : List Point) : Prop := ∀ p ∈ ps.head?, ¬(48 ≤ p.toNat ∧ p.toNat ≤ 57)

/-- Whether what follows ends a value. -/
def Closes (ps : List Point) : Prop :=
  ∀ p ∈ ps.head?, p = .char ',' ∨ p = .char ']' ∨ p = .char '\x7d'

theorem Closes.noDigits {ps : List Point} (closes : Closes ps) : NoDigits ps := by
  intro p first
  rcases closes p first with rfl | rfl | rfl <;> decide

theorem basicDigits_of_noDigits {ps : List Point} (stop : NoDigits ps) :
    basicDigits ps = ([], ps) := by
  cases ps with
  | nil => rfl
  | cons p rest =>
    have other := stop p rfl
    simp [basicDigits, other]

theorem basicDigits_append {cs : List Char} {ps : List Point} (digits : ∀ c ∈ cs, c.isDigit)
    (stop : NoDigits ps) :
    basicDigits (cs.map .char ++ ps) = (cs.map Text.digitValue, ps) := by
  induction cs with
  | nil => exact basicDigits_of_noDigits stop
  | cons c cs ih =>
    obtain ⟨digit, digits⟩ := List.forall_mem_cons.mp digits
    have range : 48 ≤ (Point.char c).toNat ∧ (Point.char c).toNat ≤ 57 := by
      simp only [Char.isDigit, Bool.and_eq_true, decide_eq_true_eq] at digit
      exact digit
    simp only [List.map_cons, List.cons_append, basicDigits, range, and_self, ↓reduceIte,
      ih digits]
    rfl

theorem wholeDigits_append {c : Char} {cs : List Char} {ps : List Point} (apart : c ≠ '0')
    (digits : ∀ d ∈ c :: cs, d.isDigit) (stop : NoDigits ps) :
    wholeDigits ((c :: cs).map .char ++ ps) = some ((c :: cs).map Text.digitValue, ps) := by
  have read := basicDigits_append digits stop
  unfold wholeDigits
  split
  · next same => simp_all
  · rw [read]
    rfl

theorem fractionDigits_append {cs : List Char} {ps : List Point} (some : cs ≠ [])
    (digits : ∀ d ∈ cs, d.isDigit) (stop : NoDigits ps) :
    fractionDigits (.char '.' :: (cs.map .char ++ ps)) = (cs.map Text.digitValue, ps) := by
  rw [fractionDigits, basicDigits_append digits stop]
  split
  · next none => simp_all
  · next same => exact same.symm

theorem fractionDigits_of_ne {ps : List Point} (other : ∀ p ∈ ps.head?, p ≠ .char '.') :
    fractionDigits ps = ([], ps) := by
  unfold fractionDigits
  split
  · exact absurd rfl (other _ rfl)
  · rfl

theorem powerOfTen_of_closes {ps : List Point} (closes : Closes ps) :
    powerOfTen ps = (none, ps) := by
  cases ps with
  | nil => rfl
  | cons p rest =>
    have other : ¬(p = .char 'e' ∨ p = .char 'E') := by
      rcases closes p rfl with rfl | rfl | rfl <;> decide
    simp [powerOfTen, other]

theorem isDigit_of_mem_padded {width n : Nat} {c : Char} (member : c ∈ Binary64.padded width n) :
    c.isDigit := by
  rcases List.mem_append.mp member with zero | digit
  · rw [(List.mem_replicate.mp zero).2]
    rfl
  · exact Text.isDigit_of_mem_toDigits digit

theorem ofDigits_padded (width n : Nat) :
    Text.ofDigits 10 ((Binary64.padded width n).map Text.digitValue) = n := by
  have zero : Text.digitValue '0' = 0 := rfl
  simp [Binary64.padded, Text.ofDigits_append, Text.ofDigits_toDigits, zero]

theorem powerOfTen_power (style : Binary64.Style) (e : Int) {ps : List Point} (stop : NoDigits ps) :
    powerOfTen ((Binary64.power style e).map .char ++ ps) = (some e, ps) := by
  have all : ∀ c ∈ Binary64.padded style.powerDigits e.natAbs, c.isDigit :=
    fun c => isDigit_of_mem_padded
  have digits := basicDigits_append all stop
  have value := ofDigits_padded style.powerDigits e.natAbs
  have some : (Binary64.padded style.powerDigits e.natAbs).map Text.digitValue ≠ [] := by
    simp [Binary64.padded]
  by_cases below : e < 0
  · have signed : -(e.natAbs : Int) = e := by omega
    simp only [Binary64.power, below, ↓reduceIte, List.map_cons, List.cons_append, powerOfTen,
      true_or, digits, value, signed]
  · have signed : (e.natAbs : Int) = e := by omega
    simp only [Binary64.power, below, ↓reduceIte, List.map_cons, List.cons_append, powerOfTen,
      true_or, digits, value, signed, Bool.false_eq_true]

theorem number_float (negative : Bool) {ps after behind rest : List Point}
    {whole fraction : List Nat} {exponent : Option Int}
    (unsigned : ∀ tail, ps = .char '-' :: tail → False)
    (front : wholeDigits ps = some (whole, after))
    (middle : fractionDigits after = (fraction, behind))
    (last : powerOfTen behind = (exponent, rest)) (broken : fraction = [] → exponent = none → False) :
    number ((Binary64.sign negative).map .char ++ ps) =
      .ok (.float (Decimal.toBinary64
        ⟨negative, whole ++ fraction, exponent.getD 0 - fraction.length⟩), rest) := by
  cases negative with
  | false =>
    simp only [Binary64.sign, Bool.false_eq_true, ↓reduceIte, List.map_nil, List.nil_append, number,
      front, middle, last]
  | true =>
    simp only [Binary64.sign, ↓reduceIte, List.map_cons, List.map_nil, List.cons_append,
      List.nil_append, number, front, middle, last]

theorem number_whole (negative : Bool) {ps rest : List Point} {whole : List Nat}
    (unsigned : ∀ tail, ps = .char '-' :: tail → False)
    (front : wholeDigits ps = some (whole, rest)) (closes : Closes rest)
    (short : whole.length ≤ Value.maxDigits) :
    number ((Binary64.sign negative).map .char ++ ps) =
      .ok (.int (if negative then -(Text.ofDigits 10 whole : Int) else Text.ofDigits 10 whole),
        rest) := by
  have middle : fractionDigits rest = ([], rest) := by
    apply fractionDigits_of_ne
    intro p first
    rcases closes p first with rfl | rfl | rfl <;> decide
  have last := powerOfTen_of_closes closes
  cases negative with
  | false =>
    simp only [Binary64.sign, Bool.false_eq_true, ↓reduceIte, List.map_nil, List.nil_append, number,
      front, middle, last, Nat.not_lt_of_le short]
  | true =>
    simp only [Binary64.sign, ↓reduceIte, List.map_cons, List.map_nil, List.cons_append,
      List.nil_append, number, front, middle, last, Nat.not_lt_of_le short]

theorem ne_minus_of_isDigit {c : Char} {cs : List Char} {ps tail : List Point}
    (digit : c.isDigit) (same : (c :: cs).map Point.char ++ ps = .char '-' :: tail) : False := by
  obtain rfl : c = '-' := by simpa using (List.cons.inj same).1
  contradiction

theorem length_toDigits_le {n limit : Nat} (positive : 0 < limit) (short : n < Nat.pow 10 limit) :
    (Nat.toDigits 10 n).length ≤ limit :=
  (Nat.length_toDigits_le_iff (by decide) positive).mpr short

theorem wholeDigits_toDigits (n : Nat) {rest : List Point} (stop : NoDigits rest) :
    wholeDigits ((Nat.toDigits 10 n).map .char ++ rest) =
      some ((Nat.toDigits 10 n).map Text.digitValue, rest) := by
  rcases Nat.eq_zero_or_pos n with rfl | positive
  · rfl
  · obtain ⟨c, cs, front, apart⟩ := Text.head_toDigits positive
    have digits : ∀ d ∈ c :: cs, d.isDigit := by
      intro d member
      exact Text.isDigit_of_mem_toDigits (front ▸ member)
    rw [front]
    exact wholeDigits_append apart digits stop

theorem number_intText {n : Int} (short : n.natAbs < Value.tooLong) {rest : List Point}
    (closes : Closes rest) : number ((Value.intText n).map .char ++ rest) = .ok (.int n, rest) := by
  have unsigned : ∀ tail, (Nat.toDigits 10 n.natAbs).map Point.char ++ rest = .char '-' :: tail →
      False := by
    intro tail same
    cases shape : Nat.toDigits 10 n.natAbs with
    | nil => exact Nat.toDigits_ne_nil shape
    | cons c cs =>
      rw [shape] at same
      have digit : c.isDigit := Text.isDigit_of_mem_toDigits (n := n.natAbs) (by simp [shape])
      exact ne_minus_of_isDigit digit same
  have few : (Nat.toDigits 10 n.natAbs).length ≤ Value.maxDigits := by
    unfold Value.tooLong at short
    exact length_toDigits_le (by decide) short
  rw [Value.intText, List.map_append, List.append_assoc,
    number_whole _ unsigned (wholeDigits_toDigits _ closes.noDigits) closes (by simpa using few),
    Text.ofDigits_toDigits]
  congr 3
  by_cases below : n < 0
  · simp only [below, decide_true, ↓reduceIte]
    omega
  · simp only [below, decide_false, Bool.false_eq_true, ↓reduceIte]
    omega

/-! The layouts of a number all start with a digit that is no zero, behind zeros of their own. -/
section layout

variable {c : Char} {cs : List Char} {rest : List Point}

theorem noDigits_of_head {p : Point} (ps : List Point)
    (apart : ¬(48 ≤ p.toNat ∧ p.toNat ≤ 57)) : NoDigits (p :: ps) := by
  intro q first
  obtain rfl := Option.some.inj first
  exact apart

theorem number_small (negative : Bool) (apart : c ≠ '0') (digits : ∀ d ∈ c :: cs, d.isDigit)
    (k : Nat) (closes : Closes rest) :
    number ((Binary64.sign negative ++
        ('0' :: '.' :: (List.replicate k '0' ++ c :: cs))).map .char ++ rest) =
      .ok (.float (Decimal.toBinary64
        ⟨negative, (c :: cs).map Text.digitValue, -(k : Int) - (c :: cs).length⟩), rest) := by
  have nonzero := Text.digitValue_ne_zero (digits c List.mem_cons_self) apart
  have all : ∀ d ∈ List.replicate k '0' ++ c :: cs, d.isDigit := by
    intro d member
    rcases List.mem_append.mp member with zero | digit
    · rw [(List.mem_replicate.mp zero).2]
      rfl
    · exact digits d digit
  have front : wholeDigits (('0' :: '.' :: (List.replicate k '0' ++ c :: cs)).map .char ++ rest) =
      some ([0], .char '.' :: ((List.replicate k '0' ++ c :: cs).map .char ++ rest)) := rfl
  have values : [0] ++ (List.replicate k '0' ++ c :: cs).map Text.digitValue =
      List.replicate (k + 1) 0 ++ (c :: cs).map Text.digitValue ++ List.replicate 0 0 := by
    have zero : Text.digitValue '0' = 0 := rfl
    simp [List.replicate_succ, zero]
  have place : (none : Option Int).getD 0 -
      ((List.replicate k '0' ++ c :: cs).map Text.digitValue).length =
        -(k : Int) - (c :: cs).length - (0 : Nat) := by
    simp
    omega
  rw [List.map_append, List.append_assoc, number_float _ (by simp) front
    (fractionDigits_append (by simp) all closes.noDigits) (powerOfTen_of_closes closes) (by simp),
    values, place, List.map_cons, Decimal.toBinary64_padded _ nonzero]

theorem number_large (negative : Bool) (apart : c ≠ '0') (digits : ∀ d ∈ c :: cs, d.isDigit)
    (k : Nat) (closes : Closes rest) :
    number ((Binary64.sign negative ++
        (c :: cs ++ List.replicate k '0' ++ ['.', '0'])).map .char ++ rest) =
      .ok (.float (Decimal.toBinary64 ⟨negative, (c :: cs).map Text.digitValue, k⟩), rest) := by
  have nonzero := Text.digitValue_ne_zero (digits c List.mem_cons_self) apart
  have all : ∀ d ∈ c :: (cs ++ List.replicate k '0'), d.isDigit := by
    intro d member
    rcases List.mem_append.mp (List.cons_append .. ▸ member) with digit | zero
    · exact digits d digit
    · rw [(List.mem_replicate.mp zero).2]
      rfl
  have front := wholeDigits_append apart all
    (noDigits_of_head (p := .char '.') (['0'].map .char ++ rest) (by decide))
  have middle := fractionDigits_append (List.cons_ne_nil '0' []) (by simp) closes.noDigits
  have shape : (c :: cs ++ List.replicate k '0' ++ ['.', '0']).map Point.char ++ rest =
      (c :: (cs ++ List.replicate k '0')).map .char ++
        .char '.' :: (['0'].map .char ++ rest) := by simp
  have values : (c :: (cs ++ List.replicate k '0')).map Text.digitValue ++
      ['0'].map Text.digitValue =
      List.replicate 0 0 ++ (c :: cs).map Text.digitValue ++ List.replicate (k + 1) 0 := by
    have zero : Text.digitValue '0' = 0 := rfl
    simp [List.replicate_succ', zero]
  have place : (none : Option Int).getD 0 - (['0'].map Text.digitValue).length =
      (k : Int) - (k + 1 : Nat) := by
    simp only [Option.getD_none, List.map_cons, List.map_nil, List.length_cons, List.length_nil]
    omega
  rw [List.map_append, List.append_assoc, shape, number_float _
    (fun tail => ne_minus_of_isDigit (digits c List.mem_cons_self)) front middle
    (powerOfTen_of_closes closes) (by simp), values, place, List.map_cons,
    Decimal.toBinary64_padded _ nonzero]

theorem number_split (negative : Bool) (apart : c ≠ '0') {fs : List Char} (some : fs ≠ [])
    (digits : ∀ d ∈ c :: cs ++ fs, d.isDigit) (closes : Closes rest) :
    number ((Binary64.sign negative ++ (c :: cs ++ '.' :: fs)).map .char ++ rest) =
      .ok (.float (Decimal.toBinary64
        ⟨negative, (c :: cs ++ fs).map Text.digitValue, -(fs.length : Int)⟩), rest) := by
  have whole : ∀ d ∈ c :: cs, d.isDigit := by
    intro d member
    exact digits d (List.mem_append_left _ member)
  have front := wholeDigits_append apart whole
    (noDigits_of_head (p := .char '.') (fs.map .char ++ rest) (by decide))
  have middle := fractionDigits_append some
    (fun d member => digits d (List.mem_append_right _ member)) closes.noDigits
  have shape : (c :: cs ++ '.' :: fs).map Point.char ++ rest =
      (c :: cs).map .char ++ .char '.' :: (fs.map .char ++ rest) := by simp
  rw [List.map_append, List.append_assoc, shape, number_float _
    (fun tail => ne_minus_of_isDigit (whole c List.mem_cons_self)) front middle
    (powerOfTen_of_closes closes) (by simpa using some)]
  simp

theorem number_inPlace (negative : Bool) (apart : c ≠ '0') (digits : ∀ d ∈ c :: cs, d.isDigit)
    (point : Int) (closes : Closes rest) :
    number ((Binary64.sign negative ++ Binary64.inPlace (c :: cs) point).map .char ++ rest) =
      .ok (.float (Decimal.toBinary64
        ⟨negative, (c :: cs).map Text.digitValue, point - (c :: cs).length⟩), rest) := by
  match point with
  | .negSucc k => exact number_small negative apart digits (k + 1) closes
  | .ofNat 0 => exact number_small negative apart digits 0 closes
  | .ofNat (k + 1) =>
    have placed : Binary64.inPlace (c :: cs) (.ofNat (k + 1)) =
        if (c :: cs).length ≤ k + 1 then
          c :: cs ++ List.replicate (k + 1 - (c :: cs).length) '0' ++ ['.', '0']
        else (c :: cs).take (k + 1) ++ '.' :: (c :: cs).drop (k + 1) := rfl
    rw [placed]
    split
    · next short =>
      rw [number_large negative apart digits _ closes]
      congr 6
      have := Int.ofNat_sub short
      simpa using this
    · next long =>
      have front : (c :: cs).take (k + 1) = c :: cs.take k := rfl
      have back : (c :: cs).drop (k + 1) = cs.drop k := rfl
      have parts : c :: cs.take k ++ cs.drop k = c :: cs := by simp
      have some : cs.drop k ≠ [] := by
        simp only [List.length_cons] at long
        simp
        omega
      rw [front, back, number_split negative apart some (by rwa [parts]) closes, parts]
      congr 6
      simp only [List.length_drop, List.length_cons, Int.ofNat_eq_natCast] at long ⊢
      omega

theorem number_inPowers (negative : Bool) (style : Binary64.Style) (apart : c ≠ '0')
    (digits : ∀ d ∈ c :: cs, d.isDigit) (e : Int) (closes : Closes rest) :
    number ((Binary64.sign negative ++ Binary64.inPowers style (c :: cs) e).map .char ++ rest) =
      .ok (.float (Decimal.toBinary64
        ⟨negative, (c :: cs).map Text.digitValue, e + 1 - (c :: cs).length⟩), rest) := by
  have first : ∀ d ∈ [c], d.isDigit := by simpa using digits c List.mem_cons_self
  have last := powerOfTen_power style e closes.noDigits
  match cs with
  | [] =>
    have stop : NoDigits ((Binary64.power style e).map .char ++ rest) :=
      noDigits_of_head (p := .char 'e') _ (by decide)
    have front := wholeDigits_append apart first stop
    have middle : fractionDigits ((Binary64.power style e).map .char ++ rest) =
        ([], (Binary64.power style e).map .char ++ rest) :=
      fractionDigits_of_ne (by simp [Binary64.power])
    have shape : (Binary64.inPowers style [c] e).map Point.char ++ rest =
        [c].map .char ++ ((Binary64.power style e).map .char ++ rest) := rfl
    rw [List.map_append, List.append_assoc, shape, number_float _
      (fun tail => ne_minus_of_isDigit (first c List.mem_cons_self)) front middle last (by simp)]
    simp
  | d :: ds =>
    have behind : ∀ x ∈ d :: ds, x.isDigit := by
      intro x member
      exact digits x (List.mem_cons_of_mem _ member)
    have stop : NoDigits ((Binary64.power style e).map .char ++ rest) :=
      noDigits_of_head (p := .char 'e') _ (by decide)
    have front := wholeDigits_append apart first (noDigits_of_head (p := .char '.')
      ((d :: ds).map .char ++ ((Binary64.power style e).map .char ++ rest)) (by decide))
    have middle := fractionDigits_append (List.cons_ne_nil d ds) behind stop
    have shape : (Binary64.inPowers style (c :: d :: ds) e).map Point.char ++ rest =
        [c].map .char ++ .char '.' ::
          ((d :: ds).map .char ++ ((Binary64.power style e).map .char ++ rest)) := by
      simp [Binary64.inPowers]
    have place : (some e).getD 0 - ((d :: ds).map Text.digitValue).length =
        e + 1 - (c :: d :: ds).length := by
      simp only [Option.getD_some, List.length_map, List.length_cons]
      omega
    rw [List.map_append, List.append_assoc, shape, number_float _
      (fun tail => ne_minus_of_isDigit (first c List.mem_cons_self)) front middle last (by simp),
      place]
    rfl

theorem significant_eq (apart : c ≠ '0') (cs : List Char) :
    ∃ ds z, ((c :: cs).reverse.dropWhile (· == '0')).reverse = c :: ds ∧
      c :: cs = c :: ds ++ List.replicate z '0' := by
  refine ⟨(cs.reverse.dropWhile (· == '0')).reverse, (cs.reverse.takeWhile (· == '0')).length, ?_, ?_⟩
  · rw [List.reverse_cons, List.dropWhile_append]
    split
    · next none =>
      have none : cs.reverse.dropWhile (· == '0') = [] := by simpa using none
      simp [none, apart]
    · simp
  · have zeros : (cs.reverse.takeWhile (· == '0')).reverse =
        List.replicate (cs.reverse.takeWhile (· == '0')).length '0' := by
      refine List.eq_replicate_iff.mpr ⟨by simp, fun d member => ?_⟩
      have all := List.all_eq_true.mp List.all_takeWhile d (List.mem_reverse.mp member)
      simpa using all
    rw [← zeros, List.cons_append, ← List.reverse_append, List.takeWhile_append_dropWhile,
      List.reverse_reverse]

/-- The layout of a decimal is read as a decimal that is the same number. -/
theorem number_layout (negative : Bool) (style : Binary64.Style) (apart : c ≠ '0')
    (digits : ∀ d ∈ c :: cs, d.isDigit) (e : Int) (closes : Closes rest) :
    number ((Binary64.sign negative ++ Binary64.layout style (c :: cs) e).map .char ++ rest) =
      .ok (.float (Decimal.toBinary64 ⟨negative, (c :: cs).map Text.digitValue, e⟩), rest) := by
  obtain ⟨ds, z, significant, shape⟩ := significant_eq apart cs
  have nonzero := Text.digitValue_ne_zero (digits c List.mem_cons_self) apart
  have few : ∀ d ∈ c :: ds, d.isDigit := by
    intro d member
    exact digits d (shape ▸ List.mem_append_left _ member)
  have padded := Decimal.toBinary64_padded negative nonzero (ds.map Text.digitValue) 0 z (e + z)
  have values : (c :: cs).map Text.digitValue =
      List.replicate 0 0 ++ (Text.digitValue c :: ds.map Text.digitValue) ++ List.replicate z 0 := by
    have zero : Text.digitValue '0' = 0 := rfl
    rw [shape]
    simp [zero]
  have place : e + z - z = e := by omega
  have length : ((c :: cs).length : Int) = (c :: ds).length + z := by
    rw [shape]
    simp
    omega
  rw [place, ← values] at padded
  rw [padded]
  unfold Binary64.layout
  simp only [significant, length]
  split
  · rw [number_inPlace negative apart few _ closes]
    congr 6
    omega
  · rw [number_inPowers negative style apart few _ closes]
    congr 6
    omega

end layout

/-- A finite number is read from its own text. -/
theorem number_text (negative : Bool) (m : Binary64.Magnitude) {rest : List Point}
    (closes : Closes rest) :
    number ((Binary64.sign negative ++ Binary64.magnitudeText m.units).map .char ++ rest) =
      .ok (.float (.finite negative m), rest) := by
  unfold Binary64.magnitudeText
  split
  · next zero =>
    obtain rfl : m = .zero := by
      cases m
      cases zero
      rfl
    have front : wholeDigits (['0', '.', '0'].map .char ++ rest) =
      some ([0], .char '.' :: (['0'].map .char ++ rest)) := rfl
    rw [List.map_append, List.append_assoc, number_float _ (by simp) front
      (fractionDigits_append (by simp) (by simp) closes.noDigits) (powerOfTen_of_closes closes)
      (by simp)]
    exact congrArg _ (congrArg (·, rest) (congrArg _ (Decimal.toBinary64_zeros negative 2 _)))
  · next some =>
    have positive := Nat.pos_of_ne_zero some
    have rounds := Binary64.nearest_shortest m
    generalize Binary64.shortest m.units = decimal at rounds ⊢
    obtain ⟨n, e⟩ := decimal
    have counted : 0 < n := by
      apply Nat.pos_of_ne_zero
      intro zero
      rw [zero, Decimal.nearest_zero] at rounds
      omega
    obtain ⟨c, cs, front, apart⟩ := Text.head_toDigits counted
    have digits : ∀ d ∈ c :: cs, d.isDigit := by
      intro d member
      exact Text.isDigit_of_mem_toDigits (front ▸ member)
    have read := Decimal.toBinary64_of_nearest negative positive rounds
    rw [front] at read
    dsimp only
    rw [front, number_layout negative _ apart digits _ closes, read]

end RowStore.Json
