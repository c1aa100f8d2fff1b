import RowStore.Json.Writer
import RowStore.Proofs.Digits
import RowStore.Proofs.Json.Reading

/-! Settled texts are read from what is written for them. The pieces that are read for a point have
the units of this point, and units are put together as they were taken apart. -/
namespace RowStore.Json

theorem hexDigit?_hexChar : ∀ d < 16, Text.hexDigit? (Text.hexChar d) = some d := by decide

theorem unit?_hexDigits {n : Nat} (bound : n < 0x10000) :
    ∃ a b c d, Text.hexDigits 4 n = [a, b, c, d] ∧
      unit? (.char a) (.char b) (.char c) (.char d) = some n := by
  have read (k : Nat) : Text.hexPoint? (.char (Text.hexChar (k % 16))) = some (k % 16) :=
    hexDigit?_hexChar _ (Nat.mod_lt _ (by decide))
  refine ⟨_, _, _, _, rfl, ?_⟩
  simp only [unit?, List.mapM_cons, List.mapM_nil, read, pure, bind, Option.bind_some,
    Text.ofDigits, List.foldl_cons, List.foldl_nil, Option.some.injEq]
  omega

/-- What is written is read as some pieces, whatever can be read behind it. -/
def ReadAs (written : List Char) (found : List Piece) : Prop :=
  ∀ ⦃opened ps rest : List Point⦄ ⦃others : List Piece⦄, ps ≠ [] →
    pieces opened ps = .ok (others, rest) →
      pieces opened (written.map .char ++ ps) = .ok (found ++ others, rest)

namespace ReadAs

theorem append {first second : List Char} {found later : List Piece} (front : ReadAs first found)
    (back : ReadAs second later) : ReadAs (first ++ second) (found ++ later) := by
  intro opened ps rest others more read
  rw [List.map_append, List.append_assoc, List.append_assoc]
  exact front (by simp [more]) (back more read)

theorem plain {c : Char} (quote : c ≠ '"') (slash : c ≠ '\\') (bound : 0x20 ≤ c.toNat) :
    ReadAs [c] [.plain (.char c)] := by
  intro opened ps rest others _ read
  have visible : ¬(Point.char c).toNat < 0x20 := Nat.not_lt_of_le bound
  simp [pieces, quote, slash, visible, read, bind, Except.bind, pure, Except.pure]

theorem escape {e c : Char} (known : escape? (.char e) = some c) (other : e ≠ 'u') :
    ReadAs ['\\', e] [.plain (.char c)] := by
  intro opened ps rest others _ read
  simp [pieces, other, known, read, bind, Except.bind, pure, Except.pure]

theorem unit {n : Nat} (bound : n < 0x10000) : ReadAs (unitEscape n) [.unit n] := by
  intro opened ps rest others more read
  obtain ⟨a, b, c, d, shape, value⟩ := unit?_hexDigits bound
  have some : ps.isEmpty = false := by simpa using more
  simp [unitEscape, shape, pieces, value, some, read, bind, Except.bind, pure, Except.pure]

theorem units {ns : List Nat} (bound : ∀ n ∈ ns, n < 0x10000) :
    ReadAs (ns.flatMap unitEscape) (ns.map .unit) := by
  induction ns with
  | nil => exact fun _ _ _ _ _ read => read
  | cons n ns ih =>
    obtain ⟨first, bound⟩ := List.forall_mem_cons.mp bound
    exact (unit first).append (ih bound)

end ReadAs

theorem units_lt (p : Point) : ∀ n ∈ Text.units p, n < 0x10000 := by
  have range : p.toNat < 0x110000 := by
    cases p with
    | char c => have := Text.toNat_apart c; simp only [Point.toNat]; omega
    | half h => simp only [Point.toNat]; omega
  intro n member
  unfold Text.units at member
  split at member
  · simp_all
  · simp only [List.mem_cons, List.not_mem_nil, or_false] at member
    omega

theorem readAs_escaped (p : Point) : ∃ found : List Piece,
    found.flatMap Piece.units = Text.units p ∧ (∀ piece ∈ found, piece.ofCharacter) ∧
      ReadAs (escaped p) found := by
  have whole : ∃ found : List Piece,
      found.flatMap Piece.units = Text.units p ∧ (∀ piece ∈ found, piece.ofCharacter) ∧
        ReadAs ((Text.units p).flatMap unitEscape) found := by
    refine ⟨(Text.units p).map .unit, ?_, ?_, .units (units_lt p)⟩
    · simp [List.flatMap_map, Piece.units]
    · simp [Piece.ofCharacter]
  cases p with
  | half h => exact whole
  | char c =>
    have single (read : ReadAs (escaped (.char c)) [.plain (.char c)]) :
        ∃ found : List Piece,
          found.flatMap Piece.units = Text.units (.char c) ∧ (∀ piece ∈ found, piece.ofCharacter) ∧
            ReadAs (escaped (.char c)) found :=
      ⟨_, by simp [Piece.units], by simp [Piece.ofCharacter, Point.char?], read⟩
    by_cases special : c ∈ ['"', '\\', '\n', '\r', '\t', '\x0c', '\x08']
    · simp only [List.mem_cons, List.not_mem_nil, or_false] at special
      rcases special with rfl | rfl | rfl | rfl | rfl | rfl | rfl <;>
        exact single (.escape (by decide) (by decide))
    · simp only [List.mem_cons, List.not_mem_nil, or_false, not_or] at special
      by_cases visible : 0x20 ≤ c.toNat ∧ c.toNat < 0x7F
      · have same : escaped (.char c) = [c] := by simp [escaped, special, visible]
        exact single (same ▸ .plain special.1 special.2.1 visible.1)
      · have same : escaped (.char c) = (Text.units (.char c)).flatMap unitEscape := by
          simp [escaped, special, visible]
        rwa [same]

theorem readAs_flatMap (ps : List Point) : ∃ found : List Piece,
    found.flatMap Piece.units = ps.flatMap Text.units ∧ (∀ piece ∈ found, piece.ofCharacter) ∧
      ReadAs (ps.flatMap escaped) found := by
  induction ps with
  | nil => exact ⟨[], rfl, by simp, fun _ _ _ _ _ read => read⟩
  | cons p ps ih =>
    obtain ⟨found, units, plain, read⟩ := readAs_escaped p
    obtain ⟨others, unitsLater, plainLater, later⟩ := ih
    refine ⟨found ++ others, ?_, ?_, read.append later⟩
    · rw [List.flatMap_append, units, unitsLater, List.flatMap_cons]
    · exact fun piece member => (List.mem_append.mp member).elim (plain piece) (plainLater piece)

/-- A settled text is read from what is written for it, up to the closing quote. -/
theorem text_written {s : Text} (settled : s.settled) (rest : List Point) :
    text ((s.points.flatMap escaped).map .char ++ .char '"' :: rest) = .ok (s, rest) := by
  obtain ⟨found, units, plain, read⟩ := readAs_flatMap s.points
  have closed : pieces (.char '"' :: ((s.points.flatMap escaped).map .char ++ .char '"' :: rest))
      (.char '"' :: rest) = .ok ([], rest) := by simp [pieces]
  have same : joined found = s.points := by
    rw [joined_eq_ofUnits plain, units, Text.ofUnits_flatMap_of_apart settled]
  simp [text, read (List.cons_ne_nil _ _) closed, same, bind, Except.bind, pure, Except.pure]

end RowStore.Json
