import RowStore.Http.Target
import RowStore.Proofs.Utf8

/-! Parts of paths. A part that is escaped byte by byte is read back from a path whatever characters
it has, and the path is cut where it was put together if there is no slash in its parts. -/
namespace RowStore.Http

theorem escapeOf_eq (b : UInt8) : escapeOf b =
    ['%', (Text.hexChar (b.toNat / 16 % 16)).toUpper, (Text.hexChar (b.toNat % 16)).toUpper] := rfl

theorem unescape_plain {c : Char} (plain : c ≠ '%') (cs : List Char) :
    unescape 0 (c :: cs) = Text.encodeChar c ++ unescape 0 cs := by
  simp only [unescape, plain, ↓reduceIte]

theorem unescape_escapeOf (b : UInt8) (cs : List Char) :
    unescape 0 (escapeOf b ++ cs) = b :: unescape 0 cs := by
  have digit : ∀ d < 16, Text.hexDigit? (Text.hexChar d).toUpper = some d := by decide
  have high := digit (b.toNat / 16 % 16) (Nat.mod_lt _ (by decide))
  have low := digit (b.toNat % 16) (Nat.mod_lt _ (by decide))
  have value : 16 * (b.toNat / 16 % 16) + b.toNat % 16 = b.toNat := by
    have := b.toNat_lt
    omega
  have read : escape? ((Text.hexChar (b.toNat / 16 % 16)).toUpper ::
      (Text.hexChar (b.toNat % 16)).toUpper :: cs) = some b := by
    simp only [escape?, high, low, Option.bind_eq_bind, Option.bind_some, value, UInt8.ofNat_toNat]
    rfl
  rw [escapeOf_eq, List.cons_append, unescape, if_pos rfl]
  simp only [List.cons_append, List.nil_append, read]
  rfl

theorem unescape_bytes (bytes : List UInt8) (cs : List Char) :
    unescape 0 (bytes.flatMap escapeOf ++ cs) = bytes ++ unescape 0 cs := by
  induction bytes with
  | nil => rfl
  | cons b bytes ih =>
    rw [List.flatMap_cons, List.append_assoc, unescape_escapeOf, ih, List.cons_append]

theorem unescape_asSegment (name cs : List Char) :
    unescape 0 (asSegment name ++ cs) = name.flatMap Text.encodeChar ++ unescape 0 cs := by
  induction name with
  | nil => rfl
  | cons c name ih =>
    rw [asSegment, List.flatMap_cons, ← asSegment, List.flatMap_cons, List.append_assoc,
      List.append_assoc, ← ih, segmentChar]
    split
    · next bare =>
      have plain : c ≠ '%' := by
        rintro rfl
        exact absurd bare (by decide)
      exact unescape_plain plain _
    · exact unescape_bytes _ _

/-- Parts behind slashes. -/
def slashed (parts : List String) : List Char := parts.flatMap fun part => '/' :: part.toList

theorem slashed_cons (part : String) (parts : List String) :
    slashed (part :: parts) = '/' :: (part.toList ++ slashed parts) := rfl

theorem unescape_pathOf (parts : List String) :
    unescape 0 (pathOf parts) = (slashed parts).flatMap Text.encodeChar := by
  induction parts with
  | nil => rfl
  | cons part parts ih =>
    rw [pathOf, List.flatMap_cons, ← pathOf, List.cons_append, unescape_plain (by decide),
      unescape_asSegment, ih, slashed_cons, List.flatMap_cons, List.flatMap_append]

theorem unescaped_pathOf (parts : List String) : unescaped (pathOf parts) = slashed parts := by
  have bytes : unescape 0 (pathOf parts) = Text.encode (String.ofList (slashed parts)) := by
    rw [unescape_pathOf, Text.encode, String.toList_ofList]
  rw [unescaped, bytes, Text.decodeLossy_encode, String.toList_ofList]

theorem isPathChar_of_mem_escapeOf {b : UInt8} {c : Char} (member : c ∈ escapeOf b) :
    isPathChar c := by
  have digit : ∀ d < 16, isPathChar (Text.hexChar d).toUpper := by decide
  simp only [escapeOf_eq, List.mem_cons, List.not_mem_nil, or_false] at member
  rcases member with rfl | rfl | rfl
  · rfl
  · exact digit _ (Nat.mod_lt _ (by decide))
  · exact digit _ (Nat.mod_lt _ (by decide))

theorem isPathChar_of_isUnreserved {c : Char} (bare : isUnreserved c) : isPathChar c := by
  simp only [isPathChar, Bool.and_eq_true, bne_iff_ne]
  refine ⟨⟨⟨⟨?_, ?_⟩, ?_⟩, ?_⟩, ?_⟩ <;> rintro rfl <;> exact absurd bare (by decide)

theorem isPathChar_of_mem_asSegment {name : List Char} {c : Char} (member : c ∈ asSegment name) :
    isPathChar c := by
  obtain ⟨d, -, inside⟩ := List.mem_flatMap.mp member
  unfold segmentChar at inside
  split at inside
  · next bare =>
    obtain rfl := List.mem_singleton.mp inside
    exact isPathChar_of_isUnreserved bare
  · obtain ⟨b, -, escape⟩ := List.mem_flatMap.mp inside
    exact isPathChar_of_mem_escapeOf escape

theorem isPathChar_of_mem_pathOf {parts : List String} {c : Char} (member : c ∈ pathOf parts) :
    isPathChar c := by
  obtain ⟨part, -, inside⟩ := List.mem_flatMap.mp member
  rcases List.mem_cons.mp inside with rfl | inside
  · rfl
  · exact isPathChar_of_mem_asSegment inside

theorem parts_slashed {part : List Char} {parts : List String} (single : '/' ∉ part)
    (singles : ∀ other ∈ parts, '/' ∉ other.toList) :
    Text.parts '/' (part ++ slashed parts) = part :: parts.map String.toList := by
  induction parts generalizing part with
  | nil => simpa [slashed] using Text.parts_of_not_mem single
  | cons next parts ih =>
    rw [slashed_cons, Text.parts_append, Text.parts_of_not_mem single,
      ih (singles next List.mem_cons_self)
        fun other member => singles other (List.mem_cons_of_mem _ member)]
    rfl

/-- Slashes in front are one, so the first part must not be empty. -/
theorem segments_slashed {part : String} {parts : List String} (present : part ≠ "")
    (singles : ∀ other ∈ part :: parts, '/' ∉ other.toList) :
    segments (slashed (part :: parts)) = part :: parts := by
  obtain ⟨c, cs, chars⟩ := List.exists_cons_of_ne_nil (mt String.toList_eq_nil_iff.mp present)
  have single := singles part List.mem_cons_self
  have apart : c ≠ '/' := by
    rintro rfl
    exact single (chars ▸ List.mem_cons_self)
  have front : (slashed (part :: parts)).dropWhile (· = '/') = part.toList ++ slashed parts := by
    simp [slashed_cons, chars, apart]
  rw [segments, front, parts_slashed single
    fun other member => singles other (List.mem_cons_of_mem _ member)]
  simp

end RowStore.Http
