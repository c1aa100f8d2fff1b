import RowStore.Text

/-! Blank characters, and the words that they keep apart. -/
namespace RowStore.Text

/-- The twenty-nine characters that count as blank: the controls that move the position, the four
separators of information, and every space of any width that may end a line or a word. -/
def isBlank (c : Char) : Bool :=
  let n := c.toNat
  (0x09 ≤ n && n ≤ 0x0D) || (0x1C ≤ n && n ≤ 0x20) || n == 0x85 || n == 0xA0 || n == 0x1680 ||
    (0x2000 ≤ n && n ≤ 0x200A) || n == 0x2028 || n == 0x2029 || n == 0x202F || n == 0x205F ||
    n == 0x3000

/-- A half of a pair is no blank. -/
def isBlankPoint (p : Point) : Bool := p.char?.any isBlank

def strip (ps : List Point) : List Point :=
  ((ps.dropWhile isBlankPoint).reverse.dropWhile isBlankPoint).reverse

/-- The word that touches the start of a text, empty if a blank or nothing stands there, and the
words after it. -/
def leadingWord : List Point → List Point × List (List Point)
  | [] => ([], [])
  | p :: ps =>
    let (word, others) := leadingWord ps
    if isBlankPoint p then ([], if word.isEmpty then others else word :: others)
    else (p :: word, others)

/-- The longest runs of points that are not blank, in order. -/
def words (ps : List Point) : List (List Point) :=
  let (word, others) := leadingWord ps
  if word.isEmpty then others else word :: others

theorem leadingWord_append_blank (a b : List Point) (s : Point) (blank : isBlankPoint s) :
    leadingWord (a ++ s :: b) =
      ((leadingWord a).1, (leadingWord a).2 ++ words b) := by
  induction a with
  | nil => simp [leadingWord, words, blank]
  | cons c cs ih =>
    simp only [List.cons_append, leadingWord, ih]
    by_cases h : isBlankPoint c <;> simp [h]
    split <;> simp

theorem words_append_blank (a b : List Point) (s : Point) (blank : isBlankPoint s) :
    words (a ++ s :: b) = words a ++ words b := by
  have front : words a = if (leadingWord a).1.isEmpty then (leadingWord a).2
      else (leadingWord a).1 :: (leadingWord a).2 := rfl
  rw [front]
  conv => lhs; unfold words
  rw [leadingWord_append_blank a b s blank]
  by_cases empty : (leadingWord a).1.isEmpty <;> simp [empty]

end RowStore.Text
