import RowStore.Failure
import RowStore.Text.Blank

/-! Words of a query. Blanks part them, each parenthesis and each comma is a word of its own, and
a semicolon is nothing at all. -/
namespace RowStore.Query

def isDelimiter (p : Point) : Bool := p == .char '(' || p == .char ')' || p == .char ','

/-- One point of a query with blanks around it if it is a word of its own. -/
def spacedPoint (p : Point) : List Point :=
  if isDelimiter p then [.char ' ', p, .char ' '] else if p = .char ';' then [] else [p]

def spaced (ps : List Point) : List Point := ps.flatMap spacedPoint

def dropQuote : List Point → List Point
  | .char '"' :: ps => ps
  | ps => ps

/-- A word without one double quote in front and then without one behind. -/
def unquoted (ps : List Point) : List Point :=
  (dropQuote (dropQuote ps).reverse).reverse

def tokens (ps : List Point) : List (List Point) :=
  (Text.words (spaced ps)).map unquoted

/-- The words of a query. Where nothing but blanks stands there is no query. -/
def tokenize (query : Option Text) : Result (List Text) :=
  match query with
  | none => fail .emptyInput
  | some text =>
    if text.points.all Text.isBlankPoint then fail .emptyInput
    else .ok ((tokens text.points).map Text.mk)

end RowStore.Query
