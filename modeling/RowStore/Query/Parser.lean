import RowStore.Query.Command
import RowStore.Query.Numeral
import RowStore.Query.Token
import RowStore.Text.Parts
import RowStore.Text.Upper

/-! Commands from the words of a query. A few anchor words, wherever they come first, say where the
parts of a command begin, and each part is read at a fixed distance from its anchor. -/
namespace RowStore.Query

/-- The words behind the first occurrence of an anchor. -/
def behind (anchor : Text) : List Text → Option (List Text)
  | [] => none
  | word :: rest => if word = anchor then some rest else behind anchor rest

def require (anchor : Text) (part : QueryPart) (words : List Text) : Result (List Text) :=
  match behind anchor words with
  | some rest => .ok rest
  | none => fail (.missing part)

/-- The condition behind the anchor of conditions, if there is one. The word in the middle is not
looked at. -/
def filter (read : Option Text → Result Value) (words : List Text) :
    Result (Option Filter) := do
  match behind "WHERE" words with
  | none => return none
  | some rest => return some ⟨rest[0]?, ← read rest[2]?⟩

mutual

/-- The definitions of columns up to the closing parenthesis. -/
def columns : List Text → Result (List Column)
  | [] => fail (.missing .closeParen)
  | name :: rest =>
    if name = ")" then .ok []
    else
      match rest with
      | [] => fail (.missing .closeParen)
      | type :: rest => modifiers ⟨name, .text type, false, false⟩ rest

/-- The words behind the type of a column up to the end of its definition, and the definitions
behind it. Words that are no flag mean nothing. -/
def modifiers (column : Column) : List Text → Result (List Column)
  | [] => fail (.missing .closeParen)
  | word :: rest =>
    if word = ")" then .ok [column]
    else if word = "," then (columns rest).map (column :: ·)
    else if word = "PRIMARY" then modifiers { column with primary := true } rest
    else if word = "UNIQUE" then modifiers { column with unique := true } rest
    else modifiers column rest

end

/-- The values up to the closing parenthesis. One comma behind a value parts it from the next, so
behind a value a comma may be none. -/
def valuesAfter (comma : Bool) : List Text → Result (List Value)
  | [] => fail (.missing .closeParen)
  | word :: rest => do
    if comma && word = "," then valuesAfter false rest
    else if word = ")" then return []
    else
      let v ← coerce (some word)
      let vs ← valuesAfter true rest
      return v :: vs

def values (words : List Text) : Result (List Value) := valuesAfter false words

def reference : Option Text → Result (Text × Option Text)
  | none => fail (.missing .join)
  | some word =>
    match Text.parts (.char '.') word.points with
    | table :: column => .ok (⟨table⟩, column.head?.map Text.mk)
    | [] => .ok ("", none)

def join (words : List Text) : Result (Option Join) := do
  match behind "JOIN" words with
  | none => return none
  | some rest =>
    let (leftTable, leftColumn) ← reference rest[2]?
    let (rightTable, rightColumn) ← reference rest[4]?
    return some ⟨rest[0]?, leftTable, leftColumn, rightTable, rightColumn⟩

def create : List Text → Result Command
  | _ :: word :: rest => do
    if word ≠ "TABLE" then fail (.missing .table)
    else
      let cs ← columns (← require "(" .openParen rest)
      return .createTable (rest.head?.getD "") cs
  | _ => fail (.missing .table)

def insert (words : List Text) : Result Command := do
  let vs ← values (← require "(" .openParen words)
  return .insert words[2]? vs

def select (words : List Text) : Result Command := do
  let source ← require "FROM" .source words
  let named := (words.takeWhile (· ≠ ("FROM" : Text))).drop 1
  let second ← join words
  return .select source[0]? named (← filter coerce words) second

def update (words : List Text) : Result Command := do
  let assigned ← require "SET" .assignment words
  let value ← coerce assigned[2]?
  return .update words[1]? assigned[0]? value (← filter toNumber words)

def delete (words : List Text) : Result Command := do
  return .delete words[2]? (← filter toNumber words)

def showIndex (words : List Text) : Result Command :=
  if (words[1]?.map Text.upper) ≠ some "INDEX" then fail (.missing .index)
  else if (words[2]?.map Text.upper) ≠ some "FROM" then fail (.missing .indexSource)
  else .ok (.showIndex words[3]?)

/-- The command that words ask for; its first word, in any case, names its kind. -/
def route (words : List Text) : Result Command :=
  let command := Text.upper (words.head?.getD "")
  if command = "" then fail .noCommand
  else if command = "CREATE" then create words
  else if command = "INSERT" then insert words
  else if command = "SELECT" then select words
  else if command = "UPDATE" then update words
  else if command = "DELETE" then delete words
  else if command = "SHOW" then showIndex words
  else fail (.unsupported command)

/-- The command that words ask for, unless it holds a whole number that cannot be written. -/
def parse (words : List Text) : Result Command := do
  let command ← route words
  if command.printable then return command else .error (.crash (.tooManyDigits none))

def parseText (query : Option Text) : Result Command := do
  parse (← tokenize query)

end RowStore.Query
