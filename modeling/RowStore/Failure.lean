import RowStore.Files
import RowStore.Json.Reader

/-! What can go wrong, by cause. An engine error is a refusal that the engine foresees and answers
in words; a crash is anything else that stops an operation. -/
namespace RowStore

/-- A part of a query that its command cannot do without. -/
inductive QueryPart where
  | openParen
  | closeParen
  | table
  | index
  | source
  | indexSource
  | assignment
  | join
  deriving DecidableEq, Repr

def QueryPart.clause : QueryPart → String
  | .openParen => "("
  | .closeParen => ")"
  | .table => "TABLE"
  | .index => "INDEX"
  | .source | .indexSource => "FROM"
  | .assignment => "SET"
  | .join => "JOIN"

def QueryPart.message : QueryPart → String
  | .openParen => "Expected '('"
  | .closeParen => "Expected ')'"
  | .table => "Expected TABLE"
  | .index => "Expected INDEX"
  | .source => "Missing FROM clause"
  | .indexSource => "Expected FROM"
  | .assignment => "Missing SET clause"
  | .join => "Incomplete JOIN clause"

/-- Why a value of a snapshot is no table. -/
inductive SchemaFault where
  | column (definition : Value)
  | notRecord (entry : Value)
  | lacks (names : List String)
  | notLists (table : Value)
  | rowNotRecord (table row : Value)
  | rowNotScalar (table row : Value)
  | rowNames (table : Value) (found expected : List Text)

def SchemaFault.message : SchemaFault → Text
  | .column definition => "Invalid column definition: " ++ definition.shown
  | .notRecord entry => "Snapshot table entry must be an object, got " ++ entry.kindName
  | .lacks names => "Snapshot table entry is missing " ++ ", ".intercalate names
  | .notLists table => "Snapshot table '" ++ table.plain ++ "' needs list columns and rows"
  | .rowNotRecord table row =>
    "Snapshot row for table '" ++ table.plain ++ "' is not an object: " ++ row.shown
  | .rowNotScalar table row =>
    "Snapshot row for table '" ++ table.plain ++ "' holds a non-scalar value: " ++ row.shown
  | .rowNames table found expected =>
    "Snapshot row for table '" ++ table.plain ++ "' has columns " ++ Value.namesText found ++
      ", expected " ++ Value.namesText expected

def SchemaFault.values : SchemaFault → List Value
  | .column definition => [definition]
  | .notRecord _ | .lacks _ => []
  | .notLists table | .rowNames table _ _ => [table]
  | .rowNotRecord table row | .rowNotScalar table row => [table, row]

/-- Why the bytes of a snapshot cannot be read. -/
inductive ReadFault where
  | call (fault : Files.Fault)
  | bytes (fault : Text.Utf8Fault)

def ReadFault.message : ReadFault → String
  | .call fault => fault.message
  | .bytes fault =>
    "'utf-8' codec can't decode " ++
      (if fault.width = 1 then
        "byte 0x" ++ String.ofList (Text.hexDigits 2 fault.byte.toNat) ++ " in position " ++
          toString fault.position
      else
        "bytes in position " ++ toString fault.position ++ "-" ++
          toString (fault.position + fault.width - 1)) ++
      ": " ++ fault.reason.message

inductive StorageFault where
  | corrupted (fault : Json.Fault)
  | notRecord (value : Value)
  | notWritable
  | unread (path : String) (fault : ReadFault)
  | unwritten (path : String) (fault : Files.Fault)
  | unsaved (reason : Text)
  | refused (message : Text)

def StorageFault.message : StorageFault → Text
  | .corrupted fault => "Corrupted snapshot: " ++ fault.message
  | .notRecord value => "Corrupted snapshot: expected an object, got " ++ value.kindName
  | .notWritable => "Snapshot is not serializable: " ++ Value.limitText none
  | .unread path fault => "Failed to read snapshot " ++ path ++ ": " ++ fault.message
  | .unwritten path fault => "Failed to write snapshot " ++ path ++ ": " ++ fault.message
  | .unsaved reason => "Snapshot save failed: " ++ reason
  | .refused message => message

/-- What the engine refuses, and why. -/
inductive EngineError where
  | emptyInput
  | noCommand
  | unsupported (command : Text)
  | missing (part : QueryPart)
  | tableExists (table : Text)
  | tableNotFound (table : Option Text)
  | columnCount (table : Value) (expected got : Nat)
  | unknownColumn (table : Value) (column : Option Text)
  | duplicate (column : Text) (value table : Value)
  | schema (fault : SchemaFault)
  | storage (fault : StorageFault)
  | refused (message : Text)

namespace EngineError

def kind : EngineError → String
  | .emptyInput => "EmptyInputError"
  | .noCommand | .unsupported _ => "UnsupportedCommandError"
  | .missing _ => "MissingClauseError"
  | .tableExists _ => "TableExistsError"
  | .tableNotFound _ => "TableNotFoundError"
  | .columnCount .. => "ColumnCountMismatchError"
  | .unknownColumn .. => "UnknownColumnError"
  | .duplicate .. => "DuplicateValueError"
  | .schema _ => "SchemaError"
  | .storage _ => "StorageError"
  | .refused _ => "MiniRDBMSError"

def message : EngineError → Text
  | .emptyInput => "Empty SQL statement"
  | .noCommand => "Invalid SQL: no command given"
  | .unsupported command => "Unsupported command: " ++ command
  | .missing part => part.message
  | .tableExists table => "Table '" ++ table ++ "' already exists"
  | .tableNotFound table => "Table '" ++ (Value.ofText? table).plain ++ "' does not exist"
  | .columnCount table expected got =>
    "Column count mismatch for table '" ++ table.plain ++ "': expected " ++ toString expected ++
      " values, got " ++ toString got
  | .unknownColumn table column =>
    "Table '" ++ table.plain ++ "' has no column '" ++ (Value.ofText? column).plain ++ "'"
  | .duplicate column value table =>
    "Duplicate value for " ++ (if table.truthy then table.plain ++ "." ++ column else column) ++
      ": " ++ value.shown
  | .schema fault => fault.message
  | .storage fault => fault.message
  | .refused message => message

def values : EngineError → List Value
  | .columnCount table _ _ => [table]
  | .unknownColumn table _ => [table]
  | .duplicate _ value table => [value, table]
  | .schema fault => fault.values
  | _ => []

end EngineError

/-- What stops an operation without being foreseen. -/
inductive Crash where
  /-- A whole number beyond the limit of digits; on reading, with the count of its digits. -/
  | tooManyDigits (count : Option Nat)
  | notKey (kind : String)
  | notJson (fault : Json.Fault)
  | tooDeep
  | nullCharacter
  /-- A path that has halves, which no name of a file can have. -/
  | unencodable (path : Text)
  /-- A store without any way to load and save. -/
  | noStorage
  | missingKey (key : Text)
  | outside (message : Text)

/-- What is said of the first halves in a path. -/
def unencodableText (path : Text) : Text :=
  let front := path.points.takeWhile fun p => p.char?.isSome
  let halves := (path.points.drop front.length).takeWhile fun p => p.char?.isNone
  "'utf-8' codec can't encode " ++
    (match halves with
      | [p] =>
        "character '" ++ String.ofList (Text.codePoint p.toNat) ++ "' in position " ++
          toString front.length
      | _ =>
        "characters in position " ++ toString front.length ++ "-" ++
          toString (front.length + halves.length - 1)) ++
    ": surrogates not allowed"

def Crash.message : Crash → Text
  | .tooManyDigits count => Value.limitText count
  | .notKey kind => "unhashable type: '" ++ kind ++ "'"
  | .notJson fault => fault.message
  | .tooDeep => "maximum recursion depth exceeded"
  | .nullCharacter => "embedded null byte"
  | .unencodable path => unencodableText path
  | .noStorage => ""
  | .missingKey key => Text.quoted key
  | .outside message => message

inductive Failure where
  | engine (error : EngineError)
  | crash (cause : Crash)

def Failure.message : Failure → Text
  | .engine error => error.message
  | .crash cause => cause.message

/-- The failure for an engine error. Its message is made at once, so a value in it that cannot be
written crashes instead. -/
def Failure.of (error : EngineError) : Failure :=
  if error.values.all Value.printable then .engine error else .crash (.tooManyDigits none)

/-- The results of operations that can fail. -/
abbrev Result := Except Failure

def fail (error : EngineError) : Result α := .error (.of error)

end RowStore
