import RowStore.Failure
import RowStore.Json.Writer

/-! Snapshots: one JSON text for all tables of a database. -/
namespace RowStore.Snapshot

/-- The text of a value, if all its whole numbers can be written. -/
def encode (v : Value) : Result String :=
  if v.printable then .ok (Json.write v) else fail (.storage .notWritable)

def decode (text : Text) : Result (Fields Value) :=
  match Json.read text with
  | .error fault => fail (.storage (.corrupted fault))
  | .ok (.record fields) => .ok fields
  | .ok v => fail (.storage (.notRecord v))

end RowStore.Snapshot
