import RowStore.Store.Place

/-! Places that keep the snapshot of a database: a text in memory, or a file. -/
namespace RowStore

/-- A text, how often it was saved, and what happens instead of saving while there is an outage. -/
structure Memory where
  blob : Option Text
  saves : Nat
  outage : Option Failure

namespace Memory

def empty : Memory := ⟨none, 0, none⟩

def load (memory : Memory) : Result (Option (Fields Value)) :=
  match memory.blob with
  | none => .ok none
  | some text => (Snapshot.decode text).map some

def save (memory : Memory) (snapshot : Value) : Memory × Result Unit :=
  match memory.outage with
  | some failure => (memory, .error failure)
  | none =>
    match Snapshot.encode snapshot with
    | .ok text => ({ memory with blob := some text, saves := memory.saves + 1 }, .ok ())
    | .error e => (memory, .error e)

end Memory

inductive Store where
  | memory (text : Memory)
  | file (place : Place) (disk : Disk)
  /-- A store that can neither load nor save. -/
  | bare

namespace Store

def load : Store → Result (Option (Fields Value))
  | .memory text => text.load
  | .file place disk => place.load disk
  | .bare => .error (.crash .noStorage)

def save (store : Store) (snapshot : Value) : Store × Result Unit :=
  match store with
  | .memory text =>
    let (text, result) := text.save snapshot
    (.memory text, result)
  | .file place disk =>
    let (session, result) := place.save snapshot disk
    (.file place session.disk, result)
  | .bare => (.bare, .error (.crash .noStorage))

end Store
end RowStore
