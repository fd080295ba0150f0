import ImageCatalog.Store.Version

/-!
# Records in memory

A store that keeps each record under its name. Every operation gives its outcome and the store
after it; an operation that fails leaves the store as it was.

## Main definitions

* `Ledger` — the store.
* `Ledger.create`, `Ledger.replace`, `Ledger.remove` — its writes, with `Ledger.get?` and
  `Ledger.list` to look at it.
-/

namespace ImageCatalog

/-- Records by their names. -/
structure Ledger where
  records : Dictionary Record

namespace Ledger

/-- The store without records. -/
def empty : Ledger := ⟨.empty⟩

def get? (l : Ledger) (name : String) : Option Record :=
  l.records.get? name

/-- The records, in the order of their names. -/
def list (l : Ledger) : List Record :=
  l.records.values

/-- Puts a record under its name. -/
def put (l : Ledger) (r : Record) : Ledger :=
  ⟨l.records.insert r.name r⟩

/-- Stores a new record. -/
def create (l : Ledger) (r : Record) : Except Failure Record × Ledger :=
  match l.get? r.name with
  | some _ => (.error (.alreadyExists r.name), l)
  | none => (.ok r.atFirst, l.put r.atFirst)

/-- Stores a record in place of the one of its name. -/
def replace (l : Ledger) (r : Record) : Except Failure Record × Ledger :=
  match l.get? r.name with
  | none => (.error (.imageNotFound r.name), l)
  | some stored =>
    match r.inPlaceOf stored with
    | .error e => (.error e, l)
    | .ok r' => (.ok r', l.put r')

/-- Removes the record `name`, and tells whether there was one. Given a version, only that one is
removed. -/
def remove (l : Ledger) (name : String) (version : Option UInt64) : Except Failure Bool × Ledger :=
  match l.get? name with
  | none => (.ok false, l)
  | some stored =>
    match version.forM (stored.checkVersion name) with
    | .error e => (.error e, l)
    | .ok () => (.ok true, ⟨l.records.erase name⟩)

end Ledger

end ImageCatalog
