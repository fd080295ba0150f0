import ImageCatalog.Failure
import ImageCatalog.Record

/-!
# Versions

Every write of a record counts its version up, and a write is only accepted from a copy of the
version that is stored. Both kinds of store follow the rules of this module.
-/

namespace ImageCatalog.Record

/-- The record as it is stored when it is created. -/
def atFirst (r : Record) : Record :=
  { r with version := 1 }

/-- Refuses a write from another version than the stored one. -/
def checkVersion (stored : Record) (name : String) (expected : UInt64) : Except Failure Unit :=
  if stored.version = expected then .ok () else .error (.conflict name expected stored.version)

/-- The record as it is stored in place of `stored`, if it was read from that version. -/
def inPlaceOf (r stored : Record) : Except Failure Record :=
  (stored.checkVersion r.name r.version).map fun _ => { r with version := stored.version + 1 }

end ImageCatalog.Record
