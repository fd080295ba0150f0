/-!
# Phases

The stages in the life of an image record. A record without a phase was created for its first
consumer and not yet looked at.
-/

namespace ImageCatalog

/-- The stage of an image record. -/
inductive Phase where
  /-- Needed, and not yet looked up in the catalogs. -/
  | pending
  /-- On its way into at least one catalog. -/
  | uploading
  /-- Present at every location. -/
  | available
  /-- The source artifact is not reachable. -/
  | missing
  /-- The last pass failed. -/
  | error
  /-- Not needed, kept for the retention period. -/
  | awaitingDeletion
  /-- On its way out of the catalogs. -/
  | deleting
  /-- Gone from all catalogs; the record goes next. -/
  | deleted
deriving DecidableEq, Repr

namespace Phase

def name : Phase → String
  | pending => "Pending"
  | uploading => "Uploading"
  | available => "Available"
  | missing => "Missing"
  | error => "Error"
  | awaitingDeletion => "AwaitingDeletion"
  | deleting => "Deleting"
  | deleted => "Deleted"

/-- All phases, in the order of a life. -/
def all : List Phase :=
  [pending, uploading, available, missing, error, awaitingDeletion, deleting, deleted]

/-- The phase of a name. -/
def ofName? (s : String) : Option Phase :=
  all.find? fun p => p.name == s

/-- The name of a phase, or a hyphen for a record without one. -/
def label (p : Option Phase) : String :=
  (p.map name).getD "-"

end Phase

end ImageCatalog
