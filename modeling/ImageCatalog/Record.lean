import ImageCatalog.Dictionary
import ImageCatalog.Phase
import ImageCatalog.Time.Reader
import ImageCatalog.Time.Writer

/-!
# Image records

The record of one node image: which image of which provider it is, who needs it, and how far its
distribution has come.

## Main definitions

* `Record` — the record, with its version for optimistic concurrency.
* `Record.addConsumer`, `Record.removeConsumer` — who needs the image.
* `Record.lastUsed?`, `Record.stampLastUsed` — the time since which nobody needs it, kept as a text
  among the annotations.
* `Record.revive` — what a new consumer does to the retention and deletion of an image.
-/

namespace ImageCatalog

/-- What a record is about. -/
structure Spec where
  /-- The name of the image in the catalogs. -/
  image : String
  /-- The tag of the provider that owns the image. -/
  provider : String
deriving DecidableEq

/-- The record of a node image. -/
structure Record where
  name : String
  /-- Counts the writes of the record. -/
  version : UInt64
  created : Instant
  /-- Set from when on the record is to be deleted. -/
  deletion : Option Instant
  annotations : Dictionary String
  spec : Spec
  /-- Who needs the image. -/
  consumers : List String
  phase : Option Phase
deriving DecidableEq

namespace Record

/-- The annotation with the time since which nobody needs the image. -/
def lastUsedKey : String := "image-distributor.io/last-used"

/-- A record that nobody needs yet. -/
def new (name : String) (spec : Spec) (now : Instant) : Record where
  name := name
  version := 0
  created := now
  deletion := none
  annotations := .empty
  spec := spec
  consumers := []
  phase := none

def isReferenced (r : Record) : Bool :=
  !r.consumers.isEmpty

def isDeletionRequested (r : Record) : Bool :=
  r.deletion.isSome

def hasConsumer (r : Record) (consumer : String) : Bool :=
  r.consumers.contains consumer

/-- Adds a consumer at the end, unless it is there. -/
def addConsumer (r : Record) (consumer : String) : Record :=
  if r.hasConsumer consumer then r else { r with consumers := r.consumers ++ [consumer] }

def removeConsumer (r : Record) (consumer : String) : Record :=
  { r with consumers := r.consumers.filter (· != consumer) }

/-- The time since which nobody needs the image. A text that is no stamp counts as none. -/
def lastUsed? (r : Record) : Option Instant :=
  (r.annotations.get? lastUsedKey).bind Instant.ofStamp?

def hasStamp (r : Record) : Bool :=
  r.annotations.contains lastUsedKey

def stampLastUsed (r : Record) (at_ : Instant) : Record :=
  { r with annotations := r.annotations.insert lastUsedKey at_.stamp }

def clearLastUsed (r : Record) : Record :=
  { r with annotations := r.annotations.erase lastUsedKey }

/-- Whether a new consumer has something to undo: a stamp, a deletion request, or a wait for
deletion. -/
def isRevivable (r : Record) : Bool :=
  r.hasStamp || r.phase == none || r.phase == some .awaitingDeletion || r.isDeletionRequested

/-- Undoes retention and deletion requests: the stamp goes, the deletion request goes, and a
record that waits for deletion, or was never looked at, is pending. -/
def revive (r : Record) : Record :=
  let phase :=
    if r.phase == none || r.phase == some .awaitingDeletion then some .pending else r.phase
  { r.clearLastUsed with phase := phase, deletion := none }

end Record

end ImageCatalog
