import ImageCatalog.Location
import ImageCatalog.Revision

/-!
# Placement

Bringing an image into the catalogs of all locations of a provider, and out of them.

Placement stops at the first location that fails, because an upload is expensive and the next pass
finds by a look-up what is there already. Withdrawal goes on past a failure, so that a location that
cannot be reached keeps the image at no other one; only an interruption stops it.
-/

namespace ImageCatalog.Pass

/-- The limit of a look-up and of a withdrawal. -/
def callLimit : Duration := .ofSeconds 120

/-- The limit of an upload. -/
def uploadLimit : Duration := .ofSeconds 3600

/-- An image of a provider, and the record that it is worked on for. -/
structure Job where
  /-- The name of the record. -/
  record : String
  /-- The tag of the provider. -/
  provider : String
  image : String

namespace Job

/-- A call about the image at a location. -/
def call (job : Job) (location : String) (limit : Duration) : CatalogCall :=
  ⟨job.record, job.provider, location, job.image, limit⟩

/-- The name of a call, for messages. -/
def describe (job : Job) (verb location : String) : String :=
  verb ++ " " ++ job.image ++ " at " ++ location

/-- Whether the image is at a location. -/
def lookUp (job : Job) (location : String) : Program (Except Failure Bool) := do
  let attempt ← Program.request (.lookUp (job.call location callLimit))
  return Program.settle (job.describe "exists" location) callLimit attempt

/-- Imports the image into a location. -/
def upload (job : Job) (location url : String) : Program (Except Failure Unit) := do
  let attempt ← Program.request (.upload (job.call location uploadLimit) url)
  return Program.settle (job.describe "create" location) uploadLimit attempt

/-- Takes the image out of a location. -/
def withdraw (job : Job) (location : String) : Program (Except Failure Unit) := do
  let attempt ← Program.request (.withdraw (job.call location callLimit))
  return Program.settle (job.describe "delete" location) callLimit attempt

/-- Ends a pass with a failure. An interruption leaves the phase as it is, so that the next pass
goes on from it. -/
def giveUp {α : Type} (job : Job) (e : Failure) : Program α :=
  if e.isCancelled then .fail e
  else do
    Record.enter job.record .error
    .fail e

/-- How a placement ended. -/
inductive Placed where
  /-- The image is at all locations. -/
  | everywhere
  /-- The artifact is not reachable. -/
  | sourceMissing
deriving DecidableEq

/-- Whether the artifact is reachable. Only an interruption ends the pass; any other failure of
the probe means that the artifact is not there yet. -/
def isReachable (url : String) : Program Bool := do
  match ← Program.request (.probe url) with
  | .ok reachable => return reachable
  | .error e => if e.isCancelled then .fail e else return false

/-- Brings the image into a location that lacks it. -/
def fill (job : Job) (url location : String) : Program Unit := do
  Record.enter job.record .uploading
  Program.emit (.uploadStarted job.record location url)
  match ← job.upload location url with
  | .error e => job.giveUp e
  | .ok () =>
    Record.enter job.record .available
    Program.emit (.uploadCompleted job.record location)

/-- Brings the image to a location of which the artifact is known to be reachable. -/
def placeAt (job : Job) (url location : String) : Program Unit := do
  match ← job.lookUp location with
  | .error e => job.giveUp e
  | .ok true =>
    Record.enter job.record .available
    Program.emit (.alreadyPresent job.record location)
  | .ok false => job.fill url location

/-- Brings the image to each location in turn. -/
def place (job : Job) (url : String) : List Location → Program Placed
  | [] => return .everywhere
  | location :: rest => do
    if ← isReachable url then
      job.placeAt url location.name
      job.place url rest
    else
      Record.enter job.record .missing
      Program.emit (.sourceMissing job.record url)
      return .sourceMissing

/-- Takes the image out of each location in turn, and gives the locations where that failed. -/
def clear (job : Job) : List Location → Program (List String)
  | [] => return []
  | location :: rest => do
    Record.enter job.record .deleting
    match ← job.withdraw location.name with
    | .ok () => job.clear rest
    | .error e =>
      if e.isCancelled then .fail e
      else
        Program.emit (.locationDeleteFailed job.record location.name e.message)
        return location.name :: (← job.clear rest)

end Job

end ImageCatalog.Pass
