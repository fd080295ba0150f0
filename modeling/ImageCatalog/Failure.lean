import ImageCatalog.Duration
import ImageCatalog.Name

/-!
# Failures

What can go wrong, as causes. `Failure.kind` sorts the causes by how a caller reacts to them, and
`Failure.message` words them.
-/

namespace ImageCatalog

/-- A reason why an operation did not succeed. -/
inductive Failure where
  | imageNotFound (name : String)
  | invalidImageName (name reason : String)
  | invalidConsumer (id reason : String)
  /-- The record of the image belongs to another provider. -/
  | providerMismatch (image existing requested : String)
  | providerNotConfigured (tag : String)
  | providerFailed (provider operation image location reason : String)
  /-- The image is still at some locations. -/
  | deletionIncomplete (image : String) (failed : List String)
  | invalidSourceUrl (url reason : String)
  | probeFailed (url reason : String)
  | invalidRelease (release reason : String)
  | alreadyExists (name : String)
  /-- A write was made from an outdated copy. -/
  | conflict (name : String) (expected actual : UInt64)
  /-- Writes kept meeting conflicts. -/
  | conflictsExhausted (name : String) (attempts : Nat)
  | storeFailed (path reason : String)
  | invalidConfig (reason : String)
  | invalidDuration (value reason : String)
  | io (reason : String)
  /-- A text could not be decoded. -/
  | malformed (reason : String)
  | timeout (operation : String) (limit : Duration)
  | cancelled (operation : String)
  | internal (reason : String)
deriving DecidableEq

namespace Failure

/-- How a caller reacts to a failure. -/
inductive Kind where
  /-- An operator has to act. -/
  | configuration
  /-- The next pass may succeed. -/
  | transient
  /-- The copy that was written from is outdated. -/
  | conflict
  | cancelled
  | notFound
  /-- A bug, or damaged data. -/
  | internal
deriving DecidableEq, Repr

/-- A text that is no image name. -/
def ofImageName (name : String) (fault : Name.Fault) : Failure :=
  .invalidImageName (Name.shorten name) fault.message

/-- A text that is no consumer identifier. -/
def ofConsumer (consumer : String) (fault : Name.Fault) : Failure :=
  .invalidConsumer (Name.shorten consumer) fault.message

def kind : Failure → Kind
  | invalidImageName .. | invalidConsumer .. | providerMismatch .. | providerNotConfigured _
  | invalidSourceUrl .. | invalidRelease .. | invalidConfig _ | invalidDuration .. =>
    .configuration
  | providerFailed .. | deletionIncomplete .. | probeFailed .. | conflictsExhausted ..
  | storeFailed .. | io _ | timeout .. => .transient
  | alreadyExists _ | conflict .. => .conflict
  | cancelled _ => .cancelled
  | imageNotFound _ => .notFound
  | malformed _ | internal _ => .internal

/-- Whether a repetition may succeed without an operator. -/
def isRetryable (f : Failure) : Bool :=
  f.kind == .transient || f.kind == .conflict || f.kind == .cancelled

def isCancelled (f : Failure) : Bool :=
  f.kind == .cancelled

def message : Failure → String
  | imageNotFound name => "node image not found: " ++ name
  | invalidImageName name reason => "invalid image name '" ++ name ++ "': " ++ reason
  | invalidConsumer id reason => "invalid consumer id '" ++ id ++ "': " ++ reason
  | providerMismatch image existing requested =>
    "node image '" ++ image ++ "' belongs to provider '" ++ existing ++ "', not '" ++ requested ++
      "'"
  | providerNotConfigured tag => "provider '" ++ tag ++ "' is not configured"
  | providerFailed provider operation image location reason =>
    "provider '" ++ provider ++ "' failed to " ++ operation ++ " '" ++ image ++ "' at '" ++
      location ++ "': " ++ reason
  | deletionIncomplete image failed =>
    "failed to delete '" ++ image ++ "' at " ++ toString failed.length ++ " location(s): " ++
      ", ".intercalate failed
  | invalidSourceUrl url reason => "invalid source URL '" ++ url ++ "': " ++ reason
  | probeFailed url reason => "failed to probe source '" ++ url ++ "': " ++ reason
  | invalidRelease release reason => "invalid release '" ++ release ++ "': " ++ reason
  | alreadyExists name => "node image already exists: " ++ name
  | conflict name expected actual =>
    "conflicting write to '" ++ name ++ "': expected version " ++ toString expected.toNat ++
      ", found " ++ toString actual.toNat
  | conflictsExhausted name attempts =>
    "gave up updating '" ++ name ++ "' after " ++ toString attempts ++ " conflicting writes"
  | storeFailed path reason => "store failure at " ++ path ++ ": " ++ reason
  | invalidConfig reason => "invalid configuration: " ++ reason
  | invalidDuration value reason => "invalid duration '" ++ value ++ "': " ++ reason
  | io reason => "I/O error: " ++ reason
  | malformed reason => "serialization error: " ++ reason
  | timeout operation limit => "operation timed out after " ++ limit.render ++ ": " ++ operation
  | cancelled operation => "operation cancelled: " ++ operation
  | internal reason => "internal error: " ++ reason

end Failure

end ImageCatalog
