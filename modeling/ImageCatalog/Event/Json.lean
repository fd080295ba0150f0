import ImageCatalog.Event
import ImageCatalog.Json.Decode
import ImageCatalog.Json.Writer
import ImageCatalog.Record.Json

/-!
# Events as JSON

An event is written as an object with its tag first and its fields after it.
-/

namespace ImageCatalog

namespace Duration

def toJson (d : Duration) : Json :=
  .object [Json.member "secs" (Json.nat d.secs), Json.member "nanos" (Json.nat d.subsec)]

/-- Reads a duration. The nanoseconds may be left out. -/
def ofJson? (v : Json) : Option Duration := do
  let [some secs, nanos] ← v.fields? ["secs", "nanos"] | none
  return ofParts (← Json.word? secs).toNat (← Json.orElse Json.word? 0 nanos).toNat

end Duration

namespace Event

/-- A phase, or `null`. -/
def phaseToJson (p : Option Phase) : Json :=
  (p.map fun p => Json.text p.name).getD .null

/-- The tag of an event, and its fields in their order. -/
def tagAndFields : Event → String × List (String × Json)
  | recordCreated image provider =>
    ("recordCreated", [("image", Json.text image), ("provider", Json.text provider)])
  | referenceAdded image consumer =>
    ("referenceAdded", [("image", Json.text image), ("consumer", Json.text consumer)])
  | referenceRemoved image consumer =>
    ("referenceRemoved", [("image", Json.text image), ("consumer", Json.text consumer)])
  | stateChanged image source target =>
    ("stateChanged",
      [("image", Json.text image), ("from", phaseToJson source), ("to", phaseToJson (some target))])
  | alreadyPresent image location =>
    ("alreadyPresent", [("image", Json.text image), ("location", Json.text location)])
  | uploadStarted image location url =>
    ("uploadStarted",
      [("image", Json.text image), ("location", Json.text location), ("url", Json.text url)])
  | uploadCompleted image location =>
    ("uploadCompleted", [("image", Json.text image), ("location", Json.text location)])
  | sourceMissing image url =>
    ("sourceMissing", [("image", Json.text image), ("url", Json.text url)])
  | providerNotConfigured image provider =>
    ("providerNotConfigured", [("image", Json.text image), ("provider", Json.text provider)])
  | retentionStarted image period =>
    ("retentionStarted", [("image", Json.text image), ("period", period.toJson)])
  | retentionWaiting image remaining =>
    ("retentionWaiting", [("image", Json.text image), ("remaining", remaining.toJson)])
  | retentionCancelled image => ("retentionCancelled", [("image", Json.text image)])
  | deletionRequested image => ("deletionRequested", [("image", Json.text image)])
  | deletionBlocked image consumers =>
    ("deletionBlocked", [("image", Json.text image), ("releases", Json.nat consumers)])
  | locationDeleteFailed image location reason =>
    ("locationDeleteFailed",
      [("image", Json.text image), ("location", Json.text location), ("reason", Json.text reason)])
  | removed image => ("removed", [("image", Json.text image)])

/-- A field with a text. -/
def textField? (v : Json) (name : String) : Option String := do
  let [some field] ← v.fields? [name] | none
  field.asString?

/-- A field with a duration. -/
def durationField? (v : Json) (name : String) : Option Duration := do
  let [some field] ← v.fields? [name] | none
  Duration.ofJson? field

/-- A field with a number. -/
def countField? (v : Json) (name : String) : Option Nat := do
  let [some field] ← v.fields? [name] | none
  return (← Json.word? field).toNat

/-- A field with a phase or `null`. -/
def phaseField? (v : Json) (name : String) : Option (Option Phase) := do
  let [field] ← v.fields? [name] | none
  Json.orElse (Json.nullable Phase.ofJson?) none field

/-- Reads an event. -/
def ofJson? (v : Json) : Option Event := do
  let text := textField? v
  let image ← text "image"
  match ← text "event" with
  | "recordCreated" => return recordCreated image (← text "provider")
  | "referenceAdded" => return referenceAdded image (← text "consumer")
  | "referenceRemoved" => return referenceRemoved image (← text "consumer")
  | "stateChanged" => return stateChanged image (← phaseField? v "from") (← (← phaseField? v "to"))
  | "alreadyPresent" => return alreadyPresent image (← text "location")
  | "uploadStarted" => return uploadStarted image (← text "location") (← text "url")
  | "uploadCompleted" => return uploadCompleted image (← text "location")
  | "sourceMissing" => return sourceMissing image (← text "url")
  | "providerNotConfigured" => return providerNotConfigured image (← text "provider")
  | "retentionStarted" => return retentionStarted image (← durationField? v "period")
  | "retentionWaiting" => return retentionWaiting image (← durationField? v "remaining")
  | "retentionCancelled" => return retentionCancelled image
  | "deletionRequested" => return deletionRequested image
  | "deletionBlocked" => return deletionBlocked image (← countField? v "releases")
  | "locationDeleteFailed" =>
    return locationDeleteFailed image (← text "location") (← text "reason")
  | "removed" => return removed image
  | _ => none

def toJson (e : Event) : Json :=
  let (tag, fields) := e.tagAndFields
  .object (Json.member "event" (Json.text tag) :: fields.map fun f => Json.member f.1 f.2)

end Event

end ImageCatalog
