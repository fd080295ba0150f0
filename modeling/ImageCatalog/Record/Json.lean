import ImageCatalog.Json.Decode
import ImageCatalog.Json.Reader
import ImageCatalog.Json.Writer
import ImageCatalog.Record

/-!
# Records as JSON

The stored form of a record. Optional fields that are not set are left out; on reading, a version
that is left out is 0, and a status that is left out is empty.
-/

namespace ImageCatalog

namespace Phase

/-- A phase is written as its name; on reading, an object with the name as its only key and `null`
as its value will do as well. -/
def ofJson? : Json → Option Phase
  | .string s => s.bind ofName?
  | .object [(key, .null)] => key.bind ofName?
  | _ => none

end Phase

namespace Spec

def toJson (s : Spec) : Json :=
  .object [Json.member "name" (Json.text s.image), Json.member "provider" (Json.text s.provider)]

def ofJson? (v : Json) : Option Spec := do
  let [some image, some provider] ← v.fields? ["name", "provider"] | none
  return { image := ← image.asString?, provider := ← provider.asString? }

end Spec

namespace Record

/-- An instant in a record. -/
def instantOfJson? (v : Json) : Option Instant :=
  v.asString?.bind Instant.parse?

/-- The part of a record that identifies it. -/
def metadataToJson (r : Record) : Json :=
  .object <|
    [Json.member "name" (Json.text r.name),
      Json.member "resourceVersion" (Json.nat r.version.toNat),
      Json.member "creationTimestamp" (Json.text r.created.zulu)] ++
    Json.member? "deletionTimestamp" (r.deletion.map fun t => Json.text t.zulu) ++
    Json.member? "annotations"
      (if r.annotations.isEmpty then none else some (.object (Json.ofDictionary r.annotations)))

/-- The part of a record that changes. -/
def statusToJson (r : Record) : Json :=
  .object <|
    Json.member "releases" (.array (r.consumers.map Json.text)) ::
      Json.member? "state" (r.phase.map fun p => Json.text p.name)

/-- The stored form. -/
def toJson (r : Record) : Json :=
  .object [Json.member "metadata" r.metadataToJson, Json.member "spec" r.spec.toJson,
    Json.member "status" r.statusToJson]

/-- The consumers and the phase of a status. -/
def statusOfJson? (v : Json) : Option (List String × Option Phase) := do
  let [consumers, phase] ← v.fields? ["releases", "state"] | none
  return (← Json.orElse Json.strings? [] consumers,
    ← Json.orElse (Json.nullable Phase.ofJson?) none phase)

/-- Reads the stored form. -/
def ofJson? (v : Json) : Option Record := do
  let [some metadata, some spec, status] ← v.fields? ["metadata", "spec", "status"] | none
  let [some name, version, some created, deletion, annotations] ←
    metadata.fields? ["name", "resourceVersion", "creationTimestamp", "deletionTimestamp",
      "annotations"] | none
  let (consumers, phase) ← Json.orElse statusOfJson? ([], none) status
  return {
    name := ← name.asString?
    version := ← Json.orElse Json.word? 0 version
    created := ← instantOfJson? created
    deletion := ← Json.orElse (Json.nullable instantOfJson?) none deletion
    annotations := ← Json.orElse Json.dictionary? .empty annotations
    spec := ← Spec.ofJson? spec
    consumers := consumers
    phase := phase }

/-- The stored form on one line. -/
def compact (r : Record) : String :=
  r.toJson.compact

/-- The stored form, laid out for reading. -/
def pretty (r : Record) : String :=
  r.toJson.pretty

/-- Reads the text of a stored form. -/
def parse? (s : String) : Option Record :=
  (Json.parse? s).bind ofJson?

end Record

end ImageCatalog
