import ImageCatalog.Json.Decode

/-!
# Locations

A place within a provider that has a catalog of its own. Attributes say where it is in terms of
the provider; they are written beside the name.
-/

namespace ImageCatalog

/-- A place with a catalog. -/
structure Location where
  name : String
  attributes : Dictionary String
deriving DecidableEq

namespace Location

/-- A location without attributes. -/
def named (name : String) : Location :=
  ⟨name, .empty⟩

def attribute? (l : Location) (key : String) : Option String :=
  l.attributes.get? key

/-- The name first, then the attributes by their keys. -/
def toJson (l : Location) : Json :=
  .object (Json.member "name" (Json.text l.name) :: Json.ofDictionary l.attributes)

/-- Reads an object of strings with exactly one name; of attributes with one key the last
counts. -/
def ofJson? : Json → Option Location
  | .object members => do
    let entries ← Json.keyed? members
    let texts ← entries.mapM fun e => e.2.asString?.map (e.1, ·)
    let (names, attributes) := texts.partition fun e => e.1 == "name"
    let [(_, name)] := names | none
    return ⟨name, .ofList attributes⟩
  | _ => none

end Location

end ImageCatalog
