import ImageCatalog.Failure
import ImageCatalog.Json.Decode
import ImageCatalog.Text.DecimalDigit

/-!
# Releases

A release pins the versions of its components, and needs the node image that is named after three
of them: `vsphere-30.1.0` with `flatcar` 3975.2.0, `kubernetes` v1.30.4 and `os-tooling` v1.18.1
needs `flatcar-stable-3975.2.0-kube-1.30.4-tooling-1.18.1-gs` of the provider `capv`.

## Main definitions

* `Release.imageName` — the catalog name of a node image.
* `Release.provider?` — the provider that a release name starts with.
* `Release.request` — record, image and provider that a release needs.
-/

namespace ImageCatalog

/-- A component of a release at its version. -/
structure Component where
  name : String
  version : String
deriving DecidableEq

/-- A release with its components. -/
structure Release where
  name : String
  components : List Component
deriving DecidableEq

namespace Component

def ofJson? (v : Json) : Option Component := do
  let [some name, some version] ← v.fields? ["name", "version"] | none
  return { name := ← name.asString?, version := ← version.asString? }

end Component

namespace Release

def ofJson? (v : Json) : Option Release := do
  let [some name, components] ← v.fields? ["name", "components"] | none
  let decode (v : Json) : Option (List Component) := do (← v.asArray?).mapM Component.ofJson?
  return { name := ← name.asString?, components := ← Json.orElse decode [] components }

/-- What a release needs. -/
structure Request where
  /-- The name of the record. -/
  record : String
  /-- The name of the image in the catalogs. -/
  image : String
  /-- The tag of the provider. -/
  provider : String
deriving DecidableEq

/-- The version of a component; the first of one name counts. -/
def version? (r : Release) (component : String) : Option String :=
  (r.components.find? fun c => c.name == component).map Component.version

/-- The letters and hyphens that a release name may start with. -/
def isProviderChar (c : Char) : Bool :=
  ('a' ≤ c && c ≤ 'z') || c == '-'

/-- Whether a text starts with three numbers with points between them. -/
def startsWithVersion (s : List Char) : Bool :=
  match numberAndPoint? s with
  | none => false
  | some s =>
    match numberAndPoint? s with
    | none => false
    | some s => s.head?.any Text.isDecimalDigit
where
  /-- What follows a number and a point. -/
  numberAndPoint? (s : List Char) : Option (List Char) :=
    if s.head?.any Text.isDecimalDigit then
      match s.dropWhile Text.isDecimalDigit with
      | '.' :: rest => some rest
      | _ => none
    else none

/-- The provider that a release name starts with: lower-case letters and hyphens up to a last
hyphen, behind which a version starts. -/
def provider? (name : String) : Option String :=
  let front := name.toList.takeWhile isProviderChar
  let rest := name.toList.dropWhile isProviderChar
  if front.getLast? == some '-' && 1 < front.length && startsWithVersion rest then
    some (String.ofList front.dropLast)
  else none

/-- The tag of a provider that releases name otherwise. -/
def providerTag (provider : String) : String :=
  if provider = "vsphere" then "capv"
  else if provider = "cloud-director" then "capvcd"
  else provider

/-- A version without the `v` in front, if it has one. -/
def plainVersion (v : String) : String :=
  match v.toList with
  | 'v' :: rest => String.ofList rest
  | _ => v

/-- The catalog name of the image with these versions. -/
def imageName (channel flatcar kubernetes tooling : String) : String :=
  "flatcar-" ++ channel ++ "-" ++ flatcar ++ "-kube-" ++ plainVersion kubernetes ++ "-tooling-" ++
    plainVersion tooling ++ "-gs"

/-- The version of a component that an image is named after. -/
def requiredVersion (r : Release) (component : String) : Except Failure String :=
  match r.version? component with
  | none => .error (.invalidRelease r.name ("component " ++ component ++ " not found"))
  | some v =>
    if v.isEmpty then .error (.invalidRelease r.name (component ++ " version is empty"))
    else .ok v

/-- What a release needs, with images of a channel. -/
def request (r : Release) (channel : String) : Except Failure Request := do
  let flatcar ← r.requiredVersion "flatcar"
  let kubernetes ← r.requiredVersion "kubernetes"
  let tooling ← r.requiredVersion "os-tooling"
  if channel.isEmpty then
    throw (.invalidRelease r.name "flatcar channel is empty")
  let some provider := provider? r.name
    | throw (.invalidRelease r.name "provider name not found")
  let image := imageName channel flatcar kubernetes tooling
  let tag := providerTag provider
  return { record := tag ++ "-" ++ image, image := image, provider := tag }

end Release

end ImageCatalog
