import ImageCatalog.Failure
import ImageCatalog.Location

/-!
# Providers

A provider owns locations, and each location has a catalog of images. The providers here need no
network: one keeps its catalogs in memory, for dry runs and rehearsals, the other has none and
agrees to everything.

## Main definitions

* `Catalog` — a provider with catalogs in memory, with its calls on record and faults in store.
* `Provider` — a provider of either kind.
-/

namespace ImageCatalog

/-- What can be asked of a provider about an image at a location. -/
inductive Verb where
  | lookUp
  | upload
  | withdraw
deriving DecidableEq, Repr

def Verb.name : Verb → String
  | lookUp => "exists"
  | upload => "create"
  | withdraw => "delete"

/-- A call that a provider has received. -/
structure Call where
  verb : Verb
  image : String
  location : String
deriving DecidableEq

/-- An image at a location. -/
structure Holding where
  location : String
  image : String
deriving DecidableEq

/-- A provider with catalogs in memory. -/
structure Catalog where
  /-- The name of the provider in messages. -/
  tag : String
  locations : List Location
  /-- Which image is where, each once. -/
  holdings : List Holding
  /-- The calls received, in order. -/
  calls : List Call
  /-- The next calls that are to fail. -/
  faults : List (Verb × String)
  /-- How long an upload takes. -/
  uploadTime : Option Duration

namespace Catalog

/-- A provider without images. -/
def new (tag : String) (locations : List Location) : Catalog where
  tag := tag
  locations := locations
  holdings := []
  calls := []
  faults := []
  uploadTime := none

/-- Whether an image is at a location. -/
def holds (c : Catalog) (location image : String) : Bool :=
  c.holdings.contains ⟨location, image⟩

/-- Puts an image into a location. -/
def insert (c : Catalog) (location image : String) : Catalog :=
  if c.holds location image then c
  else { c with holdings := c.holdings ++ [Holding.mk location image] }

/-- Takes an image out of a location. -/
def erase (c : Catalog) (location image : String) : Catalog :=
  { c with holdings := c.holdings.filter fun h => h != Holding.mk location image }

/-- Which image is where, in the order of locations and images. -/
def sortedHoldings (c : Catalog) : List Holding :=
  c.holdings.mergeSort fun a b =>
    a.location < b.location || (a.location == b.location && a.image ≤ b.image)

/-- Makes the next call of a kind at a location fail. -/
def failNext (c : Catalog) (verb : Verb) (location : String) : Catalog :=
  { c with faults := c.faults ++ [(verb, location)] }

/-- How many calls of a kind there were, at a location or at all. -/
def callCount (c : Catalog) (verb : Verb) (location : Option String) : Nat :=
  (c.calls.filter fun call => call.verb == verb && location.all (· == call.location)).length

/-- Puts a call on record, and fails it if a fault is in store for it. -/
def receive (c : Catalog) (verb : Verb) (location image : String) :
    Except Failure Unit × Catalog :=
  let c := { c with calls := c.calls ++ [Call.mk verb image location] }
  if c.faults.contains (verb, location) then
    (.error (.providerFailed c.tag verb.name image location "injected fault"),
      { c with faults := c.faults.erase (verb, location) })
  else (.ok (), c)

/-- Answers whether an image is at a location. -/
def lookUp (c : Catalog) (location image : String) : Except Failure Bool × Catalog :=
  match c.receive .lookUp location image with
  | (.error e, c) => (.error e, c)
  | (.ok (), c) => (.ok (c.holds location image), c)

/-- Imports an image into a location, without any delay. -/
def upload (c : Catalog) (location image : String) : Except Failure Unit × Catalog :=
  match c.receive .upload location image with
  | (.error e, c) => (.error e, c)
  | (.ok (), c) => (.ok (), c.insert location image)

/-- Takes an image out of a location on request. It is no failure if it is not there. -/
def withdraw (c : Catalog) (location image : String) : Except Failure Unit × Catalog :=
  match c.receive .withdraw location image with
  | (.error e, c) => (.error e, c)
  | (.ok (), c) => (.ok (), c.erase location image)

end Catalog

/-- A provider. -/
inductive Provider where
  /-- Has no catalogs, and holds every image. -/
  | idle (tag : String) (locations : List Location)
  | catalog (c : Catalog)

namespace Provider

def tag : Provider → String
  | idle tag _ => tag
  | catalog c => c.tag

def locations : Provider → List Location
  | idle _ locations => locations
  | catalog c => c.locations

/-- The catalogs, if it has any. -/
def catalog? : Provider → Option Catalog
  | idle .. => none
  | catalog c => some c

/-- Changes the catalogs, if it has any. -/
def mapCatalog (f : Catalog → Catalog) : Provider → Provider
  | idle tag locations => idle tag locations
  | catalog c => catalog (f c)

/-- The provider without catalogs that stands in for one in tests. -/
def standIn : Provider :=
  idle "test" [.named "noop"]

/-- The providers by the tags they are registered under; the last one of a tag counts. -/
abbrev Registry := Dictionary Provider

namespace Registry

/-- Registers a provider under its own tag. -/
def register (providers : Registry) (p : Provider) : Registry :=
  providers.insert p.tag p

/-- A call on the provider under a tag: on its catalogs, or with the answer of one that has none. A
tag without a provider is treated like a provider without catalogs. -/
def call {α : Type} (providers : Registry) (tag : String) (idle : α)
    (onCatalog : Catalog → Except Failure α × Catalog) : Except Failure α × Registry :=
  match (providers.get? tag).bind Provider.catalog? with
  | some c =>
    let (result, c) := onCatalog c
    (result, providers.insert tag (.catalog c))
  | none => (.ok idle, providers)

/-- The locations of each provider. -/
def locations (providers : Registry) : Dictionary (List Location) :=
  providers.mapValues Provider.locations

end Registry

end Provider

end ImageCatalog
