import ImageCatalog.Provider
import ImageCatalog.Service
import ImageCatalog.Source.Probe

/-!
# Configurations

The settings of a service: how long images are kept, where records and artifacts are, and which
providers there are.

## Main definitions

* `Config` — the settings.
* `Config.fault?` — what is wrong with settings that are well formed.
* `Config.registry`, `Config.service` — what is set up by them.
-/

namespace ImageCatalog

/-- The kinds of providers that can be configured. -/
inductive Provider.Kind where
  | idle
  | catalog
deriving DecidableEq, Repr

/-- The settings of a provider. -/
structure Provider.Settings where
  kind : Provider.Kind
  locations : List Location
deriving DecidableEq

/-- The provider with its settings and a tag. One without catalogs has a location at least, so that
there is a place where images are. -/
def Provider.Settings.provider (s : Provider.Settings) (tag : String) : Provider :=
  match s.kind with
  | .idle => .idle tag (if s.locations.isEmpty then [.named "noop"] else s.locations)
  | .catalog => .catalog (.new tag s.locations)

/-- The settings of a service. -/
structure Config where
  /-- How long an image is kept that nobody needs. -/
  period : Duration
  /-- The folder with the records, if it is not the usual one. -/
  storeRoot : Option String
  /-- The channel of the images that releases need. -/
  channel : String
  /-- The bucket with the artifacts. -/
  bucket : String
  /-- The region of the bucket. -/
  region : String
  /-- How long a probe may take. -/
  probeTimeout : Duration
  /-- The providers, by their tags. -/
  providers : Dictionary Provider.Settings

namespace Config

/-- The channel, unless another is configured. -/
def defaultChannel : String := "stable"

/-- What is wrong with settings. -/
inductive Fault where
  /-- They are not well formed. -/
  | illFormed
  | noBucket
  | noRegion
  | noChannel
  | noTag
  | unnamedLocation (tag : String)
  | duplicateLocation (tag location : String)
deriving DecidableEq, Repr

namespace Fault

def reason : Fault → String
  | illFormed => "not a configuration"
  | noBucket => "source.bucket is empty"
  | noRegion => "source.region is empty"
  | noChannel => "flatcarChannel is empty"
  | noTag => "empty provider tag"
  | unnamedLocation tag => "provider " ++ tag ++ ": location without a name"
  | duplicateLocation tag location => "provider " ++ tag ++ ": duplicate location " ++ location

def failure (f : Fault) : Failure :=
  .invalidConfig f.reason

end Fault

/-- What is wrong with the names of locations, behind those that are `seen`. -/
def locationFault? (tag : String) (seen : List String) : List String → Option Fault
  | [] => none
  | name :: rest =>
    if name.isEmpty then some (.unnamedLocation tag)
    else if seen.contains name then some (.duplicateLocation tag name)
    else locationFault? tag (name :: seen) rest

/-- What is wrong with the provider of a tag. -/
def providerFault? (tag : String) (s : Provider.Settings) : Option Fault :=
  if tag.isEmpty then some .noTag else locationFault? tag [] (s.locations.map Location.name)

/-- The first thing that is wrong. Providers are looked at in the order of their tags. -/
def fault? (c : Config) : Option Fault :=
  if c.bucket.isEmpty then some .noBucket
  else if c.region.isEmpty then some .noRegion
  else if c.channel.isEmpty then some .noChannel
  else c.providers.entries.findSome? fun (tag, s) => providerFault? tag s

/-- Where artifacts are published. -/
def source (c : Config) : Source :=
  .ofBucket c.bucket c.region

/-- The providers. -/
def registry (c : Config) : Provider.Registry :=
  c.providers.mapEntries fun tag s => s.provider tag

/-- The service with these settings. -/
def service (c : Config) : Service where
  setup := { providers := c.registry.locations, source := c.source, period := c.period }
  channel := c.channel

end Config

end ImageCatalog
