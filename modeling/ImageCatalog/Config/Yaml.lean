import ImageCatalog.Config
import ImageCatalog.Duration.Parser
import ImageCatalog.Yaml.Decode
import ImageCatalog.Yaml.Node.Parser

/-!
# Configurations in YAML

Settings that may be left out have usual values; there are no settings but these.

```
retentionPeriod: 24h
stateDir: /var/lib/image-distributor
flatcarChannel: stable
source:
  bucket: node-images
  region: eu-central-1
  probeTimeout: 30s
providers:
  capv:
    kind: memory
    locations:
      - name: dc1
        datacenter: Datacenter
```

## Main definitions

* `Config.ofNode?` — the settings in a node.
* `Config.parse` — the settings in a text, without faults.
-/

namespace ImageCatalog

open Yaml

/-- A duration: a number of seconds, or a text with a unit. -/
def Duration.ofNode? (n : Node) : Option Duration :=
  match n.meaning? with
  | some (.natural secs) => some (.ofSeconds secs)
  | some (.text s) => (Duration.ofText s).toOption
  | _ => none

/-- A location: a mapping with exactly one name. The attributes have to stand for texts; of
attributes with one key the last counts. -/
def Location.ofNode? (n : Node) : Option Location := do
  let (names, others) := (← n.entries?).partition fun e => e.1 == "name"
  let [(_, name)] := names | none
  let attributes ← others.mapM fun (key, value) =>
    match value.meaning? with
    | some (.text s) => some (key, s)
    | _ => none
  return ⟨← name.text?, .ofList attributes⟩

namespace Provider

def Kind.ofNode? (n : Node) : Option Kind :=
  match n.word? with
  | some "noop" => some .idle
  | some "memory" => some .catalog
  | _ => none

def Settings.ofNode? (n : Node) : Option Settings := do
  let [kind, locations] ← n.fields? ["kind", "locations"] | none
  return {
    kind := ← Kind.ofNode? (← kind)
    locations := ← Node.orElse (fun n => do (← n.items?).mapM Location.ofNode?) [] locations }

end Provider

namespace Config

/-- The providers by their tags; of providers with one tag the last counts. -/
def providersOfNode? (n : Node) : Option (Dictionary Provider.Settings) := do
  let entries ← (← n.entries?).mapM fun (tag, s) => (Provider.Settings.ofNode? s).map (tag, ·)
  return .ofList entries

/-- The settings in a node. -/
def ofNode? (n : Node) : Option Config := do
  let [period, storeRoot, channel, source, providers] ←
    n.fields? ["retentionPeriod", "stateDir", "flatcarChannel", "source", "providers"] | none
  let [bucket, region, probeTimeout] ←
    (← source).fields? ["bucket", "region", "probeTimeout"] | none
  return {
    period := ← Node.orElse Duration.ofNode? .zero period
    storeRoot := ← Node.orElse Node.optionalText? none storeRoot
    channel := ← Node.orElse Node.text? defaultChannel channel
    bucket := ← (← bucket).text?
    region := ← (← region).text?
    probeTimeout := ← Node.orElse Duration.ofNode? Source.defaultProbeTimeout probeTimeout
    providers := ← Node.orElse providersOfNode? .empty providers }

/-- The settings in a text. -/
def parse (s : String) : Except Fault Config :=
  match (Node.parse? s).bind ofNode? with
  | none => .error .illFormed
  | some c =>
    match c.fault? with
    | some f => .error f
    | none => .ok c

end Config

end ImageCatalog
