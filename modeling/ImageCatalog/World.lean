import ImageCatalog.Program
import ImageCatalog.Provider
import ImageCatalog.Store
import ImageCatalog.Timeline

/-!
# Worlds

Surroundings for programs that are all in memory: a store, providers, a source whose artifacts are
reachable or not, a clock that is set by hand, and a journal of events.

## Main definitions

* `World` — the surroundings.
* `World.answer` — what a world answers to a request, and the world after it.
* `World.run` — a program in a world.
-/

namespace ImageCatalog

/-- Surroundings in memory. -/
structure World where
  store : Store
  providers : Provider.Registry
  clock : Instant
  /-- Whether artifacts are reachable. -/
  reachable : Bool
  /-- How often the source was probed. -/
  probes : Nat
  /-- The events so far. -/
  journal : List Event
  timeline : Timeline

namespace World

/-- Changes the catalogs of a provider. -/
def mapCatalog (w : World) (provider : String) (f : Catalog → Catalog) : World :=
  match w.providers.get? provider with
  | some p => { w with providers := w.providers.insert provider (p.mapCatalog f) }
  | none => w

/-- A call on a provider. -/
def onProvider {α : Type} (w : World) (provider : String) (idle : α)
    (call : Catalog → Except Failure α × Catalog) : Except Failure α × World :=
  let (result, providers) := w.providers.call provider idle call
  (result, { w with providers := providers })

/-- Whether an image is at a location. -/
def lookUp (w : World) (provider location image : String) : Except Failure Bool × World :=
  w.onProvider provider true fun c => c.lookUp location image

/-- Takes an image out of a location. -/
def withdraw (w : World) (provider location image : String) : Except Failure Unit × World :=
  w.onProvider provider () fun c => c.withdraw location image

/-- How long an upload to a provider takes. -/
def uploadTime? (w : World) (provider : String) : Option Duration :=
  ((w.providers.get? provider).bind Provider.catalog?).bind Catalog.uploadTime

/-- The name of an upload, for messages of its provider. -/
def importName (location image : String) : String :=
  "import of " ++ image ++ " at " ++ location

/-- Waits for an upload to end. -/
def awaitUpload (w : World) (provider location image : String) (limit : Option Duration) :
    Attempt Unit × World :=
  match w.uploadTime? provider with
  | none => (.finished (.ok ()), w)
  | some d =>
    if w.timeline.interrupted then
      (.finished (.error (.cancelled (importName location image))), w)
    else
      let (awakening, timeline) := w.timeline.sleep d limit
      let attempt :=
        match awakening with
        | .rested => .finished (.ok ())
        | .timedOut => .timedOut
        | .interrupted => .interrupted
      (attempt, { w with timeline := timeline })

/-- Imports an image into a location. The call is on record as soon as it starts; the image is
there when it ends. -/
def upload (w : World) (provider location image : String) (limit : Option Duration) :
    Attempt Unit × World :=
  match w.onProvider provider () fun c => c.receive .upload location image with
  | (.error e, w) => (.finished (.error e), w)
  | (.ok (), w) =>
    match w.awaitUpload provider location image limit with
    | (.finished (.ok ()), w) =>
      (.finished (.ok ()), w.mapCatalog provider fun c => c.insert location image)
    | stopped => stopped

/-- When a call that starts now runs out of time. -/
def limitOf (w : World) (call : CatalogCall) : Option Duration :=
  some (w.timeline.after call.limit)

/-- Whether the artifact at an address is reachable, unless the work was interrupted. -/
def probe (w : World) (url : String) : Except Failure Bool × World :=
  if w.timeline.interrupted then (.error (.cancelled ("probe " ++ url)), w)
  else (.ok w.reachable, { w with probes := w.probes + 1 })

/-- Puts an event into the journal. -/
def record (w : World) (event : Event) : World :=
  { w with journal := w.journal ++ [event] }

/-- The outcome of an operation of the store. -/
def onStore {α : Type} (w : World) (result : Except Failure α × Store) : Except Failure α × World :=
  (result.1, { w with store := result.2 })

/-- The outcome of a call with a limit that ended by itself. -/
def finish {α : Type} (result : Except Failure α × World) : Attempt α × World :=
  (.finished result.1, result.2)

/-- What the world answers to a request, and the world after it. An interruption beforehand keeps
calls on providers from starting. -/
def answer (w : World) : (r : Request) → r.Answer × World
  | .readRecord name => w.onStore (w.store.read name)
  | .createRecord r => w.onStore (w.store.create r)
  | .replaceRecord r => w.onStore (w.store.replace r)
  | .removeRecord name version => w.onStore (w.store.remove name version)
  | .listRecords => w.onStore w.store.list
  | .now => (w.clock, w)
  | .emit event => ((), w.record event)
  | .log _ => ((), w)
  | .probe url => w.probe url
  | .lookUp call =>
    if w.timeline.interrupted then (.interrupted, w)
    else finish (w.lookUp call.provider call.location call.image)
  | .upload call _ =>
    if w.timeline.interrupted then (.interrupted, w)
    else w.upload call.provider call.location call.image (w.limitOf call)
  | .withdraw call =>
    if w.timeline.interrupted then (.interrupted, w)
    else finish (w.withdraw call.provider call.location call.image)
  | .isInterrupted => (w.timeline.interrupted, w)

/-- A program in a world: its outcome, and the world after it. -/
def run {α : Type} (p : Program α) (w : World) : Except Failure α × World :=
  match p with
  | .done a => (.ok a, w)
  | .fail e => (.error e, w)
  | .ask r next =>
    let (x, w) := w.answer r
    run (next x) w

end World

end ImageCatalog
