import ImageCatalog.World

/-!
# Rehearsals

A world in which disturbances are laid out: for a kind of request, and possibly for one record or
location, something happens before the request is answered. An answer may be replaced, time may
pass, the work may be interrupted, the clock may move, and someone else may change a record.

## Main definitions

* `Disturbance` — what happens, before which requests.
* `Rehearsal` — a world with disturbances.
* `Rehearsal.answer`, `Rehearsal.run` — answers and programs in it.
-/

namespace ImageCatalog

/-- A kind of request that can be disturbed. -/
inductive Moment where
  | readRecord
  | createRecord
  | replaceRecord
  | removeRecord
  | listRecords
  | lookUp
  | upload
  | withdraw
  | probe
deriving DecidableEq, Repr

/-- What someone else does to a record. -/
inductive Meddling where
  | remove
  | addConsumer (consumer : String)
  | removeConsumer (consumer : String)
  | setPhase (phase : Option Phase)
  | requestDeletion
deriving DecidableEq

/-- What happens before a request is answered. -/
inductive Effect where
  /-- The answer is a failure. -/
  | fail (reason : Failure)
  /-- The answer is given, and nobody else is asked. Reading finds no record. -/
  | reply (yes : Bool)
  | sleep (d : Duration)
  | interrupt
  /-- The clock moves forward. -/
  | advance (d : Duration)
  | meddle (record : String) (change : Meddling)

/-- Something that happens before some requests of a kind are answered. -/
structure Disturbance where
  moment : Moment
  /-- The record or location that it is about; any, if there is none. -/
  key : Option String
  /-- How many requests pass undisturbed. -/
  skip : Nat
  /-- How many requests are disturbed after that. -/
  times : Nat
  effect : Effect

/-- A world with disturbances. -/
structure Rehearsal where
  world : World
  disturbances : List Disturbance

namespace Disturbance

/-- The effect on a request, if there is one, and the disturbances after it. Only the first
disturbance that fits the request counts. -/
def next (moment : Moment) (key : String) : List Disturbance → Option Effect × List Disturbance
  | [] => (none, [])
  | d :: rest =>
    if d.moment = moment ∧ d.key.all (· == key) then
      if 0 < d.skip then (none, { d with skip := d.skip - 1 } :: rest)
      else if 1 < d.times then (some d.effect, { d with times := d.times - 1 } :: rest)
      else (some d.effect, rest)
    else
      let (effect, rest') := next moment key rest
      (effect, d :: rest')

end Disturbance

namespace Meddling

/-- The change to a record at a time. -/
def apply (now : Instant) (r : Record) : Meddling → Record
  | remove => r
  | addConsumer consumer => r.addConsumer consumer
  | removeConsumer consumer => r.removeConsumer consumer
  | setPhase phase => { r with phase := phase }
  | requestDeletion => { r with deletion := some now }

/-- Does the change in a world. A record that is not there stays away. -/
def perform (change : Meddling) (name : String) (w : World) : World :=
  match change with
  | remove => { w with store := (w.store.remove name none).2 }
  | change =>
    match w.store.read name with
    | (.ok (some r), store) => { w with store := (store.replace (change.apply w.clock r)).2 }
    | (_, store) => { w with store := store }

end Meddling

/-- How a disturbance leaves a request. -/
inductive Disturbed where
  /-- The request is answered by the world. -/
  | proceeds
  | fails (reason : Failure)
  | replies (yes : Bool)
  /-- The request ran out of time while it slept. -/
  | timedOut
  /-- The work was interrupted while the request slept. -/
  | interrupted

namespace Rehearsal

/-- The time after `d` on the clock; the clock stays if that is out of range. -/
def forward (w : World) (d : Duration) : World :=
  { w with clock := (w.clock.later? d).getD w.clock }

/-- Sleeps, cut short by a limit if there is one. Without a limit nothing cuts it short. -/
def sleepIn (w : World) (d : Duration) : (limit : Option Duration) → Disturbed × World
  | none => (.proceeds, { w with timeline := w.timeline.pass d })
  | some limit =>
    let (awakening, timeline) := w.timeline.sleep d (some limit)
    let disturbed :=
      match awakening with
      | .rested => .proceeds
      | .timedOut => .timedOut
      | .interrupted => .interrupted
    (disturbed, { w with timeline := timeline })

/-- An effect in a world. -/
def perform (w : World) (limit : Option Duration) : Effect → Disturbed × World
  | .fail e => (.fails e, w)
  | .reply yes => (.replies yes, w)
  | .sleep d => sleepIn w d limit
  | .interrupt => (.proceeds, { w with timeline := w.timeline.interrupt })
  | .advance d => (.proceeds, forward w d)
  | .meddle name change => (.proceeds, change.perform name w)

/-- The disturbance before a request. -/
def disturb (h : Rehearsal) (moment : Moment) (key : String) (limit : Option Duration) :
    Disturbed × Rehearsal :=
  match Disturbance.next moment key h.disturbances with
  | (none, rest) => (.proceeds, ⟨h.world, rest⟩)
  | (some effect, rest) =>
    let (disturbed, w) := perform h.world limit effect
    (disturbed, ⟨w, rest⟩)

/-- The answer of the world. -/
def ofWorld {α : Type} (h : Rehearsal) (answer : World → α × World) : α × Rehearsal :=
  let (x, w) := answer h.world
  (x, { h with world := w })

/-- A request of the store or the source. Without another answer at hand a reply is treated like
none. -/
def plain {α : Type} (h : Rehearsal) (moment : Moment) (key : String)
    (reply? : Bool → Option α) (answer : World → Except Failure α × World) :
    Except Failure α × Rehearsal :=
  match h.disturb moment key none with
  | (.fails e, h) => (.error e, h)
  | (.replies yes, h) =>
    match reply? yes with
    | some x => (.ok x, h)
    | none => h.ofWorld answer
  | (_, h) => h.ofWorld answer

/-- A call on a provider, within its limit. -/
def bounded {α : Type} (h : Rehearsal) (moment : Moment) (call : CatalogCall)
    (reply : Bool → α) (answer : (limit : Option Duration) → World → Attempt α × World) :
    Attempt α × Rehearsal :=
  if h.world.timeline.interrupted then (.interrupted, h)
  else
    let limit := h.world.limitOf call
    match h.disturb moment call.location limit with
    | (.fails e, h) => (.finished (.error e), h)
    | (.replies yes, h) => (.finished (.ok (reply yes)), h)
    | (.timedOut, h) => (.timedOut, h)
    | (.interrupted, h) => (.interrupted, h)
    | (.proceeds, h) => h.ofWorld (answer limit)

/-- A probe of the source. -/
def probe (h : Rehearsal) (url : String) : Except Failure Bool × Rehearsal :=
  match h.ofWorld fun w => w.probe url with
  | (.error e, h) => (.error e, h)
  | (.ok _, h) => h.plain .probe "" some fun w => (.ok w.reachable, w)

/-- What is answered to a request, and the rehearsal after it. -/
def answer (h : Rehearsal) : (r : Request) → r.Answer × Rehearsal
  | .readRecord name =>
    h.plain .readRecord name (fun _ => some none) fun w => w.answer (.readRecord name)
  | .createRecord r =>
    h.plain .createRecord r.name (fun _ => none) fun w => w.answer (.createRecord r)
  | .replaceRecord r =>
    h.plain .replaceRecord r.name (fun _ => none) fun w => w.answer (.replaceRecord r)
  | .removeRecord name version =>
    h.plain .removeRecord name some fun w => w.answer (.removeRecord name version)
  | .listRecords => h.plain .listRecords "" (fun _ => none) fun w => w.answer .listRecords
  | .probe url => h.probe url
  | .lookUp call =>
    h.bounded .lookUp call id fun _ w =>
      World.finish (w.lookUp call.provider call.location call.image)
  | .upload call _ =>
    h.bounded .upload call (fun _ => ()) fun limit w =>
      w.upload call.provider call.location call.image limit
  | .withdraw call =>
    h.bounded .withdraw call (fun _ => ()) fun _ w =>
      World.finish (w.withdraw call.provider call.location call.image)
  | r => h.ofWorld fun w => w.answer r

/-- A program in a rehearsal: its outcome, and the rehearsal after it. -/
def run {α : Type} (p : Program α) (h : Rehearsal) : Except Failure α × Rehearsal :=
  match p with
  | .done a => (.ok a, h)
  | .fail e => (.error e, h)
  | .ask r next =>
    let (x, h) := h.answer r
    run (next x) h

end Rehearsal

end ImageCatalog
