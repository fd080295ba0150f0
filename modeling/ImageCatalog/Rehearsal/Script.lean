import ImageCatalog.Rehearsal
import ImageCatalog.Service

/-!
# Scripts

Steps of a rehearsal: calls of the service, looks at the store and at providers past all
disturbances, and changes that come from outside. Every step has its own time line, so an
interruption ends with the step that it belongs to.

## Main definitions

* `Step` — a step of a script.
* `Step.perform` — what a step answers, and the rehearsal after it.
* `Step.report` — the answer with all that has happened meanwhile.
-/

namespace ImageCatalog

/-- A step of a script. -/
inductive Step where
  | consumerAdded (consumer image provider : String)
  | consumerRemoved (consumer image : String)
  | releaseAdded (release : Release)
  | releaseRemoved (release : Release)
  | pass (name : String)
  | passAll
  | requestDeletion (name : String)
  | advance (d : Duration)
  | setClock (t : Instant)
  | failNext (provider : String) (verb : Verb) (location : String)
  | insertImage (provider location image : String)
  | removeImage (provider location image : String)
  | callCount (provider : String) (verb : Verb) (location : Option String)
  /-- A call on a provider without disturbances and without a limit. -/
  | call (provider : String) (verb : Verb) (location image : String)
  | setReachable (reachable : Bool)
  | disturb (d : Disturbance)
  | calm
  | transitions (image : String)
  | forgetEvents
  | readRecord (name : String)
  | removeRecord (name : String) (version : Option UInt64)
  | listRecords
  | createRecord (r : Record)
  | replaceRecord (r : Record)
  | putFile (file text : String)
  | makeFolder (file : String)
  | showFile (file : String)
  | showFiles
  | removeRoot

/-- What a step answers. -/
inductive Step.Answer where
  | done
  | flag (b : Bool)
  | count (n : Nat)
  | text (t : Option String)
  | names (ss : List String)
  | time (t : Instant)
  | phases (ps : List Phase)
  | record (r : Option Record)
  | records (rs : List Record)
  | outcome (o : Pass.Outcome)
  | report (r : Pass.Report)
  | failed (e : Failure)

/-- What has happened in a step. -/
structure Step.Report where
  answer : Step.Answer
  events : List Event
  probes : Nat
  /-- The new calls on each provider with catalogs. -/
  calls : List (String × List Call)
  /-- Which image is where, for each provider with catalogs. -/
  holdings : List (String × List Holding)
  /-- The records after the step. -/
  records : Except Failure (List Record)

namespace Step

/-- A result as an answer. -/
def settle {α : Type} (answer : α → Answer) : Except Failure α → Answer
  | .ok a => answer a
  | .error e => .failed e

/-- Runs a program of the service. -/
def runProgram {α : Type} (p : Program α) (answer : α → Answer) (h : Rehearsal) :
    Answer × Rehearsal :=
  let (result, h) := h.run p
  (settle answer result, h)

/-- Changes the world. -/
def change (f : World → World) (h : Rehearsal) : Answer × Rehearsal :=
  (.done, { h with world := f h.world })

/-- An operation of the store itself. -/
def onStore {α : Type} (operation : Store → Except Failure α × Store) (answer : α → Answer)
    (h : Rehearsal) : Answer × Rehearsal :=
  let (result, store) := operation h.world.store
  (settle answer result, { h with world := { h.world with store := store } })

/-- Changes the files of a store that has any. -/
def onFiles (f : Folder → FileTree → FileTree) (h : Rehearsal) : Answer × Rehearsal :=
  change (fun w =>
    match w.store with
    | .folder folder tree => { w with store := .folder folder (f folder tree) }
    | .ledger _ => w) h

/-- The files of a store that has any. -/
def files? (h : Rehearsal) : Option (Folder × FileTree) :=
  match h.world.store with
  | .folder folder tree => some (folder, tree)
  | .ledger _ => none

/-- A call on a provider, past everything. -/
def callProvider (provider : String) (verb : Verb) (location image : String) (h : Rehearsal) :
    Answer × Rehearsal :=
  match verb with
  | .lookUp =>
    let (result, h) := h.ofWorld fun w => w.lookUp provider location image
    (settle .flag result, h)
  | .withdraw =>
    let (result, h) := h.ofWorld fun w => w.withdraw provider location image
    (settle (fun _ => .done) result, h)
  | .upload =>
    let (attempt, h) := h.ofWorld fun w => w.upload provider location image none
    match attempt with
    | .finished result => (settle (fun _ => .done) result, h)
    | _ => (.failed (.cancelled (World.importName location image)), h)

/-- How often a provider was called. -/
def callCountIn (w : World) (provider : String) (verb : Verb) (location : Option String) : Nat :=
  match (w.providers.get? provider).bind Provider.catalog? with
  | some c => c.callCount verb location
  | none => 0

/-- What a step answers, and the rehearsal after it. -/
def perform (s : Service) (h : Rehearsal) : Step → Answer × Rehearsal
  | .consumerAdded consumer image provider =>
    runProgram (Service.consumerAdded consumer image provider) (fun r => .record (some r)) h
  | .consumerRemoved consumer image => runProgram (Service.consumerRemoved consumer image) .record h
  | .releaseAdded release => runProgram (s.releaseAdded release) (fun r => .record (some r)) h
  | .releaseRemoved release => runProgram (s.releaseRemoved release) .record h
  | .pass name => runProgram (s.pass name) .outcome h
  | .passAll => runProgram s.passAll .report h
  | .requestDeletion name => runProgram (Service.requestDeletion name) (fun _ => .done) h
  | .advance d =>
    let w := Rehearsal.forward h.world d
    (.time w.clock, { h with world := w })
  | .setClock t => (.time t, { h with world := { h.world with clock := t } })
  | .failNext provider verb location =>
    change (fun w => w.mapCatalog provider fun c => c.failNext verb location) h
  | .insertImage provider location image =>
    change (fun w => w.mapCatalog provider fun c => c.insert location image) h
  | .removeImage provider location image =>
    change (fun w => w.mapCatalog provider fun c => c.erase location image) h
  | .callCount provider verb location => (.count (callCountIn h.world provider verb location), h)
  | .call provider verb location image => callProvider provider verb location image h
  | .setReachable reachable => change (fun w => { w with reachable := reachable }) h
  | .disturb d => (.done, { h with disturbances := h.disturbances ++ [d] })
  | .calm => (.done, { h with disturbances := [] })
  | .transitions image => (.phases (Event.transitions image h.world.journal), h)
  | .forgetEvents => change (fun w => { w with journal := [] }) h
  | .readRecord name => onStore (fun s => s.read name) .record h
  | .removeRecord name version => onStore (fun s => s.remove name version) .flag h
  | .listRecords => onStore Store.list .records h
  | .createRecord r => onStore (fun s => s.create r) (fun r => .record (some r)) h
  | .replaceRecord r => onStore (fun s => s.replace r) (fun r => .record (some r)) h
  | .putFile file text =>
    onFiles (fun folder tree => (tree.write (Disk.join folder.root file) text).toOption.getD tree) h
  | .makeFolder file =>
    onFiles (fun folder tree => (tree.makeFolder (Disk.join folder.root file)).toOption.getD tree) h
  | .showFile file =>
    (.text ((files? h).bind fun (folder, tree) =>
      (tree.read (Disk.join folder.root file)).toOption), h)
  | .showFiles =>
    (.names (((files? h).bind fun (folder, tree) =>
      (tree.entries folder.root).toOption).getD []), h)
  | .removeRoot => onFiles (fun folder tree => tree.removeFolder folder.root) h

/-- When the work of a step is interrupted. -/
inductive Interruption where
  | never
  | beforehand
  | after (d : Duration)

/-- The time line of a step. -/
def Interruption.timeline : Interruption → Timeline
  | never => .start
  | beforehand => Timeline.start.interrupt
  | after d => { Timeline.start with interruption := some d }

/-- A view of the providers with catalogs. -/
def catalogs (w : World) : List (String × Catalog) :=
  w.providers.entries.filterMap fun (tag, p) => p.catalog?.map (tag, ·)

/-- How many calls a provider has received. -/
def callsSoFar (w : World) (provider : String) : Nat :=
  (((w.providers.get? provider).bind Provider.catalog?).map fun c => c.calls.length).getD 0

/-- Performs a step on a time line of its own, and reports what has happened. -/
def report (s : Service) (h : Rehearsal) (interruption : Interruption) (step : Step) :
    Report × Rehearsal :=
  let before := h.world
  let h := { h with world := { before with timeline := interruption.timeline } }
  let (answer, h) := step.perform s h
  let after := h.world
  let (records, store) := after.store.list
  let summary : Report := {
    answer := answer
    events := after.journal.drop before.journal.length
    probes := after.probes - before.probes
    calls := (catalogs after).map fun (tag, c) => (tag, c.calls.drop (callsSoFar before tag))
    holdings := (catalogs after).map fun (tag, c) => (tag, c.sortedHoldings)
    records := records }
  (summary, { h with world := { after with store := store } })

/-- Performs steps one after the other. -/
def reportAll (s : Service) (h : Rehearsal) : List (Interruption × Step) → List Report
  | [] => []
  | (interruption, step) :: rest =>
    let (summary, h) := step.report s h interruption
    summary :: reportAll s h rest

end Step

end ImageCatalog
