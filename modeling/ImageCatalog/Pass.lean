import ImageCatalog.Artifact.Address
import ImageCatalog.Pass.Placement
import ImageCatalog.Retention
import ImageCatalog.Source

/-!
# Passes

A pass looks at one record and takes it a step towards where it should be:

* a record with a deletion request and without consumers leaves all catalogs, and goes;
* a deletion request on a record with consumers is dropped;
* a record without consumers is dealt with by retention;
* every other record has its image brought to all locations of its provider.

Every write edits a copy that was read in the same attempt, so a consumer that is added while a
pass runs is never overwritten.

## Main definitions

* `Pass.run` — a pass over one record.
* `Pass.runAll` — a pass over each record in turn.
* `Pass.requestDeletion` — leaves a deletion request for the next pass.
-/

namespace ImageCatalog.Pass

/-- What passes are set up with. -/
structure Setup where
  /-- The locations of each provider, by its tag. -/
  providers : Dictionary (List Location)
  source : Source
  /-- How long an image is kept that nobody needs. -/
  period : Duration

/-- When to look at a record again; never, if it is gone. -/
structure Outcome where
  requeue : Option Duration
deriving DecidableEq

/-- The record is gone. -/
def Outcome.finished : Outcome := ⟨none⟩

def Outcome.after (d : Duration) : Outcome := ⟨some d⟩

/-- When to look again at a record that is in order, or waits for an operator. -/
def requeueInterval : Duration := .ofSeconds 300

/-- When to look again for an artifact that was not reachable. -/
def missingInterval : Duration := .ofSeconds 60

/-- Starts the removal of the record `name`. The stamp goes in the same write, since it belongs to
the wait for deletion. -/
def startRemoval (name : String) : Program Unit := do
  let revision ← Record.revise name
    (.when (fun r => r.hasStamp || r.phase != some .deleting)
      fun r => { r.clearLastUsed with phase := some .deleting })
  let previous := revision.before.phase
  Program.emitIf (previous != some .deleting) (.stateChanged name previous .deleting)

/-- Takes the image of a record out of all catalogs. Without a provider there are none. -/
def clearCatalogs (s : Setup) (key : String) (r : Record) : Program Unit := do
  match s.providers.get? r.spec.provider with
  | some locations =>
    match ← Job.clear ⟨key, r.spec.provider, r.spec.image⟩ locations with
    | [] => return ()
    | failed =>
      Record.enter key .error
      .fail (.deletionIncomplete r.name failed)
  | none =>
    Program.log (.warn
      ("Provider " ++ r.spec.provider ++ " not configured, skipping catalog cleanup for " ++ r.name)
      [])
    Program.emit (.providerNotConfigured r.name r.spec.provider)

/-- Removes the image of a record from all catalogs, and then the record, unless a consumer was
added meanwhile. `key` is the name under which the record was read. -/
def remove (s : Setup) (key : String) (r : Record) : Program Outcome := do
  startRemoval key
  clearCatalogs s key r
  let revision ← Record.revise key
    (.when (fun r => !r.isReferenced && r.phase != some .deleted)
      fun r => { r with phase := some .deleted })
  let consumers := revision.before.consumers.length
  if 0 < consumers then
    Program.emit (.deletionBlocked r.name consumers)
    return .after .zero
  else
    let previous := revision.before.phase
    Program.emitIf (previous != some .deleted) (.stateChanged r.name previous .deleted)
    let _ ← Program.removeRecord r.name (some revision.after.version)
    Program.emit (.removed r.name)
    return .finished

/-- Leaves a deletion request on a record without consumers. There is no record in the result if it
has got a consumer meanwhile. -/
def markForDeletion (key : String) (now : Instant) : Program (Option Record) := do
  let revision ← Record.revise key
    (.when (fun r => !r.isReferenced && !r.isDeletionRequested)
      fun r => { r with deletion := some now })
  return if revision.before.isReferenced then none else some revision.after

/-- Starts the retention period, unless the record has got a consumer meanwhile. -/
def startGracePeriod (key : String) (period : Duration) (now : Instant) : Program Bool := do
  let revision ← Record.revise key
    (.when (fun r => !r.isReferenced)
      fun r => { r with phase := some .awaitingDeletion }.stampLastUsed now)
  if revision.before.isReferenced then return false
  else
    let previous := revision.before.phase
    Program.emitIf (previous != some .awaitingDeletion)
      (.stateChanged key previous .awaitingDeletion)
    Program.emit (.retentionStarted key period)
    return true

/-- Brings the image of a record to all locations of its provider. -/
def place (s : Setup) (key : String) (r : Record) : Program Outcome := do
  let url := s.source.artifact r.spec.image
  match Artifact.addressFault? url with
  | some fault =>
    let e := Failure.invalidSourceUrl url fault.message
    Program.log (.warn
      ("Node image " ++ r.name ++ " has an invalid source URL: " ++ e.message) [])
    Record.enter key .error
    .fail e
  | none =>
    match s.providers.get? r.spec.provider with
    | none =>
      Record.enter key .error
      Program.emit (.providerNotConfigured r.name r.spec.provider)
      return .after requeueInterval
    | some locations =>
      match ← Job.place ⟨key, r.spec.provider, r.spec.image⟩ url locations with
      | .everywhere => return .after requeueInterval
      | .sourceMissing => return .after missingInterval

/-- Drops the deletion request of a record with consumers. -/
def dropDeletionRequest (key : String) (r : Record) : Program Record := do
  if r.isDeletionRequested then
    let revision ← Record.revise key
      (.when (fun r => r.isDeletionRequested) fun r => { r with deletion := none })
    Program.emit (.deletionBlocked key revision.after.consumers.length)
    return revision.after
  else return r

/-- Ends the wait for deletion of a record that has got a consumer. -/
def endWait (key : String) (r : Record) : Program Record := do
  if r.isReferenced && r.phase == some .awaitingDeletion then
    let revision ← Record.revise key (.when Record.isRevivable Record.revive)
    Program.emit (.retentionCancelled key)
    return revision.after
  else return r

/-- Deals with a record for which no deletion is requested, or which has consumers. -/
def retainOrPlace (s : Setup) (key : String) (r : Record) : Program Outcome := do
  let now ← Program.now
  match Retention.decide s.period r now with
  | .notEligible => place s key (← endWait key r)
  | .deleteNow =>
    match ← markForDeletion key now with
    | some marked =>
      Program.log (.info ("Node image " ++ key ++ " unreferenced, deleting") [])
      remove s key marked
    | none => place s key r
  | .startGracePeriod requeue =>
    if ← startGracePeriod key s.period now then return .after requeue else place s key r
  | .wait remaining =>
    Program.emit (.retentionWaiting key remaining)
    return .after remaining

/-- A pass over the record `key`. -/
def run (s : Setup) (key : String) : Program Outcome := do
  match ← Program.readRecord key with
  | none => return .finished
  | some r =>
    if r.isDeletionRequested && !r.isReferenced then remove s key r
    else retainOrPlace s key (← dropDeletionRequest key r)

/-- Leaves a deletion request on the record `key`, whatever retention says. -/
def requestDeletion (key : String) : Program Unit := do
  let now ← Program.now
  let _ ← Record.revise key
    (.when (fun r => !r.isDeletionRequested) fun r => { r with deletion := some now })
  Program.emit (.deletionRequested key)

/-- What the passes over all records came to. -/
structure Report where
  succeeded : Nat
  /-- The records whose pass failed, with the reason. -/
  failed : List (String × String)
  /-- The shortest time after which a record wants to be looked at again. -/
  nextRequeue : Option Duration

namespace Report

def empty : Report := ⟨0, [], none⟩

/-- Counts a pass in. -/
def add (report : Report) (key : String) : Except Failure Outcome → Report
  | .ok outcome =>
    let next :=
      match report.nextRequeue, outcome.requeue with
      | some a, some b => some (a.min b)
      | none, b => b
      | a, none => a
    { report with succeeded := report.succeeded + 1, nextRequeue := next }
  | .error e => { report with failed := report.failed ++ [(key, e.message)] }

end Report

/-- A pass over each of some records, unless the work is interrupted. Failures are collected. -/
def runEach (s : Setup) (report : Report) : List Record → Program Report
  | [] => return report
  | r :: rest => do
    if ← Program.isInterrupted then return report
    else
      let result ← (run s r.name).attempt
      match result with
      | .ok _ => runEach s (report.add r.name result) rest
      | .error e =>
        Program.log (.warn ("Reconcile of " ++ r.name ++ " failed: " ++ e.message) [])
        runEach s (report.add r.name result) rest

/-- A pass over each record. -/
def runAll (s : Setup) : Program Report := do
  runEach s .empty (← Program.listRecords)

end ImageCatalog.Pass
