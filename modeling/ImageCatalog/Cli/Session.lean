import ImageCatalog.Cli.Host
import ImageCatalog.Cli.Invocation
import ImageCatalog.Cli.Places
import ImageCatalog.Cli.Usage
import ImageCatalog.Config.Yaml
import ImageCatalog.Store.Folder
import ImageCatalog.Text.Quoted

/-!
# Sessions

A session is one run of the program: it loads a configuration, opens the folder with the records,
and carries out a command with providers in memory, which start without images. Its lines on
results, on errors and in the log go to a host.

## Main definitions

* `Session.answer` — what a session answers to the requests of a program.
* `Session.perform` — a command.
* `Cli.run` — an invocation, or the answer to arguments that are none.
-/

namespace ImageCatalog.Cli

/-- How the program ends. -/
inductive Status where
  | success
  | failure
deriving DecidableEq, Repr

def Status.code : Status → Nat
  | success => 0
  | failure => 1

/-- Why a session ends early. -/
inductive Fault where
  | failed (reason : Failure)
  /-- A failure in the course of some activity. -/
  | during (activity : String) (reason : Failure)
  | unknownImage (name : String)
deriving DecidableEq

def Fault.message : Fault → String
  | failed reason => reason.message
  | during activity reason => activity ++ ": " ++ reason.message
  | unknownImage name => "node image " ++ name ++ " not found"

/-- One run of the program. -/
structure Session where
  config : Config
  store : Folder

namespace Session

variable {m : Type → Type} [Monad m]

/-! ### Programs of the service -/

/-- A call on a provider in memory, unless the program was interrupted. -/
def callProvider {α : Type} (host : Host m) (call : CatalogCall) (idle : α)
    (onCatalog : Catalog → Except Failure α × Catalog) :
    StateT Provider.Registry m (Attempt α) := do
  if ← host.isInterrupted then return .interrupted
  else
    let (result, providers) := (← get).call call.provider idle onCatalog
    set providers
    return .finished result

/-- A probe of an address. -/
def probe (host : Host m) (s : Session) (url : String) : m (Except Failure Bool) := do
  let limit := s.config.probeTimeout
  if ← host.isInterrupted then return Source.probe url limit Timeline.start.interrupt .silence
  else return Source.probe url limit .start (← host.head url limit)

/-- The records of the folder. Files that hold none are reported in the log. -/
def listRecords (host : Host m) (s : Session) : m (Except Failure (List Record)) := do
  match ← (s.store.list host.disk).run with
  | .ok (records, warnings) =>
    warnings.forM host.log
    return .ok records
  | .error e => return .error e

/-- What a session answers to a request. Events are reported in the log. -/
def answer (host : Host m) (s : Session) : (r : Request) → StateT Provider.Registry m r.Answer
  | .readRecord name => (s.store.read host.disk name).run
  | .createRecord r => (s.store.create host.disk r).run
  | .replaceRecord r => (s.store.replace host.disk r).run
  | .removeRecord name version => (s.store.remove host.disk name version).run
  | .listRecords => StateT.lift (listRecords host s)
  | .now => host.now
  | .emit event => host.log (.ofEvent event)
  | .log line => host.log line
  | .probe url => StateT.lift (probe host s url)
  | .lookUp call => callProvider host call true fun c => c.lookUp call.location call.image
  | .upload call _ => callProvider host call () fun c => c.upload call.location call.image
  | .withdraw call => callProvider host call () fun c => c.withdraw call.location call.image
  | .isInterrupted => host.isInterrupted

/-- What a command does: it may fail, and the catalogs change. -/
abbrev Action (m : Type → Type) := ExceptT Fault (StateT Provider.Registry m)

/-- A program of the service. -/
def runProgram {α : Type} (host : Host m) (s : Session) (p : Program α) : Action m α :=
  ExceptT.mk do return (← p.run (answer host s)).mapError .failed

/-- A program of the service in the course of some activity. -/
def runProgramDuring {α : Type} (host : Host m) (s : Session) (activity : String) (p : Program α) :
    Action m α :=
  ExceptT.mk do return (← p.run (answer host s)).mapError (.during activity)

def print (host : Host m) (line : String) : Action m Unit :=
  liftM (host.print line)

def log (host : Host m) (line : LogLine) : Action m Unit :=
  liftM (host.log line)

/-! ### Commands -/

/-- How many consumers a record has, in words. -/
def consumerCount (r : Record) : String :=
  toString r.consumers.length ++ " consumer(s)"

def add (host : Host m) (s : Session) (consumer image provider : String) : Action m Unit := do
  let r ← runProgram host s (Service.consumerAdded consumer image provider)
  print host (r.name ++ ": " ++ consumerCount r ++ ", state " ++ Phase.label r.phase)

def remove (host : Host m) (s : Session) (consumer image : String) : Action m Unit := do
  match ← runProgram host s (Service.consumerRemoved consumer image) with
  | some r => print host (r.name ++ ": " ++ consumerCount r ++ " left")
  | none => print host (image ++ ": no such image")

def reconcile (host : Host m) (s : Session) (image : String) : Action m Unit := do
  let outcome ← runProgramDuring host s ("reconciling " ++ image) (s.config.service.pass image)
  match ← runProgram host s (Program.readRecord image) with
  | some r => print host (image ++ ": " ++ Phase.label r.phase)
  | none => print host (image ++ ": removed")
  match outcome.requeue with
  | some d => print host ("next check in " ++ toString d.secs ++ "s")
  | none => return ()

def delete (host : Host m) (s : Session) (image : String) : Action m Unit := do
  match ← runProgram host s (Program.readRecord image) with
  | none => throw (.unknownImage image)
  | some _ =>
    runProgram host s (Service.requestDeletion image)
    reconcile host s image

/-- A text with blanks behind it, up to a width. -/
def padded (width : Nat) (s : String) : String :=
  s ++ String.ofList (List.replicate (width - s.length) ' ')

/-- A row of the table of records. -/
def row (name provider state consumers : String) : String :=
  padded 64 name ++ " " ++ padded 10 provider ++ " " ++ padded 18 state ++ " " ++ consumers

/-- The row of a record. -/
def recordRow (r : Record) : String :=
  row r.name r.spec.provider (Phase.label r.phase) (",".intercalate r.consumers)

def list (host : Host m) (s : Session) : Action m Unit := do
  let records ← runProgram host s Program.listRecords
  print host (row "NAME" "PROVIDER" "STATE" "RELEASES")
  records.forM fun r => print host (recordRow r)

/-- Passes over all records, at most so many times. Between two of them is the interval, or less if
a record wants to be looked at earlier. -/
def watch (host : Host m) (s : Session) (interval : Duration) : (rounds : Nat) → Action m Unit
  | 0 => return ()
  | rounds + 1 => do
    let summary ← runProgram host s s.config.service.passAll
    log host (.info ("Pass finished: " ++ toString summary.succeeded ++ " ok, " ++
      toString summary.failed.length ++ " failed") [])
    let wait := (summary.nextRequeue.map fun next => next.min interval).getD interval
    liftM (host.rest wait)
    if ← liftM host.isInterrupted then
      log host (.warn "Interrupted, cancelling in-flight work" [])
    else watch host s interval rounds

/-- More rounds than any machine lives through. -/
def maxRounds : Nat := UInt64.size

/-- Carries out a command. -/
def perform (host : Host m) (s : Session) : Command → Action m Unit
  | .add consumer image provider => add host s consumer image provider
  | .remove consumer image => remove host s consumer image
  | .reconcile image => reconcile host s image
  | .delete image => delete host s image
  | .list => list host s
  | .run interval => do
    log host (.info ("Reconciling all node images every " ++ toString interval.secs ++ "s") [])
    watch host s interval maxRounds
  | .version | .help => return ()

/-! ### Loading -/

/-- The configuration in a file. -/
def loadConfig (host : Host m) (path : String) : ExceptT Fault m Config := do
  let activity := "loading " ++ path
  match ← host.disk.read path with
  | .error fault =>
    throw (.during activity (.invalidConfig ("cannot read " ++ path ++ ": " ++ fault.message)))
  | .ok text =>
    match Config.parse text with
    | .ok config => return config
    | .error fault => throw (.during activity fault.failure)

/-- Opens the folder with the records, and makes it if it is not there. -/
def openStore (host : Host m) (root : String) : ExceptT Fault m Folder := do
  let store : Folder := ⟨root⟩
  match ← (store.prepare host.disk).run with
  | .error e => throw (.failed e)
  | .ok () =>
    host.log (.info ("Node image store initialized at: " ++ root) [])
    return store

/-- Loads the configuration and opens the store. -/
def load (host : Host m) (places : Places) (configFile : Option String) :
    ExceptT Fault m Session := do
  let config ← loadConfig host (configFile.getD places.configFile)
  let store ← openStore host (config.storeRoot.getD places.storeRoot)
  host.log (.info ("Distributor configured: providers=" ++ Text.quotedList config.registry.keys ++
    ", retention=" ++ config.period.render) [])
  return ⟨config, store⟩

end Session

section

variable {m : Type → Type} [Monad m]

/-- A session with one command. -/
def runSession (host : Host m) (places : Places) (i : Invocation) : m (Except Fault Unit) := do
  match ← (Session.load host places i.configFile).run with
  | .error fault => return .error fault
  | .ok s => return (← ((s.perform host i.command).run).run s.config.registry).1

/-- Writes the help text. -/
def printHelp (host : Host m) (places : Places) : m Unit :=
  (helpLines places.configFile).forM host.print

/-- Writes why the program has not succeeded. -/
def complain (host : Host m) (message : String) : m Unit :=
  host.complain ("error: " ++ message)

/-- Carries out an invocation. Arguments that are none are answered by what is wrong with them, and
the help text. -/
def run (host : Host m) (places : Places) : Except Invocation.Fault Invocation → m Status
  | .error fault => do
    complain host fault.message
    printHelp host places
    return .failure
  | .ok i =>
    match i.command with
    | .version => do
      host.print versionText
      return .success
    | .help => do
      printHelp host places
      return .success
    | _ => do
      match ← runSession host places i with
      | .ok () => return .success
      | .error fault =>
        complain host fault.message
        return .failure

end

end ImageCatalog.Cli
