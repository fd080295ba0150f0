import ImageCatalog.Cli.LogStyle
import ImageCatalog.Cli.Session
import Std.Async.Signal
import Std.Time.DateTime.Timestamp

/-!
# The program

The command line on a real machine: real files, the system clock, the standard streams, and
interruptions from the terminal. This program sends nothing over the network, so to it no artifact
is reachable.
-/

namespace ImageCatalog.Cli

/-- The fault behind an error of the system. -/
def faultOf : IO.Error → FileFault
  | .noFileOrDirectory .. => .missing
  | .alreadyExists .. => .occupied
  | .inappropriateType .. => .notFolder
  | e => .other (toString e)

/-- The result of an action on files. -/
def guarded {α : Type} (action : IO α) : IO (Except FileFault α) := do
  try return .ok (← action)
  catch e => return .error (faultOf e)

/-- Whether there is a file or folder. -/
def holdsPath (path : String) : IO Bool := do
  try
    let _ ← IO.FS.realPath path
    return true
  catch _ => return false

/-- The text of a file. -/
def readText (path : String) : IO (Except FileFault String) := do
  if ← holdsPath path then
    if ← (← IO.FS.realPath path).isDir then return .error .isFolder
  match ← guarded (IO.FS.readBinFile path) with
  | .error fault => return .error fault
  | .ok bytes =>
    match String.fromUTF8? bytes with
    | some text => return .ok text
    | none => return .error .notText

/-- The name behind which a file is written before it takes its place. -/
def draftPath (path : String) : String :=
  path ++ ".draft"

/-- Writes a file beside its place, and moves it there. -/
def writeText (path text : String) : IO Unit := do
  IO.FS.writeFile (draftPath path) text
  IO.FS.rename (draftPath path) path

/-- The names in a folder. -/
def namesIn (path : String) : IO (List String) := do
  let entries ← (← IO.FS.realPath path).readDir
  return entries.toList.map fun e => e.fileName

/-- The files of the machine. -/
def systemDisk : Disk IO where
  read := readText
  write path text := guarded (writeText path text)
  remove path := guarded (IO.FS.removeFile path)
  entries path := guarded (namesIn path)
  holds := holdsPath
  makeFolder path := guarded (IO.FS.createDirAll path)

/-- The time by the clock of the machine. -/
def systemTime : IO Instant := do
  let time ← Std.Time.Timestamp.now
  let nanos := time.toNanosecondsSinceUnixEpoch.val
  return (Instant.make? (nanos / 1000000000) (nanos % 1000000000).toNat).getD .epoch

/-- Waits in short steps until the time is up or the program is interrupted. -/
partial def restUntil (isInterrupted : IO Bool) (endMillis : Nat) : IO Unit := do
  let now ← IO.monoMsNow
  if now < endMillis then
    unless ← isInterrupted do
      IO.sleep (UInt32.ofNat (Nat.min 100 (endMillis - now)))
      restUntil isInterrupted endMillis

/-- The machine as a host. Lines of the log are written if `isShown` holds of them. -/
def systemHost (style : LogStyle) (isShown : LogLine → Bool) (isInterrupted : IO Bool) :
    Host IO where
  disk := systemDisk
  now := systemTime
  head _ _ := return .broken "no network"
  log line := do
    if isShown line then IO.eprintln (style.render (← systemTime) line)
  print line := IO.println line
  complain line := IO.eprintln line
  rest time := do restUntil isInterrupted ((← IO.monoMsNow) + time.nanos / 1000000)
  isInterrupted := isInterrupted

/-- Which lines of the log are shown, by the name of a level. -/
def shownAt : Option String → LogLine → Bool
  | some "off" | some "error" => fun _ => false
  | some "warn" => fun line => line.level == .warn
  | some "debug" | some "trace" => fun _ => true
  | _ => LogLine.isShown

/-- Asks the system for a notice when the program is interrupted. -/
def watchInterruptions : IO (IO Bool) := do
  let waiter ← Std.Async.Signal.Waiter.mk .sigint false
  let notice ← waiter.wait
  return (return (← IO.getTaskState notice) == .finished)

end ImageCatalog.Cli

open ImageCatalog.Cli in
/-- Carries out the invocation that the arguments make up. -/
def main (args : List String) : IO UInt32 := do
  let places := Places.ofEnvironment (← IO.getEnv "HOME") (← IO.getEnv "XDG_CONFIG_HOME")
    (← IO.getEnv "XDG_DATA_HOME")
  let invocation := Invocation.parse args
  let style := if invocation.toOption.any Invocation.jsonLogs then LogStyle.json else .plain
  let isShown := shownAt (← IO.getEnv logVariable)
  let status ← run (systemHost style isShown (← watchInterruptions)) places invocation
  return UInt32.ofNat status.code
