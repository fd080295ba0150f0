import ImageCatalog.Disk
import ImageCatalog.LogLine
import ImageCatalog.Record.Json
import ImageCatalog.Store.Version

/-!
# Records in files

A store that keeps each record in a file of a folder, named for the record. Whatever else is in the
folder is left alone; a file that holds no record is passed over with a warning when records are
listed, and is an error when its record is asked for.

## Main definitions

* `Folder` — the store, on any disk.
* `Folder.create`, `Folder.replace`, `Folder.remove`, `Folder.read`, `Folder.list` — its operations.
-/

namespace ImageCatalog

/-- Records in the files of a folder. -/
structure Folder where
  root : String

namespace Folder

variable {m : Type → Type} [Monad m]

/-- The path of the record `name`. Names hold no slashes, so every record is in the folder. -/
def path (f : Folder) (name : String) : Except Failure String :=
  match Name.fault? name with
  | none => .ok (Disk.join f.root (name ++ ".json"))
  | some fault => .error (.ofImageName name fault)

/-- Whether a file of this name is a record: its extension is `json`. -/
def isRecordFile (file : String) : Bool :=
  let front := file.toList.reverse
  ".json".toList.reverse.isPrefixOf front && 5 < front.length

/-- The failure of an operation on the file at a path. -/
def failureAt (path : String) (fault : FileFault) : Failure :=
  .storeFailed path fault.message

/-- A result that needs no disk. -/
def settled {α : Type} (x : Except Failure α) : ExceptT Failure m α :=
  ExceptT.mk (pure x)

/-- A result of the disk for the file at a path. -/
def lift {α : Type} (path : String) (action : m (Except FileFault α)) : ExceptT Failure m α :=
  ExceptT.mk do return (← action).mapError (failureAt path)

/-- The record in a file, if there is one. -/
def readFile (disk : Disk m) (path : String) : ExceptT Failure m (Option Record) := do
  match ← disk.read path with
  | .error .missing => return none
  | .error .notText => throw (.malformed "no text")
  | .error fault => throw (failureAt path fault)
  | .ok text =>
    match Record.parse? text with
    | some r => return some r
    | none => throw (.malformed "no record")

/-- Writes a record into a file. -/
def writeFile (disk : Disk m) (path : String) (r : Record) : ExceptT Failure m Record := do
  lift path (disk.write path r.pretty)
  return r

/-- Makes the folder, if it is not there. -/
def prepare (disk : Disk m) (f : Folder) : ExceptT Failure m Unit :=
  lift f.root (disk.makeFolder f.root)

/-- The record `name`, if there is one. -/
def read (disk : Disk m) (f : Folder) (name : String) : ExceptT Failure m (Option Record) := do
  let path ← settled (f.path name)
  readFile disk path

/-- Stores a new record. -/
def create (disk : Disk m) (f : Folder) (r : Record) : ExceptT Failure m Record := do
  let path ← settled (f.path r.name)
  if ← disk.holds path then throw (.alreadyExists r.name)
  writeFile disk path r.atFirst

/-- Stores a record in place of the one of its name. -/
def replace (disk : Disk m) (f : Folder) (r : Record) : ExceptT Failure m Record := do
  let path ← settled (f.path r.name)
  match ← readFile disk path with
  | none => throw (.imageNotFound r.name)
  | some stored => writeFile disk path (← settled (r.inPlaceOf stored))

/-- Removes the record `name`, and tells whether there was one. Given a version, only that one is
removed. -/
def remove (disk : Disk m) (f : Folder) (name : String) (version : Option UInt64) :
    ExceptT Failure m Bool := do
  let path ← settled (f.path name)
  match ← readFile disk path with
  | none => return false
  | some stored =>
    settled (version.forM (stored.checkVersion name))
    lift path (disk.remove path)
    return true

/-- The records of some files, with a warning for each file that holds none. -/
def readAll (disk : Disk m) (f : Folder) : List String → m (List Record × List LogLine)
  | [] => return ([], [])
  | file :: rest => do
    let path := Disk.join f.root file
    let (records, warnings) ← match ← (readFile disk path).run with
      | .ok r? => pure (r?.toList, [])
      | .error e =>
        pure ([], [LogLine.warn ("Skipping unreadable record " ++ path ++ ": " ++ e.message) []])
    let (moreRecords, moreWarnings) ← readAll disk f rest
    return (records ++ moreRecords, warnings ++ moreWarnings)

/-- The records in the order of their names, with warnings. -/
def list (disk : Disk m) (f : Folder) : ExceptT Failure m (List Record × List LogLine) := do
  let files ← lift f.root (disk.entries f.root)
  let (records, warnings) ← ExceptT.lift (readAll disk f (files.filter isRecordFile))
  return (records.mergeSort fun a b => a.name ≤ b.name, warnings)

end Folder

end ImageCatalog
