import ImageCatalog.Disk.Tree
import ImageCatalog.Store.Folder
import ImageCatalog.Store.Ledger

/-!
# Stores

A store of records of either kind: in memory, or in the files of a file tree. All operations give
their outcome and the store after it.
-/

namespace ImageCatalog

/-- A store of records. -/
inductive Store where
  | ledger (l : Ledger)
  | folder (f : Folder) (tree : FileTree)

namespace Store

/-- The outcome of an operation on files, and the store after it. -/
def onFolder {α : Type} (f : Folder) (tree : FileTree)
    (action : Disk (StateM FileTree) → Folder → ExceptT Failure (StateM FileTree) α) :
    Except Failure α × Store :=
  let (result, tree') := (action FileTree.disk f).run.run tree
  (result, .folder f tree')

def read (s : Store) (name : String) : Except Failure (Option Record) × Store :=
  match s with
  | ledger l => (.ok (l.get? name), ledger l)
  | folder f tree => onFolder f tree fun disk f => f.read disk name

def create (s : Store) (r : Record) : Except Failure Record × Store :=
  match s with
  | ledger l => (l.create r).map id ledger
  | folder f tree => onFolder f tree fun disk f => f.create disk r

def replace (s : Store) (r : Record) : Except Failure Record × Store :=
  match s with
  | ledger l => (l.replace r).map id ledger
  | folder f tree => onFolder f tree fun disk f => f.replace disk r

def remove (s : Store) (name : String) (version : Option UInt64) : Except Failure Bool × Store :=
  match s with
  | ledger l => (l.remove name version).map id ledger
  | folder f tree => onFolder f tree fun disk f => f.remove disk name version

/-- The records in the order of their names. Warnings about files are dropped. -/
def list (s : Store) : Except Failure (List Record) × Store :=
  match s with
  | ledger l => (.ok l.list, ledger l)
  | folder f tree => onFolder f tree fun disk f => do return (← f.list disk).1

end Store

end ImageCatalog
