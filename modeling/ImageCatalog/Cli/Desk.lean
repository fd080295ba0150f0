import ImageCatalog.Cli.Host
import ImageCatalog.Disk.Tree

/-!
# Desks

A host that is all in memory: a file tree, a clock, and all that was written. Nothing answers
requests over the network. The clock goes on by a millisecond whenever it is looked at, so no two
readings are the same.
-/

namespace ImageCatalog.Cli

/-- A host in memory. -/
structure Desk where
  tree : FileTree
  clock : Instant
  /-- The lines of results. -/
  printed : List String
  /-- The lines about errors. -/
  complaints : List String
  /-- The lines of the log that are shown. -/
  logged : List LogLine
  /-- Whether someone will interrupt the program when it rests. -/
  willInterrupt : Bool
  interrupted : Bool

namespace Desk

/-- A desk on which nothing was written yet. -/
def new (tree : FileTree) (clock : Instant) (willInterrupt : Bool) : Desk where
  tree := tree
  clock := clock
  printed := []
  complaints := []
  logged := []
  willInterrupt := willInterrupt
  interrupted := false

/-- The desk after some time, as far as its clock can tell. -/
def forward (d : Desk) (time : Duration) : Desk :=
  { d with clock := (d.clock.later? time).getD d.clock }

/-- Works on the file tree. -/
def onTree {α : Type} (action : StateM FileTree α) : StateM Desk α := fun d =>
  let (a, tree) := action.run d.tree
  (a, { d with tree := tree })

/-- The file tree as a disk. -/
def disk : Disk (StateM Desk) where
  read path := onTree (FileTree.disk.read path)
  write path text := onTree (FileTree.disk.write path text)
  remove path := onTree (FileTree.disk.remove path)
  entries path := onTree (FileTree.disk.entries path)
  holds path := onTree (FileTree.disk.holds path)
  makeFolder path := onTree (FileTree.disk.makeFolder path)

/-- The desk as a host. -/
def host : Host (StateM Desk) where
  disk := disk
  now := do
    modify fun d => d.forward (.ofMillis 1)
    return (← get).clock
  head _ _ := return .broken "no network"
  log line := do
    if line.isShown then modify fun d => { d with logged := d.logged ++ [line] }
  print line := modify fun d => { d with printed := d.printed ++ [line] }
  complain line := modify fun d => { d with complaints := d.complaints ++ [line] }
  rest time := modify fun d => { d.forward time with interrupted := d.willInterrupt }
  isInterrupted := return (← get).interrupted

end Desk

end ImageCatalog.Cli
