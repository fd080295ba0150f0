import ImageCatalog.Dictionary
import ImageCatalog.Disk
import ImageCatalog.Text.Split

/-!
# File trees

A file system in memory. Files and folders are kept by their place, the list of names on the way
from the root. A path is walked name by name, through folders only.

## Main definitions

* `FileTree` — the file system.
* `FileTree.disk` — it as a disk, in a state monad.
-/

namespace ImageCatalog

/-- A file or a folder. -/
inductive FileNode where
  | file (text : String)
  | folder
deriving DecidableEq, Repr

/-- A file system in memory. -/
structure FileTree where
  /-- What is at each place but the root, by the names to it with a slash in front of each. -/
  nodes : Dictionary FileNode
  /-- The place that relative paths start from. -/
  workplace : List String

namespace FileTree

/-- The key of a place. -/
def key (place : List String) : String :=
  String.join (place.map ("/" ++ ·))

/-- What is at a place. The root is a folder. -/
def node? (t : FileTree) (place : List String) : Option FileNode :=
  if place.isEmpty then some .folder else t.nodes.get? (key place)

def put (t : FileTree) (place : List String) (node : FileNode) : FileTree :=
  { t with nodes := t.nodes.insert (key place) node }

/-- The tree with nothing but its root, where paths start. -/
def empty : FileTree :=
  ⟨.empty, []⟩

/-- The tree with a folder below its root, where paths start, and nothing else. -/
def withWorkplace (name : String) : FileTree :=
  { empty.put [name] .folder with workplace := [name] }

/-- Where a path starts. -/
def start (t : FileTree) (path : String) : List String :=
  if path.startsWith "/" then [] else t.workplace

/-- The names in a path. A slash at the end asks for a folder, like a point behind it. -/
def names (path : String) : List String :=
  let parts := Text.splitAtChar '/' path.toList
  let parts := if parts.getLast? = some [] then parts.dropLast ++ [['.']] else parts
  (parts.filter fun part => !part.isEmpty).map String.ofList

/-- Walks from a place along names. Every place that is left has to be a folder. -/
def walk (t : FileTree) (place : List String) : List String → Except FileFault (List String)
  | [] => .ok place
  | name :: rest =>
    match t.node? place with
    | none => .error .missing
    | some (.file _) => .error .notFolder
    | some .folder =>
      if name = "." then t.walk place rest
      else if name = ".." then t.walk place.dropLast rest
      else t.walk (place ++ [name]) rest

/-- The place of a path. -/
def locate (t : FileTree) (path : String) : Except FileFault (List String) :=
  if path.isEmpty then .error .missing else t.walk (t.start path) (names path)

/-- What is at a path. -/
def find (t : FileTree) (path : String) : Except FileFault (List String × FileNode) := do
  let place ← t.locate path
  match t.node? place with
  | none => throw .missing
  | some node => return (place, node)

/-- The text of a file. -/
def read (t : FileTree) (path : String) : Except FileFault String := do
  match ← t.find path with
  | (_, .file text) => return text
  | (_, .folder) => throw .isFolder

/-- The tree with a file in place of what is there. -/
def write (t : FileTree) (path text : String) : Except FileFault FileTree := do
  let place ← t.locate path
  match t.node? place with
  | some .folder => throw .isFolder
  | _ => return t.put place (.file text)

/-- The tree without a file. -/
def remove (t : FileTree) (path : String) : Except FileFault FileTree := do
  match ← t.find path with
  | (_, .folder) => throw .isFolder
  | (place, .file _) => return { t with nodes := t.nodes.erase (key place) }

/-- The names in a folder, in ascending order. -/
def entries (t : FileTree) (path : String) : Except FileFault (List String) := do
  match ← t.find path with
  | (_, .file _) => throw .notFolder
  | (place, .folder) =>
    let front := (key place ++ "/").toList
    return t.nodes.keys.filterMap fun k =>
      let name := k.toList.drop front.length
      if front.isPrefixOf k.toList && !name.isEmpty && !name.contains '/' then
        some (String.ofList name)
      else none

/-- The tree with folders along names. -/
def makeAlong (t : FileTree) (place : List String) : List String → Except FileFault FileTree
  | [] => .ok t
  | name :: rest =>
    if name = "." then t.makeAlong place rest
    else if name = ".." then t.makeAlong place.dropLast rest
    else
      let next := place ++ [name]
      match t.node? next with
      | some .folder => t.makeAlong next rest
      | some (.file _) => .error (if rest.isEmpty then .occupied else .notFolder)
      | none => (t.put next .folder).makeAlong next rest

/-- A path without slashes at its end. -/
def withoutSlash (path : String) : String :=
  String.ofList (path.toList.reverse.dropWhile (· == '/')).reverse

/-- The tree with a folder and the folders that it is in. The empty path asks for none. -/
def makeFolder (t : FileTree) (path : String) : Except FileFault FileTree :=
  if path.isEmpty then .ok t else t.makeAlong (t.start path) (names (withoutSlash path))

/-- The tree without a folder and all that is in it. -/
def removeFolder (t : FileTree) (path : String) : FileTree :=
  match t.locate path with
  | .error _ => t
  | .ok place =>
    let inside (k : String) := k == key place || (key place ++ "/").toList.isPrefixOf k.toList
    { t with nodes := (t.nodes.keys.filter inside).foldl Dictionary.erase t.nodes }

/-- Changes the tree, unless that fails. -/
def change (f : FileTree → Except FileFault FileTree) : StateM FileTree (Except FileFault Unit) :=
  fun t =>
    match f t with
    | .ok t' => (.ok (), t')
    | .error e => (.error e, t)

/-- A file tree as a disk. -/
def disk : Disk (StateM FileTree) where
  read path := do return (← get).read path
  write path text := change fun t => t.write path text
  remove path := change fun t => t.remove path
  entries path := do return (← get).entries path
  holds path := do return ((← get).find path).isOk
  makeFolder path := change fun t => t.makeFolder path

end FileTree

end ImageCatalog
