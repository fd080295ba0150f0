import ImageCatalog.Proofs.Record.RoundTrip
import ImageCatalog.Store

/-!
# Records in a file tree

What the operations of a folder do to a file tree, without the monads they are written in, and what
they do to the record that is at a path.

A write changes the tree under its path only, and the way along a path leads through folders, which
no operation on a file touches. So a path leads to the same place before and after, whatever is in
the tree; that is all the folder store relies on.

## Main definitions

* `FileTree.record?` — the record at a path
* `FileTree.keep`, `FileTree.drop` — a record written to a path, and the file taken away
* `Folder.perform` — what an operation of a folder gives, and the tree after it

## Main results

* `FileTree.record?_write`, `FileTree.record?_remove` — a record that is written is read back, and
  one that is removed is gone
* `Folder.perform_read`, `Folder.perform_create`, `Folder.perform_replace`, `Folder.perform_remove`
  — the operations of a folder
-/

namespace ImageCatalog

namespace FileTree

variable {t t' : FileTree} {path : String} {place : List String}

/-! ### Places -/

/-- One name further along a path. -/
def along (place : List String) (name : String) : List String :=
  if name = "." then place else if name = ".." then place.dropLast else place ++ [name]

theorem walk_cons (t : FileTree) (place : List String) (name : String) (rest : List String) :
    t.walk place (name :: rest) =
      match t.node? place with
      | none => .error .missing
      | some (.file _) => .error .notFolder
      | some .folder => t.walk (along place name) rest := by
  rw [walk]
  cases t.node? place with
  | none => rfl
  | some node =>
    cases node with
    | file text => rfl
    | folder =>
      unfold along
      dsimp only
      split
      · rfl
      · split <;> rfl

/-- The folders of the first tree are folders of the second, and paths start at the same place. -/
structure Keeps (t t' : FileTree) : Prop where
  workplace : t'.workplace = t.workplace
  folder : ∀ place, t.node? place = some .folder → t'.node? place = some .folder

theorem Keeps.walk (h : Keeps t t') {names : List String} {origin : List String}
    (hwalk : t.walk origin names = .ok place) : t'.walk origin names = .ok place := by
  induction names generalizing origin with
  | nil => exact hwalk
  | cons name rest ih =>
    rw [walk_cons] at hwalk ⊢
    cases hnode : t.node? origin with
    | none => simp [hnode] at hwalk
    | some node =>
      cases node with
      | file text => simp [hnode] at hwalk
      | folder =>
        rw [hnode] at hwalk
        rw [h.folder origin hnode]
        exact ih hwalk

/-- A path leads to the same place as long as no folder goes. -/
theorem Keeps.locate (h : Keeps t t') (hlocate : t.locate path = .ok place) :
    t'.locate path = .ok place := by
  have hstart : t'.start path = t.start path := by
    unfold start
    rw [h.workplace]
  unfold FileTree.locate at hlocate ⊢
  split at hlocate
  · simp at hlocate
  · rename_i hpath
    rw [if_neg hpath, hstart]
    exact h.walk hlocate

theorem node?_eq_get? (h : place ≠ []) : t.node? place = t.nodes.get? (key place) := by
  have hempty : ¬ place.isEmpty = true := by simpa using h
  rw [node?, if_neg hempty]

theorem ne_nil_of_not_folder (h : t.node? place ≠ some .folder) : place ≠ [] := by
  rintro rfl
  exact h rfl

/-- Changing what is at a key of no folder keeps all folders. -/
theorem keeps_of_nodes (hworkplace : t'.workplace = t.workplace)
    (hplace : t.node? place ≠ some .folder)
    (hnodes : ∀ k, k ≠ key place → t'.nodes.get? k = t.nodes.get? k) : Keeps t t' := by
  refine ⟨hworkplace, fun other hother => ?_⟩
  by_cases hnil : other = []
  · subst hnil
    rfl
  · rw [node?_eq_get? hnil] at hother ⊢
    rw [hnodes _ fun hkey => hplace ?_, hother]
    rw [node?_eq_get? (ne_nil_of_not_folder hplace), ← hkey, hother]

/-! ### Reading and writing records -/

/-- The record at a path, if there is one. -/
def record? (t : FileTree) (path : String) : Except Failure (Option Record) :=
  match t.read path with
  | .error .missing => .ok none
  | .error .notText => .error (.malformed "no text")
  | .error fault => .error (Folder.failureAt path fault)
  | .ok text =>
    match Record.parse? text with
    | some r => .ok (some r)
    | none => .error (.malformed "no record")

/-- The tree with a record written to a path. -/
def keep (t : FileTree) (path : String) (r : Record) : Except Failure Record × FileTree :=
  match t.write path r.pretty with
  | .error fault => (.error (Folder.failureAt path fault), t)
  | .ok t' => (.ok r, t')

/-- The tree without the file at a path. -/
def drop (t : FileTree) (path : String) : Except Failure Bool × FileTree :=
  match t.remove path with
  | .error fault => (.error (Folder.failureAt path fault), t)
  | .ok t' => (.ok true, t')

theorem find_eq_ok {node : FileNode} :
    t.find path = .ok (place, node) ↔ t.locate path = .ok place ∧ t.node? place = some node := by
  unfold find
  cases t.locate path with
  | error fault => simp [bind, Except.bind]
  | ok found =>
    cases hnode : t.node? found with
    | none =>
      simp only [bind, Except.bind, hnode, Except.ok.injEq]
      constructor
      · intro h
        simp [throw, throwThe, MonadExceptOf.throw] at h
      · rintro ⟨rfl, h⟩
        simp [hnode] at h
    | some node' =>
      simp only [bind, Except.bind, hnode, pure, Except.pure, Except.ok.injEq, Prod.mk.injEq]
      constructor
      · rintro ⟨rfl, rfl⟩
        exact ⟨rfl, hnode⟩
      · rintro ⟨rfl, h⟩
        exact ⟨rfl, Option.some.inj (hnode.symm.trans h)⟩

/-- A write puts a file at the place of its path, where there is no folder. -/
theorem write_eq_ok {text : String} (h : t.write path text = .ok t') :
    ∃ place, t.locate path = .ok place ∧ t.node? place ≠ some .folder ∧
      t' = t.put place (.file text) := by
  unfold write at h
  cases hlocate : t.locate path with
  | error fault => simp [hlocate, bind, Except.bind] at h
  | ok place =>
    refine ⟨place, rfl, ?_⟩
    rw [hlocate] at h
    cases hnode : t.node? place with
    | none => simpa [hnode, bind, Except.bind, pure, Except.pure, eq_comm] using h
    | some node =>
      cases node with
      | file old => simpa [hnode, bind, Except.bind, pure, Except.pure, eq_comm] using h
      | folder =>
        simp [hnode, bind, Except.bind, throw, throwThe, MonadExceptOf.throw] at h

/-- **A record that is written is read back.** -/
theorem record?_write {r : Record} (h : t.write path r.pretty = .ok t') :
    t'.record? path = .ok (some r) := by
  obtain ⟨place, hlocate, hfolder, rfl⟩ := write_eq_ok h
  have hne := ne_nil_of_not_folder hfolder
  have hkeeps : Keeps t (t.put place (.file r.pretty)) :=
    keeps_of_nodes rfl hfolder fun k hk => Dictionary.get?_insert_of_ne _ _ hk
  have hnode : (t.put place (.file r.pretty)).node? place = some (.file r.pretty) := by
    rw [node?_eq_get? hne]
    exact Dictionary.get?_insert_self _ _ _
  have hfind := find_eq_ok.2 ⟨hkeeps.locate hlocate, hnode⟩
  have hread : (t.put place (.file r.pretty)).read path = .ok r.pretty := by
    rw [read, hfind]
    rfl
  rw [record?, hread]
  simp only [Record.parse?_pretty]

/-- Removing takes the file at the place of its path away. -/
theorem remove_eq_ok (h : t.remove path = .ok t') :
    ∃ place text, t.locate path = .ok place ∧ t.node? place = some (.file text) ∧
      t' = { t with nodes := t.nodes.erase (key place) } := by
  unfold remove at h
  cases hfind : t.find path with
  | error fault => simp [hfind, bind, Except.bind] at h
  | ok found =>
    obtain ⟨place, node⟩ := found
    rw [hfind] at h
    cases node with
    | file text =>
      obtain ⟨hlocate, hnode⟩ := find_eq_ok.1 hfind
      refine ⟨place, text, hlocate, hnode, ?_⟩
      simpa [bind, Except.bind, pure, Except.pure, eq_comm] using h
    | folder => simp [bind, Except.bind, throw, throwThe, MonadExceptOf.throw] at h

/-- **A record that is removed is gone.** -/
theorem record?_remove (h : t.remove path = .ok t') : t'.record? path = .ok none := by
  obtain ⟨place, text, hlocate, hfile, rfl⟩ := remove_eq_ok h
  have hfolder : t.node? place ≠ some .folder := by simp [hfile]
  have hne := ne_nil_of_not_folder hfolder
  have hkeeps : Keeps t { t with nodes := t.nodes.erase (key place) } :=
    keeps_of_nodes rfl hfolder fun k hk => by simp [Dictionary.get?_erase, hk]
  have hnode : ({ t with nodes := t.nodes.erase (key place) } : FileTree).node? place = none := by
    rw [node?_eq_get? hne]
    exact Dictionary.get?_erase_self _ _
  have hread : ({ t with nodes := t.nodes.erase (key place) } : FileTree).read path =
      .error .missing := by
    rw [read, find, hkeeps.locate hlocate]
    simp [bind, Except.bind, hnode, throw, throwThe, MonadExceptOf.throw]
  rw [record?, hread]

end FileTree

/-! ### The store in files -/

namespace Folder

variable {α β : Type}

/-- What an operation on files gives, and the tree after it. -/
def perform (action : ExceptT Failure (StateM FileTree) α) (t : FileTree) :
    Except Failure α × FileTree :=
  action.run.run t

theorem perform_bind (action : ExceptT Failure (StateM FileTree) α)
    (next : α → ExceptT Failure (StateM FileTree) β) (t : FileTree) :
    perform (action >>= next) t =
      match perform action t with
      | (.ok a, t') => perform (next a) t'
      | (.error e, t') => (.error e, t') := by
  simp only [perform, ExceptT.run_bind, StateT.run_bind]
  rcases action.run.run t with ⟨a | e, t'⟩ <;> rfl

theorem perform_settled (x : Except Failure α) (t : FileTree) :
    perform (settled x) t = (x, t) := rfl

theorem perform_lift (path : String) (action : StateM FileTree (Except FileFault α))
    (t : FileTree) :
    perform (lift path action) t =
      ((action.run t).1.mapError (failureAt path), (action.run t).2) := rfl

theorem perform_readFile (path : String) (t : FileTree) :
    perform (readFile FileTree.disk path) t = (t.record? path, t) := by
  have hread : perform (readFile FileTree.disk path) t =
      perform (match t.read path with
        | .error .missing => pure none
        | .error .notText => throw (.malformed "no text")
        | .error fault => throw (failureAt path fault)
        | .ok text =>
          match Record.parse? text with
          | some r => pure (some r)
          | none => throw (.malformed "no record")) t := rfl
  rw [hread, FileTree.record?]
  split
  · rfl
  · rfl
  · rfl
  · split <;> rfl

theorem perform_writeFile (path : String) (r : Record) (t : FileTree) :
    perform (writeFile FileTree.disk path r) t = t.keep path r := by
  rw [writeFile, perform_bind, perform_lift, FileTree.keep]
  simp only [FileTree.disk, FileTree.change, StateT.run]
  cases t.write path r.pretty <;> rfl

theorem perform_holds (path : String) (t : FileTree) :
    perform (liftM (FileTree.disk.holds path)) t = (.ok (t.find path).isOk, t) := rfl

variable (f : Folder) (t : FileTree)

/-- Reading gives the record at the path of the name. -/
theorem perform_read (name : String) :
    perform (f.read FileTree.disk name) t = ((f.path name).bind t.record?, t) := by
  rw [read, perform_bind, perform_settled]
  cases f.path name with
  | error e => rfl
  | ok path => exact perform_readFile path t

/-- Creating writes a record to a path where there is nothing. -/
theorem perform_create (r : Record) :
    perform (f.create FileTree.disk r) t =
      match f.path r.name with
      | .error e => (.error e, t)
      | .ok path =>
        if (t.find path).isOk then (.error (.alreadyExists r.name), t)
        else t.keep path r.atFirst := by
  rw [create, perform_bind, perform_settled]
  cases f.path r.name with
  | error e => rfl
  | ok path =>
    dsimp only
    rw [perform_bind, perform_holds]
    dsimp only
    split
    · rfl
    · exact perform_writeFile path r.atFirst t

/-- Replacing writes a record over the one at its path, if it was read from that version. -/
theorem perform_replace (r : Record) :
    perform (f.replace FileTree.disk r) t =
      match f.path r.name with
      | .error e => (.error e, t)
      | .ok path =>
        match t.record? path with
        | .error e => (.error e, t)
        | .ok none => (.error (.imageNotFound r.name), t)
        | .ok (some stored) =>
          match r.inPlaceOf stored with
          | .error e => (.error e, t)
          | .ok r' => t.keep path r' := by
  rw [replace, perform_bind, perform_settled]
  cases f.path r.name with
  | error e => rfl
  | ok path =>
    dsimp only
    rw [perform_bind, perform_readFile]
    rcases t.record? path with e | _ | stored
    · rfl
    · rfl
    · dsimp only
      rw [perform_bind, perform_settled]
      cases r.inPlaceOf stored with
      | error e => rfl
      | ok r' => exact perform_writeFile path r' t

/-- Removing takes the file at a path away, if it holds a record of the version asked for. -/
theorem perform_remove (name : String) (version : Option UInt64) :
    perform (f.remove FileTree.disk name version) t =
      match f.path name with
      | .error e => (.error e, t)
      | .ok path =>
        match t.record? path with
        | .error e => (.error e, t)
        | .ok none => (.ok false, t)
        | .ok (some stored) =>
          match version.forM (stored.checkVersion name) with
          | .error e => (.error e, t)
          | .ok () => t.drop path := by
  rw [remove, perform_bind, perform_settled]
  cases f.path name with
  | error e => rfl
  | ok path =>
    dsimp only
    rw [perform_bind, perform_readFile]
    rcases t.record? path with e | _ | stored
    · rfl
    · rfl
    · dsimp only
      rw [perform_bind, perform_settled]
      cases version.forM (stored.checkVersion name) with
      | error e => rfl
      | ok _ =>
        dsimp only
        rw [perform_bind, perform_lift, FileTree.drop]
        simp only [FileTree.disk, FileTree.change, StateT.run]
        cases t.remove path <;> rfl

/-- The records in some files, without those that hold none. -/
def recordsIn (files : List String) : List Record :=
  files.flatMap fun file => ((t.record? (Disk.join f.root file)).toOption.bind id).toList

theorem run_bind (action : StateM FileTree α) (next : α → StateM FileTree β) :
    (action >>= next).run t = (next (action.run t).1).run (action.run t).2 := rfl

theorem run_pure (a : α) : (pure a : StateM FileTree α).run t = (a, t) := rfl

theorem run_readAll (files : List String) :
    ∃ warnings, (f.readAll FileTree.disk files).run t = ((recordsIn f t files, warnings), t) := by
  induction files with
  | nil => exact ⟨[], rfl⟩
  | cons file rest ih =>
    obtain ⟨warnings, hrest⟩ := ih
    have hfile : (readFile FileTree.disk (Disk.join f.root file)).run.run t =
        (t.record? (Disk.join f.root file), t) := perform_readFile _ t
    rw [recordsIn, List.flatMap_cons, readAll, run_bind, hfile]
    cases t.record? (Disk.join f.root file) with
    | ok r? =>
      constructor
      dsimp only
      rw [run_bind, run_pure, run_bind, hrest]
      rfl
    | error e =>
      constructor
      dsimp only
      rw [run_bind, run_pure, run_bind, hrest]
      rfl

/-- Listing gives the records of all files of the folder, sorted by their names. -/
theorem perform_list {files : List String} (hentries : t.entries f.root = .ok files) :
    ∃ warnings, perform (f.list FileTree.disk) t =
      (.ok ((recordsIn f t (files.filter isRecordFile)).mergeSort fun a b => a.name ≤ b.name,
        warnings), t) := by
  obtain ⟨warnings, hrun⟩ := run_readAll f t (files.filter isRecordFile)
  have hlift : perform (lift f.root (FileTree.disk.entries f.root)) t = (.ok files, t) := by
    have haction : (FileTree.disk.entries f.root).run t = (t.entries f.root, t) := rfl
    rw [perform_lift, haction, hentries]
    rfl
  have hread : perform (ExceptT.lift (f.readAll FileTree.disk (files.filter isRecordFile))) t =
      (.ok (recordsIn f t (files.filter isRecordFile), warnings), t) := by
    have haction : perform (ExceptT.lift (f.readAll FileTree.disk (files.filter isRecordFile))) t =
        (.ok ((f.readAll FileTree.disk (files.filter isRecordFile)).run t).1,
          ((f.readAll FileTree.disk (files.filter isRecordFile)).run t).2) := rfl
    rw [haction, hrun]
  refine ⟨warnings, ?_⟩
  rw [list, perform_bind, hlift]
  dsimp only
  rw [perform_bind, hread]
  rfl

end Folder

/-- An operation on the files of a folder. -/
theorem Store.onFolder_eq {α : Type} (f : Folder) (t : FileTree)
    (action : Disk (StateM FileTree) → Folder → ExceptT Failure (StateM FileTree) α) :
    Store.onFolder f t action =
      (Folder.perform (action FileTree.disk f) t).map id (Store.folder f) := rfl

end ImageCatalog
