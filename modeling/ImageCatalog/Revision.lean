import ImageCatalog.Program

/-!
# Revisions

Changing a record under optimistic concurrency: read it, edit the copy, write the copy back, and
start over when someone else wrote in between. Nothing is written unless the edit asks for it, and
never from a copy that was not read in the same attempt.

## Main definitions

* `Edit`, `Editor` — what to make of a record, and whether to write it, without and with a memory.
* `Revision` — the copy that was read and the record that is stored after it.
* `Record.reviseBy` — a number of attempts at an edit, with a memory.
* `Record.revise?`, `Record.revise` — at most five attempts at an edit.
-/

namespace ImageCatalog

/-- What to make of a record, and whether to write it. -/
abbrev Edit := Record → Except Failure (Record × Bool)

/-- An edit with a memory. What it makes of a copy may depend on the copies it was handed before. -/
abbrev Editor (σ : Type) := σ → Record → Except Failure (Record × Bool) × σ

/-- An edit, as one that remembers nothing. -/
def Edit.editor (edit : Edit) : Editor Unit := fun memory r => (edit r, memory)

@[simp] theorem Edit.editor_apply (edit : Edit) (memory : Unit) (r : Record) :
    edit.editor memory r = (edit r, memory) := rfl

/-- Changes the records that satisfy `needed`, and writes no others. -/
def Edit.when (needed : Record → Bool) (change : Record → Record) : Edit := fun r =>
  .ok (if needed r then (change r, true) else (r, false))

/-- The outcome of an edit. -/
structure Revision where
  /-- The copy that was edited. -/
  before : Record
  /-- The record after the edit. -/
  after : Record
  /-- Whether the record was written. -/
  written : Bool

/-- How often a write is tried. -/
def maxAttempts : Nat := 5

namespace Record

/-- Tries an edit of the record `name` up to `attempts` times, and hands it a fresh copy each time.
There is no revision if the record does not exist, or goes away before it is written. -/
def reviseBy {σ : Type} (name : String) (editor : Editor σ) :
    (attempts : Nat) → (memory : σ) → Program (Option Revision)
  | 0, _ => do
    Program.log (.warn
      ("Giving up on " ++ name ++ " after " ++ toString maxAttempts ++ " conflicting writes") [])
    .fail (.conflictsExhausted name maxAttempts)
  | attempts + 1, memory => do
    match ← Program.readRecord name with
    | none => return none
    | some r =>
      match (editor memory r).1 with
      | .error e => .fail e
      | .ok (r', false) => return some ⟨r, r', false⟩
      | .ok (r', true) =>
        match ← Program.tryReplaceRecord r' with
        | .ok stored => return some ⟨r, stored, true⟩
        | .error (.conflict ..) => reviseBy name editor attempts (editor memory r).2
        | .error (.imageNotFound _) => return none
        | .error e => .fail e

/-- Tries an edit that needs no memory. -/
def reviseWithin (name : String) (edit : Edit) (attempts : Nat) : Program (Option Revision) :=
  reviseBy name edit.editor attempts ()

/-- Edits the record `name`, if it exists. -/
def revise? (name : String) (edit : Edit) : Program (Option Revision) :=
  reviseWithin name edit maxAttempts

/-- Edits the record `name`, which has to exist. -/
def revise (name : String) (edit : Edit) : Program Revision := do
  match ← revise? name edit with
  | some revision => return revision
  | none => .fail (.imageNotFound name)

/-- Brings the record `name` into a phase. Only a change is written and reported. -/
def enter (name : String) (phase : Phase) : Program Unit := do
  let revision ← revise name
    (.when (fun r => r.phase != some phase) fun r => { r with phase := some phase })
  Program.emitIf revision.written (.stateChanged name revision.before.phase phase)

end Record

end ImageCatalog
