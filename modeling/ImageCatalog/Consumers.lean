import ImageCatalog.Revision

/-!
# Consumers

Who needs which image. A record is created for its first consumer. A new consumer undoes what
retention and deletion requests have prepared; the last consumer that goes leaves the rest to the
next pass.
-/

namespace ImageCatalog.Consumers

/-- Refuses a text that is no image name. -/
def checkImage (name : String) : Program Unit :=
  match Name.fault? name with
  | none => return ()
  | some fault => .fail (.ofImageName name fault)

/-- Refuses a text that is no consumer identifier. -/
def checkConsumer (consumer : String) : Program Unit :=
  match Name.fault? consumer with
  | none => return ()
  | some fault => .fail (.ofConsumer consumer fault)

/-- Creates the record `name` unless it exists. It is no failure if another one is faster. -/
def ensureRecord (name : String) (spec : Spec) : Program Unit := do
  match ← Program.readRecord name with
  | some _ => return ()
  | none =>
    let now ← Program.now
    match ← Program.tryCreateRecord (.new name spec now) with
    | .ok _ => Program.emit (.recordCreated name spec.provider)
    | .error (.alreadyExists _) => return ()
    | .error e => .fail e

/-- Adds a consumer to a record of the same provider, and revives it. -/
def addition (name : String) (spec : Spec) (consumer : String) : Edit := fun r =>
  if r.spec.provider != spec.provider then
    .error (.providerMismatch name r.spec.provider spec.provider)
  else
    Edit.when (fun r => !r.hasConsumer consumer || r.isRevivable)
      (fun r => (r.addConsumer consumer).revive) r

/-- Reports an addition. -/
def reportAddition (name consumer : String) (revision : Revision) : Program Unit := do
  let previous := revision.before.phase
  Program.emitIf (!revision.before.hasConsumer consumer) (.referenceAdded name consumer)
  Program.emitIf (previous == some .awaitingDeletion) (.retentionCancelled name)
  match revision.after.phase with
  | some phase => Program.emitIf (previous != some phase) (.stateChanged name previous phase)
  | none => return ()

/-- Adds a consumer, creating the record if needed, and again if it goes away before it is
written, up to `attempts` times. -/
def addWithin (name : String) (spec : Spec) (consumer : String) : (attempts : Nat) → Program Record
  | 0 => .fail (.conflictsExhausted name maxAttempts)
  | attempts + 1 => do
    ensureRecord name spec
    match ← Record.revise? name (addition name spec consumer) with
    | none => addWithin name spec consumer attempts
    | some revision =>
      reportAddition name consumer revision
      return revision.after

/-- `consumer` needs the image of the record `name`. -/
def add (name : String) (spec : Spec) (consumer : String) : Program Record := do
  checkImage name
  checkConsumer consumer
  addWithin name spec consumer maxAttempts

/-- `consumer` does not need the image of the record `name` any more. The record is the result, if
it exists. -/
def remove (name consumer : String) : Program (Option Record) := do
  checkConsumer consumer
  let revision? ← Record.revise? name
    (.when (fun r => r.hasConsumer consumer) fun r => r.removeConsumer consumer)
  match revision? with
  | none => return none
  | some revision =>
    Program.emitIf revision.written (.referenceRemoved name consumer)
    return some revision.after

end ImageCatalog.Consumers
