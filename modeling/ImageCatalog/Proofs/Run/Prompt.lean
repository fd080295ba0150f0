import ImageCatalog.Proofs.Run.Errand
import ImageCatalog.Proofs.Run.Scene

/-!
# Programs that do not wait

A program is prompt if none of its requests takes its time, whatever it is told. Whatever only reads
and writes records, tells the time or reports something is prompt. So is every errand but a pass,
and in a pass all but the calls on a provider and the probes.

## Main definitions

* `Program.Prompt` — a program that never waits

## Main results

* `Program.Prompt.bind` — programs one after the other
* `Errand.prompt_program` — every errand but a pass is prompt
-/

namespace ImageCatalog

namespace Program

variable {α β : Type}

/-- None of the requests of a program takes its time. -/
def Prompt : Program α → Prop
  | done _ => True
  | fail _ => True
  | ask r k => r.waits = false ∧ ∀ x, (k x).Prompt

/-- **Programs one after the other.** -/
theorem Prompt.bind {p : Program α} {f : α → Program β} (hp : p.Prompt) (hf : ∀ a, (f a).Prompt) :
    (p >>= f).Prompt := by
  induction p with
  | done a => exact hf a
  | fail e => trivial
  | ask r k ih => exact ⟨hp.1, fun x => ih x (hp.2 x)⟩

theorem prompt_ofExcept (x : Except Failure α) : (ofExcept x).Prompt := by
  cases x <;> trivial

theorem prompt_request {r : Request} (hr : r.waits = false) : (request r).Prompt :=
  ⟨hr, fun _ => trivial⟩

theorem prompt_readRecord (name : String) : (readRecord name).Prompt :=
  ⟨rfl, prompt_ofExcept⟩

theorem prompt_removeRecord (name : String) (version : Option UInt64) :
    (removeRecord name version).Prompt :=
  ⟨rfl, prompt_ofExcept⟩

theorem prompt_listRecords : listRecords.Prompt :=
  ⟨rfl, prompt_ofExcept⟩

theorem prompt_emit (event : Event) : (emit event).Prompt :=
  ⟨rfl, fun _ => trivial⟩

theorem prompt_emitIf (b : Bool) (event : Event) : (emitIf b event).Prompt := by
  cases b with
  | false => trivial
  | true => exact prompt_emit event

theorem prompt_log (line : LogLine) : (log line).Prompt :=
  ⟨rfl, fun _ => trivial⟩

theorem prompt_now : now.Prompt :=
  prompt_request rfl

end Program

open Program

/-! ### Revisions -/

namespace Record

theorem prompt_reviseWithin (name : String) (edit : Edit) (attempts : Nat) :
    (reviseWithin name edit attempts).Prompt := by
  induction attempts with
  | zero => exact (prompt_log _).bind fun _ => trivial
  | succ attempts ih =>
    refine (prompt_readRecord name).bind fun r? => ?_
    cases r? with
    | none => trivial
    | some r =>
      rcases hedit : edit r with e | ⟨r', written⟩
      · simp only [Edit.editor_apply, hedit]
        trivial
      cases written with
      | false =>
        simp only [Edit.editor_apply, hedit]
        trivial
      | true =>
        simp only [Edit.editor_apply, hedit]
        refine (prompt_request rfl).bind fun x => ?_
        rcases x with e | stored
        · cases e <;> first | exact ih | trivial
        · trivial

theorem prompt_revise? (name : String) (edit : Edit) : (revise? name edit).Prompt :=
  prompt_reviseWithin name edit maxAttempts

theorem prompt_revise (name : String) (edit : Edit) : (revise name edit).Prompt := by
  refine (prompt_revise? name edit).bind fun v? => ?_
  cases v? <;> trivial

theorem prompt_enter (name : String) (phase : Phase) : (enter name phase).Prompt :=
  (prompt_revise name _).bind fun _ => prompt_emitIf _ _

end Record

/-! ### Consumers -/

namespace Consumers

theorem prompt_checkImage (name : String) : (checkImage name).Prompt := by
  unfold checkImage
  split <;> trivial

theorem prompt_checkConsumer (consumer : String) : (checkConsumer consumer).Prompt := by
  unfold checkConsumer
  split <;> trivial

theorem prompt_ensureRecord (name : String) (spec : Spec) : (ensureRecord name spec).Prompt := by
  refine (prompt_readRecord name).bind fun r? => ?_
  cases r? with
  | some r => trivial
  | none =>
    refine prompt_now.bind fun now => (prompt_request rfl).bind fun x => ?_
    rcases x with e | r
    · cases e <;> trivial
    · exact prompt_emit _

theorem prompt_reportAddition (name consumer : String) (v : Revision) :
    (reportAddition name consumer v).Prompt := by
  refine (prompt_emitIf _ _).bind fun _ => (prompt_emitIf _ _).bind fun _ => ?_
  cases v.after.phase with
  | none => trivial
  | some phase => exact prompt_emitIf _ _

theorem prompt_addWithin (name : String) (spec : Spec) (consumer : String) (attempts : Nat) :
    (addWithin name spec consumer attempts).Prompt := by
  induction attempts with
  | zero => trivial
  | succ attempts ih =>
    refine (prompt_ensureRecord name spec).bind fun _ => ?_
    refine (Record.prompt_revise? name _).bind fun v? => ?_
    cases v? with
    | none => exact ih
    | some v => exact (prompt_reportAddition name consumer v).bind fun _ => trivial

theorem prompt_add (name : String) (spec : Spec) (consumer : String) :
    (add name spec consumer).Prompt :=
  (prompt_checkImage name).bind fun _ => (prompt_checkConsumer consumer).bind fun _ =>
    prompt_addWithin name spec consumer maxAttempts

theorem prompt_remove (name consumer : String) : (remove name consumer).Prompt := by
  refine (prompt_checkConsumer consumer).bind fun _ => ?_
  refine (Record.prompt_revise? name _).bind fun v? => ?_
  cases v? with
  | none => trivial
  | some v => exact (prompt_emitIf _ _).bind fun _ => trivial

end Consumers

/-! ### Parts of a pass -/

namespace Pass

theorem prompt_requestDeletion (key : String) : (requestDeletion key).Prompt :=
  prompt_now.bind fun _ => (Record.prompt_revise key _).bind fun _ => prompt_emit _

theorem Job.prompt_giveUp {α : Type} (job : Job) (e : Failure) :
    (job.giveUp e : Program α).Prompt := by
  unfold Job.giveUp
  split
  · trivial
  · exact (Record.prompt_enter _ _).bind fun _ => trivial

theorem prompt_startRemoval (key : String) : (startRemoval key).Prompt :=
  (Record.prompt_revise key _).bind fun _ => prompt_emitIf _ _

theorem prompt_markForDeletion (key : String) (t : Instant) : (markForDeletion key t).Prompt :=
  (Record.prompt_revise key _).bind fun v => by
    split <;> trivial

theorem prompt_startGracePeriod (key : String) (period : Duration) (t : Instant) :
    (startGracePeriod key period t).Prompt := by
  refine (Record.prompt_revise key _).bind fun v => ?_
  split
  · trivial
  · exact (prompt_emitIf _ _).bind fun _ => (prompt_emit _).bind fun _ => trivial

theorem prompt_dropDeletionRequest (key : String) (r : Record) :
    (dropDeletionRequest key r).Prompt := by
  unfold dropDeletionRequest
  split
  · exact (Record.prompt_revise key _).bind fun _ => (prompt_emit _).bind fun _ => trivial
  · trivial

theorem prompt_endWait (key : String) (r : Record) : (endWait key r).Prompt := by
  unfold endWait
  split
  · exact (Record.prompt_revise key _).bind fun _ => (prompt_emit _).bind fun _ => trivial
  · trivial

/-- What a removal does once the image is out of the catalogs. -/
def takeAway (key : String) (r : Record) : Program Outcome := do
  let revision ← Record.revise key
    (.when (fun r => !r.isReferenced && r.phase != some .deleted)
      fun r => { r with phase := some .deleted })
  let consumers := revision.before.consumers.length
  if 0 < consumers then
    Program.emit (.deletionBlocked r.name consumers)
    return .after .zero
  else
    let previous := revision.before.phase
    Program.emitIf (previous != some .deleted) (.stateChanged r.name previous .deleted)
    let _ ← Program.removeRecord r.name (some revision.after.version)
    Program.emit (.removed r.name)
    return .finished

theorem remove_eq (s : Setup) (key : String) (r : Record) :
    remove s key r =
      (startRemoval key >>= fun _ => clearCatalogs s key r >>= fun _ => takeAway key r) := rfl

theorem prompt_takeAway (key : String) (r : Record) : (takeAway key r).Prompt := by
  refine (Record.prompt_revise key _).bind fun v => ?_
  dsimp only
  split
  · exact (prompt_emit _).bind fun _ => trivial
  · exact (prompt_emitIf _ _).bind fun _ => (prompt_removeRecord _ _).bind fun _ =>
      (prompt_emit _).bind fun _ => trivial

end Pass

/-! ### Errands -/

/-- **Every errand but a pass is prompt.** -/
theorem Errand.prompt_program (s : Service) {e : Errand} (he : e.isPass = false) :
    (e.program s).Prompt := by
  cases e with
  | consumerAdded consumer image provider => exact Consumers.prompt_add _ _ _
  | consumerRemoved consumer image => exact Consumers.prompt_remove _ _
  | releaseAdded release => exact (prompt_ofExcept _).bind fun _ => Consumers.prompt_add _ _ _
  | releaseRemoved release => exact (prompt_ofExcept _).bind fun _ => Consumers.prompt_remove _ _
  | requestDeletion name => exact Pass.prompt_requestDeletion name
  | pass | passAll => cases he

end ImageCatalog
