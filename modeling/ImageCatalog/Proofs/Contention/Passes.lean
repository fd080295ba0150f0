import ImageCatalog.Proofs.Contention.Retries
import ImageCatalog.Proofs.Run.Prompt

/-!
# Conflicts in a pass

Each part of a pass bears with conflicts like the calls about consumers do, but for one write: the
removal of the record at the end is not tried again. It is of the version that the pass has just
left, and if another one writes the record in between, the conflict is what the pass fails with.

## Main definitions

* `Refused` — the removal of a record met a conflict
* `Errand.Ends` — how errands end with regard to conflicts

## Main results

* `Pass.copes_run` — a conflict is what a pass fails with only if its removal was refused
* `Errand.copes` — every errand ends as `Errand.Ends` says
-/

namespace ImageCatalog

open Program

namespace Pass

theorem bears_requestDeletion (key : String) : (requestDeletion key).Bears := by
  refine bears_now.bind fun _ => Bears.bind (Record.bears_revise ?_) fun _ => bears_emit _
  exact Edit.tame_when fun _ => rfl

namespace Job

theorem plain_settle {α : Type} (operation : String) (limit : Duration) {x : Attempt α}
    (hx : ∀ y, x = .finished y → Plain y) : Plain (settle operation limit x) := by
  cases x with
  | finished y => exact hx y rfl
  | timedOut => exact plain_error nofun
  | interrupted => exact plain_error nofun

/-- No call on a provider has to do with the store, or fails with a conflict. -/
theorem copes_lookUp (job : Job) (location : String) {last : Option Operation}
    (hlast : Clear last) :
    (job.lookUp location).Copes (Ends fun x last => Plain x ∧ Clear last) last :=
  .idle rfl fun x hx => ⟨plain_settle _ _ fun y hy => by subst hy; exact hx, hlast⟩

theorem copes_upload (job : Job) (location url : String) {last : Option Operation}
    (hlast : Clear last) :
    (job.upload location url).Copes (Ends fun x last => Plain x ∧ Clear last) last :=
  .idle rfl fun x hx => ⟨plain_settle _ _ fun y hy => by subst hy; exact hx, hlast⟩

theorem copes_withdraw (job : Job) (location : String) {last : Option Operation}
    (hlast : Clear last) :
    (job.withdraw location).Copes (Ends fun x last => Plain x ∧ Clear last) last :=
  .idle rfl fun x hx => ⟨plain_settle _ _ fun y hy => by subst hy; exact hx, hlast⟩

theorem bears_giveUp {α : Type} (job : Job) {e : Failure} (he : e.kind ≠ .conflict) :
    (job.giveUp e : Program α).Bears := by
  unfold giveUp
  split
  · exact bears_fail he
  · exact (Record.bears_enter _ _).bind fun _ => bears_fail he

theorem bears_isReachable (url : String) : (isReachable url).Bears := by
  refine bears_idle rfl fun (x : Except Failure Bool) hx => ?_
  cases x with
  | ok reachable => exact bears_done reachable
  | error e =>
    show Bears (if e.isCancelled then .fail e else return false)
    split
    · exact bears_fail (hx e rfl)
    · exact bears_done false

theorem bears_fill (job : Job) (url location : String) : (job.fill url location).Bears := by
  refine (Record.bears_enter _ _).bind fun _ => (bears_emit _).bind fun _ last hlast => ?_
  refine (job.copes_upload location url hlast).seq fun x last ⟨hx, hlast⟩ => ?_
  cases x with
  | error e => exact job.bears_giveUp (hx e rfl) last hlast
  | ok _ => exact ((Record.bears_enter _ _).bind fun _ => bears_emit _) last hlast

theorem bears_placeAt (job : Job) (url location : String) : (job.placeAt url location).Bears := by
  intro last hlast
  refine (job.copes_lookUp location hlast).seq fun x last ⟨hx, hlast⟩ => ?_
  rcases x with e | _ | _
  · exact job.bears_giveUp (hx e rfl) last hlast
  · exact job.bears_fill url location last hlast
  · exact ((Record.bears_enter _ _).bind fun _ => bears_emit _) last hlast

theorem bears_place (job : Job) (url : String) (locations : List Location) :
    (job.place url locations).Bears := by
  induction locations with
  | nil => exact bears_done _
  | cons location rest ih =>
    refine (bears_isReachable url).bind fun reachable => ?_
    cases reachable with
    | true => exact (job.bears_placeAt url location.name).bind fun _ => ih
    | false =>
      exact (Record.bears_enter _ _).bind fun _ => (bears_emit _).bind fun _ => bears_done _

theorem bears_clear (job : Job) (locations : List Location) : (job.clear locations).Bears := by
  induction locations with
  | nil => exact bears_done _
  | cons location rest ih =>
    refine (Record.bears_enter _ _).bind fun _ last hlast => ?_
    refine (job.copes_withdraw location.name hlast).seq fun x last ⟨hx, hlast⟩ => ?_
    cases x with
    | ok _ => exact ih last hlast
    | error e =>
      show Copes _ (if e.isCancelled then .fail e else _) last
      split
      · exact bears_fail (hx e rfl) last hlast
      · exact ((bears_emit _).bind fun _ => ih.bind fun _ => bears_done _) last hlast

end Job

theorem bears_startRemoval (key : String) : (startRemoval key).Bears := by
  refine Bears.bind (Record.bears_revise ?_) fun _ => bears_emitIf _ _
  exact Edit.tame_when fun _ => rfl

theorem bears_clearCatalogs (s : Setup) (key : String) (r : Record) :
    (clearCatalogs s key r).Bears := by
  unfold clearCatalogs
  cases s.providers.get? r.spec.provider with
  | none => exact (bears_log _).bind fun _ => bears_emit _
  | some locations =>
    refine (Job.bears_clear _ locations).bind fun failed => ?_
    cases failed with
    | nil => exact bears_done ()
    | cons _ _ => exact (Record.bears_enter _ _).bind fun _ => bears_fail nofun

theorem copes_markForDeletion (key : String) (t : Instant) (last : Option Operation) :
    (markForDeletion key t).Copes (Ends (HeldIfAny key)) last := by
  have hedit : Edit.Tame (.when (fun r => !r.isReferenced && !r.isDeletionRequested)
      fun r => { r with deletion := some t }) := Edit.tame_when fun _ => rfl
  refine (Record.copes_revise hedit last).seq fun v last hv => ?_
  show Ends _ (.ok (if v.before.isReferenced then none else some v.after)) last
  split
  · exact heldIfAny_none hv.clear
  · exact hv.ifAny

theorem bears_startGracePeriod (key : String) (period : Duration) (t : Instant) :
    (startGracePeriod key period t).Bears := by
  refine Bears.bind (Record.bears_revise ?_) fun v => ?_
  · exact Edit.tame_when fun _ => rfl
  · split
    · exact bears_done false
    · exact (bears_emitIf _ _).bind fun _ => (bears_emit _).bind fun _ => bears_done true

theorem bears_endWait (key : String) (r : Record) : (endWait key r).Bears := by
  unfold endWait
  split
  · refine Bears.bind (Record.bears_revise ?_) fun _ => (bears_emit _).bind fun _ => bears_done _
    exact Edit.tame_when fun _ => rfl
  · exact bears_done r

theorem bears_dropDeletionRequest (key : String) (r : Record) :
    (dropDeletionRequest key r).Bears := by
  unfold dropDeletionRequest
  split
  · refine Bears.bind (Record.bears_revise ?_) fun _ => (bears_emit _).bind fun _ => bears_done _
    exact Edit.tame_when fun _ => rfl
  · exact bears_done r

theorem bears_place (s : Setup) (key : String) (r : Record) : (place s key r).Bears := by
  unfold place
  dsimp only
  split
  · exact (bears_log _).bind fun _ => (Record.bears_enter _ _).bind fun _ => bears_fail nofun
  · split
    · exact (Record.bears_enter _ _).bind fun _ => (bears_emit _).bind fun _ => bears_done _
    · refine (Job.bears_place _ _ _).bind fun placed => ?_
      cases placed <;> exact bears_done _

/-! ### Removal -/

end Pass

/-- The removal of a record was refused: it has another version than the one that was to go. -/
def Refused (key : String) (e : Failure) (last : Option Operation) : Prop :=
  ∃ version r l, e = .conflict key version r.version ∧ r.version ≠ version ∧
    last = some ⟨.removeRecord key (some version), .error e, l⟩ ∧ l.get? key = some r

namespace Pass

/-- How a pass ends: as its parts, or with its removal refused. -/
def Over (key : String) : Except Failure Outcome → Option Operation → Prop
  | .ok _, last => Clear last
  | .error e, last => Borne e last ∨ Refused key e last

theorem Over.of_ends {key : String} {x : Except Failure Outcome} {last : Option Operation}
    (h : Ends (fun _ => Clear) x last) : Over key x last := by
  cases x with
  | ok _ => exact h
  | error e => exact .inl h

end Pass

/-- A part of a pass after which others follow. -/
theorem Program.Copes.andOver {α : Type} {p : Program α} {f : α → Program Pass.Outcome}
    {key : String} {last : Option Operation} {P : α → Option Operation → Prop}
    (hp : p.Copes (Ends P) last) (hf : ∀ a last, P a last → (f a).Copes (Pass.Over key) last) :
    (p >>= f).Copes (Pass.Over key) last :=
  hp.andThen (fun _ _ h => .inl h) hf

namespace Pass

variable {s : Setup} {key : String} {r : Record} {last : Option Operation}

/-- **Nothing but the removal at the end of a pass lets a conflict out.** -/
theorem copes_takeAway (hr : r.name = key) : (takeAway key r).Copes (Over key) last := by
  have hedit : Edit.Tame (.when (fun r => !r.isReferenced && r.phase != some .deleted)
      fun r => { r with phase := some .deleted }) := Edit.tame_when fun _ => rfl
  refine (Record.copes_revise hedit last).andOver fun v last hv => ?_
  dsimp only
  split
  · exact (((bears_emit _).bind fun _ => bears_done _) last hv.clear).mono fun _ _ => Over.of_ends
  · refine .bind (.emitIf ?_)
    rw [hr]
    refine .bind ⟨?_, fun l t x l' _ ha _ => ?_⟩
    · obtain ⟨o, ho, hstored⟩ := hv.stored
      exact ⟨o, ho, _, hstored, rfl⟩
    · rcases ha with ha | ⟨⟨e, rfl, he⟩, rfl⟩
      · cases hq : l.get? key with
        | none =>
          obtain ⟨rfl, rfl⟩ := Prod.mk.inj (ha.trans (Ledger.remove_of_absent hq _))
          exact .idle rfl fun _ _ => clear_some.mpr id
        | some q =>
          by_cases hversion : q.version = v.after.version
          · rw [← hversion] at ha ⊢
            obtain ⟨rfl, rfl⟩ := Prod.mk.inj (ha.trans (Ledger.remove_of_version hq))
            exact .idle rfl fun _ _ => clear_some.mpr id
          · obtain ⟨rfl, rfl⟩ := Prod.mk.inj (ha.trans (Ledger.remove_of_stale hq hversion))
            exact .inr ⟨_, q, _, rfl, hversion, rfl, hq⟩
      · have hkind := Failure.ne_conflict_of_isOutage he
        exact .inl (.of_clear hkind (clear_some.mpr hkind))

theorem copes_remove (hr : r.name = key) (hlast : Clear last) :
    (remove s key r).Copes (Over key) last := by
  rw [remove_eq]
  refine (bears_startRemoval key last hlast).andOver fun _ last hlast => ?_
  exact (bears_clearCatalogs s key r last hlast).andOver fun _ _ _ => copes_takeAway hr

theorem copes_retainOrPlace (r : Record) (hlast : Clear last) :
    (retainOrPlace s key r).Copes (Over key) last := by
  have hplace : ∀ r last, Clear last → (place s key r).Copes (Over key) last := fun r last h =>
    (bears_place s key r last h).mono fun _ _ => Over.of_ends
  refine (bears_now last hlast).andOver fun now last hlast => ?_
  cases Retention.decide s.period r now with
  | notEligible =>
    exact (bears_endWait key r last hlast).andOver fun r => hplace r
  | deleteNow =>
    refine (copes_markForDeletion key now last).andOver fun marked last ⟨hlast, hheld⟩ => ?_
    cases marked with
    | none => exact hplace r last hlast
    | some marked =>
      exact (bears_log _ last hlast).andOver fun _ _ => copes_remove (hheld marked rfl).name
  | startGracePeriod requeue =>
    refine (bears_startGracePeriod key s.period now last hlast).andOver fun started last hlast => ?_
    cases started with
    | true => exact hlast
    | false => exact hplace r last hlast
  | wait remaining =>
    exact ((bears_emit _).bind fun _ => bears_done _ : Bears _) last hlast |>.mono
      fun _ _ => Over.of_ends

/-- **A conflict is what a pass fails with only if its removal was refused**, whatever went before
it. -/
theorem copes_run (s : Setup) (key : String) (last : Option Operation) :
    (run s key).Copes (Over key) last := by
  refine (copes_readRecord key last).andOver fun r? last ⟨hlast, hheld⟩ => ?_
  cases r? with
  | none => exact hlast
  | some r =>
    dsimp only
    split
    · exact copes_remove (hheld r rfl).name hlast
    · exact (bears_dropDeletionRequest key r last hlast).andOver fun r _ => copes_retainOrPlace r

/-- What fails a pass over one of many records stays in the report. -/
theorem copes_runEach (s : Setup) (report : Report) (rs : List Record) (last : Option Operation) :
    (runEach s report rs).Copes (fun x _ => Plain x) last := by
  induction rs generalizing report last with
  | nil => exact plain_ok report
  | cons r rest ih =>
    refine .bind (.idle rfl fun (interrupted : Bool) _ => ?_)
    cases interrupted with
    | true => exact plain_ok report
    | false =>
      show Copes _ ((run s r.name).attempt >>= _) last
      refine .bind ((copes_run s r.name last).attempt.mono ?_)
      rintro x last ⟨y, rfl, _⟩
      cases y with
      | ok outcome => exact ih _ last
      | error e => exact .idle rfl fun _ _ => ih _ last

theorem copes_runAll (s : Setup) (last : Option Operation) :
    (runAll s).Copes (fun x _ => Plain x) last := by
  refine ⟨trivial, fun l t x l' _ ha _ => ?_⟩
  rcases ha with ha | ⟨⟨e, rfl, he⟩, rfl⟩
  · obtain ⟨rfl, rfl⟩ := Prod.mk.inj ha
    exact copes_runEach s .empty l'.list _
  · exact plain_error (Failure.ne_conflict_of_isOutage he)

end Pass

/-! ### Errands -/

namespace Errand

/-- How an errand ends. A pass over each record keeps to itself what becomes of each. -/
def Ends : (e : Errand) → Except Failure e.Result → Option Operation → Prop
  | pass key => Pass.Over key
  | passAll => fun x _ => Plain x
  | _ => ImageCatalog.Ends fun _ => Clear

/-- **Every errand ends so, whatever happens between its operations.** -/
theorem copes (s : Service) (e : Errand) : (e.program s).Copes e.Ends none := by
  cases e with
  | consumerAdded consumer image provider => exact Consumers.bears_add _ _ _ none clear_none
  | consumerRemoved consumer image => exact Consumers.bears_remove _ _ none clear_none
  | releaseAdded release =>
    exact ((bears_ofExcept (release.plain_request s.channel)).bind
      fun _ => Consumers.bears_add _ _ _) none clear_none
  | releaseRemoved release =>
    exact ((bears_ofExcept (release.plain_request s.channel)).bind
      fun _ => Consumers.bears_remove _ _) none clear_none
  | requestDeletion name => exact Pass.bears_requestDeletion name none clear_none
  | pass name => exact Pass.copes_run s.setup name none
  | passAll => exact Pass.copes_runAll s.setup none

end Errand

end ImageCatalog
