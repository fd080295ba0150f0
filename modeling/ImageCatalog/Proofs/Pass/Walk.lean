import ImageCatalog.Proofs.Pass.Course
import ImageCatalog.Service

/-!
# Passes keep to their course

A pass is walked through once, for all courses. What does not belong to the placement is taken
first: the sweep of the catalogs, the removal, and what retention decides. The placement comes last,
so that an invariant may deal with it in its own way.

## Main results

* `Retirement.triple_clear` — a sweep over any number of locations keeps `sweep`
* `Retirement.triple_remove` — the sweep and the removal
* `Retirement.triple_run_of_place` — a pass over one record, for any placement
* `Course.triple_run`, `Outline.triple_run` — a pass over one record
* `Role.triple_giveUp`, `Role.triple_isReachable` — parts of a placement, for any invariant
* `triple_runAll` — a round of passes
-/

namespace ImageCatalog

/-! ### What retention decides -/

namespace Retention

variable {period d : Duration} {r : Record} {t : Instant}

theorem isReferenced_of_deleteNow (h : decide period r t = .deleteNow) :
    r.isReferenced = false := by
  by_cases hr : r.isReferenced
  · simp [decide, hr] at h
  · simpa using hr

theorem isReferenced_of_startGracePeriod (h : decide period r t = .startGracePeriod d) :
    r.isReferenced = false := by
  by_cases hr : r.isReferenced
  · simp [decide, hr] at h
  · simpa using hr

/-- The period starts only if there is one. -/
theorem pos_of_startGracePeriod (h : decide period r t = .startGracePeriod d) :
    0 < period.nanos := by
  unfold decide at h
  rw [isReferenced_of_startGracePeriod h, if_neg Bool.false_ne_true] at h
  split at h
  · cases h
  · by_cases hzero : period.isZero
    · rw [if_pos hzero] at h
      cases h
    · have hne : period.nanos ≠ 0 := by simpa [Duration.isZero] using hzero
      omega

/-- Retention leaves two kinds of records to the placement. -/
theorem of_notEligible (h : decide period r t = .notEligible) :
    r.isReferenced ∨ r.phase = none := by
  by_cases hr : r.isReferenced
  · exact .inl hr
  · right
    unfold decide at h
    rw [if_neg hr] at h
    split at h
    · assumption
    · split at h
      · cases h
      · split at h
        · split at h <;> cases h
        · cases h

end Retention

/-! ### Phases -/

/-- A phase is entered, and reported if it is a new one. -/
theorem Role.triple_enter {R : Role} {P Q E : Stage → Prop} {key : String} (phase : Phase)
    (hP : R.Still P) (hQ : R.Still Q)
    (hnamed : ∀ σ r, P σ → σ.record? key = some r → r.name = key)
    (hE : ∀ σ, P σ → σ.record? key = none ∨ ¬ R.regime.Reliable → E σ)
    (hkept : ∀ σ r, P σ → σ.record? key = some r → r.phase = some phase → Q σ)
    (hwritten : ∀ σ r, P σ → σ.record? key = some r → r.phase ≠ some phase →
      R.Writes Q { r with phase := some phase } [.stateChanged key r.phase phase] σ) :
    R.Triple P (Record.enter key phase) (fun _ => Q) E := by
  refine Triple.bind (triple_edit (Q := fun _ => Q) (fun r => Event.entered key r.phase phase) hP
    (fun _ => hQ) hnamed (fun _ => ⟨rfl, rfl⟩) hE ?_ ?_) fun v => ?_
  · intro σ r hσ hr hn
    have hphase : r.phase = some phase := by simpa using hn
    rw [hphase, Event.entered_self]
    exact hkept σ r hσ hr hphase
  · intro σ r hσ hr hn
    have hphase : r.phase ≠ some phase := by simpa using hn
    rw [Event.entered_of_ne hphase]
    exact hwritten σ r hσ hr hphase
  · intro σ hσ
    rw [hσ.2.written_eq]
    exact triple_emitIf_last hQ _ _ σ (hσ.1.mono fun _ h => h.1)

/-! ### Parts of a placement -/

/-- A placement is given up: at once if the work was interrupted, and else with an error. -/
theorem Role.triple_giveUp {R : Role} {P E : Stage → Prop} {α : Type} {job : Pass.Job} {f : Failure}
    {Q : α → Stage → Prop} (hcut : ∀ σ, P σ → f.isCancelled → E σ)
    (herror : R.Triple P (Record.enter job.record .error) (fun _ => E) E) :
    R.Triple P (job.giveUp f) Q E := by
  unfold Pass.Job.giveUp
  by_cases hf : f.isCancelled
  · simp only [hf, if_true]
    exact Triple.fail fun σ hσ => hcut σ hσ hf
  · simp only [hf, Bool.false_eq_true, if_false]
    exact herror.bind fun _ => Triple.fail fun _ hσ => hσ

/-- A probe that fails counts as one that has not found the artifact, unless the work was
interrupted. -/
theorem Role.triple_isReachable {R : Role} {P Q E : Stage → Prop} {url : String}
    {T : Except Failure Bool → Stage → Prop}
    (hprobe : R.Triple P (Program.request (.probe url)) T E)
    (hcut : ∀ f σ, T (.error f) σ → f.isCancelled → E σ) (hgo : ∀ x σ, T x σ → Q σ) :
    R.Triple P (Pass.Job.isReachable url) (fun _ => Q) E := by
  refine hprobe.bind fun x => ?_
  rcases x with f | reachable
  · by_cases hf : f.isCancelled
    · simp only [hf, if_true]
      exact Triple.fail fun σ hσ => hcut f σ hσ hf
    · simp only [hf, Bool.false_eq_true, if_false]
      exact Triple.done fun σ hσ => hgo _ σ hσ
  · exact Triple.done fun σ hσ => hgo _ σ hσ

namespace Retirement

variable {R : Role} {period : Duration} {key : String} {fresh home : Stage → Prop}
  (o : Retirement R period key fresh home)

theorem base_of_sweep {spec : Spec} {σ : Stage} (h : o.sweep spec σ) : o.base σ :=
  o.base_of_placing (o.placing_of_sweep h)

theorem triple_enter_sweep (spec : Spec) :
    R.Triple (o.sweep spec) (Record.enter key .deleting) (fun _ => o.sweep spec) o.base :=
  Role.triple_enter .deleting (o.still_sweep spec) (o.still_sweep spec)
    (fun _ _ hσ hr => o.named (o.base_of_sweep hσ) hr) (fun _ hσ _ => o.base_of_sweep hσ)
    (fun _ _ hσ _ _ => hσ) fun _ _ hσ hr hphase => o.enter_sweep hσ hr hphase

theorem triple_error :
    R.Triple o.placing (Record.enter key .error) (fun _ => o.placing) o.base :=
  Role.triple_enter .error o.still_placing o.still_placing
    (fun _ _ hσ hr => o.named (o.base_of_placing hσ) hr) (fun _ hσ _ => o.base_of_placing hσ)
    (fun _ _ hσ _ _ => hσ) fun _ _ hσ hr hphase => o.error hσ hr hphase

theorem triple_withdraw (spec : Spec) (location : String) {E : Stage → Prop} :
    R.Triple (o.sweep spec) (Pass.Job.withdraw ⟨key, spec.provider, spec.image⟩ location)
      (fun _ => o.sweep spec) E := by
  let call : CatalogCall := ⟨key, spec.provider, location, spec.image, Pass.callLimit⟩
  -- While the withdrawal is under way, visitors work on the stage at which it was issued.
  let underWay (σ' : Stage) : Prop := ∃ σ t, o.sweep spec σ ∧ R.regime.tick σ.clock t ∧
    R.contract.may (σ.after (.issued R.errand (.withdraw call)) σ.ledger t) σ'
  have hsweep : ∀ σ, underWay σ → o.sweep spec σ := by
    rintro σ' ⟨σ, t, hσ, ht, hm⟩
    exact o.withdraw hσ rfl rfl rfl ht hm
  have hwait : R.Triple (o.sweep spec) (Program.request (.withdraw call))
      (fun _ => o.sweep spec) E := by
    refine Role.triple_wait rfl o.alone (fun σ t hσ ht => ⟨σ, t, hσ, ht, R.contract.may_refl _⟩)
      (fun σ hσ => o.lull_of_placing (o.placing_of_sweep (hsweep σ hσ))) ?_
      (fun _ _ hσ => (o.still_sweep spec).during _ hσ)
      fun σ _ _ hσ ht _ => o.withdrawn (hsweep σ hσ) rfl rfl ht
    rintro σ₁ σ₂ ⟨σ, t, hσ, ht, hm⟩ hm'
    exact ⟨σ, t, hσ, ht, R.contract.may_trans hm hm'⟩
  exact hwait.bind fun _ => Role.Triple.done fun _ hσ => hσ

/-! ### The sweep -/

/-- **A sweep keeps its assertion, over any number of locations.** -/
theorem triple_clear (spec : Spec) (locations : List Location) :
    R.Triple (o.sweep spec) (Pass.Job.clear ⟨key, spec.provider, spec.image⟩ locations)
      (fun _ => o.sweep spec) o.base := by
  induction locations with
  | nil => exact Role.Triple.done fun _ hσ => hσ
  | cons location rest ih =>
    refine (o.triple_enter_sweep spec).bind fun _ => ?_
    refine (o.triple_withdraw spec location.name).bind fun x => ?_
    rcases x with e | _
    · by_cases he : e.isCancelled
      · simp only [he, if_true]
        exact Role.Triple.fail fun _ hσ => o.base_of_sweep hσ
      · simp only [he, Bool.false_eq_true, if_false]
        refine ((o.still_sweep spec).emit _ rfl).bind fun _ => ?_
        exact ih.bind fun _ => Role.Triple.done fun _ hσ => hσ
    · exact ih

theorem triple_clearCatalogs {s : Pass.Setup} {r : Record} :
    R.Triple (o.sweep r.spec) (Pass.clearCatalogs s key r) (fun _ => o.sweep r.spec) o.base := by
  unfold Pass.clearCatalogs
  cases s.providers.get? r.spec.provider with
  | some locations =>
    refine (o.triple_clear r.spec locations).bind fun failed => ?_
    cases failed with
    | nil => exact Role.Triple.done fun _ hσ => hσ
    | cons _ _ =>
      refine (o.triple_error.weaken (fun _ hσ => o.placing_of_sweep hσ) (fun _ _ hσ => hσ)
        fun _ hσ => hσ).bind fun _ => ?_
      exact Role.Triple.fail fun _ hσ => o.base_of_placing hσ
  | none =>
    exact ((o.still_sweep r.spec).log _).bind fun _ => (o.still_sweep r.spec).emit _ rfl

theorem triple_startRemoval {r : Record} (hreq : r.isDeletionRequested)
    (hfree : r.isReferenced = false) :
    R.Triple (fun σ => o.base σ ∧ σ.record? key = some r) (Pass.startRemoval key)
      (fun _ => o.sweep r.spec) o.base := by
  refine Role.Triple.bind (Role.triple_edit (Q := fun _ => o.sweep r.spec)
    (fun r => Event.entered key r.phase .deleting)
    (o.still_base.and_record? key (some r)) (fun _ => o.still_sweep r.spec)
    (fun _ _ hσ hr => o.named hσ.1 hr) (fun _ => ⟨rfl, rfl⟩) (fun _ hσ _ => hσ.1) ?_ ?_) fun v => ?_
  · intro σ r' hσ hr' hn
    obtain rfl := Option.some.inj (hσ.2.symm.trans hr')
    have hphase : r.phase = some .deleting := by
      have hn' : r.hasStamp = false ∧ r.phase = some .deleting := by simpa using hn
      exact hn'.2
    rw [hphase, Event.entered_self]
    exact o.started hσ.1 hσ.2 hreq hfree hn
  · intro σ r' hσ hr' hn
    obtain rfl := Option.some.inj (hσ.2.symm.trans hr')
    exact o.start hσ.1 hσ.2 hreq hfree hn
  · intro σ hσ
    exact Role.triple_emitIf_last (o.still_sweep r.spec) _ _ σ (hσ.1.mono fun _ h => h.1)

/-- What holds after the last look at the consumers: nobody has come, and the record is to be
removed, or somebody has. -/
def parting (spec : Spec) (r : Record) : Stage → Prop :=
  if r.isReferenced then o.sweep spec else o.leaving spec

theorem still_parting (spec : Spec) (r : Record) : R.Still (o.parting spec r) := by
  unfold parting
  split
  · exact o.still_sweep spec
  · exact o.still_leaving spec

theorem triple_leave (spec : Spec) :
    R.Triple (o.sweep spec)
      (Record.revise key (.when (fun r => !r.isReferenced && r.phase != some .deleted)
        fun r => { r with phase := some .deleted }))
      (fun v σ => R.Owes (fun σ => o.parting spec v.before σ ∧ σ.record? key = some v.after)
        (if v.before.isReferenced then [] else Event.entered key v.before.phase .deleted) σ ∧
          v.Of (fun r => !r.isReferenced && r.phase != some .deleted)
            fun r => { r with phase := some .deleted }) o.base := by
  refine Role.triple_edit
    (fun r => if r.isReferenced then [] else Event.entered key r.phase .deleted)
    (o.still_sweep spec) (o.still_parting spec)
    (fun _ _ hσ hr => o.named (o.base_of_sweep hσ) hr) (fun _ => ⟨rfl, rfl⟩)
    (fun _ hσ _ => o.base_of_sweep hσ) ?_ ?_
  · intro σ r hσ hr hn
    by_cases href : r.isReferenced
    · simp only [parting, href, if_true]
      exact hσ
    · have hphase : r.phase = some .deleted := by simpa [href] using hn
      simp only [parting, href, hphase, Event.entered_self]
      exact o.left hσ hr (by simpa using href) hphase
  · intro σ r hσ hr hn
    obtain ⟨hfree, hphase⟩ : r.isReferenced = false ∧ r.phase ≠ some .deleted := by
      simpa using hn
    simp only [parting, hfree, Event.entered_of_ne hphase]
    exact o.leave hσ hr hfree hphase

/-- The record is removed if no consumer was added meanwhile. The version that is given is the one
that was stored right before. -/
theorem triple_removeRecord {spec : Spec} {r : Record} (hr : r.isReferenced = false) :
    R.Triple (fun σ => o.leaving spec σ ∧ σ.record? key = some r)
      (Program.removeRecord key (some r.version)) (fun _ => R.Owes o.base [.removed key])
      o.base := by
  refine Role.Triple.ask rfl fun σ t x l hσ ht ha => ?_
  have hstored : σ.ledger.get? key = some r := hσ.2
  rcases ha with ha | ⟨⟨reason, rfl, hout⟩, rfl⟩
  · obtain ⟨rfl, rfl⟩ := Prod.mk.inj (ha.trans (Ledger.remove_of_version hstored))
    have hnext := o.removed hσ.1 hσ.2 hr ht
    exact ⟨(o.still_base.owes _).during _ hnext, hnext⟩
  · have hnext := o.stuck (v := some r.version) hσ.1 hout ht
    exact ⟨o.still_base.during _ hnext, hnext⟩

/-- **The sweep and the removal.** -/
theorem triple_remove {s : Pass.Setup} {r : Record} (hname : r.name = key)
    (hreq : r.isDeletionRequested) (hfree : r.isReferenced = false) :
    R.Triple (fun σ => o.base σ ∧ σ.record? key = some r) (Pass.remove s key r)
      (fun _ => o.base) o.base := by
  refine (o.triple_startRemoval hreq hfree).bind fun _ => ?_
  refine o.triple_clearCatalogs.bind fun _ => ?_
  refine (o.triple_leave r.spec).bind fun v => ?_
  rw [hname]
  intro σ hσ
  obtain ⟨howed, hof⟩ := hσ
  by_cases hc : 0 < v.before.consumers.length
  · have href : v.before.isReferenced = true := by
      cases hl : v.before.consumers <;> simp_all [Record.isReferenced]
    simp only [hc, if_true]
    simp only [parting, href, if_true] at howed
    exact Role.Triple.bind (E := o.base) ((o.still_sweep r.spec).emit _ rfl)
      (fun _ => Role.Triple.done fun _ hσ => o.base_of_sweep hσ) σ howed.1
  · have href : v.before.isReferenced = false := by
      have hnil : v.before.consumers = [] := List.eq_nil_of_length_eq_zero (by omega)
      simp [Record.isReferenced, hnil]
    have hafter : v.after.isReferenced = false := by cases hof <;> exact href
    simp only [hc, if_false]
    simp only [parting, href, Bool.false_eq_true, if_false] at howed
    have hstill := (o.still_leaving r.spec).and_record? key (some v.after)
    refine Role.Triple.bind (Role.triple_emitIf_last hstill _ _) (fun _ => ?_) σ howed
    refine (o.triple_removeRecord hafter).bind fun _ => ?_
    exact (Role.triple_emit o.still_base _ []).bind fun _ => Role.Triple.done fun _ hσ => hσ

/-! ### Retention -/

theorem triple_dropDeletionRequest {r : Record} :
    R.Triple (fun σ => o.opened σ ∧ σ.record? key = some r) (Pass.dropDeletionRequest key r)
      (fun r' σ => o.opened σ ∧ σ.record? key = some r') o.base := by
  unfold Pass.dropDeletionRequest
  by_cases hr : r.isDeletionRequested
  · simp only [hr, if_true]
    refine Role.Triple.bind (Role.triple_edit (Q := fun _ => o.opened) (fun _ => [])
      (o.still_opened.and_record? key (some r)) (fun _ => o.still_opened)
      (fun _ _ hσ hr => o.named (o.base_of_opened hσ.1) hr) (fun _ => ⟨rfl, rfl⟩)
      (fun _ hσ _ => o.base_of_opened hσ.1) (fun _ _ hσ _ _ => hσ.1)
      fun _ _ hσ hr _ => o.drop hσ.1 hr) fun v => ?_
    refine Role.Triple.bind (Q := fun _ σ => o.opened σ ∧ σ.record? key = some v.after) ?_ fun _ =>
      Role.Triple.done fun _ hσ => hσ
    exact ((o.still_opened.and_record? key (some v.after)).emit _ rfl).weaken
      (fun _ hσ => hσ.1) (fun _ _ hσ => hσ) fun _ hσ => hσ
  · simp only [hr, Bool.false_eq_true, if_false]
    exact Role.Triple.done fun _ hσ => hσ

theorem triple_endWait {r : Record} {t : Instant} (h : r.isReferenced ∨ r.phase = none) :
    R.Triple (fun σ => o.looked t σ ∧ σ.record? key = some r) (Pass.endWait key r)
      (fun r' σ => o.placing σ ∧ σ.record? key = some r') o.base := by
  unfold Pass.endWait
  by_cases hr : (r.isReferenced && r.phase == some .awaitingDeletion) = true
  · rw [if_pos hr]
    obtain ⟨href, hphase⟩ : r.isReferenced = true ∧ r.phase = some .awaitingDeletion := by
      simpa using hr
    refine Role.Triple.bind (Role.triple_edit (Q := fun _ => o.placing) (fun _ => [])
      ((o.still_looked t).and_record? key (some r)) (fun _ => o.still_placing)
      (fun _ _ hσ hr => o.named (o.base_of_looked hσ.1) hr) (fun _ => ⟨rfl, rfl⟩)
      (fun _ hσ _ => o.base_of_looked hσ.1) ?_ ?_) fun v => ?_
    · intro σ r' hσ hr' hn
      obtain rfl := Option.some.inj (hσ.2.symm.trans hr')
      simp [Record.isRevivable, hphase] at hn
    · intro σ r' hσ hr' _
      obtain rfl := Option.some.inj (hσ.2.symm.trans hr')
      exact o.endWait hσ.1 hσ.2 href hphase
    · have hstill := o.still_placing.and_record? key (some v.after)
      refine Role.Triple.bind (Q := fun _ σ => o.placing σ ∧ σ.record? key = some v.after) ?_
        fun _ => Role.Triple.done fun _ hσ => hσ
      exact (hstill.emit _ rfl).weaken (fun _ hσ => hσ.1) (fun _ _ hσ => hσ) fun _ hσ => hσ
  · rw [if_neg hr]
    exact Role.Triple.done fun _ hσ => ⟨o.place (o.base_of_looked hσ.1) hσ.2 h, hσ.2⟩

/-- Between the reading of the time and the write nothing lands, so that the record that is marked
is the one that retention has decided on. -/
theorem triple_markForDeletion {r : Record} {t : Instant}
    (hd : Retention.decide period r t = .deleteNow) :
    R.Triple (fun σ => o.looked t σ ∧ σ.record? key = some r) (Pass.markForDeletion key t)
      (fun x σ => ∃ r', x = some r' ∧ (o.base σ ∧ σ.record? key = some r') ∧ r'.name = key ∧
        r'.isDeletionRequested ∧ r'.isReferenced = false) o.base := by
  have hfree := Retention.isReferenced_of_deleteNow hd
  refine Role.Triple.bind (Role.triple_edit (Q := fun r' σ => o.base σ ∧ r' = r) (fun _ => [])
    ((o.still_looked t).and_record? key (some r)) (fun r' => o.still_base.and_fact (r' = r))
    (fun _ _ hσ hr => o.named (o.base_of_looked hσ.1) hr) (fun _ => ⟨rfl, rfl⟩)
    (fun _ hσ _ => o.base_of_looked hσ.1) ?_ ?_) fun v => ?_
  · intro σ r' hσ hr' _
    exact ⟨o.base_of_looked hσ.1, Option.some.inj (hr'.symm.trans hσ.2)⟩
  · intro σ r' hσ hr' _
    obtain rfl := Option.some.inj (hσ.2.symm.trans hr')
    exact fun t' ht => (o.mark hσ.1 hσ.2 hd t' ht).mono fun _ h => ⟨h, rfl⟩
  · rintro σ ⟨⟨⟨hbase, hbefore⟩, hstored⟩, hof⟩
    obtain ⟨before, after, written⟩ := v
    obtain rfl : before = r := hbefore
    simp only [hfree, Bool.false_eq_true, if_false]
    refine ⟨after, rfl, ⟨hbase, hstored⟩, o.named hbase hstored, ?_, ?_⟩
    · cases hof with
      | kept hn => simpa [hfree] using hn
      | written _ => rfl
    · cases hof <;> exact hfree

theorem triple_startGracePeriod {r : Record} {t : Instant} {d : Duration}
    (hd : Retention.decide period r t = .startGracePeriod d) :
    R.Triple (fun σ => o.looked t σ ∧ σ.record? key = some r)
      (Pass.startGracePeriod key period t)
      (fun started σ => started = true ∧ o.base σ) o.base := by
  have hfree := Retention.isReferenced_of_startGracePeriod hd
  refine Role.Triple.bind (Role.triple_edit (Q := fun r' σ => o.base σ ∧ r' = r)
    (fun r => if r.isReferenced then [] else Event.entered key r.phase .awaitingDeletion)
    ((o.still_looked t).and_record? key (some r)) (fun r' => o.still_base.and_fact (r' = r))
    (fun _ _ hσ hr => o.named (o.base_of_looked hσ.1) hr) (fun _ => ⟨rfl, rfl⟩)
    (fun _ hσ _ => o.base_of_looked hσ.1) ?_ ?_) fun v => ?_
  · intro σ r' hσ hr' hn
    obtain rfl := Option.some.inj (hσ.2.symm.trans hr')
    simp [hfree] at hn
  · intro σ r' hσ hr' _
    obtain rfl := Option.some.inj (hσ.2.symm.trans hr')
    rw [if_neg (by simp [hfree])]
    exact fun t' ht => (o.stamp hσ.1 hσ.2 hd t' ht).mono fun _ h => ⟨h, rfl⟩
  · by_cases hr : v.before.isReferenced
    · rintro σ ⟨howed, -⟩
      simp only [hr, if_true] at howed
      obtain ⟨⟨-, hbefore⟩, -⟩ := howed
      rw [hbefore, hfree] at hr
      cases hr
    · simp only [hr, Bool.false_eq_true, if_false]
      refine Role.Triple.bind (Q := fun _ => o.base) ?_ fun _ => ?_
      · exact (Role.triple_emitIf_last o.still_base _ _).weaken
          (fun _ hσ => hσ.1.mono fun _ h => h.1.1) (fun _ _ hσ => hσ) fun _ hσ => hσ
      · exact (o.still_base.emit _ rfl).bind fun _ => Role.Triple.done fun _ hσ => ⟨rfl, hσ⟩

theorem triple_retainOrPlace {s : Pass.Setup} {r : Record} (hp : s.period = period)
    (hplace : ∀ r, R.Triple (fun σ => o.placing σ ∧ σ.record? key = some r) (Pass.place s key r)
      (fun _ => o.base) o.base) :
    R.Triple (fun σ => o.opened σ ∧ σ.record? key = some r) (Pass.retainOrPlace s key r)
      (fun _ => o.base) o.base := by
  refine (Role.triple_now (Q := fun t σ => o.looked t σ ∧ σ.record? key = some r)
    (fun t σ hσ => (o.still_looked t).during σ hσ.1)
    (fun σ t hσ ht => ⟨o.now hσ.1 ht, hσ.2⟩)).bind fun t => ?_
  rw [hp]
  rcases hd : Retention.decide period r t with _ | _ | d | d
  · exact (o.triple_endWait (Retention.of_notEligible hd)).bind hplace
  · refine (o.triple_markForDeletion hd).bind fun marked => ?_
    rintro σ ⟨r', rfl, hbase, hname, hreq, hfree⟩
    refine Role.Triple.bind ((o.still_base.and_record? key (some r')).log _) (fun _ => ?_) σ hbase
    exact o.triple_remove hname hreq hfree
  · refine (o.triple_startGracePeriod hd).bind fun started => ?_
    rintro σ ⟨rfl, hσ⟩
    exact hσ
  · refine Role.Triple.bind (Q := fun _ => o.base) ?_ fun _ => Role.Triple.done fun _ hσ => hσ
    exact (o.still_base.emit _ rfl).weaken (fun _ hσ => o.base_of_looked hσ.1) (fun _ _ hσ => hσ)
      fun _ hσ => hσ

/-! ### Passes -/

include o in
/-- **A pass over one record**, if the placement leads from `placing` to `base`. -/
theorem triple_run_of_place {s : Pass.Setup} (hp : s.period = period)
    (hplace : ∀ r, R.Triple (fun σ => o.placing σ ∧ σ.record? key = some r) (Pass.place s key r)
      (fun _ => o.base) o.base) :
    R.Triple fresh (Pass.run s key) (fun _ => home) home := by
  have hread : R.Triple fresh (Program.readRecord key)
      (fun x σ => o.opened σ ∧ σ.record? key = x) o.base := by
    refine Role.Triple.ask rfl fun σ t x l hσ ht ha => ?_
    obtain rfl := ha.ledger_eq rfl
    have hnext := o.read x hσ ht
    refine ⟨o.still_opened.during _ hnext, ?_⟩
    rcases ha with ha | ⟨⟨reason, rfl, _⟩, _⟩
    · obtain ⟨rfl, _⟩ := Prod.mk.inj ha
      exact ⟨hnext, rfl⟩
    · exact o.base_of_opened hnext
  refine Role.Triple.weaken (hread.bind (T := fun _ => o.base) fun x => ?_) (fun _ hσ => hσ)
    (fun _ _ hσ => o.home_of_base hσ) fun _ hσ => o.home_of_base hσ
  cases x with
  | none => exact Role.Triple.done fun _ hσ => o.base_of_opened hσ.1
  | some r =>
    by_cases hr : (r.isDeletionRequested && !r.isReferenced) = true
    · simp only [hr, if_true]
      intro σ hσ
      obtain ⟨hreq, hfree⟩ : r.isDeletionRequested = true ∧ r.isReferenced = false := by
        simpa using hr
      have hbase := o.base_of_opened hσ.1
      exact o.triple_remove (o.named hbase hσ.2) hreq hfree σ ⟨hbase, hσ.2⟩
    · simp only [hr, Bool.false_eq_true, if_false]
      exact o.triple_dropDeletionRequest.bind fun r' => o.triple_retainOrPlace hp hplace

end Retirement

namespace Course

variable {R : Role} {period : Duration} {key : String} {fresh home : Stage → Prop}
  (o : Course R period key fresh home)

/-! ### Requests that wait -/

/-- A probe, a look-up or an upload. -/
theorem triple_wait {r : Request} (hr : r.waits) (hw : ∀ call, r ≠ .withdraw call)
    {E : Stage → Prop} : R.Triple o.placing (Program.request r) (fun _ => o.placing) E :=
  Role.triple_wait hr o.alone (fun _ _ hσ ht => o.issue hσ hw ht)
    (fun _ hσ => o.lull_of_placing hσ) (fun _ _ hσ hm => o.visits hσ hm)
    (fun _ _ hσ => o.still_placing.during _ hσ) fun _ _ _ hσ ht _ => o.answered hσ hr ht

theorem triple_lookUp (spec : Spec) (location : String) {E : Stage → Prop} :
    R.Triple o.placing (Pass.Job.lookUp ⟨key, spec.provider, spec.image⟩ location)
      (fun _ => o.placing) E :=
  (o.triple_wait rfl (by simp)).bind fun _ => Role.Triple.done fun _ hσ => hσ

theorem triple_upload (spec : Spec) (location url : String) {E : Stage → Prop} :
    R.Triple o.placing (Pass.Job.upload ⟨key, spec.provider, spec.image⟩ location url)
      (fun _ => o.placing) E :=
  (o.triple_wait rfl (by simp)).bind fun _ => Role.Triple.done fun _ hσ => hσ

theorem triple_enter (phase : Phase) (hpending : phase ≠ .pending)
    (hwaits : phase ≠ .awaitingDeletion) (hdeleted : phase ≠ .deleted) :
    R.Triple o.placing (Record.enter key phase) (fun _ => o.placing) o.base :=
  Role.triple_enter phase o.still_placing o.still_placing
    (fun _ _ hσ hr => o.named (o.base_of_placing hσ) hr) (fun _ hσ _ => o.base_of_placing hσ)
    (fun _ _ hσ _ _ => hσ) fun _ _ hσ hr hphase => o.enter hσ hr hpending hwaits hdeleted hphase

/-! ### The placement -/

theorem triple_giveUp {α : Type} {spec : Spec} {e : Failure} {Q : α → Stage → Prop} :
    R.Triple o.placing (Pass.Job.giveUp ⟨key, spec.provider, spec.image⟩ e) Q o.base :=
  Role.triple_giveUp (fun _ hσ _ => o.base_of_placing hσ)
    ((o.triple_enter .error (by decide) (by decide) (by decide)).weaken (fun _ hσ => hσ)
      (fun _ _ hσ => o.base_of_placing hσ) fun _ hσ => hσ)

theorem triple_fill {spec : Spec} {url location : String} :
    R.Triple o.placing (Pass.Job.fill ⟨key, spec.provider, spec.image⟩ url location)
      (fun _ => o.placing) o.base := by
  refine (o.triple_enter .uploading (by decide) (by decide) (by decide)).bind fun _ => ?_
  refine (o.still_placing.emit _ rfl).bind fun _ => ?_
  refine (o.triple_upload spec location url).bind fun x => ?_
  rcases x with e | _
  · exact o.triple_giveUp
  · exact (o.triple_enter .available (by decide) (by decide) (by decide)).bind fun _ =>
      o.still_placing.emit _ rfl

theorem triple_placeAt {spec : Spec} {url location : String} :
    R.Triple o.placing (Pass.Job.placeAt ⟨key, spec.provider, spec.image⟩ url location)
      (fun _ => o.placing) o.base := by
  refine (o.triple_lookUp spec location).bind fun x => ?_
  rcases x with e | present
  · exact o.triple_giveUp
  · cases present with
    | true =>
      exact (o.triple_enter .available (by decide) (by decide) (by decide)).bind fun _ =>
        o.still_placing.emit _ rfl
    | false => exact o.triple_fill

theorem triple_isReachable {url : String} :
    R.Triple o.placing (Pass.Job.isReachable url) (fun _ => o.placing) o.base :=
  Role.triple_isReachable (o.triple_wait (r := .probe url) rfl (by simp))
    (fun _ _ hσ _ => o.base_of_placing hσ) fun _ _ hσ => hσ

theorem triple_placements {spec : Spec} {url : String} (locations : List Location) :
    R.Triple o.placing (Pass.Job.place ⟨key, spec.provider, spec.image⟩ url locations)
      (fun _ => o.placing) o.base := by
  induction locations with
  | nil => exact Role.Triple.done fun _ hσ => hσ
  | cons location rest ih =>
    refine o.triple_isReachable.bind fun reachable => ?_
    cases reachable with
    | true => exact o.triple_placeAt.bind fun _ => ih
    | false =>
      refine (o.triple_enter .missing (by decide) (by decide) (by decide)).bind fun _ => ?_
      exact (o.still_placing.emit _ rfl).bind fun _ => Role.Triple.done fun _ hσ => hσ

theorem triple_place {s : Pass.Setup} {r : Record} :
    R.Triple o.placing (Pass.place s key r) (fun _ => o.base) o.base := by
  simp only [Pass.place]
  split
  · refine (o.still_placing.log _).bind fun _ => ?_
    exact (o.triple_enter .error (by decide) (by decide) (by decide)).bind fun _ =>
      Role.Triple.fail fun _ hσ => o.base_of_placing hσ
  · split
    · refine (o.triple_enter .error (by decide) (by decide) (by decide)).bind fun _ => ?_
      exact (o.still_placing.emit _ rfl).bind fun _ =>
        Role.Triple.done fun _ hσ => o.base_of_placing hσ
    · refine (o.triple_placements _).bind fun placed => ?_
      cases placed <;> exact Role.Triple.done fun _ hσ => o.base_of_placing hσ

/-! ### The pass -/

include o in
/-- **A pass over one record keeps to its course.** -/
theorem triple_run {s : Pass.Setup} (hp : s.period = period) :
    R.Triple fresh (Pass.run s key) (fun _ => home) home :=
  o.triple_run_of_place hp fun _ => o.triple_place.weaken (fun _ hσ => hσ.1) (fun _ _ hσ => hσ)
    fun _ hσ => hσ

end Course

/-- **A pass over one record keeps to its outline.** -/
theorem Outline.triple_run {R : Role} {period : Duration} {key : String} {fresh home : Stage → Prop}
    (o : Outline R period key fresh home) {s : Pass.Setup} (hp : s.period = period) :
    R.Triple fresh (Pass.run s key) (fun _ => home) home :=
  o.course.triple_run hp

/-! ### Rounds -/

section Rounds

variable {R : Role} {fresh home : Stage → Prop} {s : Pass.Setup}

theorem triple_runEach (hrun : ∀ key, R.Triple fresh (Pass.run s key) (fun _ => home) home)
    (hhome : R.Still home) (himp : ∀ σ, fresh σ → home σ)
    (hask : ∀ σ t x, home σ → R.regime.tick σ.clock t →
      fresh (σ.after (.answered R.errand .isInterrupted x) σ.ledger t))
    (rs : List Record) (report : Pass.Report) :
    R.Triple home (Pass.runEach s report rs) (fun _ => home) home := by
  have hinterrupted : R.Triple home Program.isInterrupted (fun _ => fresh) home := by
    refine Role.Triple.ask rfl fun σ t x l hσ ht ha => ?_
    obtain rfl : l = σ.ledger := ha
    have hnext := hask σ t x hσ ht
    exact ⟨hhome.during _ (himp _ hnext), hnext⟩
  induction rs generalizing report with
  | nil => exact Role.Triple.done fun _ hσ => hσ
  | cons r rest ih =>
    refine hinterrupted.bind fun stop => ?_
    cases stop with
    | true => exact Role.Triple.done himp
    | false =>
      refine (hrun r.name).attempt.bind (T := fun _ => home) fun result => ?_
      cases result with
      | ok outcome => exact ih _
      | error e => exact (hhome.log _).bind fun _ => ih _

/-- **What every pass keeps, a round of passes keeps.** -/
theorem triple_runAll (hrun : ∀ key, R.Triple fresh (Pass.run s key) (fun _ => home) home)
    (hhome : R.Still home) (himp : ∀ σ, fresh σ → home σ)
    (hask : ∀ σ t x, home σ → R.regime.tick σ.clock t →
      fresh (σ.after (.answered R.errand .isInterrupted x) σ.ledger t)) :
    R.Triple home (Pass.runAll s) (fun _ => home) home :=
  (hhome.listRecords fun _ hσ => hσ).bind fun rs => triple_runEach hrun hhome himp hask rs .empty

end Rounds

end ImageCatalog
