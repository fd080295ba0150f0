import ImageCatalog.Proofs.Consumers.References
import ImageCatalog.Proofs.Retention.Grace

/-!
# Nothing is deleted too early

In runs without deletion requests, an image is taken out of a catalog and a record is removed only
when the period is over: some earlier pass has stamped the record that long ago, and nobody has
needed it at any moment since. It does not matter what became of earlier attempts, since a new
consumer takes back the stamp, the wait and the deletion request all at once.

## Main definitions

* `Regime.ticking` — the runs that this is about
* `patience` — the contract

## Main results

* `patient_of_isPass`, `patience_holds` — every errand keeps it
* `deletion_after_period` — what has come before a deletion
-/

namespace ImageCatalog

/-- Consumers come and go and records are passed over, one after the other. The clock never goes
back, and no second is a leap second. -/
def Regime.ticking : Regime where
  starts t := !t.isLeap
  tick t t' := !t'.isLeap && decide (0 ≤ t'.since t)
  errands e := e.isDemand || e.isPass
  visitors _ _ := false
  answers _ _ _ := True

theorem Regime.passes_of_tick {t t' : Instant} (h : Regime.ticking.tick t t') : Passes t t' := by
  simp only [ticking, Bool.and_eq_true, Bool.not_eq_true', decide_eq_true_eq] at h
  exact ⟨h.1, h.2⟩

/-- Nothing is deleted too early. Nobody lands while a pass waits. -/
def patience (period : Duration) : Contract where
  idle := Patient period false
  during _ := Patient period false
  lull := Patient period false
  may σ σ' := σ' = σ
  may_refl _ := rfl
  may_trans h h' := h'.trans h

variable {period : Duration} {e : Errand} {key : String} {σ : Stage} {r r' : Record}
  {t t' : Instant} {d : Deed} {opened : Bool}

/-! ### Steps of errands -/

theorem Patient.still_of_ne (h : Patient period opened σ) (ht : Passes σ.clock t)
    (hd : ∀ e call, d ≠ .issued e (.withdraw call)) :
    Patient period opened (σ.after d σ.ledger t) :=
  h.still ht fun e call he => absurd he (hd e call)

theorem Patient.quiet (h : Patient period opened σ) (ht : Passes σ.clock t) (hd : d.Quiet) :
    Patient period opened (σ.after d σ.ledger t) :=
  h.still_of_ne ht fun e call => hd.ne_issued e (.withdraw call)

/-- A record is written in a way that starts no wait and requests no deletion. -/
theorem Patient.write (h : Patient period opened σ) (ht : Passes σ.clock t)
    (hr : σ.record? key = some r)
    (hr' : Explained period opened (⟨.answered e (.replaceRecord r') (.ok r'.bumped),
      σ.ledger.put r'.bumped, t⟩ :: σ.past) t key r'.bumped) (hname : r'.name = r.name) :
    Patient period opened (σ.write e r' t) := by
  have hkey : key = r'.bumped.name := (h.named hr).symm.trans hname.symm
  refine h.put ht Deed.answered_ne_issued ?_
  rw [hkey] at hr'
  exact hr'

theorem Patient.calm (h : Patient period opened σ) (ht : Passes σ.clock t)
    (hr : σ.record? key = some r) (hc : r.Calm r') :
    Patient period opened (σ.write e r' t) := by
  have hget : (σ.ledger.put r'.bumped).get? key = some r'.bumped :=
    Ledger.get?_put_of_eq (hc.name.trans (h.named hr))
  exact h.write ht hr ((h.records key r hr).calm h.clock hr hget ht hc) hc.name

theorem steady_patient {visitor : Bool} :
    Role.Steady ⟨patience period, .ticking, e, visitor⟩ (Patient period opened) where
  during _ h := h.weaken
  quiet _ _ _ h _ hd ht := h.quiet (Regime.passes_of_tick ht) hd

/-! ### Errands about consumers -/

/-- A new consumer takes back all that retention has prepared, and one that goes starts nothing. -/
theorem patientAccount (s : Service) {visitor : Bool} :
    Account ⟨patience period, .ticking, e, visitor⟩ s (Patient period false)
      (Patient period false) where
  steady := steady_patient
  steady' := steady_patient
  named h hr := h.named hr
  create _ _ h _ ht := by
    refine h.put (Regime.passes_of_tick ht) Deed.answered_ne_issued ?_
    exact .of_plain rfl (fun hp => by cases hp) rfl
  added {σ n r c t} _ h hr ht := by
    have hname : (r.addConsumer c).revive.name = r.name := by
      rw [r.addConsumer_eq c]
      rfl
    refine h.write (Regime.passes_of_tick ht) hr ?_ hname
    exact .of_plain (hname.trans (h.named hr)) (r.addConsumer c).phase_revive_ne rfl
  present _ h _ _ := h
  dropped {σ n r c t} _ h hr _ ht := by
    have hpasses := Regime.passes_of_tick ht
    have hname : r.name = n := h.named hr
    have hget : (σ.ledger.put (r.removeConsumer c).bumped).get? n =
        some (r.removeConsumer c).bumped := Ledger.get?_put_of_eq hname
    have hcons : r.consumers = [] → (r.removeConsumer c).bumped.consumers = [] := by
      intro hnil
      show r.consumers.filter (· != c) = []
      rw [hnil, List.filter_nil]
    have hold := h.records n r hr
    exact h.write hpasses hr
      (hold.cons h.clock hr hget hpasses rfl hcons (fun hp => ⟨hp, rfl⟩) (.inl rfl)) rfl
  missing _ h _ := h

/-! ### Passes -/

namespace Retention

/-- Without a deletion request, only a stamp that is old enough has an image deleted. -/
theorem of_deleteNow (hperiod : 0 < period.nanos) (h : decide period r t = .deleteNow) :
    r.phase = some .awaitingDeletion ∧
      ∃ stamp, r.lastUsed? = some stamp ∧ period.nanos ≤ t.since stamp := by
  unfold decide at h
  split at h
  · cases h
  · split at h
    · cases h
    · rename_i phase hphase
      have hzero : period.isZero = false := beq_false_of_ne (Nat.ne_of_gt hperiod)
      rw [hzero, if_neg Bool.false_ne_true] at h
      split at h
      · rename_i stamp hstamp
        split at h
        · rename_i hlong
          refine ⟨hphase, stamp, hstamp, ?_⟩
          have hlong' : period.nanos ≤ (t.since stamp).toNat := hlong
          omega
        · cases h
      · cases h

end Retention

/-- The errand has just read the time. -/
structure JustRead (e : Errand) (t : Instant) (σ : Stage) : Prop where
  isLeap : t.isLeap = false
  since : 0 ≤ σ.clock.since t
  reads : ∃ reading older, σ.past = reading ++ older ∧ Reads e t reading ∧
    ∀ m ∈ reading, m.ledger = σ.ledger

theorem JustRead.now (ht : Passes σ.clock t) :
    JustRead e t (σ.after (.answered e .now t) σ.ledger t) where
  isLeap := ht.isLeap
  since := Int.le_of_eq (Instant.since_self _).symm
  reads := by
    refine ⟨[⟨.answered e .now t, σ.ledger, t⟩], σ.past, rfl, ⟨[], σ.ledger, rfl, ?_⟩, ?_⟩
    · intro m hm
      cases hm
    · intro m hm
      rw [List.mem_singleton.mp hm]
      rfl

theorem JustRead.quiet (h : JustRead e t σ) (hclock : σ.clock.isLeap = false)
    (ht : Passes σ.clock t') (he : d.errand = e) (hd : d.Quiet) :
    JustRead e t (σ.after d σ.ledger t') where
  isLeap := h.isLeap
  since := Int.le_trans h.since (Instant.since_le_since h.isLeap hclock ht.isLeap ht.since)
  reads := by
    obtain ⟨reading, older, hpast, ⟨quiet, l, rfl, hquiet⟩, hledger⟩ := h.reads
    refine ⟨⟨d, σ.ledger, t'⟩ :: (quiet ++ [⟨.answered e .now t, l, t⟩]), older, ?_,
      ⟨⟨d, σ.ledger, t'⟩ :: quiet, l, rfl, ?_⟩, ?_⟩
    · rw [Stage.past_after, hpast, List.cons_append]
    · intro m hm
      rcases List.mem_cons.mp hm with rfl | hm
      · exact ⟨he, hd⟩
      · exact hquiet m hm
    · intro m hm
      rcases List.mem_cons.mp hm with rfl | hm
      · rfl
      · exact hledger m hm

/-- The period is over, and deletion is requested. -/
theorem Patient.mark (hperiod : 0 < period.nanos) (h : Patient period true σ)
    (hread : JustRead e t σ) (hr : σ.record? key = some r)
    (hd : Retention.decide period r t = .deleteNow) (ht : Passes σ.clock t') :
    Patient period false (σ.write e { r with deletion := some t } t') := by
  obtain ⟨hphase, stamp, hstamp, hlong⟩ := Retention.of_deleteNow hperiod hd
  have hold := h.records key r hr
  obtain ⟨hleap, hwaits⟩ := hold.waits hphase stamp hstamp
  have hover : Over period key σ.past t' := by
    have hnow : Over period key σ.past t := ⟨stamp, hleap, hlong, hwaits⟩
    have hclock := hnow.later hread.isLeap h.clock hread.since
    exact hclock.later h.clock ht.isLeap ht.since
  have hget : (σ.ledger.put { r with deletion := some t }.bumped).get? key =
      some { r with deletion := some t }.bumped := Ledger.get?_put_of_eq hold.name_eq
  have hnil : r.consumers = [] := Record.consumers_eq_nil (Retention.isReferenced_of_deleteNow hd)
  have hfree : (σ.ledger.put { r with deletion := some t }.bumped).Frees key := ⟨_, hget, hnil⟩
  refine h.weaken.write ht hr ⟨hold.name_eq, ?_, fun _ => hover.cons hfree⟩ rfl
  intro _ s hs
  obtain ⟨hleap', hwaits'⟩ := hold.waits hphase s hs
  exact ⟨hleap', hwaits'.weaken.cons hfree⟩

/-- The stamp that is read back is the time that was written. -/
theorem Record.eq_of_lastUsed? {stamp : Instant}
    (hann : r.annotations.get? lastUsedKey = some t.stamp) (h : r.lastUsed? = some stamp) :
    stamp = t := by
  rw [lastUsed?_of_stamp hann] at h
  split at h
  · exact (Option.some.inj h).symm
  · cases h

/-- The period begins. -/
theorem Patient.stamp (he : e.isPass) (h : Patient period true σ) (hread : JustRead e t σ)
    (hr : σ.record? key = some r) (hnil : r.consumers = []) (ht : Passes σ.clock t')
    (hkeeps : r.Keeps r') (hphase : r'.phase = some .awaitingDeletion)
    (hann : r'.annotations.get? Record.lastUsedKey = some t.stamp)
    (hdel : r'.deletion = r.deletion) : Patient period false (σ.write e r' t') := by
  have hold := h.records key r hr
  have hname : r'.name = key := hkeeps.name.trans hold.name_eq
  have hget : (σ.ledger.put r'.bumped).get? key = some r'.bumped := Ledger.get?_put_of_eq hname
  have hfree : (σ.ledger.put r'.bumped).Frees key := ⟨_, hget, hkeeps.consumers.trans hnil⟩
  refine h.weaken.write ht hr ⟨hname, ?_, ?_⟩ hkeeps.name
  · intro _ s hs
    obtain rfl : s = t := Record.eq_of_lastUsed? (r := r'.bumped) hann hs
    obtain ⟨reading, older, hpast, hreads, hledger⟩ := hread.reads
    let m : Entry := ⟨.answered e (.replaceRecord r') (.ok r'.bumped), σ.ledger.put r'.bumped, t'⟩
    have hstamps : Stamps e key s m reading :=
      ⟨he, hreads, r', rfl, hname, hphase, hann⟩
    refine ⟨hread.isLeap, [], ⟨e, m, reading, older, ?_, hstamps, ?_⟩, fun ho => by cases ho⟩
    · rw [hpast]
      rfl
    · intro m hm
      rcases List.mem_cons.mp hm with rfl | hm
      · exact hfree
      · rw [hledger m hm]
        exact ⟨r, hr, hnil⟩
  · intro hreq
    have hreq' : r.deletion ≠ none := by
      rw [← hdel]
      exact hreq
    exact ((hold.due hreq').later h.clock ht.isLeap ht.since).cons hfree

theorem steady_justRead :
    Role.Steady ⟨patience period, .ticking, e, false⟩ fun σ =>
      Patient period true σ ∧ JustRead e t σ where
  during _ h := h.1.weaken
  quiet _ _ _ h he hd ht :=
    ⟨h.1.quiet (Regime.passes_of_tick ht) hd,
      h.2.quiet h.1.clock (Regime.passes_of_tick ht) he hd⟩

/-- What holds while a pass takes an image out of the catalogs. -/
def Sweepable (period : Duration) (key : String) (σ : Stage) : Prop :=
  Patient period false σ ∧ Over period key σ.past σ.clock

/-- The period stays over while nobody comes. -/
theorem Sweepable.over (h : Sweepable period key σ) {l : Ledger} (ht : Passes σ.clock t)
    (hfree : l.Frees key) : Over period key (σ.after d l t).past (σ.after d l t).clock :=
  (h.2.later h.1.clock ht.isLeap ht.since).cons hfree

theorem steady_sweepable :
    Role.Steady ⟨patience period, .ticking, e, false⟩ (Sweepable period key) where
  during _ h := h.1
  quiet _ _ _ h _ hd ht :=
    ⟨h.1.quiet (Regime.passes_of_tick ht) hd, h.over (Regime.passes_of_tick ht) h.2.free⟩

theorem Sweepable.calm (h : Sweepable period key σ) (ht : Passes σ.clock t)
    (hr : σ.record? key = some r) (hc : r.Calm r') : Sweepable period key (σ.write e r' t) := by
  refine ⟨h.1.calm ht hr hc, h.over ht ?_⟩
  obtain ⟨q, hq, hnil⟩ := h.2.free
  obtain rfl := Option.some.inj (hr.symm.trans hq)
  exact ⟨r'.bumped, Ledger.get?_put_of_eq (hc.name.trans (h.1.named hr)), hc.consumers.trans hnil⟩

/-- A withdrawal is under way. -/
theorem Sweepable.withdraw (h : Sweepable period key σ) (ht : Passes σ.clock t)
    {call : CatalogCall} (hcall : call.record = key) :
    Sweepable period key (σ.after (.issued e (.withdraw call)) σ.ledger t) := by
  have hover : Over period call.record σ.past t := by
    rw [hcall]
    exact h.2.later h.1.clock ht.isLeap ht.since
  refine ⟨h.1.still ht ?_, h.over ht h.2.free⟩
  intro e' call' he
  cases he
  exact hover

/-- The cases of a pass that deletes nothing too early. -/
def patienceOutline (he : e.isPass) (hperiod : 0 < period.nanos) :
    Outline ⟨patience period, .ticking, e, false⟩ period key (Patient period true)
      (Patient period false) where
  base := Patient period false
  opened := Patient period true
  looked t σ := Patient period true σ ∧ JustRead e t σ
  sweep _ := Sweepable period key
  alone := rfl
  steady_base := steady_patient
  steady_opened := steady_patient
  steady_looked _ := steady_justRead
  steady_sweep _ := steady_sweepable
  base_of_opened h := h.weaken
  base_of_looked h := h.1.weaken
  base_of_sweep h := h.1
  home_of_base h := h
  lull_of_base h := h
  named h hr := h.named hr
  read x h ht :=
    h.quiet (d := .answered e (.readRecord key) x) (Regime.passes_of_tick ht) (.inl rfl)
  now {_ t} h ht := by
    have hpasses := Regime.passes_of_tick ht
    exact ⟨h.quiet (d := .answered e .now t) hpasses (.inl rfl), .now hpasses⟩
  issue {_ r _} h hr ht := by
    refine h.still_of_ne (Regime.passes_of_tick ht) fun _ call hi => ?_
    cases hi
    exact hr call rfl
  visits {σ σ'} h hm := by
    obtain rfl : σ' = σ := hm
    exact h
  calm h hr hc ht := h.calm (Regime.passes_of_tick ht) hr hc
  calm_opened h hr hc ht := h.calm (Regime.passes_of_tick ht) hr hc
  calm_sweep h hr hc ht := h.calm (Regime.passes_of_tick ht) hr hc
  mark h hr hd ht := h.1.mark hperiod h.2 hr hd (Regime.passes_of_tick ht)
  stamp {_ r t _ _} h hr hd ht := by
    have hnil : r.consumers = [] :=
      Record.consumers_eq_nil (Retention.isReferenced_of_startGracePeriod hd)
    exact h.1.stamp he h.2 hr hnil (Regime.passes_of_tick ht) (r.keeps_stampLastUsed _ t) rfl
      (Dictionary.get?_insert_self ..) rfl
  due {_ r} h hr hreq _ := by
    refine ⟨h, (h.records key r hr).due fun hnone => ?_⟩
    simp [Record.isDeletionRequested, hnone] at hreq
  withdraw {_ σ σ' t call} h hcall _ _ ht hm := by
    obtain rfl : σ' = σ.after (.issued e (.withdraw call)) σ.ledger t := hm
    exact h.withdraw (Regime.passes_of_tick ht) hcall
  removed h _ _ ht := by
    have hpasses := Regime.passes_of_tick ht
    exact h.1.erase hpasses Deed.answered_ne_issued
      (h.2.later h.1.clock hpasses.isLeap hpasses.since)

/-- **Passes delete nothing too early.** -/
theorem patient_of_isPass (s : Service) (hperiod : 0 < s.setup.period.nanos) (hpass : e.isPass)
    (h : Patient s.setup.period false σ) (ht : Passes σ.clock t)
    {Q : Except Failure e.Result → Stage → Prop}
    (hend : ∀ x σ', Patient s.setup.period false σ' → Q x σ') :
    Role.Meets ⟨patience s.setup.period, .ticking, e, false⟩ (e.program s) Q
      (σ.after (.began e) σ.ledger t) := by
  cases e with
  | pass key =>
    have hopen : Patient s.setup.period true (σ.after (.began (.pass key)) σ.ledger t) :=
      h.opens ht trivial
    have hrun : Role.Triple ⟨patience s.setup.period, .ticking, .pass key, false⟩
        (Patient s.setup.period true) (Pass.run s.setup key)
        (fun _ => Patient s.setup.period false) (Patient s.setup.period false) :=
      (patienceOutline rfl hperiod).triple_run rfl
    refine (hrun _ hopen).mono fun x σ' hx => hend x σ' ?_
    cases x <;> exact hx
  | passAll =>
    have hbegan : Patient s.setup.period false (σ.after (.began .passAll) σ.ledger t) :=
      h.still_of_ne ht fun _ _ hi => by cases hi
    have hrun : Role.Triple ⟨patience s.setup.period, .ticking, .passAll, false⟩
        (Patient s.setup.period false) (Pass.runAll s.setup)
        (fun _ => Patient s.setup.period false) (Patient s.setup.period false) := by
      refine triple_runAll (fun key => (patienceOutline rfl hperiod).triple_run rfl)
        steady_patient.still
        (fun _ h' => h'.weaken) ?_
      intro σ' t' x h' ht'
      exact h'.opens (Regime.passes_of_tick ht') trivial
    refine (hrun _ hbegan).mono fun x σ' hx => hend x σ' ?_
    cases x <;> exact hx
  | consumerAdded | consumerRemoved | releaseAdded | releaseRemoved | requestDeletion =>
    cases hpass

/-! ### The contract -/

/-- **Nothing is deleted too early**, if there is a period at all. -/
theorem patience_holds (s : Service) (hperiod : 0 < s.setup.period.nanos) :
    (patience s.setup.period).Holds .ticking s where
  start t ht := by
    have hleap : t.isLeap = false := by simpa [Regime.ticking] using ht
    exact .start hleap
  errand e σ t he h ht := by
    have hpasses := Regime.passes_of_tick ht
    have hbegan : Patient s.setup.period false (σ.after (.began e) σ.ledger t) :=
      h.still_of_ne hpasses fun _ _ hi => by cases hi
    have hend : ∀ x σ', Patient s.setup.period false σ' →
        (patience s.setup.period).AtEnd .ticking e x σ' := by
      intro x σ' h' t' ht'
      exact h'.still_of_ne (Regime.passes_of_tick ht') fun _ _ hi => by cases hi
    refine ⟨hbegan, ?_⟩
    by_cases hdemand : e.isDemand
    · refine ((patientAccount s).triple_program hdemand _ hbegan).mono fun x σ' hx => hend x σ' ?_
      cases x <;> exact hx
    · have hpass : e.isPass := by
        have he' : (e.isDemand || e.isPass) = true := he
        simpa [hdemand] using he'
      exact patient_of_isPass s hperiod hpass h hpasses hend
  visitor _ _ _ _ hv := by cases hv

/-- What is known at each moment of a run. -/
theorem Reachable.patient {s : Service} {c : Scene} (hperiod : 0 < s.setup.period.nanos)
    (h : Reachable s .ticking c) : Patient s.setup.period false c.stage := by
  cases h.keeps (patience_holds s hperiod) with
  | idle hi => exact hi
  | atWork hd _ => exact hd
  | waiting _ hl _ => exact hl
  | visited _ hd _ _ => exact hd

/-- **Nothing is deleted before its period is over.** When an image is taken out of a catalog for a
record, or a record is removed, a pass has stamped the record with a time since which the period has
passed; it was an earlier pass, since another one has begun after it. From the moment at which that
time was read, nobody has needed the record. -/
theorem deletion_after_period (s : Service) (hperiod : 0 < s.setup.period.nanos) {c : Scene}
    (h : Reachable s .ticking c) {m : Entry} {past : List Entry} (hpast : c.stage.past = m :: past)
    {name : String} (hm : m.Deletes name past) :
    ∃ stamp newer, Grace name stamp newer past ∧ (∃ m' ∈ newer, m'.deed.Opens) ∧
      s.setup.period.nanos ≤ m.clock.since stamp := by
  have hpatient := h.patient hperiod
  obtain ⟨stamp, _, hlong, newer, hgrace, hopened⟩ := hpatient.latest m past hpast name hm
  exact ⟨stamp, newer, hgrace, hopened rfl, hlong⟩

/-- One minute after the start of 1970. -/
def Instant.oneMinute : Instant :=
  (epoch.later? (.ofSeconds 60)).getD epoch

/-- With a period of one minute, an image that nobody needs is withdrawn by the second pass, one
minute after the first. -/
theorem deletion_after_period_of_one_minute :
    let s := Performance.smallService (.ofSeconds 60)
    ∃ c m past stamp newer, Reachable s .ticking c ∧ c.stage.past = m :: past ∧
      m.Deletes "flatcar" past ∧ Grace "flatcar" stamp newer past ∧
      60000000000 ≤ m.clock.since stamp := by
  intro s
  let found (c : Scene) : Bool := c.withdrawal?.any fun call => call.record == "flatcar"
  obtain ⟨c, hc, hfound⟩ := Performance.exists_reachable (s := s) (g := .ticking)
    (fun _ _ _ => trivial) (t := .epoch) rfl
    [.begin (.consumerAdded "cluster" "flatcar" "capv"),
      .begin (.consumerRemoved "cluster" "flatcar"), .begin (.pass "flatcar"), .clock .oneMinute,
      .begin (.pass "flatcar")]
    found (by decide +kernel)
  obtain ⟨call, hcall, hname⟩ := (Option.any_eq_true _ _).mp hfound
  obtain ⟨e, l, t, past, hpast⟩ := Scene.of_withdrawal? hcall
  have hdeletes : Entry.Deletes ⟨.issued e (.withdraw call), l, t⟩ "flatcar" past :=
    .inl ⟨e, call, rfl, eq_of_beq hname⟩
  obtain ⟨stamp, newer, hgrace, _, hlong⟩ := deletion_after_period s (by decide) hc hpast hdeletes
  exact ⟨c, _, past, stamp, newer, hc, hpast, hdeletes, hgrace, hlong⟩

end ImageCatalog
