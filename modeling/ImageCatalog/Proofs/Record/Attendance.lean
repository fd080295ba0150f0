import ImageCatalog.Proofs.Journal.Chronicle

/-!
# Every record was attended to

A record is created without a phase, and gets one in the same errand as its first consumer comes
in. So a record without a phase is only there while that errand is at work on it: whatever is done
to a record afterwards leaves it in some phase.

The one way for such a record to stay is that the store goes out of order for it between the two
writes.
The rules for readings and revisions that are used elsewhere do not tell why a program has failed,
and here it counts; so the two requests are taken apart once more.

## Main definitions

* `Deed.isOutageAt` — a store is out of order when it comes to one record
* `Attended` — every record has a phase, or is one of some exceptions

## Main results

* `attended_add` — an addition makes an exception only while it is at work
* `Reachable.attended` — while nothing is at work, every record has a phase
-/

namespace ImageCatalog

/-- Whether a store is out of order when it comes to the record of a name. -/
def Deed.isOutageAt (name : String) : Deed → Bool
  | answered _ (.readRecord n) (.error e) | answered _ (.removeRecord n _) (.error e) =>
    n == name && e.isOutage
  | answered _ (.createRecord r) (.error e) | answered _ (.replaceRecord r) (.error e) =>
    r.name == name && e.isOutage
  | _ => false

/-- A store has been out of order when it came to the record of a name. -/
def FaultedAt (name : String) (past : List Entry) : Prop :=
  ∃ m ∈ past, m.deed.isOutageAt name

theorem FaultedAt.cons {name : String} {past : List Entry} (h : FaultedAt name past) (m : Entry) :
    FaultedAt name (m :: past) := by
  obtain ⟨m', hm, hout⟩ := h
  exact ⟨m', List.mem_cons_of_mem _ hm, hout⟩

/-- Every record has a phase but for some exceptions, unless a store was out of order when it came
to the record. -/
structure Attended (W : String → Record → Prop) (σ : Stage) : Prop where
  named : ∀ n r, σ.record? n = some r → r.name = n
  phased : ∀ n r, σ.record? n = some r → ¬ FaultedAt n σ.past → r.phase ≠ none ∨ W n r

/-- Every record has a phase. -/
abbrev AllAttended : Stage → Prop :=
  Attended fun _ _ => False

variable {W W' : String → Record → Prop} {σ : Stage} {key : String} {r r' : Record} {e : Errand}
  {d : Deed} {l : Ledger} {t : Instant}

namespace Attended

theorem mono (h : Attended W σ) (hW : ∀ n r, σ.record? n = some r → W n r → W' n r) :
    Attended W' σ :=
  ⟨h.named, fun n r hr hf => (h.phased n r hr hf).imp_right (hW n r hr)⟩

/-- After an outage nothing more is said of the record. -/
theorem of_faulted (h : Attended W σ) (hf : FaultedAt key σ.past)
    (hW : ∀ n r, n ≠ key → W n r → W' n r) : Attended W' σ := by
  refine ⟨h.named, fun n r hr hn => (h.phased n r hr hn).imp_right (hW n r ?_)⟩
  rintro rfl
  exact hn hf

/-- What holds of the records that are left. -/
theorem after
    (hl : ∀ n q, l.get? n = some q →
      q.name = n ∧ (¬ FaultedAt n σ.past → q.phase ≠ none ∨ W' n q)) (d : Deed) (t : Instant) :
    Attended W' (σ.after d l t) where
  named n q hq := (hl n q hq).1
  phased n q hq hf := (hl n q hq).2 fun hold => hf (hold.cons _)

theorem keep (h : Attended W σ) (d : Deed) (t : Instant) : Attended W (σ.after d σ.ledger t) :=
  after (fun n q hq => ⟨h.named n q hq, h.phased n q hq⟩) d t

/-- A record is stored. -/
theorem put (h : Attended W σ) (hname : r.name = key)
    (hr : ¬ FaultedAt key σ.past → r.phase ≠ none ∨ W' key r)
    (hW : ∀ n q, n ≠ key → σ.record? n = some q → W n q → W' n q) (d : Deed) (t : Instant) :
    Attended W' (σ.after d (σ.ledger.put r) t) := by
  refine after (fun n q hq => ?_) d t
  rcases Ledger.of_get?_put hname hq with ⟨rfl, rfl⟩ | ⟨hn, hq⟩
  · exact ⟨hname, hr⟩
  · exact ⟨h.named n q hq, fun hf => (h.phased n q hq hf).imp_right (hW n q hn hq)⟩

theorem erase (h : Attended W σ) (d : Deed) (t : Instant) :
    Attended W (σ.after d ⟨σ.ledger.records.erase key⟩ t) := by
  refine after (fun n q hq => ?_) d t
  have hq' := (Ledger.of_get?_erase hq).2
  exact ⟨h.named n q hq', h.phased n q hq'⟩

end Attended

/-! ### The contract -/

/-- Every record has a phase while nothing is at work, and while a pass waits. -/
def attendance : Contract where
  idle := AllAttended
  during _ _ := True
  lull := AllAttended
  may σ σ' := AllAttended σ → AllAttended σ'
  may_refl _ h := h
  may_trans h h' hσ := h' (h hσ)

variable {s : Service} {g : Regime} {visitor : Bool}

theorem steady_attended (W : String → Record → Prop) :
    Role.Steady ⟨attendance, g, e, visitor⟩ (Attended W) where
  during _ _ := trivial
  quiet _ d t h _ _ _ := h.keep d t

/-- A write leaves a record in some phase, if it was in one before. -/
theorem Attended.write (h : AllAttended σ) (hr : σ.record? key = some r)
    (hr' : r'.name = r.name ∧ (r.phase ≠ none → r'.phase ≠ none)) (e : Errand) (t : Instant) :
    AllAttended (σ.write e r' t) := by
  have hname : r'.bumped.name = key := hr'.1.trans (h.named key r hr)
  have hphase : ¬ FaultedAt key σ.past → r'.bumped.phase ≠ none ∨ False := fun hf =>
    .inl (hr'.2 ((h.phased key r hr hf).resolve_right not_false))
  exact h.put hname hphase (fun _ _ _ _ h => h) _ t

theorem Attended.writes (h : AllAttended σ) (hr : σ.record? key = some r)
    (hr' : r'.name = r.name ∧ (r.phase ≠ none → r'.phase ≠ none)) (events : List Event) :
    Role.Writes ⟨attendance, g, e, visitor⟩ AllAttended r' events σ :=
  fun t _ => (steady_attended _).owes events (h.write hr hr' e t)

/-! ### Additions -/

section Additions

variable {n c : String} {spec : Spec}

/-- The record that an addition has created, and not revised yet. -/
def Unattended (n : String) (spec : Spec) (m : String) (r : Record) : Prop :=
  m = n ∧ r.spec.provider = spec.provider

theorem attended_emit (W : String → Record → Prop) (event : Event) (E : Stage → Prop) :
    Role.Triple ⟨attendance, g, e, visitor⟩ (Attended W) (Program.emit event)
      (fun _ => Attended W) E :=
  (Role.triple_emit (steady_attended W).still event []).weaken
    (fun _ hσ => (steady_attended W).owes [event] hσ) (fun _ _ hσ => hσ) fun _ hσ => hσ

theorem attended_emitIf (W : String → Record → Prop) (b : Bool) (event : Event)
    (E : Stage → Prop) :
    Role.Triple ⟨attendance, g, e, visitor⟩ (Attended W) (Program.emitIf b event)
      (fun _ => Attended W) E := by
  cases b with
  | false => exact Role.Triple.done fun _ hσ => hσ
  | true => exact attended_emit W event E

/-- A record is read, unless the store is out of order. -/
theorem attended_readRecord (W W' : String → Record → Prop) (n : String)
    (hW : ∀ m r, m ≠ n → W m r → W' m r) :
    Role.Triple ⟨attendance, g, e, visitor⟩ (Attended W) (Program.readRecord n)
      (fun x σ => Attended W σ ∧ σ.record? n = x) (Attended W') := by
  refine Role.Triple.ask rfl fun σ t x l hσ ht ha => ⟨trivial, ?_⟩
  rcases ha with ha | ⟨⟨reason, rfl, hout⟩, rfl⟩
  · obtain ⟨rfl, rfl⟩ := Prod.mk.inj ha
    exact ⟨hσ.keep _ t, rfl⟩
  · refine (hσ.keep _ t).of_faulted ⟨_, List.mem_cons_self, ?_⟩ hW
    simpa [Deed.isOutageAt] using hout

theorem attended_ensureRecord (n : String) (spec : Spec) :
    Role.Triple ⟨attendance, g, e, visitor⟩ AllAttended (Consumers.ensureRecord n spec)
      (fun _ => Attended (Unattended n spec)) AllAttended := by
  refine (attended_readRecord _ _ n fun _ _ _ h => h).bind fun x => ?_
  cases x with
  | some r => exact Role.Triple.done fun σ hσ => hσ.1.mono fun _ _ _ h => h.elim
  | none =>
    refine Role.Triple.bind (Role.triple_now (Q := fun _ σ => AllAttended σ ∧ σ.record? n = none)
      (fun _ _ _ => trivial) fun σ t hσ _ => ⟨hσ.1.keep _ t, hσ.2⟩) fun now => ?_
    refine Role.Triple.ask rfl fun σ t x l hσ ht ha => ⟨trivial, ?_⟩
    rcases ha with ha | ⟨⟨reason, rfl, hout⟩, rfl⟩
    · obtain ⟨rfl, rfl⟩ := Prod.mk.inj (ha.trans (Ledger.create_of_absent hσ.2))
      have hcreated : Attended (Unattended n spec) (σ.create e (.new n spec now) t) :=
        hσ.1.put rfl (fun _ => .inr ⟨rfl, rfl⟩) (fun _ _ _ _ h => h.elim) _ t
      exact attended_emit _ _ _ _ hcreated
    · have hnext : AllAttended (σ.after (.answered e (.createRecord (.new n spec now))
        (.error reason)) σ.ledger t) := hσ.1.keep _ t
      -- The failure is not that there is a record already.
      cases reason <;> first | exact hnext | cases hout

/-- The record that was created has a phase by now, or it is not the one that was created. -/
theorem Attended.resolve (h : Attended (Unattended n spec) σ) (hr : σ.record? n = some r)
    (hphase : r.spec.provider = spec.provider → r.phase ≠ none) : AllAttended σ := by
  refine ⟨h.named, fun m q hq hf => .inl ?_⟩
  rcases h.phased m q hq hf with hkept | ⟨rfl, hprovider⟩
  · exact hkept
  · obtain rfl := Option.some.inj (hq.symm.trans hr)
    exact hphase hprovider

/-- The record is written back with its new consumer, unless the store is out of order. -/
theorem attended_replace (n : String) (spec : Spec) (c : String) (r : Record) :
    Role.Triple ⟨attendance, g, e, visitor⟩
      (fun σ => Attended (Unattended n spec) σ ∧ σ.record? n = some r)
      (Program.tryReplaceRecord (r.addConsumer c).revive)
      (fun x σ => AllAttended σ ∧ ∀ reason, x = .error reason → reason.isOutage)
      AllAttended := by
  refine Role.Triple.ask rfl fun σ t x l hσ ht ha => ⟨trivial, ?_⟩
  have hkeeps : (r.addConsumer c).revive.name = r.name ∧
      (r.addConsumer c).revive.version = r.version := by
    rw [r.addConsumer_eq c]
    exact ⟨rfl, rfl⟩
  have hname := hkeeps.1.trans (hσ.1.named n r hσ.2)
  rcases ha with ha | ⟨⟨reason, rfl, hout⟩, rfl⟩
  · have hstored : σ.ledger.get? (r.addConsumer c).revive.name = some r := by
      rw [hname]
      exact hσ.2
    obtain ⟨rfl, rfl⟩ := Prod.mk.inj (ha.trans (Ledger.replace_of_version hstored hkeeps.2))
    obtain ⟨phase, hphase⟩ := (r.addConsumer c).exists_phase_revive
    have hphase' : (r.addConsumer c).revive.bumped.phase ≠ none := by
      rw [show (r.addConsumer c).revive.bumped.phase = some phase from hphase]
      exact Option.some_ne_none phase
    have hname' : (r.addConsumer c).revive.bumped.name = n := hname
    have hnext : AllAttended (σ.write e (r.addConsumer c).revive t) :=
      hσ.1.put hname' (fun _ => .inl hphase') (fun m q hm _ hq => hm hq.1) _ t
    exact ⟨hnext, fun _ h => nomatch h⟩
  · refine ⟨(hσ.1.keep _ t).of_faulted ⟨_, List.mem_cons_self, ?_⟩ fun _ _ hm h => hm h.1, ?_⟩
    · simpa [Deed.isOutageAt, hname] using hout
    · rintro _ ⟨⟩
      exact hout

/-- The record is there, and is revived with its new consumer or has been before. -/
theorem attended_revise (n : String) (spec : Spec) (c : String) :
    Role.Triple ⟨attendance, g, e, visitor⟩ (Attended (Unattended n spec))
      (Record.revise? n (Consumers.addition n spec c)) (fun _ => AllAttended) AllAttended := by
  refine (attended_readRecord _ _ n fun _ _ hm h => hm h.1).bind fun x => ?_
  cases x with
  | none =>
    refine Role.Triple.done fun σ hσ => hσ.1.mono ?_
    rintro m r hr ⟨rfl, -⟩
    rw [hσ.2] at hr
    cases hr
  | some r =>
    rcases hedit : Consumers.addition n spec c r with reason | ⟨r', written⟩
    · -- The record of another provider is not the one that was created.
      simp only [Edit.editor_apply, hedit]
      refine Role.Triple.fail fun σ hσ => hσ.1.resolve hσ.2 fun hprovider => ?_
      simp [Consumers.addition, hprovider, Edit.when] at hedit
    cases written with
    | false =>
      obtain ⟨hw, -⟩ | ⟨-, -, -, hrevive⟩ := Consumers.addition_ok hedit
      · cases hw
      simp only [Edit.editor_apply, hedit]
      refine Role.Triple.done fun σ hσ => hσ.1.resolve hσ.2 fun _ => ?_
      obtain ⟨phase, hphase⟩ := Record.exists_phase_of_not_isRevivable hrevive
      rw [hphase]
      exact Option.some_ne_none phase
    | true =>
      obtain rfl : r' = (r.addConsumer c).revive := by
        obtain ⟨-, hr', -⟩ | ⟨hw, -⟩ := Consumers.addition_ok hedit
        · exact hr'
        · cases hw
      simp only [Edit.editor_apply, hedit]
      refine (attended_replace n spec c r).bind fun x => ?_
      -- No failure of the store's own starts another attempt.
      rcases x with reason | stored
      · cases reason <;> first
          | exact Role.Triple.fail fun _ hσ => hσ.1
          | exact fun _ hσ => absurd (hσ.2 _ rfl) (by simp [Failure.isOutage, Failure.kind])
      · exact Role.Triple.done fun _ hσ => hσ.1

theorem attended_addWithin (n : String) (spec : Spec) (c : String) (attempts : Nat) :
    Role.Triple ⟨attendance, g, e, visitor⟩ AllAttended (Consumers.addWithin n spec c attempts)
      (fun _ => AllAttended) AllAttended := by
  induction attempts with
  | zero => exact Role.Triple.fail fun _ hσ => hσ
  | succ attempts ih =>
    refine (attended_ensureRecord n spec).bind fun _ => (attended_revise n spec c).bind fun x => ?_
    cases x with
    | none => exact ih
    | some v =>
      refine Role.Triple.bind (Q := fun _ => AllAttended) ?_ fun _ =>
        Role.Triple.done fun _ hσ => hσ
      refine (attended_emitIf _ _ _ _).bind fun _ => (attended_emitIf _ _ _ _).bind fun _ => ?_
      cases v.after.phase with
      | none => exact Role.Triple.done fun _ hσ => hσ
      | some phase => exact attended_emitIf _ _ _ _

/-- **An addition** leaves a phase on the record that it has created. -/
theorem attended_add (n : String) (spec : Spec) (c : String) :
    Role.Triple ⟨attendance, g, e, visitor⟩ AllAttended (Consumers.add n spec c)
      (fun _ => AllAttended) AllAttended := by
  refine Dealings.triple_check.bind fun _ => ?_
  rintro σ ⟨hσ, -⟩
  refine Role.Triple.bind Dealings.triple_check (fun _ => ?_) σ hσ
  rintro σ ⟨hσ, -⟩
  exact attended_addWithin n spec c maxAttempts σ hσ

end Additions

/-! ### Errands -/

/-- An errand that takes a consumer away. -/
theorem account_attended (hdrop : ∀ n c, e.demand? s ≠ some (n, .add c)) :
    Account ⟨attendance, g, e, visitor⟩ s AllAttended AllAttended where
  steady := steady_attended _
  steady' := steady_attended _
  named h hr := h.named _ _ hr
  create hd := absurd hd (hdrop _ _)
  added hd := absurd hd (hdrop _ _)
  present hd := absurd hd (hdrop _ _)
  dropped _ h hr _ _ := h.write hr (by exact ⟨rfl, id⟩) _ _
  missing _ h _ := h

/-- **Errands about consumers, and deletion requests.** -/
theorem attended_of_not_isPass (hpass : e.isPass = false) :
    Role.Triple ⟨attendance, g, e, visitor⟩ AllAttended (e.program s) (fun _ => AllAttended)
      AllAttended := by
  cases e with
  | consumerAdded c image provider => exact attended_add _ _ _
  | releaseAdded release =>
    refine Role.Triple.bind (Dealings.triple_request AllAttended release s.channel) fun q σ hσ => ?_
    exact attended_add _ _ _ σ hσ.1
  | consumerRemoved c image =>
    refine (account_attended fun n c h => ?_).triple_program rfl
    cases h
  | releaseRemoved release =>
    refine (account_attended fun n c h => ?_).triple_program rfl
    cases hq : (release.request s.channel).toOption <;> simp [Errand.demand?, hq] at h
  | requestDeletion n =>
    refine triple_requestDeletion (steady_attended _).still (fun _ _ h hr => h.named _ _ hr) ?_
    intro σ r now t h hr ht
    exact h.write hr (by exact ⟨rfl, id⟩) _ _
  | pass | passAll => cases hpass

/-- **The course of a pass**, on which every write leaves the record in some phase. -/
def attendedCourse (s : Service) (g : Regime) (e : Errand) (key : String) :
    Course ⟨attendance, g, e, false⟩ s.setup.period key AllAttended AllAttended where
  base := AllAttended
  opened := AllAttended
  looked _ := AllAttended
  placing := AllAttended
  sweep _ := AllAttended
  leaving _ := AllAttended
  alone := rfl
  still_base := (steady_attended _).still
  still_opened := (steady_attended _).still
  still_looked _ := (steady_attended _).still
  still_placing := (steady_attended _).still
  still_sweep _ := (steady_attended _).still
  still_leaving _ := (steady_attended _).still
  base_of_opened h := h
  base_of_looked h := h
  base_of_placing h := h
  placing_of_sweep h := h
  home_of_base h := h
  lull_of_placing h := h
  named h hr := h.named _ _ hr
  read _ h _ := h.keep _ _
  drop h hr := h.writes hr (by exact ⟨rfl, id⟩) []
  now h _ := h.keep _ _
  place h _ _ := h
  endWait {_ _ r} h hr _ _ := by
    obtain ⟨phase, hphase⟩ := r.exists_phase_revive
    have hkept : r.revive.name = r.name ∧ (r.phase ≠ none → r.revive.phase ≠ none) := by
      rw [hphase]
      exact ⟨rfl, fun _ => Option.some_ne_none phase⟩
    exact h.writes hr hkept []
  mark h hr _ := h.writes hr (by exact ⟨rfl, id⟩) []
  stamp h hr _ := h.writes hr (by exact ⟨rfl, fun _ => Option.some_ne_none _⟩) _
  issue h _ _ := h.keep _ _
  visits h hm := hm h
  answered h _ _ := h.keep _ _
  enter h hr _ _ _ _ := h.writes hr (by exact ⟨rfl, fun _ => Option.some_ne_none _⟩) _
  start h hr _ _ _ := h.writes hr (by exact ⟨rfl, fun _ => Option.some_ne_none _⟩) _
  started h _ _ _ _ := h
  enter_sweep h hr _ := h.writes hr (by exact ⟨rfl, fun _ => Option.some_ne_none _⟩) _
  withdraw h _ _ _ _ hm := hm (h.keep _ _)
  withdrawn h _ _ _ := h.keep _ _
  leave h hr _ _ := h.writes hr (by exact ⟨rfl, fun _ => Option.some_ne_none _⟩) _
  left h _ _ _ := h
  removed h _ _ _ := (steady_attended _).owes _ (h.erase _ _)
  stuck h _ _ := h.keep _ _

/-- **Passes.** -/
theorem attended_of_isPass (hpass : e.isPass) :
    Role.Triple ⟨attendance, g, e, false⟩ AllAttended (e.program s) (fun _ => AllAttended)
      AllAttended := by
  have hrun := fun key => (attendedCourse s g e key).triple_run (s := s.setup) rfl
  cases e with
  | pass key => exact hrun key
  | passAll =>
    exact triple_runAll hrun (steady_attended _).still (fun _ h => h) fun _ t _ h _ => h.keep _ t
  | consumerAdded | consumerRemoved | releaseAdded | releaseRemoved | requestDeletion =>
    cases hpass

/-! ### Runs -/

theorem attended_program (s : Service) (g : Regime) (hpass : visitor = true → e.isPass = false) :
    Role.Triple ⟨attendance, g, e, visitor⟩ AllAttended (e.program s) (fun _ => AllAttended)
      AllAttended := by
  by_cases hp : e.isPass
  · cases visitor with
    | true => exact absurd hp (by simp [hpass rfl])
    | false => exact attended_of_isPass hp
  · exact attended_of_not_isPass (by simpa using hp)

/-- **Every record has a phase**, under every regime in which no pass lands in another. -/
theorem attendance_holds (s : Service) {g : Regime}
    (hg : ∀ q v, g.visitors q v → v.isPass = false) : attendance.Holds g s where
  start t _ := by
    refine ⟨fun n r hr => ?_, fun n r hr => ?_⟩
    · cases hr
    · cases hr
  errand e σ t _ h _ := by
    refine ⟨trivial, ((attended_program s g Bool.noConfusion) _ (h.keep _ t)).mono
      fun x σ' hx t' _ => ?_⟩
    cases x <;> exact hx.keep _ t'
  visitor q e σ t hv h _ := by
    refine ⟨trivial, ((attended_program s g fun _ => hg q e hv) _ (h.keep _ t)).mono
      fun x σ' hx t' _ => ?_⟩
    have hleft : AllAttended (σ'.after (.ended e x) σ'.ledger t') := by
      cases x <;> exact hx.keep _ t'
    exact ⟨hleft, fun _ => hleft⟩

/-- **While nothing is at work, a record has a phase**, unless a store was out of order when it came
to the record. -/
theorem Reachable.attended {σ : Stage} (hg : ∀ q v, g.visitors q v → v.isPass = false)
    (h : Reachable s g ⟨σ, []⟩) (hstore : ∀ m ∈ σ.past, m.deed.isOutageAt key = false)
    (hr : σ.record? key = some r) : r.phase ≠ none := by
  have hsound : ¬ FaultedAt key σ.past := by
    rintro ⟨m, hm, hout⟩
    rw [hstore m hm] at hout
    cases hout
  cases h.keeps (attendance_holds s hg) with
  | idle hi => exact (hi.phased key r hr hsound).resolve_right not_false

end ImageCatalog
