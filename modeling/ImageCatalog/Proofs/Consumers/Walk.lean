import ImageCatalog.Proofs.Pass.Course
import ImageCatalog.Service

/-!
# Consumers that come and go

What an errand about a consumer does to its record comes down to five cases: a record is created, a
consumer is added or is there already, a consumer is dropped or is not there. `Dealings` lists them
with the events that are owed for them, and `Dealings.triple_program` shows that they are enough for
all four errands, whichever feed they come from. An `Account` lists them for invariants that take no
notice of what is reported. `P` holds until the demand is met, and again if the errand fails; `Q`
holds from then on.

## Main definitions

* `Dealings`, `Account` — the cases that an invariant has to deal with
* `Errand.Grants` — what an addition brings back

## Main results

* `Dealings.triple_add`, `Dealings.triple_remove` — the two operations
* `Dealings.triple_grants` — the four errands, with what additions bring back
* `Dealings.triple_program`, `Account.triple_program` — the four errands
* `triple_requestDeletion` — a deletion request
* `Dealings.triple_of_not_isPass` — the errands that may land in a pass
-/

namespace ImageCatalog

/-- A new record is stored. -/
def Stage.create (σ : Stage) (e : Errand) (r : Record) (t : Instant) : Stage :=
  σ.after (.answered e (.createRecord r) (.ok r.atFirst)) (σ.ledger.put r.atFirst) t

theorem Stage.record?_create (σ : Stage) (e : Errand) (r : Record) (t : Instant) (name : String) :
    (σ.create e r t).record? name = if name = r.name then some r.atFirst else σ.record? name :=
  Ledger.get?_put ..

/-- The report of an addition: a new consumer, and the phase that it has brought the record to. -/
def Event.addition (name consumer : String) (r : Record) (phase : Option Phase) : List Event :=
  (if !r.hasConsumer consumer then [.referenceAdded name consumer] else []) ++
    match phase with
    | some phase => entered name r.phase phase
    | none => []

/-- What is done in an errand about a consumer, each write with the events that are owed for it. -/
structure Dealings (R : Role) (s : Service) (P Q : Stage → Prop) : Prop where
  still : R.Still P
  still' : R.Still Q
  named : ∀ {σ n r}, P σ → σ.record? n = some r → r.name = n
  create : ∀ {σ n spec c t t'}, R.errand.demand? s = some (n, .add c) →
    R.errand.wants? s = some (n, spec) → Name.fault? n = none → P σ → σ.record? n = none →
    R.regime.tick σ.clock t' →
    R.Owes P [.recordCreated n spec.provider] (σ.create R.errand (.new n spec t) t')
  added : ∀ {σ n r c}, R.errand.demand? s = some (n, .add c) → Name.fault? c = none → P σ →
    σ.record? n = some r → (!r.hasConsumer c || r.isRevivable) = true →
    R.Writes Q (r.addConsumer c).revive
      (Event.addition n c r (r.addConsumer c).revive.phase) σ
  present : ∀ {σ n r c}, R.errand.demand? s = some (n, .add c) → P σ → σ.record? n = some r →
    r.hasConsumer c → r.isRevivable = false → Q σ
  dropped : ∀ {σ n r c}, R.errand.demand? s = some (n, .drop c) → P σ → σ.record? n = some r →
    r.hasConsumer c → R.Writes Q (r.removeConsumer c) [.referenceRemoved n c] σ
  missing : ∀ {σ n c}, R.errand.demand? s = some (n, .drop c) → P σ →
    (∀ r, σ.record? n = some r → r.hasConsumer c = false) → Q σ

/-- What an invariant has to deal with in an errand about a consumer, if it takes no notice of
events. -/
structure Account (R : Role) (s : Service) (P Q : Stage → Prop) : Prop where
  steady : R.Steady P
  steady' : R.Steady Q
  named : ∀ {σ n r}, P σ → σ.record? n = some r → r.name = n
  create : ∀ {σ n spec c t t'}, R.errand.demand? s = some (n, .add c) →
    R.errand.wants? s = some (n, spec) → P σ → σ.record? n = none → R.regime.tick σ.clock t' →
    P (σ.create R.errand (.new n spec t) t')
  added : ∀ {σ n r c t}, R.errand.demand? s = some (n, .add c) → P σ → σ.record? n = some r →
    R.regime.tick σ.clock t → Q (σ.write R.errand (r.addConsumer c).revive t)
  present : ∀ {σ n r c}, R.errand.demand? s = some (n, .add c) → P σ → σ.record? n = some r →
    r.hasConsumer c → Q σ
  dropped : ∀ {σ n r c t}, R.errand.demand? s = some (n, .drop c) → P σ → σ.record? n = some r →
    r.hasConsumer c → R.regime.tick σ.clock t → Q (σ.write R.errand (r.removeConsumer c) t)
  missing : ∀ {σ n c}, R.errand.demand? s = some (n, .drop c) → P σ →
    (∀ r, σ.record? n = some r → r.hasConsumer c = false) → Q σ

/-- **Accounts are dealings** for which events are of no account. -/
theorem Account.dealings {R : Role} {s : Service} {P Q : Stage → Prop} (a : Account R s P Q) :
    Dealings R s P Q where
  still := a.steady.still
  still' := a.steady'.still
  named := a.named
  create hd hw _ hσ hr ht := a.steady.owes _ (a.create hd hw hσ hr ht)
  added hd _ hσ hr _ := fun _ ht => a.steady'.owes _ (a.added hd hσ hr ht)
  present hd hσ hr hc _ := a.present hd hσ hr hc
  dropped hd hσ hr hc := fun _ ht => a.steady'.owes _ (a.dropped hd hσ hr hc ht)
  missing := a.missing

/-! ### What additions bring back -/

/-- The record that an addition brings back. -/
def Errand.granted? : (e : Errand) → e.Result → Option Record
  | .consumerAdded .., r => some r
  | .releaseAdded _, r => some r
  | _, _ => none

/-- A record is stored under a name, and is of the provider that was asked for. -/
def Spec.Granted (spec : Spec) (name : String) (r : Record) (σ : Stage) : Prop :=
  σ.record? name = some r ∧ r.spec.provider = spec.provider

/-- If the errand is an addition, what it brings back is granted. -/
def Errand.Grants (s : Service) (e : Errand) (x : e.Result) (σ : Stage) : Prop :=
  ∀ n spec r, e.wants? s = some (n, spec) → e.granted? x = some r → spec.Granted n r σ

theorem Errand.grants_of_wants_nothing {s : Service} {e : Errand} (h : e.wants? s = none)
    (x : e.Result) (σ : Stage) : e.Grants s x σ := by
  intro n spec r hw
  rw [h] at hw
  cases hw

theorem Spec.Granted.grants {s : Service} {e : Errand} {x : e.Result} {σ : Stage} {name : String}
    {spec : Spec} {r : Record} (h : spec.Granted name r σ) (hw : e.wants? s = some (name, spec))
    (hr : e.granted? x = some r) : e.Grants s x σ := by
  intro n spec' r' hw' hr'
  obtain ⟨rfl, rfl⟩ := Prod.mk.inj (Option.some.inj (hw.symm.trans hw'))
  obtain rfl := Option.some.inj (hr.symm.trans hr')
  exact h

/-! ### The two operations -/

/-- The three ends of an addition. -/
theorem Consumers.addition_ok {name : String} {spec : Spec} {c : String} {r r' : Record}
    {written : Bool} (h : addition name spec c r = .ok (r', written)) :
    (written = true ∧ r' = (r.addConsumer c).revive ∧
        (!r.hasConsumer c || r.isRevivable) = true) ∨
      (written = false ∧ r' = r ∧ r.hasConsumer c = true ∧ r.isRevivable = false) := by
  unfold addition at h
  split at h
  · cases h
  · cases written with
    | true =>
      obtain ⟨hn, hr'⟩ := Edit.when_eq_true h
      exact .inl ⟨rfl, hr', hn⟩
    | false =>
      obtain ⟨hn, hr'⟩ := Edit.when_eq_false h
      obtain ⟨hc, hrevive⟩ : r.hasConsumer c = true ∧ r.isRevivable = false := by simpa using hn
      exact .inr ⟨rfl, hr', hc, hrevive⟩

/-- A record of another provider is refused. -/
theorem Consumers.provider_of_addition {name : String} {spec : Spec} {c : String} {r r' : Record}
    {written : Bool} (h : addition name spec c r = .ok (r', written)) :
    r'.spec.provider = spec.provider := by
  have hprovider : r.spec.provider = spec.provider := by
    refine Decidable.byContradiction fun hne => ?_
    simp [addition, hne] at h
  obtain ⟨-, rfl, -⟩ | ⟨-, rfl, -⟩ := addition_ok h
  · rw [r.addConsumer_eq c]
    exact hprovider
  · exact hprovider

theorem Record.exists_phase_of_not_isRevivable {r : Record} (h : r.isRevivable = false) :
    ∃ phase, r.phase = some phase := by
  cases hphase : r.phase with
  | none => simp [Record.isRevivable, hphase] at h
  | some phase => exact ⟨phase, rfl⟩

/-- An addition that was not needed is not reported. -/
theorem Event.addition_of_present {n c : String} {r : Record} (hc : r.hasConsumer c)
    (h : r.isRevivable = false) : addition n c r r.phase = [] := by
  obtain ⟨phase, hphase⟩ := Record.exists_phase_of_not_isRevivable h
  simp only [addition, hc, hphase, entered_self]
  rfl

namespace Dealings

variable {R : Role} {s : Service} {P Q : Stage → Prop} {n c : String} {spec : Spec}

theorem triple_ensureRecord (a : Dealings R s P Q) (hd : R.errand.demand? s = some (n, .add c))
    (hw : R.errand.wants? s = some (n, spec)) (hn : Name.fault? n = none) :
    R.Triple P (Consumers.ensureRecord n spec) (fun _ σ => P σ ∧ (σ.record? n).isSome) P := by
  refine (a.still.readRecord n fun _ hσ => hσ).bind fun x => ?_
  cases x with
  | some r => exact Role.Triple.done fun σ hσ => ⟨hσ.1, by simp [hσ.2]⟩
  | none =>
    have habsent := a.still.and_record? n none
    refine Role.Triple.bind (Role.triple_now (Q := fun _ σ => P σ ∧ σ.record? n = none)
      (fun _ σ hσ => habsent.during σ hσ)
      fun σ t hσ ht => habsent.quiet σ (.answered R.errand .now t) t hσ rfl (.inl rfl) rfl not_false
        ht)
      fun now => ?_
    refine Role.Triple.ask rfl fun σ t x l hσ ht ha => ?_
    rcases ha with ha | ⟨⟨reason, rfl, hout⟩, rfl⟩
    case inr =>
      obtain ⟨hduring, hnext⟩ := a.still.fails (r := .createRecord (.new n spec now))
        (x := .error reason) hσ.1 trivial ht
      refine ⟨hduring, ?_⟩
      -- The failure is not that there is a record already.
      cases reason <;> first | exact hnext | cases hout
    obtain ⟨rfl, rfl⟩ := Prod.mk.inj (ha.trans (Ledger.create_of_absent hσ.2))
    have hnext : R.Owes P [.recordCreated n spec.provider]
        (σ.create R.errand (.new n spec now) t) := a.create hd hw hn hσ.1 hσ.2 ht
    have hstored : (σ.create R.errand (.new n spec now) t).record? n =
        some (Record.new n spec now).atFirst := by
      rw [Stage.record?_create]
      exact if_pos rfl
    refine ⟨(a.still.owes _).during _ hnext, ?_⟩
    refine (Role.triple_emit (a.still.and_record? n _) _ []).weaken
      (fun _ hσ => hσ) (fun _ _ hσ => ⟨hσ.1, by simp [hσ.2]⟩) (fun _ hσ => hσ) _
      (hnext.and_record? hstored)

/-- What is reported of an addition. -/
theorem triple_reportAddition (hQ : R.Still Q) (v : Revision) {E : Stage → Prop} :
    R.Triple (R.Owes Q (Event.addition n c v.before v.after.phase))
      (Consumers.reportAddition n c v) (fun _ => Q) E := by
  unfold Event.addition Consumers.reportAddition
  refine (Role.triple_emitIf hQ _ _ _).bind fun _ => ?_
  refine ((hQ.owes _).emitIf _ _ rfl).bind fun _ => ?_
  cases v.after.phase with
  | some phase => exact Role.triple_emitIf_last hQ _ _
  | none => exact Role.Triple.done fun _ hσ => hσ

/-- A record that was made sure of is still there when it is edited, so that one attempt is
enough. -/
theorem triple_addWithin (a : Dealings R s P Q) (hd : R.errand.demand? s = some (n, .add c))
    (hw : R.errand.wants? s = some (n, spec)) (hn : Name.fault? n = none)
    (hc : Name.fault? c = none) (attempts : Nat) :
    R.Triple P (Consumers.addWithin n spec c attempts) (fun r σ => Q σ ∧ spec.Granted n r σ) P := by
  cases attempts with
  | zero => exact Role.Triple.fail fun _ hσ => hσ
  | succ attempts =>
    refine (a.triple_ensureRecord hd hw hn).bind fun _ => ?_
    have hstill : R.Still fun σ => P σ ∧ (σ.record? n).isSome := by
      refine ⟨fun σ h => a.still.during σ h.1, ?_⟩
      intro σ d t h he hq hp hrep ht
      exact ⟨a.still.quiet σ d t h.1 he hq hp hrep ht, h.2⟩
    have hrevise : R.Triple (fun σ => P σ ∧ (σ.record? n).isSome)
        (Record.revise? n (Consumers.addition n spec c))
        (fun x σ => ∃ v, x = some v ∧ v.after.spec.provider = spec.provider ∧
          R.Owes (fun σ => Q σ ∧ σ.record? n = some v.after)
            (Event.addition n c v.before v.after.phase) σ) P := by
      refine Role.triple_revise? hstill ?_ ?_ (fun _ hσ _ => hσ.1) (fun _ _ _ hσ _ _ => hσ.1) ?_ ?_
      · intro σ r r' hσ hr he
        obtain ⟨_, rfl, _⟩ | ⟨hw, _⟩ := Consumers.addition_ok he
        · have hname : r.name = n := a.named hσ.1 hr
          rw [r.addConsumer_eq c]
          exact ⟨hname, rfl⟩
        · cases hw
      · intro σ hσ hr
        simp [hr] at hσ
      · intro σ r r' hσ hr he
        have hprovider := Consumers.provider_of_addition he
        obtain ⟨hw, _⟩ | ⟨_, rfl, hmem, hrevive⟩ := Consumers.addition_ok he
        · cases hw
        · refine ⟨_, rfl, hprovider, ?_⟩
          rw [Event.addition_of_present hmem hrevive]
          exact ⟨a.present hd hσ.1 hr hmem hrevive, hr⟩
      · intro σ r r' t hσ hr he ht
        have hprovider := Consumers.provider_of_addition he
        obtain ⟨_, rfl, hneeded⟩ | ⟨hw, _⟩ := Consumers.addition_ok he
        · have hnext := a.added hd hc hσ.1 hr hneeded t ht
          have hname : (r.addConsumer c).revive.name = n := by
            have hname : r.name = n := a.named hσ.1 hr
            rw [r.addConsumer_eq c]
            exact hname
          have hstored : (σ.write R.errand (r.addConsumer c).revive t).record? n =
              some (r.addConsumer c).revive.bumped := by
            rw [Stage.record?_write, if_pos hname.symm]
          exact ⟨(a.still'.owes _).during _ hnext, _, rfl, hprovider, hnext.and_record? hstored⟩
        · cases hw
    refine hrevise.bind fun x => ?_
    rintro σ ⟨v, rfl, hprovider, hσ⟩
    refine Role.Triple.bind (triple_reportAddition (a.still'.and_record? n _) v) (fun _ => ?_) σ hσ
    exact Role.Triple.done fun _ hσ => ⟨hσ.1, hσ.2, hprovider⟩

theorem triple_check {x : Option Name.Fault} {f : Name.Fault → Failure} :
    R.Triple P (match x with | none => pure () | some fault => .fail (f fault))
      (fun _ σ => P σ ∧ x = none) P := by
  cases x with
  | none => exact Role.Triple.done fun _ hσ => ⟨hσ, rfl⟩
  | some _ => exact Role.Triple.fail fun _ hσ => hσ

/-- **An addition.** -/
theorem triple_add (a : Dealings R s P Q) (hd : R.errand.demand? s = some (n, .add c))
    (hw : R.errand.wants? s = some (n, spec)) :
    R.Triple P (Consumers.add n spec c) (fun r σ => Q σ ∧ spec.Granted n r σ) P := by
  refine triple_check.bind fun _ => ?_
  rintro σ ⟨hσ, hn⟩
  refine Role.Triple.bind triple_check (fun _ => ?_) σ hσ
  rintro σ ⟨hσ, hc⟩
  exact a.triple_addWithin hd hw hn hc _ σ hσ

/-- **A consumer goes.** -/
theorem triple_remove (a : Dealings R s P Q) (hd : R.errand.demand? s = some (n, .drop c)) :
    R.Triple P (Consumers.remove n c) (fun _ => Q) P := by
  have hrevise : R.Triple P
      (Record.revise? n (.when (fun r => r.hasConsumer c) fun r => r.removeConsumer c))
      (Role.revised (fun v => R.Owes Q (if v.written then [.referenceRemoved n c] else [])) Q)
      P := by
    refine Role.triple_revise? a.still ?_ ?_ (fun _ hσ _ => hσ) (fun _ _ _ hσ _ _ => hσ) ?_ ?_
    · intro σ r r' hσ hr he
      obtain ⟨_, rfl⟩ := Edit.when_eq_true he
      have hname : r.name = n := a.named hσ hr
      exact ⟨hname, rfl⟩
    · intro σ hσ hr
      refine a.missing hd hσ ?_
      intro q hq
      rw [hr] at hq
      cases hq
    · intro σ r r' hσ hr he
      obtain ⟨hc, _⟩ := Edit.when_eq_false he
      refine a.missing hd hσ ?_
      intro q hq
      rw [hr, Option.some.injEq] at hq
      rw [← hq]
      exact hc
    · intro σ r r' t hσ hr he ht
      obtain ⟨hc, rfl⟩ := Edit.when_eq_true he
      have hnext := a.dropped hd hσ hr hc t ht
      exact ⟨(a.still'.owes _).during _ hnext, hnext⟩
  refine triple_check.bind fun _ => ?_
  rintro σ ⟨hσ, _⟩
  refine Role.Triple.bind hrevise (fun x => ?_) σ hσ
  cases x with
  | none => exact Role.Triple.done fun _ hσ => hσ
  | some v =>
    exact (Role.triple_emitIf_last a.still' _ _).bind fun _ => Role.Triple.done fun _ hσ => hσ

theorem triple_request (P : Stage → Prop) (release : Release) (channel : String) :
    R.Triple P (Program.ofExcept (release.request channel))
      (fun q σ => P σ ∧ release.request channel = .ok q) P := by
  refine Role.Triple.ofExcept fun σ hσ => ?_
  cases h : release.request channel with
  | ok q => exact ⟨hσ, rfl⟩
  | error _ => exact hσ

/-- **The four errands about consumers**, with what additions bring back. -/
theorem triple_grants (a : Dealings R s P Q) (h : R.errand.isDemand) :
    R.Triple P (R.errand.program s) (fun x σ => Q σ ∧ R.errand.Grants s x σ) P := by
  obtain ⟨K, g, e, visitor⟩ := R
  cases e with
  | consumerAdded c image provider =>
    exact (a.triple_add rfl rfl).weaken (fun _ h => h) (fun _ _ h => ⟨h.1, h.2.grants rfl rfl⟩)
      fun _ h => h
  | consumerRemoved c image =>
    exact (a.triple_remove rfl).weaken (fun _ h => h)
      (fun _ _ h => ⟨h, Errand.grants_of_wants_nothing (e := .consumerRemoved c image) rfl _ _⟩)
      fun _ h => h
  | releaseAdded release =>
    refine Role.Triple.bind (triple_request P release s.channel) fun q σ hσ => ?_
    have hd : (Errand.releaseAdded release).demand? s = some (q.record, .add release.name) := by
      simp [Errand.demand?, hσ.2, Except.toOption]
    have hw : (Errand.releaseAdded release).wants? s =
        some (q.record, ⟨q.image, q.provider⟩) := by
      simp [Errand.wants?, hσ.2, Except.toOption]
    exact (a.triple_add hd hw).weaken (fun _ h => h) (fun _ _ h => ⟨h.1, h.2.grants hw rfl⟩)
      (fun _ h => h) σ hσ.1
  | releaseRemoved release =>
    refine Role.Triple.bind (triple_request P release s.channel) fun q σ hσ => ?_
    have hd : (Errand.releaseRemoved release).demand? s = some (q.record, .drop release.name) := by
      simp [Errand.demand?, hσ.2, Except.toOption]
    exact (a.triple_remove hd).weaken (fun _ h => h)
      (fun _ _ h => ⟨h, Errand.grants_of_wants_nothing (e := .releaseRemoved release) rfl _ _⟩)
      (fun _ h => h) σ hσ.1
  | requestDeletion | pass | passAll => cases h

/-- **The four errands about consumers.** -/
theorem triple_program (a : Dealings R s P Q) (h : R.errand.isDemand) :
    R.Triple P (R.errand.program s) (fun _ => Q) P :=
  (a.triple_grants h).weaken (fun _ hσ => hσ) (fun _ _ hσ => hσ.1) fun _ hσ => hσ

end Dealings

/-- **The four errands about consumers**, for an account. -/
theorem Account.triple_program {R : Role} {s : Service} {P Q : Stage → Prop} (a : Account R s P Q)
    (h : R.errand.isDemand) : R.Triple P (R.errand.program s) (fun _ => Q) P :=
  a.dealings.triple_program h

/-! ### Deletion requests -/

section

variable {R : Role} {P Q : Stage → Prop} {n : String}

/-- A deletion request leads from `P` to `Q`, whether there was one already or it is written. -/
theorem triple_markDeletion (hP : R.Still P) (hQ : R.Still Q)
    (hnamed : ∀ σ r, P σ → σ.record? n = some r → r.name = n)
    (hkept : ∀ σ r, P σ → σ.record? n = some r → r.isDeletionRequested → Q σ)
    (hmark : ∀ σ r t, P σ → σ.record? n = some r →
      R.Writes Q { r with deletion := some t } [] σ) :
    R.Triple P (Pass.requestDeletion n) (fun _ => Q) P := by
  refine Role.Triple.bind (Role.triple_now (Q := fun _ => P) (fun _ σ hσ => hP.during σ hσ)
    fun σ t hσ ht => hP.quiet σ (.answered R.errand .now t) t hσ rfl (.inl rfl) rfl not_false ht)
    fun now => ?_
  refine Role.Triple.bind (Role.triple_edit (Q := fun _ => Q) (fun _ => []) hP
    (fun _ => hQ) hnamed (fun _ => ⟨rfl, rfl⟩) (fun _ hσ _ => hσ) ?_
    fun σ r hσ hr _ => hmark σ r now hσ hr) fun v => ?_
  · intro σ r hσ hr hn
    exact hkept σ r hσ hr (by simpa using hn)
  · exact (hQ.emit _ rfl).weaken (fun _ hσ => hσ.1.1) (fun _ _ hσ => hσ) fun _ hσ => hσ

theorem triple_requestDeletion (hP : R.Still P)
    (hnamed : ∀ σ r, P σ → σ.record? n = some r → r.name = n)
    (hmark : ∀ σ r t t', P σ → σ.record? n = some r → R.regime.tick σ.clock t' →
      P (σ.write R.errand { r with deletion := some t } t')) :
    R.Triple P (Pass.requestDeletion n) (fun _ => P) P :=
  triple_markDeletion hP hP hnamed (fun _ _ hσ _ _ => hσ)
    fun σ r t hσ hr t' ht => hmark σ r t t' hσ hr ht

end

/-- **Every errand that may land in a pass**: one about consumers, or a deletion request. -/
theorem Dealings.triple_of_not_isPass {R : Role} {s : Service} {P : Stage → Prop}
    (a : Dealings R s P P) (hpass : R.errand.isPass = false)
    (hmark : ∀ σ n r t t', P σ → σ.record? n = some r → R.regime.tick σ.clock t' →
      P (σ.write R.errand { r with deletion := some t } t')) :
    R.Triple P (R.errand.program s) (fun _ => P) P := by
  by_cases hdemand : R.errand.isDemand
  · exact a.triple_program hdemand
  · obtain ⟨K, g, e, visitor⟩ := R
    cases e with
    | requestDeletion n =>
      exact triple_requestDeletion a.still (fun _ _ hσ hr => a.named hσ hr) fun σ => hmark σ n
    | pass | passAll => cases hpass
    | consumerAdded | consumerRemoved | releaseAdded | releaseRemoved => exact absurd rfl hdemand

end ImageCatalog
