import ImageCatalog.Proofs.Consumers.References
import ImageCatalog.Proofs.Journal.Chronicle
import Mathlib.Data.List.Infix

/-!
# The lifecycle of a record

A write may put any phase in the place of any other, and nothing in it looks at the phase that was
there before. Which phases follow each other is a matter of which part of a pass can run at all: the
image of a record that waits for deletion is not brought anywhere, a record that a sweep has come
upon is on its way out until the sweep is over, whoever lands in the meantime, and one that is
deleted is removed before anybody else gets to see it.

A phase is changed by one deed at a time. So the contract speaks of the deed that was done last, and
next to that of what the parts of a pass rely on: which records may wait or be deleted, as for the
journal, and that the record of a sweep is on its way out.

A store in memory is never out of order. One in files may be, just when a record is to be removed;
the next pass then takes up a record that is deleted, and this is the only way for its phase to
change.

## Main definitions

* `Phase.Edge` — how a write may change a phase
* `Ages` — how a deed may change the phases of all records
* `Aged` — records in good shape, which the last deed has changed along an edge

## Main results

* `Aged.write` — a record is written along an edge
* `dealings_aged`, `agedCourse` — errands about consumers and passes
* `lifecycle` — the phases of a record, one after the other, in all runs
-/

namespace ImageCatalog

/-! ### Edges -/

/-- How a write may change a phase, with or without a consumer that is added. A store that was out
of order leaves records behind that should have been removed. -/
inductive Phase.Edge (added faulted : Prop) : Option Phase → Option Phase → Prop where
  | stay (p : Option Phase) : Edge added faulted p p
  /-- A consumer comes. -/
  | revive {p : Option Phase} : added → p = none ∨ p = some .awaitingDeletion →
    Edge added faulted p (some .pending)
  /-- The image is brought to its locations, or cannot be taken out of all of them. -/
  | place {p : Option Phase} {phase : Phase} : p ≠ some .awaitingDeletion →
    (p = some .deleted → faulted) → phase ≠ .pending → phase ≠ .awaitingDeletion →
    phase ≠ .deleted → Edge added faulted p (some phase)
  /-- The period begins. -/
  | wait {p : Option Phase} : (p = some .deleted → faulted) →
    Edge added faulted p (some .awaitingDeletion)
  /-- The removal starts. -/
  | start {p : Option Phase} : (p = some .deleted → faulted) →
    Edge added faulted p (some .deleting)
  /-- The image is out of all catalogs. -/
  | finish : Edge added faulted (some .deleting) (some .deleted)

namespace Phase.Edge

variable {added faulted : Prop} {p q : Option Phase}

/-- Only a consumer makes a record pending, be it a new record or one that waits for deletion. -/
theorem of_pending (h : Edge added faulted p (some .pending)) (hne : p ≠ some .pending) :
    (p = none ∨ p = some .awaitingDeletion) ∧ added := by
  cases h with
  | stay => exact absurd rfl hne
  | revive ha hp => exact ⟨hp, ha⟩
  | place _ _ hpending => exact absurd rfl hpending

/-- A wait for deletion ends with a consumer, or with the removal. -/
theorem of_awaitingDeletion (h : Edge added faulted (some .awaitingDeletion) q)
    (hne : q ≠ some .awaitingDeletion) : q = some .pending ∨ q = some .deleting := by
  cases h with
  | stay | wait => exact absurd rfl hne
  | revive => exact .inl rfl
  | place hwaits => exact absurd rfl hwaits
  | start => exact .inr rfl

/-- Before a record is deleted it is on its way out. -/
theorem of_deleted (h : Edge added faulted p (some .deleted)) (hne : p ≠ some .deleted) :
    p = some .deleting := by
  cases h with
  | stay => exact absurd rfl hne
  | place _ _ _ _ hdeleted => exact absurd rfl hdeleted
  | finish => rfl

/-- Nothing follows on a record that is deleted, unless a store was out of order. -/
theorem faulted_of_deleted (h : Edge added faulted (some .deleted) q) (hne : q ≠ some .deleted) :
    faulted := by
  cases h with
  | stay => exact absurd rfl hne
  | revive _ hp => rcases hp with hp | hp <;> cases hp
  | place _ hf | wait hf | start hf => exact hf rfl

/-- An upload comes to an end, or its record is not needed any more. -/
theorem of_uploading (h : Edge added faulted (some .uploading) q) (hne : q ≠ some .uploading) :
    q ∈ [some .available, some .error, some .missing, some .deleting, some .awaitingDeletion] := by
  cases h with
  | stay => exact absurd rfl hne
  | revive _ hp => rcases hp with hp | hp <;> cases hp
  | @place _ phase _ _ hpending hwaits hdeleted =>
    cases phase <;> first | decide | contradiction
  | wait | start => decide

end Phase.Edge

theorem Record.edge_revive {added faulted : Prop} (ha : added) (r : Record) :
    Phase.Edge added faulted r.phase r.revive.phase := by
  simp only [revive]
  split
  · rename_i hp
    exact .revive ha (by simpa using hp)
  · exact .stay _

/-! ### The last deed -/

variable {s : Service} {W W' D D' : String → Prop} {σ σ' : Stage} {key n : String}
  {r r' : Record} {d : Deed} {l : Ledger} {t : Instant} {e : Errand}

/-- An errand adds a consumer to the record of a name. -/
def Errand.Adds (s : Service) (e : Errand) (n : String) : Prop :=
  ∃ consumer, e.demand? s = some (n, .add consumer)

/-- How a deed may change the phases of the records, where it leaves the records in `l`. -/
structure Ages (s : Service) (σ : Stage) (d : Deed) (l : Ledger) : Prop where
  /-- A new record has no phase. -/
  created : ∀ n r, σ.record? n = none → l.get? n = some r → r.phase = none
  /-- A record that goes was deleted. -/
  removed : ∀ n r, σ.record? n = some r → l.get? n = none → r.phase = some .deleted
  edge : ∀ n r r', σ.record? n = some r → l.get? n = some r' →
    Phase.Edge (d.errand.Adds s n) (Faulted σ.past) r.phase r'.phase

namespace Ages

/-- A deed that changes no record. -/
theorem still (s : Service) (σ : Stage) (d : Deed) : Ages s σ d σ.ledger where
  created n r hr hr' := by
    have hnone : σ.record? n = some r := hr'
    rw [hr] at hnone
    cases hnone
  removed n r hr hr' := by
    have hsome : σ.record? n = none := hr'
    rw [hr] at hsome
    cases hsome
  edge n r r' hr hr' := by
    obtain rfl := Option.some.inj (hr.symm.trans hr')
    exact .stay _

/-- A deed that changes one record. -/
theorem change (hother : ∀ n, n ≠ key → l.get? n = σ.record? n)
    (hcreated : ∀ r, σ.record? key = none → l.get? key = some r → r.phase = none)
    (hremoved : ∀ r, σ.record? key = some r → l.get? key = none → r.phase = some .deleted)
    (hedge : ∀ r r', σ.record? key = some r → l.get? key = some r' →
      Phase.Edge (d.errand.Adds s key) (Faulted σ.past) r.phase r'.phase) : Ages s σ d l := by
  have hstill := still s σ d
  refine ⟨fun n => ?_, fun n => ?_, fun n => ?_⟩ <;> by_cases hn : n = key
  · subst hn
    exact hcreated
  · rw [hother n hn]
    exact hstill.created n
  · subst hn
    exact hremoved
  · rw [hother n hn]
    exact hstill.removed n
  · subst hn
    exact hedge
  · rw [hother n hn]
    exact hstill.edge n

theorem put (hname : r'.name = key) (hr : σ.record? key = some r)
    (hedge : Phase.Edge (d.errand.Adds s key) (Faulted σ.past) r.phase r'.phase) :
    Ages s σ d (σ.ledger.put r') := by
  subst hname
  refine change (fun n hn => Ledger.get?_put_of_ne hn) (fun q hq _ => ?_) (fun q _ hq => ?_)
    fun q q' hq hq' => ?_
  · rw [hr] at hq
    cases hq
  · rw [Ledger.get?_put_of_eq rfl] at hq
    cases hq
  · obtain rfl := Option.some.inj (hr.symm.trans hq)
    rw [Ledger.get?_put_of_eq rfl] at hq'
    obtain rfl := Option.some.inj hq'
    exact hedge

theorem create (hname : r.name = key) (hr : σ.record? key = none) (hphase : r.phase = none) :
    Ages s σ d (σ.ledger.put r) := by
  subst hname
  refine change (fun n hn => Ledger.get?_put_of_ne hn) (fun q _ hq => ?_) (fun q hq _ => ?_)
    fun q _ hq _ => ?_
  · rw [Ledger.get?_put_of_eq rfl] at hq
    obtain rfl := Option.some.inj hq
    exact hphase
  · rw [hr] at hq
    cases hq
  · rw [hr] at hq
    cases hq

theorem erase (hr : σ.record? key = some r) (hphase : r.phase = some .deleted) :
    Ages s σ d ⟨σ.ledger.records.erase key⟩ := by
  have hgone : (⟨σ.ledger.records.erase key⟩ : Ledger).get? key = none := by
    rw [Ledger.get?_erase, if_pos rfl]
  refine change (fun n (hn : n ≠ key) => ?_) (fun q _ hq => ?_) (fun q hq _ => ?_)
    fun q q' _ hq => ?_
  · rw [Ledger.get?_erase, if_neg hn]
    rfl
  · rw [hgone] at hq
    cases hq
  · obtain rfl := Option.some.inj (hr.symm.trans hq)
    exact hphase
  · rw [hgone] at hq
    cases hq

end Ages

/-! ### Records that age -/

/-- Records in good shape, which the last deed has changed along an edge. -/
structure Aged (s : Service) (W D : String → Prop) (σ : Stage) : Prop extends Tidy s W D σ where
  lately : σ.Lately (Ages s)

/-- Records that are on their way out stay so. -/
def StayDeleting (σ σ' : Stage) : Prop :=
  ∀ n, σ.InPhase n .deleting → σ'.InPhase n .deleting

/-- A record is stored. -/
theorem StayDeleting.put {σ₀ : Stage} (h : StayDeleting σ₀ σ) (hname : r.name = key)
    (hphase : σ.InPhase key .deleting → r.phase = some .deleting) (d : Deed) (t : Instant) :
    StayDeleting σ₀ (σ.after d (σ.ledger.put r) t) := by
  subst hname
  intro n hn
  by_cases hne : n = r.name
  · subst hne
    exact ⟨r, Ledger.get?_put_of_eq rfl, hphase (h _ hn)⟩
  · obtain ⟨q, hq, hq'⟩ := h n hn
    exact ⟨q, (Ledger.get?_put_of_ne hne).trans hq, hq'⟩

namespace Aged

theorem mono (h : Aged s W D σ) (hW : ∀ n, W n → W' n) (hD : ∀ n, D n → D' n) :
    Aged s W' D' σ :=
  ⟨h.toTidy.mono hW hD, h.lately⟩

theorem keep (h : Aged s W D σ) (d : Deed) (t : Instant) : Aged s W D (σ.after d σ.ledger t) :=
  ⟨h.toTidy.keep d t, .after (.still s σ d) t⟩

/-- **A record is written along an edge.** -/
theorem write (h : Aged s W D σ) (hr : σ.record? key = some r)
    (hvalid : r'.Valid s.setup.period key) (hwaits : r'.phase = some .awaitingDeletion → W' key)
    (hdeleted : r'.phase = some .deleted → D' key ∨ Faulted σ.past)
    (hW : ∀ n, n ≠ key → W n → W' n) (hD : ∀ n, n ≠ key → D n → D' n)
    (hedge : Phase.Edge (e.Adds s key) (Faulted σ.past) r.phase r'.phase) (t : Instant) :
    Aged s W' D' (σ.write e r' t) where
  toTidy := h.toTidy.put hvalid.bumped hwaits hdeleted hW hD _ t
  lately := .after (.put (show r'.bumped.name = key from hvalid.name_eq) hr hedge) t

/-- A write that leaves the phase as it is. -/
theorem rewrite (h : Aged s W D σ) (hr : σ.record? key = some r)
    (hvalid : r'.Valid s.setup.period key) (hphase : r'.phase = r.phase) (t : Instant) :
    Aged s W D (σ.write e r' t) := by
  refine h.write hr hvalid (fun hp => ?_) (fun hp => ?_) (fun _ _ h => h) (fun _ _ h => h) ?_ t
  · exact h.waits key r hr (hphase.symm.trans hp)
  · exact h.deleted key r hr (hphase.symm.trans hp)
  · rw [hphase]
    exact .stay _

/-- Where no record of the name may be deleted, one that is was left behind. -/
theorem faulted (h : Aged s W (fun _ => False) σ) (hr : σ.record? key = some r)
    (hphase : r.phase = some .deleted) : Faulted σ.past :=
  (h.deleted key r hr hphase).resolve_left not_false

end Aged

/-! ### The contract -/

/-- Phases change along the edges. Visitors make no record wait for deletion, and leave records that
are on their way out alone. -/
def ageing (s : Service) : Contract where
  idle := Aged s (fun _ => True) fun _ => False
  during _ σ := σ.Lately (Ages s)
  lull := Aged s (fun _ => True) fun _ => False
  may σ σ' :=
    (∀ W, Aged s W (fun _ => False) σ → Aged s W (fun _ => False) σ') ∧ StayDeleting σ σ'
  may_refl _ := ⟨fun _ h => h, fun _ h => h⟩
  may_trans h h' := ⟨fun W hσ => h'.1 W (h.1 W hσ), fun n hn => h'.2 n (h.2 n hn)⟩

variable {g : Regime} {visitor : Bool}

theorem steady_aged : Role.Steady ⟨ageing s, g, e, visitor⟩ (Aged s W D) where
  during _ h := h.lately
  quiet _ d t h _ _ _ := h.keep d t

theorem steady_aged_inPhase {phase : Phase} :
    Role.Steady ⟨ageing s, g, e, visitor⟩ fun σ => Aged s W D σ ∧ σ.InPhase key phase where
  during _ h := h.1.lately
  quiet _ d t h _ _ _ := ⟨h.1.keep d t, h.2⟩

/-! ### Errands that may land -/

section Demands

variable {σ₀ : Stage}

/-- What an errand that may land keeps, if it has come at `σ₀`. -/
def AgedSince (s : Service) (W : String → Prop) (σ₀ σ : Stage) : Prop :=
  Aged s W (fun _ => False) σ ∧ StayDeleting σ₀ σ

theorem AgedSince.keep (h : AgedSince s W σ₀ σ) (d : Deed) (t : Instant) :
    AgedSince s W σ₀ (σ.after d σ.ledger t) :=
  ⟨h.1.keep d t, h.2⟩

theorem AgedSince.rewrite (h : AgedSince s W σ₀ σ) (hr : σ.record? key = some r)
    (hvalid : r'.Valid s.setup.period key) (hphase : r'.phase = r.phase) (t : Instant) :
    AgedSince s W σ₀ (σ.write e r' t) := by
  refine ⟨h.1.rewrite hr hvalid hphase t, h.2.put hvalid.bumped.name_eq (fun hp => ?_) _ t⟩
  exact hphase.trans (hp.phase_eq hr)

theorem steady_agedSince : Role.Steady ⟨ageing s, g, e, visitor⟩ (AgedSince s W σ₀) where
  during _ h := h.1.lately
  quiet _ d t h _ _ _ := h.keep d t

/-- **Errands about consumers** make records pending that are new or wait for deletion. -/
theorem dealings_aged (s : Service) (g : Regime) (W : String → Prop) (σ₀ : Stage) :
    Dealings ⟨ageing s, g, e, visitor⟩ s (AgedSince s W σ₀) (AgedSince s W σ₀) where
  still := steady_agedSince.still
  still' := steady_agedSince.still
  named h hr := (h.1.valid _ _ hr).name_eq
  create {σ n spec c t t'} _ _ hn h hr _ := by
    have hvalid : (Record.new n spec t).atFirst.Valid s.setup.period n :=
      Record.valid_new hn spec t
    have htidy : Tidy s W (fun _ => False) (σ.create e (.new n spec t) t') :=
      h.1.toTidy.put hvalid (fun hp => by cases hp) (fun hp => by cases hp) (fun _ _ h => h)
        (fun _ _ h => h) _ t'
    refine steady_agedSince.owes _ ⟨⟨htidy, .after (.create rfl hr rfl) t'⟩, ?_⟩
    refine h.2.put rfl (fun hp => ?_) _ t'
    obtain ⟨q, hq, -⟩ := hp
    have hnone : σ.record? n = none := hr
    have hsome : σ.record? n = some q := hq
    rw [hnone] at hsome
    cases hsome
  added {σ n r c} hd hc h hr _ := fun t _ => by
    have hphase : (r.addConsumer c).phase = r.phase := r.phase_addConsumer c
    have hvalid := (h.1.valid n r hr).add hc
    refine steady_agedSince.owes _ ⟨h.1.write hr hvalid
      (fun hp => absurd hp (Record.phase_revive_ne _)) (fun hp => ?_) (fun _ _ h => h)
      (fun _ _ h => h) ?_ t, h.2.put hvalid.bumped.name_eq (fun hp => ?_) _ t⟩
    · exact h.1.deleted n r hr (hphase.symm.trans (Record.phase_revive_eq_deleted hp))
    · rw [← hphase]
      exact Record.edge_revive ⟨c, hd⟩ _
    · have hdeleting : (r.addConsumer c).phase = some .deleting := hphase.trans (hp.phase_eq hr)
      show (r.addConsumer c).revive.phase = some .deleting
      simp [Record.revive, hdeleting]
  present _ h _ _ _ := h
  dropped {σ n r c} _ h hr _ := fun t _ =>
    steady_agedSince.owes _ (h.rewrite hr ((h.1.valid n r hr).remove c) rfl t)
  missing _ h _ := h

/-- **Errands that may land** change phases along the edges. -/
theorem aged_of_not_isPass (hpass : e.isPass = false) :
    Role.Triple ⟨ageing s, g, e, visitor⟩ (AgedSince s W σ₀) (e.program s)
      (fun _ => AgedSince s W σ₀) (AgedSince s W σ₀) :=
  (dealings_aged s g W σ₀).triple_of_not_isPass hpass fun _ n r t t' h hr _ =>
    h.rewrite hr ((h.1.valid n r hr).setDeletion (some t)) rfl t'

end Demands

/-! ### Passes -/

section Passes

/-- A pass writes a phase that neither begins a wait nor ends the life of a record. -/
theorem Aged.enter (h : Aged s (· ≠ key) (fun _ => False) σ) (hr : σ.record? key = some r)
    {phase : Phase} (hpending : phase ≠ .pending) (hwaits : phase ≠ .awaitingDeletion)
    (hdeleted : phase ≠ .deleted) (t : Instant) :
    Aged s (· ≠ key) (fun _ => False) (σ.write e { r with phase := some phase } t) := by
  have hne : r.phase ≠ some .awaitingDeletion := fun hp => h.waits key r hr hp rfl
  exact h.write hr ((h.valid key r hr).enter hne hwaits)
    (fun hp => absurd (Option.some.inj hp) hwaits) (fun hp => absurd (Option.some.inj hp) hdeleted)
    (fun _ _ h => h) (fun _ _ h => h) (.place hne (h.faulted hr) hpending hwaits hdeleted) t

/-- **The course of a pass.** While the image is taken out of the catalogs, the record is on its way
out; once it is to be removed, it is deleted. -/
def agedCourse (s : Service) (g : Regime) (e : Errand) (key : String) :
    Course ⟨ageing s, g, e, false⟩ s.setup.period key (Aged s (fun _ => True) fun _ => False)
      (Aged s (fun _ => True) fun _ => False) where
  base := Aged s (fun _ => True) fun _ => False
  opened := Aged s (fun _ => True) fun _ => False
  looked _ := Aged s (fun _ => True) fun _ => False
  placing := Aged s (· ≠ key) fun _ => False
  sweep _ σ := Aged s (· ≠ key) (fun _ => False) σ ∧ σ.InPhase key .deleting
  leaving _ σ := Aged s (fun _ => True) (· = key) σ ∧ σ.InPhase key .deleted
  alone := rfl
  still_base := steady_aged.still
  still_opened := steady_aged.still
  still_looked _ := steady_aged.still
  still_placing := steady_aged.still
  still_sweep _ := steady_aged_inPhase.still
  still_leaving _ := steady_aged_inPhase.still
  base_of_opened h := h
  base_of_looked h := h
  base_of_placing h := h.mono (fun _ _ => trivial) fun _ h => h
  placing_of_sweep h := h.1
  home_of_base h := h
  lull_of_placing h := h.mono (fun _ _ => trivial) fun _ h => h
  named h hr := (h.valid _ _ hr).name_eq
  read _ h _ := h.keep _ _
  drop {_ r} h hr := fun t _ => h.rewrite hr ((h.valid key r hr).setDeletion none) rfl t
  now h _ := h.keep _ _
  place {_ r} h hr hplace :=
    ⟨h.toTidy.awake hr ((h.valid key r hr).ne_awaitingDeletion hplace), h.lately⟩
  endWait {_ _ r} h hr href hp :=
    absurd hp ((h.valid key r hr).ne_awaitingDeletion (.inl href))
  mark {now _ r} h hr _ := fun t _ =>
    h.rewrite hr ((h.valid key r hr).setDeletion (some now)) rfl t
  stamp {now σ r _} h hr hd := fun t _ => by
    have hnil := Record.consumers_eq_nil (Retention.isReferenced_of_startGracePeriod hd)
    have hperiod := Retention.pos_of_startGracePeriod hd
    exact steady_aged.owes _ (h.write hr ((h.valid key r hr).startWait hnil hperiod now)
      (fun _ => trivial) (fun hp => by cases hp) (fun _ _ h => h) (fun _ _ h => h)
      (.wait (h.faulted hr)) t)
  issue h _ _ := h.keep _ _
  visits h hm := hm.1 _ h
  answered h _ _ := h.keep _ _
  enter h hr hpending hwaits hdeleted _ := fun t _ =>
    steady_aged.owes _ (h.enter hr hpending hwaits hdeleted t)
  start {σ r} h hr _ _ _ := fun t _ => by
    have hvalid := (h.valid key r hr).startRemoval
    refine steady_aged_inPhase.owes _ ⟨h.write hr hvalid (fun hp => by cases hp)
      (fun hp => by cases hp) (fun _ hn _ => hn) (fun _ _ h => h) (.start (h.faulted hr)) t, ?_⟩
    exact .of_write hvalid.name_eq rfl e t
  started {σ r} h hr _ _ hn := by
    have hphase : r.phase = some .deleting := by
      have hn' : r.hasStamp = false ∧ r.phase = some .deleting := by simpa using hn
      exact hn'.2
    refine ⟨⟨h.toTidy.awake hr ?_, h.lately⟩, r, hr, hphase⟩
    rw [hphase]
    decide
  enter_sweep h hr hphase := absurd (h.2.phase_eq hr) hphase
  withdraw h _ _ _ _ hm := ⟨hm.1 _ (h.1.keep _ _), hm.2 _ h.2⟩
  withdrawn h _ _ _ := ⟨h.1.keep _ _, h.2⟩
  leave {_ σ r} h hr _ _ := fun t _ => by
    have hphase := h.2.phase_eq hr
    have hne : r.phase ≠ some .awaitingDeletion := by
      rw [hphase]
      decide
    have hvalid : Record.Valid s.setup.period key { r with phase := some .deleted } :=
      (h.1.valid key r hr).enter hne (by decide)
    refine steady_aged_inPhase.owes _ ⟨h.1.write hr hvalid (fun _ => trivial) (fun _ => ?_)
      (fun _ _ _ => trivial) (fun _ _ h => h.elim) ?_ t, .of_write hvalid.name_eq rfl e t⟩
    · exact .inl rfl
    · rw [hphase]
      exact .finish
  left h hr _ hphase := by
    rw [h.2.phase_eq hr] at hphase
    cases hphase
  removed {_ σ r t} h hr _ _ := by
    refine steady_aged.owes _ ⟨h.1.toTidy.erase (fun _ hn h => absurd h hn) _ t, ?_⟩
    exact .after (.erase hr (h.2.phase_eq hr)) t
  stuck {_ σ e' t v} h hout _ := by
    refine ⟨⟨h.1.valid, fun _ _ _ _ => trivial, ?_⟩, (h.1.keep _ t).lately⟩
    intro n r _ _
    exact .inr ⟨_, List.mem_cons_self, hout⟩

/-- **Passes** change phases along the edges. -/
theorem aged_of_isPass (hpass : e.isPass) :
    Role.Triple ⟨ageing s, g, e, false⟩ (Aged s (fun _ => True) fun _ => False) (e.program s)
      (fun _ => Aged s (fun _ => True) fun _ => False)
      (Aged s (fun _ => True) fun _ => False) := by
  have hrun := fun key => (agedCourse s g e key).triple_run (s := s.setup) rfl
  cases e with
  | pass key => exact hrun key
  | passAll =>
    exact triple_runAll hrun steady_aged.still (fun _ h => h) fun _ t _ h _ => h.keep _ t
  | consumerAdded | consumerRemoved | releaseAdded | releaseRemoved | requestDeletion =>
    cases hpass

end Passes

/-! ### Runs -/

/-- **Phases change along the edges**, under every regime in which no pass lands in another. -/
theorem ageing_holds (s : Service) {g : Regime}
    (hg : ∀ q v, g.visitors q v → v.isPass = false) : (ageing s).Holds g s where
  start t _ := by
    refine ⟨⟨fun n r hr => ?_, fun n r hr => ?_, fun n r hr => ?_⟩, .start t⟩ <;> cases hr
  errand e σ t _ h _ := by
    have hbegan := h.keep (.began e) t
    refine ⟨hbegan.lately, ?_⟩
    by_cases hpass : e.isPass
    · refine ((aged_of_isPass hpass) _ hbegan).mono fun x σ' hx t' _ => ?_
      cases x <;> exact hx.keep _ t'
    · have hsince : AgedSince s (fun _ => True) (σ.after (.began e) σ.ledger t) _ :=
        ⟨hbegan, fun _ h => h⟩
      refine ((aged_of_not_isPass (by simpa using hpass)) _ hsince).mono fun x σ' hx t' _ => ?_
      cases x <;> exact hx.1.keep _ t'
  visitor q e σ t hv h _ := by
    have hwaits : Aged s σ.Waits (fun _ => False) σ :=
      ⟨⟨h.valid, fun n r hr hp => ⟨r, hr, hp⟩, h.deleted⟩, h.lately⟩
    have hsince : AgedSince s σ.Waits σ (σ.after (.began e) σ.ledger t) :=
      ⟨hwaits.keep _ t, fun _ h => h⟩
    refine ⟨hsince.1.lately, ?_⟩
    refine ((aged_of_not_isPass (hg q e hv)) _ hsince).mono fun x σ' hx t' _ => ?_
    have hleft : AgedSince s σ.Waits σ (σ'.after (.ended e x) σ'.ledger t') := by
      cases x <;> exact hx.keep _ t'
    -- What waits now waited when the visitor came.
    exact ⟨hleft.1.mono (fun _ _ => trivial) fun _ h => h,
      fun W hW => hleft.1.mono hW.of_waits fun _ h => h, hleft.2⟩

theorem Reachable.ages {c : Scene} (hg : ∀ q v, g.visitors q v → v.isPass = false)
    (h : Reachable s g c) : c.stage.Lately (Ages s) := by
  cases h.keeps (ageing_holds s hg) with
  | idle hi => exact hi.lately
  | atWork hd _ => exact hd
  | waiting _ hl _ => exact hl.lately
  | visited _ hd _ _ => exact hd

/-- **The lifecycle of a record.** A new record has no phase, and a record that goes was deleted.
From one step of a run to the next, a phase changes as follows. A record becomes pending only with a
consumer that is added, and only if it had no phase or waited for deletion. A wait for deletion ends
with that, or with the removal. A record is deleted only after it was on its way out, and stays so
unless a store was out of order. An upload ends with the image in place, with a failure, with an
artifact that is missing, or with a record that is not needed any more. -/
theorem lifecycle (s : Service) {c c' : Scene} (h : Reachable s .interleaved c)
    (hstep : c.Step s .interleaved c') :
    (∀ n r', c.stage.record? n = none → c'.stage.record? n = some r' → r'.phase = none) ∧
    (∀ n r, c.stage.record? n = some r → c'.stage.record? n = none → r.phase = some .deleted) ∧
    ∃ d t, c'.stage = c.stage.after d c'.stage.ledger t ∧
      ∀ n r r', c.stage.record? n = some r → c'.stage.record? n = some r' → r'.phase ≠ r.phase →
        (r'.phase = some .pending → (r.phase = none ∨ r.phase = some .awaitingDeletion) ∧
          ∃ consumer, d.errand.demand? s = some (n, .add consumer)) ∧
        (r.phase = some .awaitingDeletion →
          r'.phase = some .pending ∨ r'.phase = some .deleting) ∧
        (r'.phase = some .deleted → r.phase = some .deleting) ∧
        (r.phase = some .deleted → ∃ m ∈ c.stage.past, m.deed.isOutage) ∧
        (r.phase = some .uploading → r'.phase ∈ [some .available, some .error, some .missing,
          some .deleting, some .awaitingDeletion]) := by
  obtain ⟨d, t, hafter⟩ := hstep.after
  have hages : Ages s c.stage d c'.stage.ledger :=
    (h.step hstep).ages (fun _ _ => Regime.isPass_of_interleaved) _ _ _ _ hafter
  refine ⟨hages.created, hages.removed, d, t, hafter, fun n r r' hr hr' hne => ?_⟩
  have hedge := hages.edge n r r' hr hr'
  refine ⟨fun hp => ?_, fun hp => ?_, fun hp => ?_, fun hp => ?_, fun hp => ?_⟩ <;>
    rw [hp] at hedge hne
  · exact hedge.of_pending hne.symm
  · exact hedge.of_awaitingDeletion hne
  · exact hedge.of_deleted hne.symm
  · exact hedge.faulted_of_deleted hne
  · exact hedge.of_uploading hne

/-- Whether a record has got from waiting for deletion to being pending in one step. -/
def Scene.rescued (c : Scene) (n : String) : Bool :=
  c.stage.past.tails.any fun
    | [] => false
    | m :: older =>
      ((ledgerAfter older).get? n).any (fun r => r.phase == some .awaitingDeletion) &&
        (m.ledger.get? n).any fun r => r.phase == some .pending

/-- With a period of one minute, a record waits for deletion until it has a consumer again. -/
theorem lifecycle_of_one_minute :
    let s := Performance.smallService (.ofSeconds 60)
    ∃ c c' d t r r', Reachable s .interleaved c ∧ c.Step s .interleaved c' ∧
      c'.stage = c.stage.after d c'.stage.ledger t ∧
      c.stage.record? "flatcar" = some r ∧ r.phase = some .awaitingDeletion ∧
      c'.stage.record? "flatcar" = some r' ∧ r'.phase = some .pending ∧
      ∃ consumer, d.errand.demand? s = some ("flatcar", .add consumer) := by
  intro s
  obtain ⟨c₂, hc₂, hfound⟩ := Performance.exists_reachable (s := s)
    (g := .interleaved) (fun _ _ _ => trivial) (t := .epoch) rfl
    [.begin (.consumerAdded "early" "flatcar" "capv"), .begin (.consumerRemoved "early" "flatcar"),
      .begin (.pass "flatcar"), .begin (.consumerAdded "late" "flatcar" "capv")]
    (Scene.rescued · "flatcar") (by decide +kernel)
  obtain ⟨l, htail, hl⟩ := List.any_eq_true.mp hfound
  obtain ⟨newer, hpast⟩ := (List.mem_tails _ _).mp htail
  cases l with
  | nil => cases hl
  | cons m older =>
    obtain ⟨hwaits, hpending⟩ := Bool.and_eq_true_iff.mp hl
    obtain ⟨r, hr, hphase⟩ := (Option.any_eq_true _ _).mp hwaits
    obtain ⟨r', hr', hphase'⟩ := (Option.any_eq_true _ _).mp hpending
    have hp : r.phase = some .awaitingDeletion := beq_iff_eq.mp hphase
    have hp' : r'.phase = some .pending := beq_iff_eq.mp hphase'
    obtain ⟨c, c', hc, hstep, hpast₀, hpast₁⟩ := hc₂.exists_step hpast.symm
    have hbefore : c.stage.record? "flatcar" = some r := by
      rw [Stage.record?, Stage.ledger, hpast₀]
      exact hr
    have hafter : c'.stage.record? "flatcar" = some r' := by
      rw [Stage.record?, Stage.ledger, hpast₁]
      exact hr'
    have hne : r'.phase ≠ r.phase := by
      rw [hp, hp']
      decide
    obtain ⟨-, -, d, t, heq, hphases⟩ := lifecycle s hc hstep
    obtain ⟨-, hadded⟩ := (hphases "flatcar" r r' hbefore hafter hne).1 hp'
    exact ⟨c, c', d, t, r, r', hc, hstep, heq, hbefore, hp, hafter, hp', hadded⟩

end ImageCatalog
