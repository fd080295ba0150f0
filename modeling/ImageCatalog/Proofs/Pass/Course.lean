import ImageCatalog.Proofs.Pass.Outline

/-!
# The course of a pass

An outline lumps most writes of a pass together. For what the records are like, and for what is told
of them, each write counts by itself, and so do the events that follow it. A `Course` lists them one
by one, in the order of a pass.

## The assertions of a course

A pass starts with `fresh` and ends with `home`. It has `opened` the record until it has read the
time, and has `looked` at the clock until it writes. `placing` holds while the image is brought to
the locations, `sweep` while it is taken out of the catalogs, `leaving` once the record is to be
removed, and `base` between these and at every end. Each of them is kept by deeds that change
nothing and report nothing.

What is said of a placement does not depend on how far it has come. An invariant for which that
counts has a `Retirement`, which is a course without the placement, and deals with the placement by
itself.

## Main definitions

* `Event.entered` — the report of a phase
* `Retirement` — the writes of a pass but for those of a placement
* `Course` — the writes of a pass, with the events that are owed for them

## Main results

* `Outline.course` — an outline is a course on which events are of no account
-/

namespace ImageCatalog

/-- The report that a record has entered a phase. Only a change is reported. -/
def Event.entered (name : String) (source : Option Phase) (target : Phase) : List Event :=
  if source != some target then [.stateChanged name source target] else []

theorem Event.entered_self (name : String) (phase : Phase) :
    entered name (some phase) phase = [] := by
  simp [entered]

theorem Event.entered_of_ne {name : String} {source : Option Phase} {target : Phase}
    (h : source ≠ some target) :
    entered name source target = [.stateChanged name source target] := by
  simp [entered, h]

/-- What a pass does to the record `key` apart from bringing its image to the locations, each write
with the assertion that it leads to and the events that are owed for it. -/
structure Retirement (R : Role) (period : Duration) (key : String) (fresh home : Stage → Prop) where
  /-- What holds between the parts of the pass. -/
  base : Stage → Prop
  /-- What holds before the time is read. -/
  opened : Stage → Prop
  /-- What holds after the time was read. -/
  looked : Instant → Stage → Prop
  /-- What holds when the image is about to be brought to the locations. -/
  placing : Stage → Prop
  /-- What holds while the image is taken out of the catalogs. -/
  sweep : Spec → Stage → Prop
  /-- What holds once the record is to be removed. -/
  leaving : Spec → Stage → Prop
  alone : R.isVisitor = false
  still_base : R.Still base
  still_opened : R.Still opened
  still_looked : ∀ t, R.Still (looked t)
  still_placing : R.Still placing
  still_sweep : ∀ spec, R.Still (sweep spec)
  still_leaving : ∀ spec, R.Still (leaving spec)
  base_of_opened : ∀ {σ}, opened σ → base σ
  base_of_looked : ∀ {t σ}, looked t σ → base σ
  base_of_placing : ∀ {σ}, placing σ → base σ
  placing_of_sweep : ∀ {spec σ}, sweep spec σ → placing σ
  home_of_base : ∀ {σ}, base σ → home σ
  lull_of_placing : ∀ {σ}, placing σ → R.contract.lull σ
  named : ∀ {σ r}, base σ → σ.record? key = some r → r.name = key
  /-- The pass begins with a reading of the record. -/
  read : ∀ {σ t} x, fresh σ → R.regime.tick σ.clock t →
    opened (σ.after (.answered R.errand (.readRecord key) x) σ.ledger t)
  /-- The deletion request of a record with consumers is dropped. -/
  drop : ∀ {σ r}, opened σ → σ.record? key = some r →
    R.Writes opened { r with deletion := none } [] σ
  now : ∀ {σ t}, opened σ → R.regime.tick σ.clock t →
    looked t (σ.after (.answered R.errand .now t) σ.ledger t)
  /-- The image of a record that retention has nothing to do with is brought to the locations. -/
  place : ∀ {σ r}, base σ → σ.record? key = some r → r.isReferenced ∨ r.phase = none → placing σ
  endWait : ∀ {t σ r}, looked t σ → σ.record? key = some r → r.isReferenced →
    r.phase = some .awaitingDeletion → R.Writes placing r.revive [] σ
  /-- The period is over, or there is none. -/
  mark : ∀ {t σ r}, looked t σ → σ.record? key = some r →
    Retention.decide period r t = .deleteNow → R.Writes base { r with deletion := some t } [] σ
  /-- The period begins. -/
  stamp : ∀ {t σ r d}, looked t σ → σ.record? key = some r →
    Retention.decide period r t = .startGracePeriod d →
    R.Writes base ({ r with phase := some .awaitingDeletion }.stampLastUsed t)
      (Event.entered key r.phase .awaitingDeletion) σ
  /-- The removal starts, of a record without consumers that is to be deleted. -/
  start : ∀ {σ r}, base σ → σ.record? key = some r → r.isDeletionRequested →
    r.isReferenced = false → (r.hasStamp || r.phase != some .deleting) = true →
    R.Writes (sweep r.spec) { r.clearLastUsed with phase := some .deleting }
      (Event.entered key r.phase .deleting) σ
  /-- The removal had been started before. -/
  started : ∀ {σ r}, base σ → σ.record? key = some r → r.isDeletionRequested →
    r.isReferenced = false → (r.hasStamp || r.phase != some .deleting) = false → sweep r.spec σ
  enter_sweep : ∀ {spec σ r}, sweep spec σ → σ.record? key = some r → r.phase ≠ some .deleting →
    R.Writes (sweep spec) { r with phase := some .deleting } [.stateChanged key r.phase .deleting] σ
  /-- A withdrawal is under way, and visitors have landed. -/
  withdraw : ∀ {spec σ σ' t call}, sweep spec σ → call.record = key →
    call.provider = spec.provider → call.image = spec.image → R.regime.tick σ.clock t →
    R.contract.may (σ.after (.issued R.errand (.withdraw call)) σ.ledger t) σ' → sweep spec σ'
  /-- A withdrawal has ended. -/
  withdrawn : ∀ {spec σ t call x}, sweep spec σ → call.provider = spec.provider →
    call.image = spec.image → R.regime.tick σ.clock t →
    sweep spec (σ.after (.answered R.errand (.withdraw call) x) σ.ledger t)
  /-- The image could not be taken out of all catalogs. -/
  error : ∀ {σ r}, placing σ → σ.record? key = some r → r.phase ≠ some .error →
    R.Writes placing { r with phase := some .error } [.stateChanged key r.phase .error] σ
  leave : ∀ {spec σ r}, sweep spec σ → σ.record? key = some r → r.isReferenced = false →
    r.phase ≠ some .deleted →
    R.Writes (leaving spec) { r with phase := some .deleted } [.stateChanged key r.phase .deleted] σ
  /-- An earlier pass has come so far. -/
  left : ∀ {spec σ r}, sweep spec σ → σ.record? key = some r → r.isReferenced = false →
    r.phase = some .deleted → leaving spec σ
  removed : ∀ {spec σ r t}, leaving spec σ → σ.record? key = some r → r.isReferenced = false →
    R.regime.tick σ.clock t →
    R.Owes base [.removed key]
      (σ.after (.answered R.errand (.removeRecord key (some r.version)) (.ok true))
        ⟨σ.ledger.records.erase key⟩ t)
  /-- The store is out of order just when the record is to be removed. -/
  stuck : ∀ {spec σ e t v}, leaving spec σ → e.isOutage → R.regime.tick σ.clock t →
    base (σ.after (.answered R.errand (.removeRecord key v) (.error e)) σ.ledger t)

/-- The writes of a pass over the record `key`, each with the assertion that it leads to and the
events that are owed for it. Nothing is made of how far the image was brought. -/
structure Course (R : Role) (period : Duration) (key : String) (fresh home : Stage → Prop) extends
    Retirement R period key fresh home where
  /-- A probe, a look-up or an upload is under way. -/
  issue : ∀ {σ r t}, placing σ → (∀ call, r ≠ .withdraw call) → R.regime.tick σ.clock t →
    placing (σ.after (.issued R.errand r) σ.ledger t)
  visits : ∀ {σ σ'}, placing σ → R.contract.may σ σ' → placing σ'
  /-- It is answered. -/
  answered : ∀ {σ r t x}, placing σ → r.waits → R.regime.tick σ.clock t →
    placing (σ.after (.answered R.errand r x) σ.ledger t)
  enter : ∀ {σ r phase}, placing σ → σ.record? key = some r → phase ≠ .pending →
    phase ≠ .awaitingDeletion → phase ≠ .deleted → r.phase ≠ some phase →
    R.Writes placing { r with phase := some phase } [.stateChanged key r.phase phase] σ
  error hσ hr hphase := enter hσ hr (by decide) (by decide) (by decide) hphase

/-! ### Outlines are courses -/

namespace Outline

variable {R : Role} {period : Duration} {key : String} {fresh home : Stage → Prop}
  (o : Outline R period key fresh home) {σ : Stage} {r r' : Record}

theorem writes_base (hσ : o.base σ) (hr : σ.record? key = some r) (hc : r.Calm r')
    (events : List Event) : R.Writes o.base r' events σ := by
  intro t ht
  exact o.steady_base.owes events (o.calm hσ hr hc ht)

theorem writes_sweep {spec : Spec} (hσ : o.sweep spec σ) (hr : σ.record? key = some r)
    (hc : r.Calm r') (events : List Event) : R.Writes (o.sweep spec) r' events σ := by
  intro t ht
  exact (o.steady_sweep spec).owes events (o.calm_sweep hσ hr hc ht)

/-- **An outline is a course on which events are of no account.** -/
def course : Course R period key fresh home where
  base := o.base
  opened := o.opened
  looked := o.looked
  placing := o.base
  sweep := o.sweep
  leaving := o.sweep
  alone := o.alone
  still_base := o.steady_base.still
  still_opened := o.steady_opened.still
  still_looked t := (o.steady_looked t).still
  still_placing := o.steady_base.still
  still_sweep spec := (o.steady_sweep spec).still
  still_leaving spec := (o.steady_sweep spec).still
  base_of_opened := o.base_of_opened
  base_of_looked := o.base_of_looked
  base_of_placing h := h
  placing_of_sweep := o.base_of_sweep
  home_of_base := o.home_of_base
  lull_of_placing := o.lull_of_base
  named := o.named
  read := o.read
  drop {_ r} hσ hr := fun _ ht => o.calm_opened hσ hr r.calm_dropDeletion ht
  now := o.now
  place hσ _ _ := hσ
  endWait {_ _ r} hσ hr _ _ := o.writes_base (o.base_of_looked hσ) hr r.calm_revive []
  mark hσ hr hd := fun _ ht => o.mark hσ hr hd ht
  stamp hσ hr hd := fun _ ht => o.steady_base.owes _ (o.stamp hσ hr hd ht)
  issue := o.issue
  visits := o.visits
  answered hσ hr ht := o.steady_base.answered hσ hr _ ht
  enter {_ r phase} hσ hr _ hphase _ _ := o.writes_base hσ hr (r.calm_phase phase hphase) _
  start {_ r} hσ hr hreq hfree _ :=
    o.writes_sweep (o.due hσ hr hreq hfree) hr (r.calm_clearLastUsed .deleting (by decide)) _
  started hσ hr hreq hfree _ := o.due hσ hr hreq hfree
  enter_sweep {_ _ r} hσ hr _ := o.writes_sweep hσ hr (r.calm_phase .deleting (by decide)) _
  withdraw := o.withdraw
  withdrawn {spec _ _ _ _} hσ _ _ ht := (o.steady_sweep spec).answered hσ rfl _ ht
  leave {_ _ r} hσ hr _ _ := o.writes_sweep hσ hr (r.calm_phase .deleted (by decide)) _
  left hσ _ _ _ := hσ
  removed hσ hr hfree ht := o.steady_base.owes _ (o.removed hσ hr hfree ht)
  stuck {spec _ _ _ _} hσ _ ht :=
    o.base_of_sweep ((o.steady_sweep spec).quiet _ _ _ hσ rfl (.inr trivial) ht)

end Outline

end ImageCatalog
