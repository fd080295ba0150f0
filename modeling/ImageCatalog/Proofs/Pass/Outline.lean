import ImageCatalog.Proofs.Run.Triple

/-!
# An outline of passes

A pass writes its record at a dozen places and waits at four. For an invariant the places come down
to a few cases, since all writes but two are *calm*: they touch neither the consumers nor the
identity of the record, ask for no deletion and start no wait for one. An `Outline` lists the cases,
for invariants that take no notice of what is reported.

## The assertions of an outline

A pass starts with `fresh` and ends with `home`. In between, `base` is what holds throughout,
`opened` what holds until the time is read, `looked t` what holds after the time `t` was read and
before anything else lands, and `sweep` what holds while an image is taken out of the catalogs.

## Main definitions

* `Record.Akin`, `Record.Keeps`, `Record.Calm` — what a write of a pass leaves alone
* `Outline` — the cases that an invariant has to deal with

## Main results

* `Role.triple_edit` — a record is edited, and what is stored then
-/

namespace ImageCatalog

/-! ### What passes leave alone -/

namespace Record

/-- The two records are the same but for what passes keep in them: version, annotations, deletion
request and phase. -/
structure Akin (r r' : Record) : Prop where
  name : r'.name = r.name
  created : r'.created = r.created
  spec : r'.spec = r.spec
  consumers : r'.consumers = r.consumers

/-- The second record is an edit of the first that a store accepts. -/
structure Keeps (r r' : Record) : Prop extends r.Akin r' where
  version : r'.version = r.version

/-- The first record becomes the second without a new deletion request or wait for deletion. -/
structure Calm (r r' : Record) : Prop extends r.Keeps r' where
  deletion : r'.deletion = r.deletion ∨ r'.deletion = none
  waits : r'.phase = some .awaitingDeletion →
    r.phase = some .awaitingDeletion ∧ r'.annotations = r.annotations

theorem consumers_eq_nil {r : Record} (h : r.isReferenced = false) : r.consumers = [] := by
  simpa [isReferenced] using h

theorem Akin.refl (r : Record) : r.Akin r :=
  ⟨rfl, rfl, rfl, rfl⟩

theorem Akin.bumped {r r' : Record} (h : r.Akin r') : r.Akin r'.bumped :=
  ⟨h.name, h.created, h.spec, h.consumers⟩

theorem calm_phase (r : Record) (phase : Phase) (h : phase ≠ .awaitingDeletion) :
    r.Calm { r with phase := some phase } :=
  ⟨⟨⟨rfl, rfl, rfl, rfl⟩, rfl⟩, .inl rfl, fun hp => absurd (Option.some.inj hp) h⟩

theorem calm_clearLastUsed (r : Record) (phase : Phase) (h : phase ≠ .awaitingDeletion) :
    r.Calm { r.clearLastUsed with phase := some phase } :=
  ⟨⟨⟨rfl, rfl, rfl, rfl⟩, rfl⟩, .inl rfl, fun hp => absurd (Option.some.inj hp) h⟩

theorem calm_dropDeletion (r : Record) : r.Calm { r with deletion := none } :=
  ⟨⟨⟨rfl, rfl, rfl, rfl⟩, rfl⟩, .inr rfl, fun hp => ⟨hp, rfl⟩⟩

theorem phase_revive_ne (r : Record) : r.revive.phase ≠ some .awaitingDeletion := by
  intro h
  simp only [revive] at h
  split at h
  · cases h
  · rename_i hp
    simp [h] at hp

theorem calm_revive (r : Record) : r.Calm r.revive :=
  ⟨⟨⟨rfl, rfl, rfl, rfl⟩, rfl⟩, .inr rfl, fun hp => absurd hp r.phase_revive_ne⟩

theorem keeps_stampLastUsed (r : Record) (phase : Option Phase) (t : Instant) :
    r.Keeps ({ r with phase := phase }.stampLastUsed t) :=
  ⟨⟨rfl, rfl, rfl, rfl⟩, rfl⟩

theorem keeps_requestDeletion (r : Record) (t : Instant) :
    r.Keeps { r with deletion := some t } :=
  ⟨⟨rfl, rfl, rfl, rfl⟩, rfl⟩

end Record

/-! ### Edits of a record -/

theorem Edit.when_eq_true {needed : Record → Bool} {change : Record → Record} {r r' : Record}
    (h : Edit.when needed change r = .ok (r', true)) : needed r = true ∧ r' = change r := by
  by_cases hn : needed r <;> simp_all [Edit.when]

theorem Edit.when_eq_false {needed : Record → Bool} {change : Record → Record} {r r' : Record}
    (h : Edit.when needed change r = .ok (r', false)) : needed r = false ∧ r' = r := by
  by_cases hn : needed r <;> simp_all [Edit.when]

/-- What an edit has come to: the copy was left as it was, or changed and stored. -/
inductive Revision.Of (needed : Record → Bool) (change : Record → Record) : Revision → Prop where
  | kept {r : Record} : needed r = false → Of needed change ⟨r, r, false⟩
  | written {r : Record} : needed r = true → Of needed change ⟨r, (change r).bumped, true⟩

theorem Revision.Of.written_eq {needed : Record → Bool} {change : Record → Record} {v : Revision}
    (h : v.Of needed change) : v.written = needed v.before := by
  cases h with
  | kept hn => exact hn.symm
  | written hn => exact hn.symm

namespace Role

variable {R : Role} {P E : Stage → Prop} {key : String}

/-- An edit that leaves name and version alone, with the record as it is stored afterwards and the
events that are owed for it. What holds then may depend on the record that was read. -/
theorem triple_edit {Q : Record → Stage → Prop} {needed : Record → Bool}
    {change : Record → Record} (events : Record → List Event) (hP : R.Still P)
    (hQ : ∀ r, R.Still (Q r))
    (hnamed : ∀ σ r, P σ → σ.record? key = some r → r.name = key)
    (hchange : ∀ r, (change r).name = r.name ∧ (change r).version = r.version)
    (hE : ∀ σ, P σ → σ.record? key = none ∨ ¬ R.regime.Reliable → E σ)
    (hkept : ∀ σ r, P σ → σ.record? key = some r → needed r = false →
      R.Owes (Q r) (events r) σ)
    (hwritten : ∀ σ r, P σ → σ.record? key = some r → needed r = true →
      R.Writes (Q r) (change r) (events r) σ) :
    R.Triple P (Record.revise key (.when needed change))
      (fun v σ =>
        R.Owes (fun σ => Q v.before σ ∧ σ.record? key = some v.after) (events v.before) σ ∧
          v.Of needed change) E := by
  refine triple_revise hP (fun σ r r' hσ hr he => ?_) hE (fun _ _ _ _ _ he => by cases he)
    (fun σ r r' hσ hr he => ?_) (fun σ r r' t hσ hr he ht => ?_)
  · obtain ⟨_, rfl⟩ := Edit.when_eq_true he
    exact ⟨(hchange r).1.trans (hnamed σ r hσ hr), (hchange r).2⟩
  · obtain ⟨hn, rfl⟩ := Edit.when_eq_false he
    exact ⟨(hkept σ _ hσ hr hn).and_record? hr, .kept hn⟩
  · obtain ⟨hn, rfl⟩ := Edit.when_eq_true he
    have hnext := hwritten σ r hσ hr hn t ht
    have hname : key = (change r).name := ((hchange r).1.trans (hnamed σ r hσ hr)).symm
    refine ⟨((hQ r).owes _).during _ hnext, hnext.and_record? ?_, .written hn⟩
    rw [Stage.record?_write, if_pos hname]

end Role

/-! ### Outlines -/

/-- What an invariant has to deal with in a pass over the record `key`. -/
structure Outline (R : Role) (period : Duration) (key : String) (fresh home : Stage → Prop) where
  /-- What holds throughout the pass. -/
  base : Stage → Prop
  /-- What holds before the time is read. -/
  opened : Stage → Prop
  /-- What holds after the time was read. -/
  looked : Instant → Stage → Prop
  /-- What holds while an image is taken out of the catalogs. -/
  sweep : Spec → Stage → Prop
  alone : R.isVisitor = false
  steady_base : R.Steady base
  steady_opened : R.Steady opened
  steady_looked : ∀ t, R.Steady (looked t)
  steady_sweep : ∀ spec, R.Steady (sweep spec)
  base_of_opened : ∀ {σ}, opened σ → base σ
  base_of_looked : ∀ {t σ}, looked t σ → base σ
  base_of_sweep : ∀ {spec σ}, sweep spec σ → base σ
  home_of_base : ∀ {σ}, base σ → home σ
  lull_of_base : ∀ {σ}, base σ → R.contract.lull σ
  named : ∀ {σ r}, base σ → σ.record? key = some r → r.name = key
  /-- The pass begins with a reading of the record. -/
  read : ∀ {σ t} x, fresh σ → R.regime.tick σ.clock t →
    opened (σ.after (.answered R.errand (.readRecord key) x) σ.ledger t)
  now : ∀ {σ t}, opened σ → R.regime.tick σ.clock t →
    looked t (σ.after (.answered R.errand .now t) σ.ledger t)
  /-- A probe, a look-up or an upload is under way. -/
  issue : ∀ {σ r t}, base σ → (∀ call, r ≠ .withdraw call) → R.regime.tick σ.clock t →
    base (σ.after (.issued R.errand r) σ.ledger t)
  visits : ∀ {σ σ'}, base σ → R.contract.may σ σ' → base σ'
  calm : ∀ {σ r r' t}, base σ → σ.record? key = some r → r.Calm r' → R.regime.tick σ.clock t →
    base (σ.write R.errand r' t)
  calm_opened : ∀ {σ r r' t}, opened σ → σ.record? key = some r → r.Calm r' →
    R.regime.tick σ.clock t → opened (σ.write R.errand r' t)
  calm_sweep : ∀ {spec σ r r' t}, sweep spec σ → σ.record? key = some r → r.Calm r' →
    R.regime.tick σ.clock t → sweep spec (σ.write R.errand r' t)
  /-- The period is over, or there is none. -/
  mark : ∀ {σ r t t'}, looked t σ → σ.record? key = some r →
    Retention.decide period r t = .deleteNow → R.regime.tick σ.clock t' →
    base (σ.write R.errand { r with deletion := some t } t')
  /-- The period begins. -/
  stamp : ∀ {σ r t t' d}, looked t σ → σ.record? key = some r →
    Retention.decide period r t = .startGracePeriod d → R.regime.tick σ.clock t' →
    base (σ.write R.errand ({ r with phase := some .awaitingDeletion }.stampLastUsed t) t')
  /-- A record without consumers that is to be deleted may be swept. -/
  due : ∀ {σ r}, base σ → σ.record? key = some r → r.isDeletionRequested → r.isReferenced = false →
    sweep r.spec σ
  /-- A withdrawal is under way, and visitors have landed. -/
  withdraw : ∀ {spec σ σ' t call}, sweep spec σ → call.record = key →
    call.provider = spec.provider → call.image = spec.image → R.regime.tick σ.clock t →
    R.contract.may (σ.after (.issued R.errand (.withdraw call)) σ.ledger t) σ' → sweep spec σ'
  removed : ∀ {spec σ r t}, sweep spec σ → σ.record? key = some r → r.isReferenced = false →
    R.regime.tick σ.clock t →
    base (σ.after (.answered R.errand (.removeRecord key (some r.version)) (.ok true))
      ⟨σ.ledger.records.erase key⟩ t)

end ImageCatalog
