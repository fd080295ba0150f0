import ImageCatalog.Proofs.Consumers.References

/-!
# Withdrawals and the consumers of an image

When is an image taken out of a catalog that somebody needs? There are two ways in which this
comes about, and the theorems say that there are no others.

* A consumer may come between two withdrawals of one sweep. The pass looks at the consumers before
  the sweep and after it, but not in between; the record stays, and the next pass uploads the image
  again. So a withdrawal finds the record as it was when the sweep began, but for the consumers that
  have come since.
* Records are told apart by their names, and images by their provider and their own name. The two
  feeds name the record of one image differently, so an image may have two records, and the pass
  over one knows nothing of the consumers of the other.

## Main definitions

* `Regime.tracked`, `Regime.oneByOne` — the runs that the two theorems are about
* `Spec.otherName` — the name that the other feed gives to a record

## Main results

* `withdraw_after_check` — what a withdrawal finds, in runs with visitors
* `withdraw_of_other_feed` — what a withdrawal finds, in runs without
-/

namespace ImageCatalog

variable {s : Service} {g : Regime} {c : Scene} {e : Errand} {call : CatalogCall} {l : Ledger}
  {t : Instant} {past newer older : List Entry} {name : String} {d : Deed}

/-! ### At a withdrawal -/

/-- What is known of a run at the moment at which a withdrawal is started. -/
theorem Reachable.withdrawing (hg : ∀ q v, g.visitors q v → v.isPass = false)
    (h : Reachable s g c) (hpast : c.stage.past = ⟨.issued e (.withdraw call), l, t⟩ :: past) :
    Withdrawing s g e call ⟨c.stage.started, past⟩ l ∧
      ∀ n, c.stage.record? n = Stage.record? ⟨c.stage.started, past⟩ n := by
  have hlatest := (h.books hg).2 ⟨c.stage.started, past⟩ _ l t (Stage.ext rfl hpast)
  have hw := hlatest.sweep e call rfl
  refine ⟨hw, ?_⟩
  intro n
  have hledger : c.stage.ledger = l := by rw [Stage.ledger, hpast, ledgerAfter]
  rw [Stage.record?, hledger, hw.ledger_eq, Stage.record?]

/-- The record was without consumers when the sweep began. -/
theorem Withdrawing.swept {σ : Stage} (h : Withdrawing s g e call σ l) :
    ∃ newer older r, σ.past = newer ++ older ∧ Sweeping g e call.record newer older ∧
      σ.record? call.record = some r ∧ r.spec = ⟨call.image, call.provider⟩ ∧
      r.consumers = tally s call.record newer := by
  obtain ⟨newer, older, hpast, hsweep, htally, r, hr, hspec⟩ := h.sweep
  refine ⟨newer, older, r, hpast, hsweep, hr, hspec, ?_⟩
  rw [(h.books call.record r hr).consumers, met_none, hpast, tally_append_of_eq_nil htally]

/-- What the pass itself does during a sweep does not count. -/
theorem SweepDeed.uncounted (hg : ∀ q v, g.visitors q v → v.isPass = false) (hpass : e.isPass)
    (h : SweepDeed g e name d) (he : d.errand = e) : d.Uncounted s name := by
  cases h with
  | issued _ => exact Deed.uncounted_issued e _
  | answered hr => exact Deed.uncounted_of_created? hr
  | visited hv _ =>
    have hvisitor := hg _ _ hv
    rw [he, hpass] at hvisitor
    cases hvisitor

theorem SweepDeed.visitor_of_ne (h : SweepDeed g e name d) (hne : d.errand ≠ e) :
    ∃ q, g.visitors q d.errand := by
  cases h with
  | issued | answered => exact absurd rfl hne
  | visited hv _ => exact ⟨_, hv⟩

/-- Nothing counts in a sweep that nobody visits. -/
theorem Sweeping.tally_eq_nil (hg : ∀ q v, g.visitors q v → v.isPass = false) (hpass : e.isPass)
    (h : Sweeping g e name newer older) (halone : ∀ m ∈ newer, m.deed.errand = e) :
    tally s name newer = [] := by
  refine ImageCatalog.tally_eq_nil ?_
  intro m hm
  exact (h.deeds m hm).uncounted hg hpass (halone m hm)

/-! ### Visitors during a sweep -/

/-- Consumers come and go and records are passed over. Errands about consumers may land while a pass
waits for a provider. -/
def Regime.tracked : Regime where
  starts _ := true
  tick _ _ := true
  errands e := e.isDemand || e.isPass
  visitors q v := q.isProviderCall && v.isDemand
  answers _ _ _ := True

theorem Regime.tracked_within_interleaved : Regime.tracked.Within .interleaved where
  starts _ _ := rfl
  tick _ _ _ := rfl
  errands _ _ := rfl
  visitors q v h := by
    have hd : v.isDemand := (Bool.and_eq_true_iff.mp h).2
    cases v <;> first | rfl | cases hd
  answers _ _ _ _ := trivial

/-- **What a withdrawal finds.** The record had no consumers when the sweep began. Since then
nothing has happened but withdrawals for it, and visits while one of them was under way. The
consumers are what these visits have made of the empty list; so there are none at the first
withdrawal. -/
theorem withdraw_after_check (s : Service) {c : Scene} (h : Reachable s .interleaved c)
    {e : Errand} {call : CatalogCall} {l : Ledger} {t : Instant} {past : List Entry}
    (hpast : c.stage.past = ⟨.issued e (.withdraw call), l, t⟩ :: past) :
    e.isPass ∧ e.WorksOn s past call.record ∧ ∃ newer older r, past = newer ++ older ∧
      (∃ r₀, (ledgerAfter older).get? call.record = some r₀ ∧ r₀.consumers = []) ∧
      (∀ m ∈ newer, SweepDeed .interleaved e call.record m.deed) ∧
      (∀ a m b, newer = a ++ m :: b → m.deed.errand ≠ e →
        ∃ m' ∈ b, ∃ call', m'.deed = .issued e (.withdraw call')) ∧
      c.stage.record? call.record = some r ∧ r.spec = ⟨call.image, call.provider⟩ ∧
      r.consumers = tally s call.record newer ∧
      ((∀ m ∈ newer, ∀ call', m.deed ≠ .issued e (.withdraw call')) → r.consumers = []) := by
  have hg : ∀ q v, Regime.interleaved.visitors q v → v.isPass = false :=
    fun _ _ => Regime.isPass_of_interleaved
  obtain ⟨hw, hrecord⟩ := h.withdrawing hg hpast
  obtain ⟨newer, older, r, happend, hsweep, hr, hspec, hcons⟩ := hw.swept
  have hfirst : (∀ m ∈ newer, ∀ call', m.deed ≠ .issued e (.withdraw call')) →
      r.consumers = [] := by
    intro hnone
    have halone : ∀ m ∈ newer, m.deed.errand = e := by
      intro m hm
      -- A visitor would have come after a withdrawal was started.
      refine Decidable.byContradiction fun hne => ?_
      obtain ⟨a, b, hab⟩ := List.append_of_mem hm
      obtain ⟨m', hm', call', hcall'⟩ := hsweep.order a m b hab hne
      have hmem : m' ∈ newer := by
        rw [hab]
        exact List.mem_append_right _ (List.mem_cons_of_mem _ hm')
      exact hnone m' hmem call' hcall'
    rw [hcons]
    exact hsweep.tally_eq_nil hg hw.isPass halone
  exact ⟨hw.isPass, hw.worksOn, newer, older, r, happend, hsweep.free, hsweep.deeds, hsweep.order,
    (hrecord _).trans hr, hspec, hcons, hfirst⟩

/-- Whether the withdrawal that was started last finds consumers in its record. -/
def Scene.withdrawsReferenced (c : Scene) : Bool :=
  c.withdrawal?.any fun call => (c.stage.record? call.record).any Record.isReferenced

theorem Scene.of_withdrawsReferenced (h : c.withdrawsReferenced) :
    ∃ e call l t past r, c.stage.past = ⟨.issued e (.withdraw call), l, t⟩ :: past ∧
      c.stage.record? call.record = some r ∧ r.consumers ≠ [] := by
  obtain ⟨call, hcall, hany⟩ := (Option.any_eq_true _ _).mp h
  obtain ⟨r, hr, href⟩ := (Option.any_eq_true _ _).mp hany
  obtain ⟨e, l, t, past, hpast⟩ := of_withdrawal? hcall
  refine ⟨e, call, l, t, past, r, hpast, hr, ?_⟩
  intro hnil
  simp [Record.isReferenced, hnil] at href

/-- A consumer comes while the image is taken out of the first of two locations. -/
theorem exists_withdrawsReferenced :
    ∃ c, Reachable (Performance.smallService .zero) .tracked c ∧ c.withdrawsReferenced :=
  Performance.exists_reachable (fun _ _ _ => trivial) (t := .epoch) rfl
    [.begin (.consumerAdded "early" "flatcar" "capv"), .begin (.consumerRemoved "early" "flatcar"),
      .begin (.pass "flatcar"), .visit (.consumerAdded "late" "flatcar" "capv"), .resume]
    Scene.withdrawsReferenced (by decide +kernel)

/-- At the second location a consumer is there that came while the image was taken out of the first
one. -/
theorem withdraw_after_check_late :
    let s := Performance.smallService .zero
    ∃ (c : Scene) (e : Errand) (call : CatalogCall) (l : Ledger) (t : Instant)
      (past newer : List Entry) (r : Record), Reachable s .interleaved c ∧
      c.stage.past = ⟨.issued e (.withdraw call), l, t⟩ :: past ∧
      c.stage.record? call.record = some r ∧ r.consumers ≠ [] ∧
      r.consumers = tally s call.record newer ∧
      ∃ m ∈ newer, ∃ call', m.deed = .issued e (.withdraw call') := by
  intro s
  obtain ⟨c, htracked, hfound⟩ := exists_withdrawsReferenced
  have hc : Reachable s .interleaved c := htracked.mono Regime.tracked_within_interleaved
  obtain ⟨e, call, l, t, past, r, hpast, hr, hne⟩ := Scene.of_withdrawsReferenced hfound
  obtain ⟨_, _, newer, _, r', _, _, _, _, hr', _, hcons, hfirst⟩ := withdraw_after_check s hc hpast
  obtain rfl := Option.some.inj (hr.symm.trans hr')
  refine ⟨c, e, call, l, t, past, newer, r, hc, hpast, hr, hne, hcons, ?_⟩
  refine Classical.byContradiction fun hno => hne (hfirst fun m hm call' hcall => hno ?_)
  exact ⟨m, hm, call', hcall⟩

/-- So it is not true that a withdrawal finds no consumers in the record. -/
theorem not_withdraw_of_unreferenced :
    ¬ ∀ (s : Service) (c : Scene), Reachable s .tracked c → ∀ e call l t past r,
      c.stage.past = ⟨.issued e (.withdraw call), l, t⟩ :: past →
      c.stage.record? call.record = some r → r.consumers = [] := by
  intro h
  obtain ⟨c, hc, hfound⟩ := exists_withdrawsReferenced
  obtain ⟨e, call, l, t, past, r, hpast, hr, hne⟩ := Scene.of_withdrawsReferenced hfound
  exact hne (h _ c hc e call l t past r hpast hr)

/-! ### Two records of one image -/

/-- Consumers and releases come and go and records are passed over, one after the other. -/
def Regime.oneByOne : Regime where
  starts _ := true
  tick _ _ := true
  errands e := e.isDemand || e.isPass
  visitors _ _ := false
  answers _ _ _ := True

/-- The name that the other feed gives to the record of a spec. -/
def Spec.otherName (spec : Spec) (name : String) : String :=
  if name = spec.image then spec.provider ++ "-" ++ spec.image else spec.image

theorem Spec.eq_otherName {spec : Spec} {name name' : String} (h : spec.Named name)
    (h' : spec.Named name') (hne : name' ≠ name) : name' = spec.otherName name := by
  by_cases hi : name = spec.image
  · rw [otherName, if_pos hi]
    exact h'.resolve_left fun hi' => hne (hi'.trans hi.symm)
  · rw [otherName, if_neg hi]
    have hname := h.resolve_left hi
    exact h'.resolve_right fun hi' => hne (hi'.trans hname.symm)

/-- Records of one spec with different names come from different feeds. -/
theorem Errand.feeds_of_wants {spec : Spec} {e₁ e₂ : Errand} {name₁ name₂ : String}
    (h₁ : e₁.wants? s = some (name₁, spec)) (h₂ : e₂.wants? s = some (name₂, spec))
    (hne : name₂ ≠ name₁) :
    ∃ consumer release, release.request s.channel =
        .ok ⟨spec.provider ++ "-" ++ spec.image, spec.image, spec.provider⟩ ∧
      (e₁ = .consumerAdded consumer spec.image spec.provider ∧ e₂ = .releaseAdded release ∨
        e₂ = .consumerAdded consumer spec.image spec.provider ∧ e₁ = .releaseAdded release) := by
  obtain ⟨c₁, he₁, hname₁⟩ | ⟨r₁, he₁, hname₁, hreq₁⟩ := wants?_eq_some h₁ <;>
    obtain ⟨c₂, he₂, hname₂⟩ | ⟨r₂, he₂, hname₂, hreq₂⟩ := wants?_eq_some h₂
  · exact absurd (hname₂.trans hname₁.symm) hne
  · rw [hname₂] at hreq₂
    exact ⟨c₁, r₂, hreq₂, .inl ⟨he₁, he₂⟩⟩
  · rw [hname₁] at hreq₁
    exact ⟨c₂, r₁, hreq₁, .inr ⟨he₂, he₁⟩⟩
  · exact absurd (hname₂.trans hname₁.symm) hne

/-- Nobody has come since the sweep began, so the record has no consumers. -/
theorem Withdrawing.unreferenced {σ : Stage} (h : Withdrawing s .oneByOne e call σ l) :
    ∃ r, σ.record? call.record = some r ∧ r.spec = ⟨call.image, call.provider⟩ ∧
      r.consumers = [] := by
  have hg : ∀ q v, Regime.oneByOne.visitors q v → v.isPass = false := fun _ _ hv => by cases hv
  obtain ⟨newer, older, r, _, hsweep, hr, hspec, hcons⟩ := h.swept
  have halone : ∀ m ∈ newer, m.deed.errand = e := by
    intro m hm
    refine Decidable.byContradiction fun hne => ?_
    obtain ⟨_, hv⟩ := (hsweep.deeds m hm).visitor_of_ne hne
    cases hv
  refine ⟨r, hr, hspec, ?_⟩
  rw [hcons]
  exact hsweep.tally_eq_nil hg h.isPass halone

/-- **What a withdrawal finds when nobody visits.** The record that is passed over has no consumers.
An image that is needed is withdrawn exactly if the record that the other feed keeps of it has
consumers; and then both feeds have asked for it. -/
theorem withdraw_of_other_feed (s : Service) {c : Scene} (h : Reachable s .oneByOne c)
    {e : Errand} {call : CatalogCall} {l : Ledger} {t : Instant} {past : List Entry}
    (hpast : c.stage.past = ⟨.issued e (.withdraw call), l, t⟩ :: past) :
    let spec : Spec := ⟨call.image, call.provider⟩
    (∃ r, c.stage.record? call.record = some r ∧ r.spec = spec ∧ r.consumers = []) ∧
    ((∀ n r, c.stage.record? n = some r → r.spec = spec → r.consumers = []) ↔
      ∀ r, c.stage.record? (spec.otherName call.record) = some r → r.spec = spec →
        r.consumers = []) ∧
    ∀ n r, c.stage.record? n = some r → r.spec = spec → r.consumers ≠ [] →
      ∃ consumer release, HasBegun (.consumerAdded consumer spec.image spec.provider) c.stage ∧
        HasBegun (.releaseAdded release) c.stage ∧ release.request s.channel =
          .ok ⟨spec.provider ++ "-" ++ spec.image, spec.image, spec.provider⟩ := by
  intro spec
  have hg : ∀ q v, Regime.oneByOne.visitors q v → v.isPass = false := fun _ _ hv => by cases hv
  obtain ⟨hw, hrecord⟩ := h.withdrawing hg hpast
  obtain ⟨r, hr, hspec, hfree⟩ := hw.unreferenced
  rw [← hrecord] at hr
  have horigin : ∀ {n r}, c.stage.record? n = some r → r.spec = spec →
      ∃ e, HasBegun e c.stage ∧ e.wants? s = some (n, spec) := by
    intro n q hq hq'
    rw [hrecord] at hq
    obtain ⟨m, hm, e', he', hwants⟩ := (hw.books n q hq).origin
    have hmem : m ∈ c.stage.past := by
      rw [hpast]
      exact List.mem_cons_of_mem _ hm
    rw [hq'] at hwants
    exact ⟨e', ⟨m, hmem, he'⟩, hwants⟩
  obtain ⟨e₁, hbegan₁, hwants₁⟩ := horigin hr hspec
  have hother : ∀ {n q}, c.stage.record? n = some q → q.consumers ≠ [] → n ≠ call.record := by
    rintro n q hq hne rfl
    obtain rfl := Option.some.inj (hr.symm.trans hq)
    exact hne hfree
  refine ⟨⟨r, hr, hspec, hfree⟩, ⟨?_, ?_⟩, ?_⟩
  · intro hall q hq hq'
    exact hall _ q hq hq'
  · intro hno n q hq hq'
    refine Decidable.byContradiction fun hne => ?_
    obtain ⟨e₂, _, hwants₂⟩ := horigin hq hq'
    have hn : n = spec.otherName call.record := Spec.eq_otherName (Errand.named_of_wants hwants₁)
      (Errand.named_of_wants hwants₂) (hother hq hne)
    rw [hn] at hq
    exact hne (hno q hq hq')
  · intro n q hq hq' hne
    obtain ⟨e₂, hbegan₂, hwants₂⟩ := horigin hq hq'
    obtain ⟨consumer, release, hreq, ⟨rfl, rfl⟩ | ⟨rfl, rfl⟩⟩ :=
      Errand.feeds_of_wants hwants₁ hwants₂ (hother hq hne)
    · exact ⟨consumer, release, hbegan₁, hbegan₂, hreq⟩
    · exact ⟨consumer, release, hbegan₂, hbegan₁, hreq⟩

/-- Whether the withdrawal that was started last is of an image that the record of the other feed
has consumers for. -/
def Scene.withdrawsNeeded (c : Scene) : Bool :=
  c.withdrawal?.any fun call =>
    let spec : Spec := ⟨call.image, call.provider⟩
    (c.stage.record? (spec.otherName call.record)).any fun r => r.spec == spec && r.isReferenced

theorem Scene.of_withdrawsNeeded (h : c.withdrawsNeeded) :
    ∃ e call l t past n r, c.stage.past = ⟨.issued e (.withdraw call), l, t⟩ :: past ∧
      c.stage.record? n = some r ∧ r.spec = ⟨call.image, call.provider⟩ ∧ r.consumers ≠ [] := by
  obtain ⟨call, hcall, hany⟩ := (Option.any_eq_true _ _).mp h
  obtain ⟨r, hr, hfound⟩ := (Option.any_eq_true _ _).mp hany
  obtain ⟨e, l, t, past, hpast⟩ := of_withdrawal? hcall
  rw [Bool.and_eq_true, beq_iff_eq] at hfound
  refine ⟨e, call, l, t, past, _, r, hpast, hr, hfound.1, ?_⟩
  intro hnil
  simp [Record.isReferenced, hnil] at hfound

/-- A cluster and a release need the same image. The cluster goes, and its record is passed over. -/
theorem exists_withdrawsNeeded :
    ∃ c, Reachable (Performance.smallService .zero) .oneByOne c ∧ c.withdrawsNeeded :=
  Performance.exists_reachable (fun _ _ _ => trivial) (t := .epoch) rfl
    [.begin (.consumerAdded "cluster" "flatcar-stable-1-kube-2-tooling-3-gs" "capv"),
      .begin (.releaseAdded
        ⟨"vsphere-1.0.0", [⟨"flatcar", "1"⟩, ⟨"kubernetes", "2"⟩, ⟨"os-tooling", "3"⟩]⟩),
      .begin (.consumerRemoved "cluster" "flatcar-stable-1-kube-2-tooling-3-gs"),
      .begin (.pass "flatcar-stable-1-kube-2-tooling-3-gs")]
    Scene.withdrawsNeeded (by decide +kernel)

/-- The pass over the record of the cluster withdraws what the release needs. -/
theorem withdraw_of_other_feed_release :
    let s := Performance.smallService .zero
    ∃ (c : Scene) (e : Errand) (call : CatalogCall) (l : Ledger) (t : Instant) (past : List Entry)
      (consumer : String) (release : Release), Reachable s .oneByOne c ∧
      c.stage.past = ⟨.issued e (.withdraw call), l, t⟩ :: past ∧
      HasBegun (.consumerAdded consumer call.image call.provider) c.stage ∧
      HasBegun (.releaseAdded release) c.stage := by
  intro s
  obtain ⟨c, hc, hfound⟩ := exists_withdrawsNeeded
  obtain ⟨e, call, l, t, past, n, r, hpast, hr, hspec, hne⟩ := Scene.of_withdrawsNeeded hfound
  obtain ⟨_, _, hboth⟩ := withdraw_of_other_feed s hc hpast
  obtain ⟨consumer, release, hconsumer, hrelease, _⟩ := hboth n r hr hspec hne
  exact ⟨c, e, call, l, t, past, consumer, release, hc, hpast, hconsumer, hrelease⟩

/-- So it is not true that no image is withdrawn that a stored record has consumers for. -/
theorem not_withdraw_of_unneeded :
    ¬ ∀ (s : Service) (c : Scene), Reachable s .oneByOne c → ∀ e call l t past,
      c.stage.past = ⟨.issued e (.withdraw call), l, t⟩ :: past → ∀ n r,
      c.stage.record? n = some r → r.spec = ⟨call.image, call.provider⟩ → r.consumers = [] := by
  intro h
  obtain ⟨c, hc, hfound⟩ := exists_withdrawsNeeded
  obtain ⟨e, call, l, t, past, n, r, hpast, hr, hspec, hne⟩ := Scene.of_withdrawsNeeded hfound
  exact hne (h _ c hc e call l t past hpast n r hr hspec)

end ImageCatalog
