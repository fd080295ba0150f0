import ImageCatalog.Proofs.Consumers.Bookkeeping

/-!
# Every errand keeps the books

The cases of `Account` and `Outline` for the contract `bookkeeping`, and with them the contract for
all errands and visitors.

## Main results

* `bookkeeping_holds` — every errand keeps the books, under every regime in which no pass lands in
  another
-/

namespace ImageCatalog

variable {s : Service} {g : Regime} {e : Errand} {key : String}

/-! ### Errands about consumers -/

section Demands

variable {visitor : Bool} {F : Stage → Prop}

theorem steady_orderly (hF : Carried e F) :
    Role.Steady ⟨bookkeeping s g, g, e, visitor⟩ fun σ => Orderly s g σ ∧ F σ where
  during _ h := during_of_orderly h.1
  quiet _ _ t h he hd _ := ⟨h.1.quiet hd t, hF.still h.2 he hd.ne_issued t⟩

theorem steady_pending (hF : Carried e F) :
    Role.Steady ⟨bookkeeping s g, g, e, visitor⟩ fun σ =>
      (Books s (e.demand? s) σ ∧ Latest s g σ) ∧ F σ where
  during σ h := by
    obtain ⟨⟨hbooks, hlatest⟩, _⟩ := h
    refine ⟨?_, hlatest⟩
    cases hp : e.demand? s with
    | none =>
      rw [hp] at hbooks
      exact .inl hbooks
    | some p =>
      rw [hp] at hbooks
      exact .inr ⟨p, rfl, hbooks⟩
  quiet _ _ t h he hd _ :=
    ⟨⟨h.1.1.keep (fun _ => hd.uncounted) t,
      (Fair.still fun e call hi => absurd hi (hd.ne_issued e (.withdraw call))).latest t⟩,
      hF.still h.2 he hd.ne_issued t⟩

variable {σ : Stage} {n : String} {r r' : Record} {t : Instant} {demand : Demand}

/-- An errand about a consumer writes its record. -/
theorem pending_write (hF : Carried e F) (hd : e.demand? s = some (n, demand))
    (h : Orderly s g σ ∧ F σ) (hr : σ.record? n = some r) (hname : r'.name = r.name)
    (hspec : r'.spec = r.spec) (hcreated : r'.created = r.created)
    (hcons : r'.consumers = demand.apply r.consumers) :
    (Books s (e.demand? s) (σ.write e r' t) ∧ Latest s g (σ.write e r' t)) ∧
      F (σ.write e r' t) := by
  obtain ⟨⟨hbooks, _⟩, hf⟩ := h
  have hn : r'.name = n := hname.trans (hbooks n r hr).name_eq
  have hpass : e.isPass = false := Errand.isPass_of_demand hd
  refine ⟨⟨?_, ?_⟩, hF.write hf hr hn hspec t⟩
  · rw [hd]
    exact hbooks.writeDemand hr hname hspec hcreated hcons
  · refine Latest.write hn (Errand.worksOn_of_demand hd) ?_ t
    intro q hp _
    rw [hpass] at hp
    cases hp

/-- An errand about a consumer keeps the books, whatever else it carries along. -/
theorem account (hF : Carried e F) (hbegan : ∀ σ, F σ → HasBegun e σ) :
    Account ⟨bookkeeping s g, g, e, visitor⟩ s (fun σ => Orderly s g σ ∧ F σ)
      fun σ => (Books s (e.demand? s) σ ∧ Latest s g σ) ∧ F σ where
  steady := steady_orderly hF
  steady' := steady_pending hF
  named h hr := (h.1.1 _ _ hr).name_eq
  create {σ n spec c t t'} hd hw h hr ht := by
    obtain ⟨⟨hbooks, _⟩, hf⟩ := h
    have hpass : e.isPass = false := Errand.isPass_of_demand hd
    refine ⟨⟨hbooks.create (hbegan σ hf) hw, ?_⟩, ?_⟩
    · have hworks : e.WorksOn s σ.past n := Errand.worksOn_of_demand hd
      refine (Fair.put rfl hworks Deed.answered_ne_issued ?_).latest t'
      intro q hp _
      have hp' : e.isPass := hp
      rw [hpass] at hp'
      cases hp'
    · refine hF.put hf rfl Deed.answered_ne_issued rfl ?_ t'
      intro q hq
      have hq' : σ.record? n = some q := hq
      rw [hr] at hq'
      cases hq'
  added {σ n r c t} hd h hr ht := by
    rw [r.addConsumer_eq c]
    exact pending_write hF hd h hr rfl rfl rfl rfl
  present {σ n r c} hd h hr hc := by
    obtain ⟨⟨hbooks, hlatest⟩, hf⟩ := h
    have hd' : e.demand? s = some (n, .add c) := hd
    rw [hd']
    refine ⟨⟨hbooks.pend ?_, hlatest⟩, hf⟩
    intro q hq
    rw [hr, Option.some.injEq] at hq
    have hmem : c ∈ q.consumers := by simpa [← hq, Record.hasConsumer] using hc
    exact Demand.apply_add_of_mem hmem
  dropped {σ n r c t} hd h hr _ _ := by
    rw [r.removeConsumer_eq c]
    exact pending_write hF hd h hr rfl rfl rfl rfl
  missing {σ n c} hd h hno := by
    obtain ⟨⟨hbooks, hlatest⟩, hf⟩ := h
    have hd' : e.demand? s = some (n, .drop c) := hd
    rw [hd']
    refine ⟨⟨hbooks.pend ?_, hlatest⟩, hf⟩
    intro q hq
    have hmem : c ∉ q.consumers := by simpa [Record.hasConsumer] using hno q hq
    exact Demand.apply_drop_of_not_mem hmem

/-- A deletion request writes a record and leaves its consumers alone. -/
theorem orderly_request (hF : Carried (.requestDeletion n) F) (h : Orderly s g σ ∧ F σ)
    (hr : σ.record? n = some r) (now : Instant) :
    let σ' := σ.write (.requestDeletion n) { r with deletion := some now } t
    Orderly s g σ' ∧ F σ' := by
  obtain ⟨⟨hbooks, _⟩, hf⟩ := h
  have hkeeps := r.keeps_requestDeletion now
  have hn : { r with deletion := some now }.name = n := (hbooks n r hr).name_eq
  have hworks : (Errand.requestDeletion n).WorksOn s σ.past n := rfl
  refine ⟨⟨hbooks.write hr hkeeps.toAkin, ?_⟩, hF.write hf hr hn rfl t⟩
  refine Latest.write hn hworks ?_ t
  intro q hp _
  cases hp

/-- **Errands that may land keep the books.** What they demand counts once they have succeeded. -/
theorem meets_of_not_isPass (hF : Carried e F) (hbegan : ∀ σ, F σ → HasBegun e σ)
    (hpass : e.isPass = false) (h : Orderly s g σ ∧ F σ)
    {Q : Except Failure e.Result → Stage → Prop}
    (hend : ∀ x σ', (∀ t, Orderly s g (σ'.after (.ended e x) σ'.ledger t)) → F σ' → Q x σ') :
    Role.Meets ⟨bookkeeping s g, g, e, visitor⟩ (e.program s) Q σ := by
  by_cases hdemand : e.isDemand
  · refine ((account hF hbegan).triple_program hdemand σ h).mono fun x σ' hx => ?_
    cases x with
    | ok a =>
      refine hend _ σ' (fun t => ⟨hx.1.1.ended, ?_⟩) hx.2
      exact (Fair.still fun _ _ h => by cases h).latest t
    | error reason =>
      refine hend _ σ' (fun t => ?_) hx.2
      exact hx.1.still (fun _ => Deed.uncounted_failed e reason) (fun _ _ h => by cases h) t
  · cases e with
    | requestDeletion n =>
      have hmark : Role.Triple ⟨bookkeeping s g, g, .requestDeletion n, visitor⟩
          (fun σ => Orderly s g σ ∧ F σ) (Pass.requestDeletion n)
          (fun _ σ => Orderly s g σ ∧ F σ) (fun σ => Orderly s g σ ∧ F σ) :=
        triple_requestDeletion (steady_orderly hF).still (fun _ _ h hr => (h.1.1 n _ hr).name_eq)
          fun _ _ now _ h hr _ => orderly_request hF h hr now
      refine (hmark σ h).mono fun x σ' hx => ?_
      obtain ⟨hbooks, hf⟩ : Orderly s g σ' ∧ F σ' := by cases x <;> exact hx
      refine hend x σ' (fun t => ?_) hf
      exact hbooks.still (fun _ => Deed.uncounted_ended (e := .requestDeletion n) rfl x)
        (fun _ _ h => by cases h) t
    | pass | passAll => cases hpass
    | consumerAdded | consumerRemoved | releaseAdded | releaseRemoved => exact absurd rfl hdemand

end Demands

/-! ### Passes -/

section Passes

/-- A round of passes works on the record. -/
def OnTurn (e : Errand) (key : String) (σ : Stage) : Prop :=
  e = .passAll → turn? σ.past = some key

/-- Whether an errand is a pass over a record, be it one of a round. -/
def Errand.PassesOver (e : Errand) (key : String) : Prop :=
  e = .pass key ∨ e = .passAll

variable {σ σ' : Stage} {spec : Spec} {r r' : Record} {t : Instant}

theorem Errand.PassesOver.isPass (he : e.PassesOver key) : e.isPass := by
  rcases he with rfl | rfl <;> rfl

theorem Errand.PassesOver.worksOn (he : e.PassesOver key) (h : OnTurn e key σ) :
    e.WorksOn s σ.past key := by
  rcases he with rfl | rfl
  · rfl
  · exact h rfl

theorem OnTurn.answered (h : OnTurn e key σ) {q : Request} (x : q.Answer) (l : Ledger) (t : Instant)
    (hq : q ≠ .isInterrupted) : OnTurn e key (σ.after (.answered e q x) l t) := by
  rintro rfl
  exact turn?_answered x l t hq (h rfl)

theorem OnTurn.quiet (h : OnTurn e key σ) {d : Deed} (he : d.errand = e) (hd : d.Quiet)
    (l : Ledger) (t : Instant) : OnTurn e key (σ.after d l t) := by
  cases d with
  | answered e' q x =>
    obtain rfl : e' = e := he
    have hq : q ≠ .isInterrupted := by
      rintro rfl
      rcases hd with hd | hd <;> cases hd
    exact h.answered x l t hq
  | began | issued | ended => cases hd

theorem OnTurn.issued (h : OnTurn e key σ) (q : Request) (l : Ledger) (t : Instant) :
    OnTurn e key (σ.after (.issued e q) l t) :=
  h

/-- No pass lands in another, so that a round keeps its record while visitors land. -/
theorem OnTurn.visits (hg : ∀ q v, g.visitors q v → v.isPass = false) (h : OnTurn e key σ)
    (hv : Visits g σ σ') : OnTurn e key σ' := by
  intro he
  obtain ⟨v, hpast, hdeeds⟩ := hv.past
  have hne : ∀ m ∈ v, m.deed.errand ≠ .passAll := by
    intro m hm hm'
    obtain ⟨⟨q, hq⟩, _⟩ := hdeeds m hm
    have hpass := hg q _ hq
    rw [hm'] at hpass
    cases hpass
  rw [hpast, turn?_append hne]
  exact h he

/-- A pass writes its record. -/
theorem orderly_write (he : e.PassesOver key) (h : Orderly s g σ ∧ OnTurn e key σ)
    (hr : σ.record? key = some r) (ha : r.Akin r') (t : Instant) :
    Orderly s g (σ.write e r' t) ∧ OnTurn e key (σ.write e r' t) := by
  obtain ⟨⟨hbooks, _⟩, hturn⟩ := h
  have hn : r'.name = key := ha.name.trans (hbooks key r hr).name_eq
  have hlatest : Latest s g (σ.write e r' t) := by
    refine Latest.write hn (he.worksOn hturn) ?_ t
    intro q _ hq
    rw [hr, Option.some.injEq] at hq
    rw [← hq]
    exact ha
  exact ⟨⟨hbooks.write hr ha, hlatest⟩, hturn.answered _ _ t (by simp)⟩

/-! #### The sweep -/

/-- What holds while a pass takes an image out of the catalogs. -/
def OnSweep (s : Service) (g : Regime) (e : Errand) (key : String) (spec : Spec) (σ : Stage) :
    Prop :=
  (Orderly s g σ ∧ OnTurn e key σ) ∧ SweepAt s g e key spec σ

/-- A step of the pass that leaves the spec of the record as it is. -/
theorem SweepAt.step (h : SweepAt s g e key spec σ) {d : Deed} {l : Ledger}
    (hd : SweepDeed g e key d) (he : d.errand = e)
    (hspec : ∀ r, σ.record? key = some r → ∃ r', l.get? key = some r' ∧ r'.spec = r.spec)
    (t : Instant) : SweepAt s g e key spec (σ.after d l t) := by
  obtain ⟨newer, older, hpast, hsweep, htally, r, hr, rfl⟩ := h
  obtain ⟨r', hr', hrr'⟩ := hspec r hr
  refine ⟨⟨d, l, t⟩ :: newer, older, ?_, hsweep.cons hd (.inl he), htally, r', hr', hrr'⟩
  rw [Stage.past_after, hpast, List.cons_append]

theorem Deed.Quiet.sweepDeed {d : Deed} (hd : d.Quiet) (he : d.errand = e) :
    SweepDeed g e key d := by
  cases d with
  | answered e' q x =>
    obtain rfl : e' = e := he
    exact .answered hd.created?
  | began | issued | ended => cases hd

theorem SweepAt.quiet (h : SweepAt s g e key spec σ) {d : Deed} (he : d.errand = e) (hd : d.Quiet)
    (t : Instant) : SweepAt s g e key spec (σ.after d σ.ledger t) :=
  h.step (hd.sweepDeed he) he (fun r hr => ⟨r, hr, rfl⟩) t

theorem SweepAt.write (h : SweepAt s g e key spec σ) (hr : σ.record? key = some r)
    (hname : r.name = key) (ha : r.Akin r') (t : Instant) :
    SweepAt s g e key spec (σ.write e r' t) := by
  refine h.step (.answered rfl) rfl ?_ t
  intro q hq
  rw [hr, Option.some.injEq] at hq
  refine ⟨r'.bumped, Ledger.get?_put_of_eq (ha.name.trans hname), ?_⟩
  rw [← hq]
  exact ha.spec

/-- A withdrawal is under way, and visitors have landed. -/
theorem SweepAt.withdraw (h : SweepAt s g e key spec σ) {call : CatalogCall}
    (hcall : call.record = key)
    (hv : Visits g (σ.after (.issued e (.withdraw call)) σ.ledger t) σ') :
    SweepAt s g e key spec σ' := by
  obtain ⟨newer, older, hpast, hsweep, htally, r, hr, rfl⟩ := h
  obtain ⟨v, hpast', hdeeds⟩ := hv.past
  obtain ⟨r', hr', hspec⟩ := hv.kept key r hr
  have hissued := hsweep.cons (m := ⟨.issued e (.withdraw call), σ.ledger, t⟩) (.issued hcall)
    (.inl rfl)
  have hvisited := hissued.visits ⟨_, List.mem_cons_self, call, rfl⟩ hdeeds
  refine ⟨_, older, ?_, hvisited, htally, r', hr', hspec⟩
  rw [hpast', Stage.past_after, hpast, List.append_assoc, List.cons_append]

/-- A record without consumers may be swept. -/
theorem Orderly.sweepAt (h : Orderly s g σ) (hr : σ.record? key = some r)
    (hfree : r.isReferenced = false) : SweepAt s g e key r.spec σ := by
  have hnil : r.consumers = [] := Record.consumers_eq_nil hfree
  have hsweep : Sweeping g e key [] σ.past := by
    refine ⟨⟨r, hr, hnil⟩, ?_, ?_⟩
    · intro m hm
      cases hm
    · intro a m b hab
      cases a <;> cases hab
  refine ⟨[], σ.past, rfl, hsweep, ?_, r, hr, rfl⟩
  rw [← hnil, (h.1 key r hr).consumers, met_none]

theorem steady_onTurn :
    Role.Steady ⟨bookkeeping s g, g, e, false⟩ fun σ => Orderly s g σ ∧ OnTurn e key σ where
  during _ h := during_of_orderly h.1
  quiet σ _ t h hd hq _ := ⟨h.1.quiet hq t, h.2.quiet hd hq σ.ledger t⟩

theorem steady_onSweep (spec : Spec) :
    Role.Steady ⟨bookkeeping s g, g, e, false⟩ (OnSweep s g e key spec) where
  during _ h := during_of_orderly h.1.1
  quiet σ d t h hd hq ht := ⟨steady_onTurn.quiet σ d t h.1 hd hq ht, h.2.quiet hd hq t⟩

/-- The record is removed at the end of a sweep that nobody has come into. -/
theorem orderly_removed (he : e.PassesOver key) (h : Orderly s g σ ∧ OnTurn e key σ)
    (hr : σ.record? key = some r) (hfree : r.isReferenced = false) {v : Option UInt64}
    (t : Instant) :
    let σ' := σ.after (.answered e (.removeRecord key v) (.ok true))
      ⟨σ.ledger.records.erase key⟩ t
    Orderly s g σ' ∧ OnTurn e key σ' := by
  have hnil : r.consumers = [] := Record.consumers_eq_nil hfree
  have htally : tally s key σ.past = [] := by
    rw [← hnil, (h.1.1 key r hr).consumers, met_none]
  refine ⟨⟨h.1.1.erase, ?_⟩, h.2.answered _ _ t (by simp)⟩
  have hfair : Fair s g σ (.answered e (.removeRecord key v) (.ok true))
      ⟨σ.ledger.records.erase key⟩ := by
    refine Fair.change (he.worksOn h.2) Deed.answered_ne_issued ?_ ?_ ?_
    · intro n hn
      rw [Ledger.get?_erase, if_neg hn]
      rfl
    · intro _ _ _
      exact ⟨he.isPass, htally⟩
    · intro q q' _ _ hq'
      rw [Ledger.get?_erase, if_pos rfl] at hq'
      cases hq'
  exact hfair.latest t

/-- The cases of a pass that keeps the books. -/
def bookkeepingOutline (s : Service) {g : Regime} (hg : ∀ q v, g.visitors q v → v.isPass = false)
    (he : e.PassesOver key) (period : Duration) :
    Outline ⟨bookkeeping s g, g, e, false⟩ period key
      (fun σ => Orderly s g σ ∧ (e = .passAll → turn? σ.past = none)) (Orderly s g) where
  base σ := Orderly s g σ ∧ OnTurn e key σ
  opened σ := Orderly s g σ ∧ OnTurn e key σ
  looked _ σ := Orderly s g σ ∧ OnTurn e key σ
  sweep := OnSweep s g e key
  alone := rfl
  steady_base := steady_onTurn
  steady_opened := steady_onTurn
  steady_looked _ := steady_onTurn
  steady_sweep := steady_onSweep
  base_of_opened h := h
  base_of_looked h := h
  base_of_sweep h := h.1
  home_of_base h := h.1
  lull_of_base h := h.1
  named h hr := (h.1.1 _ _ hr).name_eq
  read {σ t} x h _ := by
    refine ⟨h.1.quiet (d := .answered e (.readRecord key) x) (.inl rfl) t, ?_⟩
    rintro rfl
    simp [turn?, h.2 rfl]
  now {σ t} h ht := steady_onTurn.quiet σ (.answered e .now t) t h rfl (.inl rfl) ht
  issue {σ r t} h hr _ := by
    refine ⟨h.1.still (fun _ => Deed.uncounted_issued e r) (fun e' call hi => ?_) t,
      h.2.issued r σ.ledger t⟩
    cases hi
    exact hr call rfl
  visits h hm := ⟨hm.2 h.1, h.2.visits hg hm.1⟩
  calm {_ _ _ t} h hr hc _ := orderly_write he h hr hc.toAkin t
  calm_opened {_ _ _ t} h hr hc _ := orderly_write he h hr hc.toAkin t
  calm_sweep {_ _ _ _ t} h hr hc _ :=
    ⟨orderly_write he h.1 hr hc.toAkin t, h.2.write hr (h.1.1.1 _ _ hr).name_eq hc.toAkin t⟩
  mark {_ r t t'} h hr _ _ := orderly_write he h hr (r.keeps_requestDeletion t).toAkin t'
  stamp {_ r t t' _} h hr _ _ := orderly_write he h hr (r.keeps_stampLastUsed _ t).toAkin t'
  due h hr _ hfree := ⟨h, h.1.sweepAt hr hfree⟩
  withdraw {spec σ σ' t call} h hcall hprovider himage ht hm := by
    have hspec : spec = ⟨call.image, call.provider⟩ := by rw [hprovider, himage]
    have hissued : Orderly s g (σ.after (.issued e (.withdraw call)) σ.ledger t) := by
      refine ⟨h.1.1.1.keep (fun _ => Deed.uncounted_issued e _) t, ?_⟩
      refine (Fair.still ?_).latest t
      intro e' call' hi
      cases hi
      refine ⟨rfl, he.isPass, ?_, h.1.1.1, ?_⟩
      · rw [hcall]
        exact he.worksOn h.1.2
      · rw [hcall, ← hspec]
        exact h.2
    exact ⟨⟨hm.2 hissued, (h.1.2.issued _ σ.ledger t).visits hg hm.1⟩, h.2.withdraw hcall hm.1⟩
  removed {_ _ r t} h hr hfree _ := orderly_removed he h.1 hr hfree t

/-- **Passes keep the books.** -/
theorem meets_of_isPass (hg : ∀ q v, g.visitors q v → v.isPass = false) (hpass : e.isPass)
    (h : Orderly s g σ) {Q : Except Failure e.Result → Stage → Prop}
    (hend : ∀ x σ', Orderly s g σ' → Q x σ') :
    Role.Meets ⟨bookkeeping s g, g, e, false⟩ (e.program s) Q σ := by
  cases e with
  | pass key =>
    have hrun := (bookkeepingOutline s hg (e := .pass key) (.inl rfl) _).triple_run
      (s := s.setup) rfl
    have hfresh : Errand.pass key = .passAll → turn? σ.past = none := by
      intro he
      cases he
    refine (hrun σ ⟨h, hfresh⟩).mono fun x σ' hx => hend x σ' ?_
    cases x <;> exact hx
  | passAll =>
    have hsteady : Role.Steady ⟨bookkeeping s g, g, .passAll, false⟩ (Orderly s g) :=
      ⟨fun _ h' => during_of_orderly h', fun _ _ t' h' _ hq _ => h'.quiet hq t'⟩
    have hrun : Role.Triple ⟨bookkeeping s g, g, .passAll, false⟩ (Orderly s g)
        (Pass.runAll s.setup) (fun _ => Orderly s g) (Orderly s g) := by
      refine triple_runAll
        (fun key => (bookkeepingOutline s hg (e := .passAll) (.inr rfl) _).triple_run rfl)
        hsteady.still (fun _ h' => h'.1) ?_
      intro σ' t' x h' _
      refine ⟨h'.still ?_ (fun _ _ hi => by cases hi) t', fun _ => rfl⟩
      intro n
      exact Deed.uncounted_answered (r := .isInterrupted) _ (fun _ hi => by cases hi) x
    refine (hrun σ h).mono fun x σ' hx => hend x σ' ?_
    cases x <;> exact hx
  | consumerAdded | consumerRemoved | releaseAdded | releaseRemoved | requestDeletion =>
    cases hpass

end Passes

/-! ### The contract -/

theorem Orderly.began {σ : Stage} (h : Orderly s g σ) (t : Instant) :
    Orderly s g (σ.after (.began e) σ.ledger t) :=
  h.still (fun _ => Deed.uncounted_began e) (fun _ _ hi => by cases hi) t

/-- **The books are kept**, under every regime in which no pass lands in another. -/
theorem bookkeeping_holds (s : Service) {g : Regime}
    (hg : ∀ q v, g.visitors q v → v.isPass = false) : (bookkeeping s g).Holds g s where
  start t _ := ⟨.start t, .start t⟩
  errand e σ t _ h _ := by
    have hbegan : Orderly s g (σ.after (.began e) σ.ledger t) := h.began t
    refine ⟨during_of_orderly hbegan, ?_⟩
    cases hpass : e.isPass with
    | false =>
      have hhas : HasBegun e (σ.after (.began e) σ.ledger t) := ⟨_, List.mem_cons_self, rfl⟩
      refine meets_of_not_isPass (carried_hasBegun e) (fun _ h' => h') hpass ⟨hbegan, hhas⟩ ?_
      intro x σ' hend _ t' _
      exact hend t'
    | true =>
      refine meets_of_isPass hg hpass hbegan ?_
      intro x σ' h' t' _
      have huncounted : ∀ n, (Deed.ended e x).Uncounted s n := by
        intro n
        exact Deed.uncounted_ended (Errand.demand?_eq_none_of_isPass hpass) x
      exact h'.still huncounted (fun _ _ hi => by cases hi) t'
  visitor q e σ t hv h _ := by
    have hpass := hg q e hv
    have hbegan : Orderly s g (σ.after (.began e) σ.ledger t) := h.began t
    have hvisits := carried_visits hv σ
    have hvisit : Visits g σ (σ.after (.began e) σ.ledger t) :=
      hvisits.still (Visits.refl σ) rfl (fun _ _ hi => by cases hi) t
    have hhas : HasBegun e (σ.after (.began e) σ.ledger t) := ⟨_, List.mem_cons_self, rfl⟩
    refine ⟨during_of_orderly hbegan, ?_⟩
    refine meets_of_not_isPass (hvisits.and (carried_hasBegun e)) (fun _ h' => h'.2) hpass
      ⟨hbegan, hvisit, hhas⟩ ?_
    intro x σ' hend hf t' _
    exact ⟨hend t', hvisits.still hf.1 rfl (fun _ _ hi => by cases hi) t', fun _ => hend t'⟩

end ImageCatalog
