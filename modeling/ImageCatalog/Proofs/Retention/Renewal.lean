import ImageCatalog.Proofs.Catalog.Withdrawal

/-!
# Renewed references

A new consumer takes the deletion request of a record back. A pass that is removing the record does
not look at the request again: when the image is out of all catalogs, it asks for consumers only. So
a consumer that comes and goes while the image is withdrawn leaves a record that nobody has asked
to be deleted, and the pass removes it all the same.

What is true of a removal is said by what visitors have asked for since the sweep began. An addition
that has succeeded takes the request back, a deletion request leaves a new one, and nothing else
counts.

## Main definitions

* `Errand.rules?`, `requestStands` — whether a deletion request stands, as the errands have it
* `Ruled` — what visitors make of the deletion requests
* `Leaving` — what is known of a record that is about to be removed

## Main results

* `removal_after_sweep` — what a removal finds
* `not_removal_of_requested` — it need not be a deletion request
-/

namespace ImageCatalog

/-! ### Deletion requests -/

/-- What an errand that succeeds makes of the deletion request of a record: an addition takes it
back, and a deletion request leaves one. -/
def Errand.rules? (s : Service) (name : String) (e : Errand) : Option Bool :=
  match e, e.demand? s with
  | .requestDeletion n, _ => if n = name then some true else none
  | _, some (n, .add _) => if n = name then some false else none
  | _, _ => none

/-- What a deed makes of the deletion request of a record. -/
def Deed.rules? (s : Service) (name : String) : Deed → Option Bool
  | ended e (.ok _) => e.rules? s name
  | _ => none

/-- Whether a record is to be deleted after some deeds, if `b` says so before them. -/
def requestStands (s : Service) (name : String) (past : List Entry) (b : Bool) : Bool :=
  past.foldr (fun m b => (m.deed.rules? s name).getD b) b

variable {s : Service} {g : Regime} {c : Scene} {e : Errand} {name key n : String}
  {σ σ' σ₀ : Stage} {d : Deed} {l : Ledger} {t : Instant} {r r' : Record}

theorem requestStands_cons (m : Entry) (past : List Entry) (b : Bool) :
    requestStands s name (m :: past) b =
      (m.deed.rules? s name).getD (requestStands s name past b) := rfl

theorem requestStands_append (newer older : List Entry) (b : Bool) :
    requestStands s name (newer ++ older) b =
      requestStands s name newer (requestStands s name older b) :=
  List.foldr_append ..

theorem Errand.rules?_add {consumer : String} (h : e.demand? s = some (n, .add consumer)) :
    e.rules? s name = if n = name then some false else none := by
  cases e <;> first | (simp only [rules?, h]; done) | cases h

theorem Errand.rules?_drop {consumer : String} (h : e.demand? s = some (n, .drop consumer)) :
    e.rules? s name = none := by
  cases e <;> first | (simp only [rules?, h]; done) | cases h

theorem Deed.Quiet.rules? (h : d.Quiet) : d.rules? s name = none := by
  cases d with
  | answered => rfl
  | began | issued | ended => cases h

/-- An addition that is not needed finds no deletion request. -/
theorem Record.isDeletionRequested_of_not_isRevivable (h : r.isRevivable = false) :
    r.isDeletionRequested = false := by
  simp only [isRevivable, Bool.or_eq_false_iff] at h
  exact h.2

/-! ### Visitors -/

/-- What errands of a kind have made of the deletion requests since `σ₀`. An errand writes its
record before it ends, and in the meantime its own ruling is pending. -/
def Ruled (s : Service) (kind : Errand → Prop) (pending : String → Option Bool) (σ₀ σ : Stage) :
    Prop :=
  ∃ v, σ.past = v ++ σ₀.past ∧
    (∀ m ∈ v, kind m.deed.errand ∧ ∀ e r, m.deed ≠ .issued e r) ∧
    ∀ n r, σ₀.record? n = some r → ∃ r', σ.record? n = some r' ∧
      r'.isDeletionRequested = (pending n).getD (requestStands s n v r.isDeletionRequested)

namespace Ruled

variable {kind kind' : Errand → Prop} {pending pending' : String → Option Bool}

theorem refl (σ : Stage) : Ruled s kind (fun _ => none) σ σ :=
  ⟨[], rfl, List.forall_mem_nil _, fun _ r hr => ⟨r, hr, rfl⟩⟩

theorem trans {σ₁ σ₂ σ₃ : Stage} (h : Ruled s kind (fun _ => none) σ₁ σ₂)
    (h' : Ruled s kind (fun _ => none) σ₂ σ₃) : Ruled s kind (fun _ => none) σ₁ σ₃ := by
  obtain ⟨v, hv, hdeeds, hruled⟩ := h
  obtain ⟨w, hw, hdeeds', hruled'⟩ := h'
  refine ⟨w ++ v, ?_, ?_, ?_⟩
  · rw [hw, hv, List.append_assoc]
  · intro m hm
    exact (List.mem_append.mp hm).elim (hdeeds' m) (hdeeds m)
  · intro n r hr
    obtain ⟨r', hr', hreq⟩ := hruled n r hr
    obtain ⟨r'', hr'', hreq'⟩ := hruled' n r' hr'
    refine ⟨r'', hr'', ?_⟩
    rw [requestStands_append, hreq', hreq]
    rfl

theorem weaken (h : Ruled s kind pending σ₀ σ) (himp : ∀ e, kind e → kind' e) :
    Ruled s kind' pending σ₀ σ := by
  obtain ⟨v, hv, hdeeds, hruled⟩ := h
  exact ⟨v, hv, fun m hm => (hdeeds m hm).imp_left (himp _), hruled⟩

/-- One deed more. -/
theorem after (h : Ruled s kind pending σ₀ σ) (hk : kind d.errand) (hd : ∀ e r, d ≠ .issued e r)
    (hl : ∀ n r, σ.record? n = some r → ∃ r', l.get? n = some r' ∧
      ∀ b, r.isDeletionRequested = (pending n).getD b →
        r'.isDeletionRequested = (pending' n).getD ((d.rules? s n).getD b)) (t : Instant) :
    Ruled s kind pending' σ₀ (σ.after d l t) := by
  obtain ⟨v, hv, hdeeds, hruled⟩ := h
  refine ⟨⟨d, l, t⟩ :: v, ?_, ?_, ?_⟩
  · rw [Stage.past_after, hv, List.cons_append]
  · intro m hm
    rcases List.mem_cons.mp hm with rfl | hm
    · exact ⟨hk, hd⟩
    · exact hdeeds m hm
  · intro n r hr
    obtain ⟨r', hr', hreq⟩ := hruled n r hr
    obtain ⟨r'', hr'', hnext⟩ := hl n r' hr'
    exact ⟨r'', hr'', hnext _ hreq⟩

/-- A deed that changes no record and does not count. -/
theorem keep (h : Ruled s kind pending σ₀ σ) (hk : kind d.errand) (hd : ∀ e r, d ≠ .issued e r)
    (hrules : ∀ n, d.rules? s n = none) (t : Instant) :
    Ruled s kind pending σ₀ (σ.after d σ.ledger t) := by
  refine h.after hk hd ?_ t
  intro n r hr
  refine ⟨r, hr, fun b hb => ?_⟩
  rw [hrules n]
  exact hb

/-- A record is stored, and the ruling on it is pending. -/
theorem put (h : Ruled s kind (fun _ => none) σ₀ σ) (hk : kind d.errand)
    (hd : ∀ e r, d ≠ .issued e r) (hrules : ∀ n, d.rules? s n = none) (hname : r'.name = name)
    (hr' : ∀ r, σ.record? name = some r →
      r'.isDeletionRequested = (pending name).getD r.isDeletionRequested)
    (hother : ∀ n, n ≠ name → pending n = none) (t : Instant) :
    Ruled s kind pending σ₀ (σ.after d (σ.ledger.put r') t) := by
  subst hname
  refine h.after hk hd ?_ t
  intro n r hr
  by_cases hn : n = r'.name
  · subst hn
    refine ⟨r', Ledger.get?_put_of_eq rfl, fun b hb => ?_⟩
    rw [hr' r hr, hrules]
    exact congrArg _ hb
  · refine ⟨r, (Ledger.get?_put_of_ne hn).trans hr, fun b hb => ?_⟩
    rw [hrules, hother n hn]
    exact hb

/-- The ruling agrees with the record already. -/
theorem pend (h : Ruled s kind (fun _ => none) σ₀ σ)
    (hmet : ∀ n r, σ.record? n = some r →
      r.isDeletionRequested = (pending n).getD r.isDeletionRequested) :
    Ruled s kind pending σ₀ σ := by
  obtain ⟨v, hv, hdeeds, hruled⟩ := h
  refine ⟨v, hv, hdeeds, ?_⟩
  intro n r hr
  obtain ⟨r', hr', hreq⟩ := hruled n r hr
  exact ⟨r', hr', (hmet n r' hr').trans (congrArg _ hreq)⟩

/-- **A ruling is pending until its errand ends.** -/
theorem ended {a : e.Result} (h : Ruled s (· = e) (e.rules? s) σ₀ σ) (t : Instant) :
    Ruled s (· = e) (fun _ => none) σ₀ (σ.after (.ended e (.ok a)) σ.ledger t) := by
  refine h.after rfl (fun _ _ hi => by cases hi) ?_ t
  intro n r hr
  exact ⟨r, hr, fun b hb => hb⟩

end Ruled

/-! ### Removals -/

/-- A sweep is going on for a record that was to be deleted when it began. Whether it still is, is a
matter of what visitors have asked for since. -/
def RequestedSweep (s : Service) (g : Regime) (e : Errand) (name : String) (σ : Stage) : Prop :=
  ∃ newer older, σ.past = newer ++ older ∧ Sweeping g e name newer older ∧
    (∃ r₀, (ledgerAfter older).get? name = some r₀ ∧ r₀.isDeletionRequested) ∧
    ∃ r, σ.record? name = some r ∧ r.isDeletionRequested = requestStands s name newer true

/-- The sweep is over, and the record is about to be removed. -/
structure Leaving (s : Service) (g : Regime) (e : Errand) (name : String) (σ : Stage) : Prop where
  swept : RequestedSweep s g e name σ
  record : ∃ r, σ.record? name = some r ∧ r.phase = some .deleted ∧ r.consumers = []

/-- Records have their names, and if one was removed just now, then at the end of a sweep. -/
structure Attested (s : Service) (g : Regime) (σ : Stage) : Prop where
  named : ∀ n r, σ.record? n = some r → r.name = n
  latest : ∀ σ₀ e n v l t, σ = σ₀.after (.answered e (.removeRecord n v) (.ok true)) l t →
    e.isPass ∧ l.get? n = none ∧ Leaving s g e n σ₀

namespace Attested

theorem start (t : Instant) : Attested s g (.start t) where
  named n r hr := by simp at hr
  latest σ₀ e n v l t' h := by
    have hpast := congrArg Stage.past h
    cases hpast

theorem after (hnamed : ∀ n r, l.get? n = some r → r.name = n)
    (hd : ∀ e n v, d = .answered e (.removeRecord n v) (.ok true) →
      e.isPass ∧ l.get? n = none ∧ Leaving s g e n σ) (t : Instant) :
    Attested s g (σ.after d l t) where
  named := hnamed
  latest σ₀ e n v l' t' heq := by
    simp only [Stage.after, Stage.mk.injEq, List.cons.injEq, Entry.mk.injEq] at heq
    obtain ⟨hstarted, ⟨rfl, rfl, _⟩, hpast⟩ := heq
    have hσ : σ₀ = σ := Stage.ext hstarted.symm hpast.symm
    rw [hσ]
    exact hd e n v rfl

/-- A deed that leaves all records alone. -/
theorem keep (h : Attested s g σ) (hd : ∀ e n v, d ≠ .answered e (.removeRecord n v) (.ok true))
    (t : Instant) : Attested s g (σ.after d σ.ledger t) :=
  Attested.after h.named (fun e n v he => absurd he (hd e n v)) t

theorem quiet (h : Attested s g σ) (hd : d.Quiet) (t : Instant) :
    Attested s g (σ.after d σ.ledger t) := by
  refine h.keep ?_ t
  rintro e n v rfl
  rcases hd with hd | hd
  · cases hd
  · exact hd

/-- A deed that stores a record. -/
theorem put (h : Attested s g σ) (hd : ∀ e n v, d ≠ .answered e (.removeRecord n v) (.ok true))
    (t : Instant) : Attested s g (σ.after d (σ.ledger.put r') t) := by
  refine Attested.after ?_ (fun e n v he => absurd he (hd e n v)) t
  intro n r hr
  obtain ⟨rfl, rfl⟩ | ⟨_, hr⟩ := Ledger.of_get?_put rfl hr
  · rfl
  · exact h.named n r hr

theorem write (h : Attested s g σ) (t : Instant) : Attested s g (σ.write e r' t) :=
  h.put (fun _ _ _ hd => by cases hd) t

/-- The record is removed. -/
theorem erase (h : Attested s g σ) (he : e.isPass) (hl : Leaving s g e key σ) {v : Option UInt64}
    (t : Instant) :
    Attested s g (σ.after (.answered e (.removeRecord key v) (.ok true))
      ⟨σ.ledger.records.erase key⟩ t) := by
  refine Attested.after (fun n r hr => h.named n r (Ledger.of_get?_erase hr).2) ?_ t
  intro e' n v' heq
  cases heq
  refine ⟨he, ?_, hl⟩
  rw [Ledger.get?_erase, if_pos rfl]

end Attested

/-- Removals are attested, and visitors are held to what they ask for. -/
def renewal (s : Service) (g : Regime) : Contract where
  idle := Attested s g
  during _ := Attested s g
  lull := Attested s g
  may σ σ' :=
    Ruled s (fun v => ∃ q, g.visitors q v) (fun _ => none) σ σ' ∧
      (Attested s g σ → Attested s g σ')
  may_refl σ := ⟨.refl σ, id⟩
  may_trans h h' := ⟨h.1.trans h'.1, h'.2 ∘ h.2⟩

/-! ### Errands that land -/

section Visitors

variable {visitor : Bool}

theorem steady_ruled (pending : String → Option Bool) (σ₀ : Stage) :
    Role.Steady ⟨renewal s g, g, e, visitor⟩ fun σ =>
      Attested s g σ ∧ Ruled s (· = e) pending σ₀ σ where
  during _ h := h.1
  quiet _ _ t h he hd _ := ⟨h.1.quiet hd t, h.2.keep he hd.ne_issued (fun _ => hd.rules?) t⟩

/-- An errand writes the record that it has a ruling on. -/
theorem ruled_write (h : Attested s g σ ∧ Ruled s (· = e) (fun _ => none) σ₀ σ)
    (hname : r'.name = name)
    (hr' : ∀ r, σ.record? name = some r →
      r'.isDeletionRequested = (e.rules? s name).getD r.isDeletionRequested)
    (hother : ∀ n, n ≠ name → e.rules? s n = none) (events : List Event) :
    Role.Writes ⟨renewal s g, g, e, visitor⟩
      (fun σ => Attested s g σ ∧ Ruled s (· = e) (fun n => e.rules? s n) σ₀ σ) r' events σ := by
  intro t _
  have hbumped : r'.bumped.name = name := hname
  have hstored : ∀ r, σ.record? name = some r →
      r'.bumped.isDeletionRequested = (e.rules? s name).getD r.isDeletionRequested := hr'
  refine (steady_ruled _ σ₀).owes events ⟨h.1.write t, ?_⟩
  exact h.2.put rfl Deed.answered_ne_issued (fun _ => rfl) hbumped hstored hother t

/-- What an errand about a consumer makes of the deletion requests. -/
theorem ruled_dealings (σ₀ : Stage) :
    Dealings ⟨renewal s g, g, e, visitor⟩ s
      (fun σ => Attested s g σ ∧ Ruled s (· = e) (fun _ => none) σ₀ σ)
      fun σ => Attested s g σ ∧ Ruled s (· = e) (fun n => e.rules? s n) σ₀ σ where
  still := (steady_ruled _ σ₀).still
  still' := (steady_ruled _ σ₀).still
  named h hr := h.1.named _ _ hr
  create {σ n spec c t t'} _ _ _ h hr _ := by
    refine (steady_ruled _ σ₀).owes _ ⟨h.1.put (fun _ _ _ hd => by cases hd) t', ?_⟩
    have hname : (Record.new n spec t).atFirst.name = n := rfl
    refine h.2.put rfl Deed.answered_ne_issued (fun _ => rfl) hname ?_ (fun _ _ => rfl) t'
    intro q hq
    -- There was no record of that name.
    rw [hr] at hq
    cases hq
  added {σ n r c} hd _ h hr _ := by
    have hname : (r.addConsumer c).revive.name = n := by
      rw [r.addConsumer_eq c]
      exact h.1.named n r hr
    refine ruled_write h hname ?_ ?_ _
    · intro q _
      rw [Errand.rules?_add hd, if_pos rfl]
      rfl
    · intro m hm
      rw [Errand.rules?_add hd, if_neg hm.symm]
  present {σ n r c} hd h hr _ hrevive := by
    refine ⟨h.1, h.2.pend fun m q hq => ?_⟩
    rw [Errand.rules?_add hd]
    by_cases hm : n = m
    · subst hm
      obtain rfl := Option.some.inj (hr.symm.trans hq)
      rw [if_pos rfl, Record.isDeletionRequested_of_not_isRevivable hrevive]
      rfl
    · rw [if_neg hm]
      rfl
  dropped {σ n r c} hd h hr _ := by
    have hname : (r.removeConsumer c).name = n := h.1.named n r hr
    refine ruled_write h hname ?_ (fun m _ => Errand.rules?_drop hd) _
    intro q hq
    obtain rfl := Option.some.inj (hr.symm.trans hq)
    rw [Errand.rules?_drop hd]
    rfl
  missing {σ n c} hd h _ := by
    refine ⟨h.1, h.2.pend fun m q _ => ?_⟩
    rw [Errand.rules?_drop hd]
    rfl

/-- A deletion is requested. -/
theorem ruled_requestDeletion (σ₀ : Stage) :
    Role.Triple ⟨renewal s g, g, .requestDeletion n, visitor⟩
      (fun σ => Attested s g σ ∧ Ruled s (· = .requestDeletion n) (fun _ => none) σ₀ σ)
      (Pass.requestDeletion n)
      (fun _ σ => Attested s g σ ∧
        Ruled s (· = .requestDeletion n) (fun m => (Errand.requestDeletion n).rules? s m) σ₀ σ)
      (fun σ => Attested s g σ ∧ Ruled s (· = .requestDeletion n) (fun _ => none) σ₀ σ) := by
  have hother : ∀ m, m ≠ n → (Errand.requestDeletion n).rules? s m = none :=
    fun m hm => if_neg hm.symm
  have hself : (Errand.requestDeletion n).rules? s n = some true := if_pos rfl
  refine triple_markDeletion (steady_ruled _ σ₀).still (steady_ruled _ σ₀).still
    (fun _ _ h hr => h.1.named _ _ hr) ?_ ?_
  · intro σ r h hr hreq
    refine ⟨h.1, h.2.pend fun m q hq => ?_⟩
    by_cases hm : m = n
    · subst hm
      obtain rfl := Option.some.inj (hr.symm.trans hq)
      rw [hself]
      exact hreq
    · rw [hother m hm]
      rfl
  · intro σ r now h hr
    have hname : { r with deletion := some now }.name = n := h.1.named n r hr
    refine ruled_write h hname ?_ hother []
    intro q _
    rw [hself]
    rfl

/-- **Errands that may land are held to what they ask for.** -/
theorem meets_ruled (hpass : e.isPass = false) (h : Attested s g σ)
    {Q : Except Failure e.Result → Stage → Prop}
    (hend : ∀ x σ', (∀ t, Attested s g (σ'.after (.ended e x) σ'.ledger t) ∧
      Ruled s (· = e) (fun _ => none) σ (σ'.after (.ended e x) σ'.ledger t)) → Q x σ') :
    Role.Meets ⟨renewal s g, g, e, visitor⟩ (e.program s) Q σ := by
  have hended : ∀ {σ'} x t, Attested s g σ' →
      Attested s g (σ'.after (.ended e x) σ'.ledger t) :=
    fun x t h' => h'.keep (fun _ _ _ hd => by cases hd) t
  have hrun : Role.Triple ⟨renewal s g, g, e, visitor⟩
      (fun σ' => Attested s g σ' ∧ Ruled s (· = e) (fun _ => none) σ σ') (e.program s)
      (fun _ σ' => Attested s g σ' ∧ Ruled s (· = e) (fun n => e.rules? s n) σ σ')
      (fun σ' => Attested s g σ' ∧ Ruled s (· = e) (fun _ => none) σ σ') := by
    by_cases hdemand : e.isDemand
    · exact (ruled_dealings σ).triple_program hdemand
    · cases e with
      | requestDeletion n => exact ruled_requestDeletion σ
      | pass | passAll => cases hpass
      | consumerAdded | consumerRemoved | releaseAdded | releaseRemoved => exact absurd rfl hdemand
  refine (hrun σ ⟨h, .refl σ⟩).mono fun x σ' hx => hend x σ' fun t => ?_
  cases x with
  | ok a => exact ⟨hended _ t hx.1, hx.2.ended t⟩
  | error reason =>
    exact ⟨hended _ t hx.1, hx.2.keep rfl (fun _ _ hi => by cases hi) (fun _ => rfl) t⟩

end Visitors

/-! ### Passes -/

namespace RequestedSweep

/-- A step of the pass that leaves the deletion request as it is. -/
theorem step (h : RequestedSweep s g e key σ) (hd : SweepDeed g e key d) (he : d.errand = e)
    (hrules : d.rules? s key = none)
    (hreq : ∀ r, σ.record? key = some r → ∃ r', l.get? key = some r' ∧
      r'.isDeletionRequested = r.isDeletionRequested) (t : Instant) :
    RequestedSweep s g e key (σ.after d l t) := by
  obtain ⟨newer, older, hpast, hsweep, hstart, r, hr, hstands⟩ := h
  obtain ⟨r', hr', heq⟩ := hreq r hr
  refine ⟨⟨d, l, t⟩ :: newer, older, ?_, hsweep.cons hd (.inl he), hstart, r', hr', ?_⟩
  · rw [Stage.past_after, hpast, List.cons_append]
  · rw [requestStands_cons, hrules, heq, hstands]
    rfl

theorem quiet (h : RequestedSweep s g e key σ) (he : d.errand = e) (hd : d.Quiet) (t : Instant) :
    RequestedSweep s g e key (σ.after d σ.ledger t) :=
  h.step (hd.sweepDeed he) he hd.rules? (fun r hr => ⟨r, hr, rfl⟩) t

theorem write (h : RequestedSweep s g e key σ) (hr : σ.record? key = some r)
    (hname : r.name = key) (ha : r.Akin r') (hreq : r'.deletion = r.deletion) (t : Instant) :
    RequestedSweep s g e key (σ.write e r' t) := by
  refine h.step (.answered rfl) rfl rfl ?_ t
  intro q hq
  obtain rfl := Option.some.inj (hr.symm.trans hq)
  exact ⟨r'.bumped, Ledger.get?_put_of_eq (ha.name.trans hname), congrArg Option.isSome hreq⟩

/-- A withdrawal is under way, and visitors have landed. -/
theorem withdraw (h : RequestedSweep s g e key σ) {call : CatalogCall} (hcall : call.record = key)
    (hv : Ruled s (fun v => ∃ q, g.visitors q v) (fun _ => none)
      (σ.after (.issued e (.withdraw call)) σ.ledger t) σ') :
    RequestedSweep s g e key σ' := by
  obtain ⟨newer, older, hpast, hsweep, hstart, r, hr, hstands⟩ := h
  obtain ⟨v, hpast', hdeeds, hruled⟩ := hv
  obtain ⟨r', hr', hreq⟩ := hruled key r hr
  have hissued := hsweep.cons (m := ⟨.issued e (.withdraw call), σ.ledger, t⟩) (.issued hcall)
    (.inl rfl)
  have hvisited := hissued.visits ⟨_, List.mem_cons_self, call, rfl⟩ hdeeds
  refine ⟨_, older, ?_, hvisited, hstart, r', hr', ?_⟩
  · rw [hpast', Stage.past_after, hpast, List.append_assoc, List.cons_append]
  · rw [requestStands_append, requestStands_cons, hreq, hstands]
    rfl

end RequestedSweep

/-- A record without consumers that is to be deleted may be swept. -/
theorem requestedSweep_of_due (hr : σ.record? key = some r) (hreq : r.isDeletionRequested)
    (hfree : r.isReferenced = false) : RequestedSweep s g e key σ := by
  refine ⟨[], σ.past, rfl, ⟨⟨r, hr, Record.consumers_eq_nil hfree⟩, List.forall_mem_nil _, ?_⟩,
    ⟨r, hr, hreq⟩, r, hr, hreq⟩
  intro a m b hab
  cases a <;> cases hab

theorem steady_attested :
    Role.Steady ⟨renewal s g, g, e, false⟩ (Attested s g) where
  during _ h := h
  quiet _ _ t h _ hd _ := h.quiet hd t

theorem steady_requestedSweep :
    Role.Steady ⟨renewal s g, g, e, false⟩ fun σ =>
      Attested s g σ ∧ RequestedSweep s g e key σ where
  during _ h := h.1
  quiet _ _ t h he hd _ := ⟨h.1.quiet hd t, h.2.quiet he hd t⟩

theorem steady_leaving :
    Role.Steady ⟨renewal s g, g, e, false⟩ fun σ =>
      Attested s g σ ∧ Leaving s g e key σ where
  during _ h := h.1
  quiet _ _ t h he hd _ := ⟨h.1.quiet hd t, h.2.swept.quiet he hd t, h.2.record⟩

theorem writes_attested (h : Attested s g σ) (r : Record) (events : List Event) :
    Role.Writes ⟨renewal s g, g, e, false⟩ (Attested s g) r events σ :=
  fun t _ => steady_attested.owes events (h.write t)

theorem writes_requestedSweep (h : Attested s g σ ∧ RequestedSweep s g e key σ)
    (hr : σ.record? key = some r) (ha : r.Akin r') (hreq : r'.deletion = r.deletion)
    (events : List Event) :
    Role.Writes ⟨renewal s g, g, e, false⟩
      (fun σ => Attested s g σ ∧ RequestedSweep s g e key σ) r' events σ := by
  intro t _
  have hname : r.name = key := h.1.named key r hr
  exact steady_requestedSweep.owes events ⟨h.1.write t, h.2.write hr hname ha hreq t⟩

/-- **The course of a pass** whose removals are attested. -/
def renewalCourse (s : Service) (g : Regime) (he : e.isPass) (period : Duration) (key : String) :
    Course ⟨renewal s g, g, e, false⟩ period key (Attested s g) (Attested s g) where
  base := Attested s g
  opened := Attested s g
  looked _ := Attested s g
  placing := Attested s g
  sweep _ σ := Attested s g σ ∧ RequestedSweep s g e key σ
  leaving _ σ := Attested s g σ ∧ Leaving s g e key σ
  alone := rfl
  still_base := steady_attested.still
  still_opened := steady_attested.still
  still_looked _ := steady_attested.still
  still_placing := steady_attested.still
  still_sweep _ := steady_requestedSweep.still
  still_leaving _ := steady_leaving.still
  base_of_opened h := h
  base_of_looked h := h
  base_of_placing h := h
  placing_of_sweep h := h.1
  home_of_base h := h
  lull_of_placing h := h
  named h hr := h.named _ _ hr
  read x h _ := h.keep (fun _ _ _ hd => by cases hd) _
  drop h _ := writes_attested h _ _
  now h _ := h.keep (fun _ _ _ hd => by cases hd) _
  place h _ _ := h
  endWait h _ _ _ := writes_attested h _ _
  mark h _ _ := writes_attested h _ _
  stamp h _ _ := writes_attested h _ _
  issue h _ _ := h.keep (fun _ _ _ hd => by cases hd) _
  visits h hm := hm.2 h
  answered h hr ht := steady_attested.answered h hr _ ht
  enter h _ _ _ _ _ := writes_attested h _ _
  start {_ r} h hr hreq hfree _ :=
    writes_requestedSweep ⟨h, requestedSweep_of_due hr hreq hfree⟩ hr
      (r.calm_clearLastUsed .deleting (by decide)).toAkin rfl _
  started h hr hreq hfree _ := ⟨h, requestedSweep_of_due hr hreq hfree⟩
  enter_sweep {_ _ r} h hr _ :=
    writes_requestedSweep h hr (r.calm_phase .deleting (by decide)).toAkin rfl _
  withdraw {_ σ σ' t call} h hcall _ _ _ hm := by
    have hissued : Attested s g (σ.after (.issued e (.withdraw call)) σ.ledger t) :=
      h.1.keep (fun _ _ _ hd => by cases hd) t
    exact ⟨hm.2 hissued, h.2.withdraw hcall hm.1⟩
  withdrawn h _ _ ht := steady_requestedSweep.answered h rfl _ ht
  leave {_ σ r} h hr hfree _ := by
    intro t _
    have hname : r.name = key := h.1.named key r hr
    have hswept := h.2.write hr hname (r.calm_phase .deleted (by decide)).toAkin rfl t
    refine steady_leaving.owes _ ⟨h.1.write t, hswept, ?_⟩
    exact ⟨_, Ledger.get?_put_of_eq hname, rfl, Record.consumers_eq_nil hfree⟩
  left h hr hfree hphase := ⟨h.1, h.2, _, hr, hphase, Record.consumers_eq_nil hfree⟩
  removed h _ _ _ := steady_attested.owes _ (h.1.erase he h.2 _)
  stuck h _ _ := h.1.keep (fun _ _ _ hd => by cases hd) _

/-- **Passes attest their removals.** -/
theorem meets_attested (hpass : e.isPass) (h : Attested s g σ)
    {Q : Except Failure e.Result → Stage → Prop} (hend : ∀ x σ', Attested s g σ' → Q x σ') :
    Role.Meets ⟨renewal s g, g, e, false⟩ (e.program s) Q σ := by
  have hrun : ∀ key, Role.Triple ⟨renewal s g, g, e, false⟩ (Attested s g) (Pass.run s.setup key)
      (fun _ => Attested s g) (Attested s g) := fun key =>
    (renewalCourse s g hpass s.setup.period key).triple_run rfl
  have hprogram : Role.Triple ⟨renewal s g, g, e, false⟩ (Attested s g) (e.program s)
      (fun _ => Attested s g) (Attested s g) := by
    cases e with
    | pass key => exact hrun key
    | passAll =>
      exact triple_runAll hrun steady_attested.still (fun _ h' => h') fun _ t _ h' _ =>
        h'.keep (fun _ _ _ hd => by cases hd) t
    | consumerAdded | consumerRemoved | releaseAdded | releaseRemoved | requestDeletion =>
      cases hpass
  refine (hprogram σ h).mono fun x σ' hx => hend x σ' ?_
  cases x <;> exact hx

/-! ### Runs -/

/-- **Removals are attested**, under every regime in which no pass lands in another. -/
theorem renewal_holds (s : Service) (hg : ∀ q v, g.visitors q v → v.isPass = false) :
    (renewal s g).Holds g s where
  start t _ := .start t
  errand e σ t _ h _ := by
    have hbegan : Attested s g (σ.after (.began e) σ.ledger t) :=
      h.keep (fun _ _ _ hd => by cases hd) t
    refine ⟨hbegan, ?_⟩
    cases hpass : e.isPass with
    | false => exact meets_ruled hpass hbegan fun _ _ hx t' _ => (hx t').1
    | true =>
      exact meets_attested hpass hbegan fun _ _ h' t' _ => h'.keep (fun _ _ _ hd => by cases hd) t'
  visitor q e σ t hv h _ := by
    have hbegan : Attested s g (σ.after (.began e) σ.ledger t) :=
      h.keep (fun _ _ _ hd => by cases hd) t
    have hvisits : ∀ e', e' = e → ∃ q, g.visitors q e' := by
      rintro _ rfl
      exact ⟨q, hv⟩
    have harrived : Ruled s (fun v => ∃ q, g.visitors q v) (fun _ => none) σ
        (σ.after (.began e) σ.ledger t) :=
      (Ruled.refl σ).keep ⟨q, hv⟩ (fun _ _ hi => by cases hi) (fun _ => rfl) t
    refine ⟨hbegan, meets_ruled (hg q e hv) hbegan fun x σ' hx t' _ => ?_⟩
    exact ⟨(hx t').1, harrived.trans ((hx t').2.weaken hvisits), fun _ => (hx t').1⟩

theorem Reachable.attested (hg : ∀ q v, g.visitors q v → v.isPass = false) (h : Reachable s g c) :
    Attested s g c.stage := by
  cases h.keeps (renewal_holds s hg) with
  | idle hi => exact hi
  | atWork hd _ => exact hd
  | waiting _ hl _ => exact hl
  | visited _ hd _ _ => exact hd

/-- **What a removal finds.** A pass removes the record that it works on at the end of a sweep. When
the sweep began, the record was to be deleted and had no consumers. Since then nothing has happened
but withdrawals for it, and visits while one of these was under way. The record that goes has no
consumers, and is still to be deleted unless the last of the visitors with a say in it, that has
succeeded, has added a consumer. -/
theorem removal_after_sweep (s : Service) {c : Scene} (h : Reachable s .interleaved c)
    {e : Errand} {n : String} {v : Option UInt64} {l : Ledger} {t : Instant} {past : List Entry}
    (hpast : c.stage.past = ⟨.answered e (.removeRecord n v) (.ok true), l, t⟩ :: past) :
    e.isPass ∧ e.WorksOn s past n ∧ l.get? n = none ∧
    ∃ newer older r₀ r, past = newer ++ older ∧
      (ledgerAfter older).get? n = some r₀ ∧ r₀.consumers = [] ∧ r₀.isDeletionRequested ∧
      (∀ m ∈ newer, SweepDeed .interleaved e n m.deed) ∧
      (∀ a m b, newer = a ++ m :: b → m.deed.errand ≠ e →
        ∃ m' ∈ b, ∃ call, m'.deed = .issued e (.withdraw call)) ∧
      (ledgerAfter past).get? n = some r ∧ r.consumers = [] ∧ r.phase = some .deleted ∧
      r.isDeletionRequested = requestStands s n newer true := by
  have hg : ∀ q v, Regime.interleaved.visitors q v → v.isPass = false :=
    fun _ _ => Regime.isPass_of_interleaved
  have hlatest : c.stage = Stage.after ⟨c.stage.started, past⟩
      (.answered e (.removeRecord n v) (.ok true)) l t := Stage.ext rfl hpast
  obtain ⟨hpass, hgone, hleaving⟩ := (h.attested hg).latest _ e n v l t hlatest
  obtain ⟨newer, older, happend, hsweep, ⟨r₀, hr₀, hreq⟩, r, hr, hstands⟩ := hleaving.swept
  obtain ⟨r', hr', hphase, hfree⟩ := hleaving.record
  obtain rfl := Option.some.inj (hr.symm.trans hr')
  obtain ⟨r₁, hr₁, hfree₀⟩ := hsweep.free
  obtain rfl := Option.some.inj (hr₀.symm.trans hr₁)
  have hworks : e.WorksOn s past n := by
    refine ((h.books hg).2 _ _ l t hlatest).frame n ?_
    rw [hgone, hr]
    simp
  exact ⟨hpass, hworks, hgone, newer, older, r₀, r, happend, hr₀, hfree₀, hreq, hsweep.deeds,
    hsweep.order, hr, hfree, hphase, hstands⟩

/-- Whether a record is there and nobody has asked to delete it. -/
def Ledger.spares (l : Ledger) (name : String) : Bool :=
  (l.get? name).any fun r => !r.isDeletionRequested

/-- Whether the pass that has ended last has removed a record that it was not to delete, neither
when it wrote the phase `Deleted` into it nor when it removed it. -/
def Scene.removedRenewed (c : Scene) : Bool :=
  match c.stage.past with
  | _ :: _ :: ⟨.answered _ (.removeRecord n _) (.ok true), _, _⟩ ::
      ⟨.answered _ (.emit _) _, kept, _⟩ :: ⟨.answered _ (.replaceRecord r) (.ok _), _, _⟩ ::
      before =>
    r.name == n && r.phase == some .deleted && kept.spares n && (ledgerAfter before).spares n
  | _ => false

theorem Ledger.of_spares (h : l.spares name) :
    ∃ r, l.get? name = some r ∧ r.isDeletionRequested = false := by
  obtain ⟨r, hr, hreq⟩ := (Option.any_eq_true _ _).mp h
  exact ⟨r, hr, by simpa using hreq⟩

/-- A consumer comes while the image is taken out of the first of two locations, and goes while it
is taken out of the second one. -/
theorem exists_removedRenewed :
    ∃ c, Reachable (Performance.smallService .zero) .tracked c ∧ c.removedRenewed :=
  Performance.exists_reachable (fun _ _ _ => trivial) (t := .epoch) rfl
    [.begin (.consumerAdded "early" "flatcar" "capv"), .begin (.consumerRemoved "early" "flatcar"),
      .begin (.pass "flatcar"), .visit (.consumerAdded "late" "flatcar" "capv"), .resume,
      .visit (.consumerRemoved "late" "flatcar"), .resume]
    Scene.removedRenewed (by decide +kernel)

/-- The moment of such a removal, with the last write of the record. -/
theorem exists_removes_renewed :
    ∃ c e n v l t after e' r r' l' t' before, Reachable (Performance.smallService .zero) .tracked c ∧
      c.stage.past = ⟨.answered e (.removeRecord n v) (.ok true), l, t⟩ ::
        (after ++ ⟨.answered e' (.replaceRecord r) (.ok r'), l', t'⟩ :: before) ∧
      r.name = n ∧ r.phase = some .deleted ∧
      (∀ m ∈ after, ∀ e q x, m.deed ≠ .answered e (.replaceRecord q) x) ∧
      (ledgerAfter before).spares n ∧
      (ledgerAfter (after ++ ⟨.answered e' (.replaceRecord r) (.ok r'), l', t'⟩ :: before)).spares
        n := by
  obtain ⟨c, hc, hfound⟩ := exists_removedRenewed
  unfold Scene.removedRenewed at hfound
  split at hfound
  · rename_i ended told e n v l t e₁ event x kept t₁ e' r r' l' t' before hpast
    simp only [Bool.and_eq_true, beq_iff_eq] at hfound
    obtain ⟨⟨⟨hname, hphase⟩, hkept⟩, hbefore⟩ := hfound
    obtain ⟨c', hc', hpast'⟩ := hc.earlier [ended, told] hpast
    refine ⟨c', e, n, v, l, t, [_], e', r, r', l', t', before, hc', hpast', hname, hphase, ?_,
      hbefore, hkept⟩
    intro m hm e q x hm'
    rw [List.mem_singleton.mp hm] at hm'
    cases hm'
  · cases hfound

/-- A consumer has come and gone in the course of the sweep. -/
theorem removal_after_sweep_of_renewed :
    let s := Performance.smallService .zero
    ∃ (c : Scene) (e : Errand) (n : String) (v : Option UInt64) (l : Ledger) (t : Instant)
      (past newer : List Entry) (r : Record), Reachable s .interleaved c ∧
      c.stage.past = ⟨.answered e (.removeRecord n v) (.ok true), l, t⟩ :: past ∧
      (ledgerAfter past).get? n = some r ∧ r.consumers = [] ∧ r.isDeletionRequested = false ∧
      requestStands s n newer true = false := by
  intro s
  obtain ⟨c, e, n, v, l, t, _, _, _, _, _, _, _, htracked, hpast, _, _, _, _, hkept⟩ :=
    exists_removes_renewed
  have hc : Reachable s .interleaved c := htracked.mono Regime.tracked_within_interleaved
  obtain ⟨r, hr, hreq⟩ := Ledger.of_spares hkept
  obtain ⟨_, _, _, newer, _, _, r', _, _, _, _, _, _, hr', hfree, _, hstands⟩ :=
    removal_after_sweep s hc hpast
  obtain rfl := Option.some.inj (hr.symm.trans hr')
  exact ⟨c, e, n, v, l, t, _, newer, r, hc, hpast, hr, hfree, hreq, hstands.symm.trans hreq⟩

/-- So it is not true that a pass removes a record only if the copy that was stored before the final
write still carried a deletion request. -/
theorem not_removal_of_requested :
    ¬ ∀ (s : Service) (c : Scene), Reachable s .tracked c → ∀ e n v l t after e' r r' l' t' before q,
      c.stage.past = ⟨.answered e (.removeRecord n v) (.ok true), l, t⟩ ::
        (after ++ ⟨.answered e' (.replaceRecord r) (.ok r'), l', t'⟩ :: before) →
      r.name = n → r.phase = some .deleted →
      (∀ m ∈ after, ∀ e q x, m.deed ≠ .answered e (.replaceRecord q) x) →
      (ledgerAfter before).get? n = some q → q.isDeletionRequested := by
  intro h
  obtain ⟨c, e, n, v, l, t, after, e', r, r', l', t', before, hc, hpast, hname, hphase, hlast,
    hbefore, _⟩ := exists_removes_renewed
  obtain ⟨q, hq, hreq⟩ := Ledger.of_spares hbefore
  have hstill := h _ c hc e n v l t after e' r r' l' t' before q hpast hname hphase hlast hq
  rw [hreq] at hstill
  cases hstill

end ImageCatalog
