import ImageCatalog.Proofs.Catalog.Provision

/-!
# Available images are delivered

The cases of a pass for the contract `provisioning`. While a pass works on its record, what all
others offer stays as it is; what its own record offers is put in order again by the end of the
pass, whichever way it ends.

## The placement

The placement goes from location to location, and `Filling` says how far it has come. The record is
available from the first location on, so what is offered need not be at the locations that are still
to come. An interruption at a probe or a look-up ends the pass just then. Everything else that ends
it has written another phase before, or has come to the last location.

## Main results

* `provision` — the parts of a pass apart from the placement
* `Filling.triple_placements` — the placement
* `provisioning_holds` — all errands keep the contract
* `spread_of_available` — what it means that an image is available
* `not_everywhere_of_available` — it does not mean that the image is everywhere
-/

namespace ImageCatalog

variable {s : Service} {P : Provider.Registry} {e : Errand} {key : String} {spec : Spec}
  {σ σ' : Stage} {r r' : Record} {d : Deed} {t : Instant} {done rest : List Location}

/-! ### What holds in a pass -/

/-- A pass, be it one of a round, over the record `key`. -/
abbrev passing (s : Service) (P : Provider.Registry) (e : Errand) : Role :=
  ⟨provisioning s P, .dependable P, e, false⟩

/-- What holds between the parts of a pass over the record `key`. -/
def InOrder (s : Service) (P : Provider.Registry) (e : Errand) (key : String) (σ : Stage) : Prop :=
  AllDelivered s P σ ∧ OnTurn e key σ

/-- What holds while a pass works on the record `key`: the image is that of a spec, and what the
other records offer is spread. -/
structure Handling (s : Service) (P : Provider.Registry) (e : Errand) (key : String) (spec : Spec)
    (σ : Stage) : Prop where
  others : Delivered s P (· ≠ key) σ
  turn : OnTurn e key σ
  record : ∃ r, σ.record? key = some r ∧ r.spec = spec

/-- The record is not available. -/
def Withheld (s : Service) (P : Provider.Registry) (e : Errand) (key : String) (spec : Spec)
    (σ : Stage) : Prop :=
  Handling s P e key spec σ ∧ ∀ spec', ¬ σ.ledger.Offers key spec'

/-- The image is at the locations in `done`. Before the first of them, the record offers nothing
that is not spread. -/
def Filling (s : Service) (P : Provider.Registry) (e : Errand) (key : String) (spec : Spec)
    (done : List Location) (σ : Stage) : Prop :=
  Handling s P e key spec σ ∧ Stocked P σ.past spec done ∧
    (done = [] → Unmixed σ.past → Provided s P key σ)

/-- The image is at the locations in `done`, and on its way to the next one. -/
def Uploading (s : Service) (P : Provider.Registry) (e : Errand) (key : String) (spec : Spec)
    (done : List Location) (σ : Stage) : Prop :=
  Withheld s P e key spec σ ∧ Stocked P σ.past spec done

/-! #### Deeds that are no calls -/

theorem OnTurn.tended (h : OnTurn e key σ) (ht : Tended σ σ') : OnTurn e key σ' := by
  intro he
  obtain ⟨newer, hpast, -, hpass⟩ := ht.past
  have hne : ∀ m ∈ newer, m.deed.errand ≠ .passAll := by
    intro m hm hm'
    have hp := hpass m hm
    rw [hm'] at hp
    cases hp
  rw [hpast, turn?_append hne]
  exact h he

theorem InOrder.keep (h : InOrder s P e key σ) (hd : d.exchange? = none)
    (hturn : OnTurn e key (σ.after d σ.ledger t)) : InOrder s P e key (σ.after d σ.ledger t) :=
  ⟨h.1.keep hd t, hturn⟩

theorem Handling.keep (h : Handling s P e key spec σ) (hd : d.exchange? = none)
    (hturn : OnTurn e key (σ.after d σ.ledger t)) :
    Handling s P e key spec (σ.after d σ.ledger t) :=
  ⟨h.others.keep hd t, hturn, h.record⟩

theorem Withheld.keep (h : Withheld s P e key spec σ) (hd : d.exchange? = none)
    (hturn : OnTurn e key (σ.after d σ.ledger t)) :
    Withheld s P e key spec (σ.after d σ.ledger t) :=
  ⟨h.1.keep hd hturn, h.2⟩

theorem Filling.keep (h : Filling s P e key spec done σ) (hd : d.exchange? = none)
    (hturn : OnTurn e key (σ.after d σ.ledger t)) :
    Filling s P e key spec done (σ.after d σ.ledger t) := by
  obtain ⟨hhandling, hstocked, hfirst⟩ := h
  refine ⟨hhandling.keep hd hturn, hstocked.after hd _ t, fun hdone hunmixed => ?_⟩
  exact (hfirst hdone hunmixed.before).keep hd t

theorem Uploading.keep (h : Uploading s P e key spec done σ) (hd : d.exchange? = none)
    (hturn : OnTurn e key (σ.after d σ.ledger t)) :
    Uploading s P e key spec done (σ.after d σ.ledger t) :=
  ⟨h.1.keep hd hturn, h.2.after hd _ t⟩

/-- What is kept by deeds that are no calls is even. -/
theorem even_of_keep {A : Stage → Prop} (hturn : ∀ σ, A σ → OnTurn e key σ)
    (hkeep : ∀ σ d t, A σ → d.exchange? = none → OnTurn e key (σ.after d σ.ledger t) →
      A (σ.after d σ.ledger t)) : (passing s P e).Even A where
  during _ _ := trivial
  quiet σ d t hσ he hd hp _ := hkeep σ d t hσ hp.exchange? ((hturn σ hσ).quiet he hd σ.ledger t)

theorem even_inOrder : (passing s P e).Even (InOrder s P e key) :=
  even_of_keep (fun _ h => h.2) fun _ _ _ h => h.keep

theorem even_withheld : (passing s P e).Even (Withheld s P e key spec) :=
  even_of_keep (fun _ h => h.1.turn) fun _ _ _ h => h.keep

theorem even_filling : (passing s P e).Even (Filling s P e key spec done) :=
  even_of_keep (fun _ h => h.1.turn) fun _ _ _ h => h.keep

theorem even_uploading : (passing s P e).Even (Uploading s P e key spec done) :=
  even_of_keep (fun _ h => h.1.1.turn) fun _ _ _ h => h.keep

/-! #### Visitors -/

theorem Handling.tended (h : Handling s P e key spec σ) (ht : Tended σ σ') :
    Handling s P e key spec σ' := by
  obtain ⟨r, hr, rfl⟩ := h.record
  obtain ⟨r', hr', hspec⟩ := ht.kept key r hr
  exact ⟨h.others.tended ht, h.turn.tended ht, r', hr', hspec⟩

theorem Withheld.tended (h : Withheld s P e key spec σ) (ht : Tended σ σ') :
    Withheld s P e key spec σ' :=
  ⟨h.1.tended ht, fun spec' hoffers => h.2 spec' (ht.offers key spec' hoffers)⟩

theorem Filling.tended (h : Filling s P e key spec done σ) (ht : Tended σ σ') :
    Filling s P e key spec done σ' := by
  obtain ⟨newer, hpast, hnewer, -⟩ := ht.past
  obtain ⟨hhandling, hstocked, hfirst⟩ := h
  refine ⟨hhandling.tended ht, ?_, fun hdone hunmixed => ?_⟩
  · rw [hpast]
    exact hstocked.append hnewer
  · rw [hpast] at hunmixed
    exact (hfirst hdone hunmixed.of_append).extend hpast hnewer (ht.offers key)

theorem Uploading.tended (h : Uploading s P e key spec done σ) (ht : Tended σ σ') :
    Uploading s P e key spec done σ' := by
  obtain ⟨newer, hpast, hnewer, -⟩ := ht.past
  refine ⟨h.1.tended ht, ?_⟩
  rw [hpast]
  exact h.2.append hnewer

/-! #### Calls -/

/-- A call is about the image of the record. -/
theorem Handling.answered {q : Request} {x : q.Answer} (h : Handling s P e key spec σ)
    (hq : q.waits) (hfinds : ∀ n, (Deed.answered e q x).Finds n → n = key)
    (hspec : ∀ call, q = .withdraw call → (⟨call.image, call.provider⟩ : Spec) = spec)
    (t : Instant) : Handling s P e key spec (σ.after (.answered e q x) σ.ledger t) := by
  obtain ⟨r, hr, rfl⟩ := h.record
  have hturn : OnTurn e key (σ.after (.answered e q x) σ.ledger t) := by
    refine h.turn.answered x σ.ledger t ?_
    rintro rfl
    cases hq
  refine ⟨h.others.answered (fun n hn hf => hn (hfinds n hf)) ?_ t, hturn, r, hr, rfl⟩
  -- The image that is taken away is that of no other record.
  rintro hdistinct call hcall n hn ⟨r', hr', hspec', -⟩
  exact hn (hdistinct.eq_of_spec hr' hr (hspec'.trans (hspec call hcall)))

/-- An image of a record that is not available may be put anywhere, and taken away. -/
theorem Withheld.answered {q : Request} {x : q.Answer} (h : Withheld s P e key spec σ)
    (hq : q.waits) (hfinds : ∀ n, (Deed.answered e q x).Finds n → n = key)
    (hspec : ∀ call, q = .withdraw call → (⟨call.image, call.provider⟩ : Spec) = spec)
    (t : Instant) : Withheld s P e key spec (σ.after (.answered e q x) σ.ledger t) :=
  ⟨h.1.answered hq hfinds hspec t, h.2⟩

/-- A call that neither finds the image nor takes it away. -/
theorem Filling.answered {q : Request} {x : q.Answer} (h : Filling s P e key spec done σ)
    (hq : q.waits) (hfinds : ∀ n, ¬ (Deed.answered e q x).Finds n)
    (hwithdraw : ∀ call, q ≠ .withdraw call) (t : Instant) :
    Filling s P e key spec done (σ.after (.answered e q x) σ.ledger t) := by
  obtain ⟨hhandling, hstocked, hfirst⟩ := h
  refine ⟨hhandling.answered hq (fun n hf => absurd hf (hfinds n))
    (fun call hcall => absurd hcall (hwithdraw call)) t,
    hstocked.answered (fun call hcall => absurd hcall (hwithdraw call)) x,
    fun hdone hunmixed spec hspec => ?_⟩
  exact (hfirst hdone hunmixed.before spec hspec).answered (hfinds key)
    fun call hcall => absurd hcall (hwithdraw call)

/-- The image is at one location more. -/
theorem Filling.of_stocked {location : Location} (h : Handling s P e key spec σ)
    (hstocked : Stocked P σ.past spec (done ++ [location])) :
    Filling s P e key spec (done ++ [location]) σ :=
  ⟨h, hstocked, fun hnil =>
    absurd hnil (List.append_ne_nil_of_right_ne_nil _ (List.cons_ne_nil _ _))⟩

/-! #### How a placement ends -/

theorem Withheld.inOrder (h : Withheld s P e key spec σ) : InOrder s P e key σ :=
  ⟨h.1.others.all fun _ spec' hspec' => absurd hspec' (h.2 spec'), h.1.turn⟩

/-- A placement that stops with the image where it has been brought is in order if it has come to
its end, or was cut short. -/
theorem Filling.inOrder (h : Filling s P e key spec done σ)
    (hlocations : s.setup.providers.get? spec.provider = some (done ++ rest))
    (hrest : rest = [] ∨ CutShort s key σ.past) : InOrder s P e key σ := by
  obtain ⟨hhandling, hstocked, hfirst⟩ := h
  refine ⟨hhandling.others.all fun hunmixed => ?_, hhandling.turn⟩
  by_cases hdone : done = []
  · exact hfirst hdone hunmixed
  · obtain ⟨r, hr, rfl⟩ := hhandling.record
    rintro spec' ⟨r', hr', rfl, -⟩
    obtain rfl := Option.some.inj (hr.symm.trans hr')
    exact ⟨done, rest, hlocations, hdone, hstocked, hrest⟩

theorem CutShort.of_stops {q : Request} {x : q.Answer} (he : e.PassesOver key)
    (hturn : OnTurn e key σ) (hx : q.Stops x) (l : Ledger) (t : Instant) :
    CutShort s key (σ.after (.answered e q x) l t).past :=
  ⟨[], e, q, x, l, t, σ.past, rfl, he.isPass, he.worksOn hturn, hx,
    fun _ hm => absurd hm List.not_mem_nil⟩

/-! #### Writes -/

theorem InOrder.write (h : InOrder s P e key σ) (hr : σ.record? key = some r)
    (hr' : r'.name = r.name ∧ r'.spec = r.spec ∧
      (r'.phase = some .available → r.phase = some .available)) (t : Instant) :
    InOrder s P e key (σ.write e r' t) := by
  obtain ⟨hname, hspec, hphase⟩ := hr'
  exact ⟨h.1.write hr ⟨hname, hspec, fun _ => hphase⟩ e t, h.2.answered _ _ t (by simp)⟩

theorem InOrder.writes (h : InOrder s P e key σ) (hr : σ.record? key = some r)
    (hr' : r'.name = r.name ∧ r'.spec = r.spec ∧
      (r'.phase = some .available → r.phase = some .available)) (events : List Event) :
    (passing s P e).Writes (InOrder s P e key) r' events σ :=
  fun t _ => even_inOrder.owes events (h.write hr hr' t)

theorem Handling.write (h : Handling s P e key spec σ) (hr : σ.record? key = some r)
    (hr' : r'.name = r.name ∧ r'.spec = r.spec) (t : Instant) :
    Handling s P e key spec (σ.write e r' t) := by
  obtain ⟨r₀, hr₀, rfl⟩ := h.record
  obtain rfl := Option.some.inj (hr₀.symm.trans hr)
  have hname : r'.bumped.name = key := hr'.1.trans (h.others.named key r₀ hr₀)
  exact ⟨h.others.write hr ⟨hr'.1, hr'.2, fun hne => absurd rfl hne⟩ e t,
    h.turn.answered _ _ t (by simp), r'.bumped, Ledger.get?_put_of_eq hname, hr'.2⟩

theorem Handling.withhold (h : Handling s P e key spec σ) (hr : σ.record? key = some r)
    (hr' : r'.name = r.name ∧ r'.spec = r.spec) (hphase : r'.phase ≠ some .available)
    (t : Instant) : Withheld s P e key spec (σ.write e r' t) := by
  have hname : r'.bumped.name = key := hr'.1.trans (h.others.named key r hr)
  refine ⟨h.write hr hr' t, ?_⟩
  rintro spec' ⟨q, hq, -, hoffered⟩
  rcases Ledger.of_get?_put hname hq with ⟨-, rfl⟩ | ⟨hne, -⟩
  · exact hphase hoffered
  · exact hne rfl

theorem Handling.withholds (h : Handling s P e key spec σ) (hr : σ.record? key = some r)
    (hr' : r'.name = r.name ∧ r'.spec = r.spec) (hphase : r'.phase ≠ some .available)
    (events : List Event) :
    (passing s P e).Writes (Withheld s P e key spec) r' events σ :=
  fun t _ => even_withheld.owes events (h.withhold hr hr' hphase t)

theorem InOrder.handling (h : InOrder s P e key σ) (hr : σ.record? key = some r) :
    Handling s P e key r.spec σ :=
  ⟨h.1.mono fun _ _ => trivial, h.2, r, hr, rfl⟩

/-! ### Passes -/

/-- The parts of a pass apart from the placement. -/
def provision (s : Service) (P : Provider.Registry) (he : e.PassesOver key) :
    Retirement (passing s P e) s.setup.period key
      (fun σ => AllDelivered s P σ ∧ (e = .passAll → turn? σ.past = none)) (AllDelivered s P) where
  base := InOrder s P e key
  opened := InOrder s P e key
  looked _ := InOrder s P e key
  placing := InOrder s P e key
  sweep := Withheld s P e key
  leaving := Withheld s P e key
  alone := rfl
  still_base := even_inOrder.still
  still_opened := even_inOrder.still
  still_looked _ := even_inOrder.still
  still_placing := even_inOrder.still
  still_sweep _ := even_withheld.still
  still_leaving _ := even_withheld.still
  base_of_opened h := h
  base_of_looked h := h
  base_of_placing h := h
  placing_of_sweep h := h.inOrder
  home_of_base h := h.1
  lull_of_placing h := h.1.named
  named h hr := h.1.named _ _ hr
  read {σ t} x h _ := by
    refine ⟨h.1.keep rfl t, ?_⟩
    rintro rfl
    simp [turn?, h.2 rfl]
  drop h hr := h.writes hr (by exact ⟨rfl, rfl, id⟩) []
  now {σ t} h ht := even_inOrder.quiet σ (.answered e .now t) t h rfl (.inl rfl) rfl ht
  place h _ _ := h
  endWait h hr _ _ := h.writes hr (by exact ⟨rfl, rfl, Record.phase_revive_eq_available⟩) []
  mark h hr _ := h.writes hr (by exact ⟨rfl, rfl, id⟩) []
  stamp h hr _ := h.writes hr (by exact ⟨rfl, rfl, by simp [Record.stampLastUsed]⟩) _
  start h hr _ _ _ := (h.handling hr).withholds hr (by exact ⟨rfl, rfl⟩) (by simp) _
  started {σ r} h hr _ _ hkept := by
    refine ⟨h.handling hr, ?_⟩
    rintro spec' ⟨q, hq, -, hoffered⟩
    obtain rfl := Option.some.inj (hr.symm.trans hq)
    simp [hoffered] at hkept
  enter_sweep h hr _ := h.1.withholds hr (by exact ⟨rfl, rfl⟩) (by simp) _
  withdraw h _ _ _ _ hm := (h.keep rfl (h.1.turn.issued _ _ _)).tended hm
  withdrawn {spec σ t call x} h hprovider himage _ := by
    refine h.answered rfl (fun _ => False.elim) ?_ t
    rintro _ ⟨⟩
    rw [hprovider, himage]
  error h hr _ := h.writes hr (by exact ⟨rfl, rfl, by simp⟩) _
  leave h hr _ _ := h.1.withholds hr (by exact ⟨rfl, rfl⟩) (by simp) _
  left h _ _ _ := h
  removed {spec σ r t} h _ _ _ := by
    refine even_inOrder.owes _ ⟨h.inOrder.1.erase e (some r.version) t, ?_⟩
    exact h.1.turn.answered _ _ t (by simp)
  stuck {spec σ reason t v} h _ ht :=
    (even_withheld.quiet σ (.answered e (.removeRecord key v) (.error reason)) t h rfl
      (.inr trivial) rfl ht).inOrder

/-! ### The placement -/

namespace Filling

variable {α : Type} {url : String} {location : Location} {Q : α → Stage → Prop}

/-- A phase is entered while the pass works on its record. -/
theorem triple_enter_handling {A B E : Stage → Prop} (phase : Phase) (hA : (passing s P e).Even A)
    (hB : (passing s P e).Even B) (hhandling : ∀ σ, A σ → Handling s P e key spec σ)
    (hkept : ∀ σ r, A σ → σ.record? key = some r → r.phase = some phase → B σ)
    (hwritten : ∀ σ r t, A σ → σ.record? key = some r →
      B (σ.write e { r with phase := some phase } t)) :
    (passing s P e).Triple A (Record.enter key phase) (fun _ => B) E := by
  refine Role.triple_enter phase hA.still hB.still
    (fun σ r hσ hr => (hhandling σ hσ).others.named key r hr) ?_ hkept
    fun σ r hσ hr _ t _ => hB.owes _ (hwritten σ r t hσ hr)
  rintro σ hσ (habsent | hunreliable)
  · obtain ⟨r, hr, -⟩ := (hhandling σ hσ).record
    rw [hr] at habsent
    cases habsent
  · exact absurd (Regime.reliable_dependable P) hunreliable

/-- A phase other than `available` withholds the image. -/
theorem triple_withhold {A E : Stage → Prop} (phase : Phase) (hphase : phase ≠ .available)
    (hA : (passing s P e).Even A) (hhandling : ∀ σ, A σ → Handling s P e key spec σ) :
    (passing s P e).Triple A (Record.enter key phase) (fun _ => Withheld s P e key spec) E := by
  refine triple_enter_handling phase hA even_withheld hhandling ?_ ?_
  · intro σ r hσ hr hentered
    refine ⟨hhandling σ hσ, ?_⟩
    rintro spec' ⟨q, hq, -, hoffered⟩
    obtain rfl := Option.some.inj (hr.symm.trans hq)
    exact hphase (Option.some.inj (hentered.symm.trans hoffered))
  · intro σ r t hσ hr
    exact (hhandling σ hσ).withhold hr (by exact ⟨rfl, rfl⟩) (by simpa using hphase) t

theorem triple_enter_uploading {E : Stage → Prop} :
    (passing s P e).Triple (Filling s P e key spec done) (Record.enter key .uploading)
      (fun _ => Uploading s P e key spec done) E := by
  refine triple_enter_handling .uploading even_filling even_uploading (fun _ h => h.1) ?_ ?_
  · intro σ r h hr hentered
    refine ⟨⟨h.1, ?_⟩, h.2.1⟩
    rintro spec' ⟨q, hq, -, hoffered⟩
    obtain rfl := Option.some.inj (hr.symm.trans hq)
    rw [hentered] at hoffered
    cases hoffered
  · intro σ r t h hr
    exact ⟨h.1.withhold hr (by exact ⟨rfl, rfl⟩) (by simp) t, h.2.1.after rfl _ t⟩

theorem triple_enter_available {E : Stage → Prop} :
    (passing s P e).Triple (Filling s P e key spec (done ++ [location]))
      (Record.enter key .available)
      (fun _ => Filling s P e key spec (done ++ [location])) E := by
  refine triple_enter_handling .available even_filling even_filling (fun _ h => h.1)
    (fun _ _ h _ _ => h) ?_
  intro σ r t h hr
  exact .of_stocked (h.1.write hr (by exact ⟨rfl, rfl⟩) t) (h.2.1.after rfl _ t)

/-- A placement is given up. It is in order if the image is withheld, and also if the work was
interrupted. -/
theorem triple_giveUp {reason : Failure} {A : Stage → Prop} (hA : (passing s P e).Even A)
    (hhandling : ∀ σ, A σ → Handling s P e key spec σ)
    (hcut : ∀ σ, A σ → reason.isCancelled → InOrder s P e key σ) :
    (passing s P e).Triple A (Pass.Job.giveUp ⟨key, spec.provider, spec.image⟩ reason) Q
      (InOrder s P e key) :=
  Role.triple_giveUp hcut ((triple_withhold .error (by decide) hA hhandling).weaken (fun _ h => h)
    (fun _ _ h => h.inOrder) fun _ h => h)

/-- What holds after a look-up. -/
def Sought (s : Service) (P : Provider.Registry) (e : Errand) (key : String) (spec : Spec)
    (done : List Location) (location : Location) : Except Failure Bool → Stage → Prop
  | .ok true => Filling s P e key spec (done ++ [location])
  | .ok false => Filling s P e key spec done
  | .error reason => fun σ => Filling s P e key spec done σ ∧
    (reason.isCancelled → CutShort s key σ.past)

/-- While a probe or a look-up waits, visitors may land. -/
theorem triple_wait_filling {q : Request} {T : q.Answer → Stage → Prop} {E : Stage → Prop}
    (hq : q.waits) (hanswer : ∀ σ t x, Filling s P e key spec done σ → Truthful P σ.past q x →
      T x (σ.after (.answered e q x) σ.ledger t)) :
    (passing s P e).Triple (Filling s P e key spec done) (Program.request q) T E :=
  Role.triple_wait hq rfl (fun _ _ h _ => h.keep rfl (h.1.turn.issued _ _ _))
    (fun _ h => h.1.others.named) (fun _ _ h hm => h.tended hm) (fun _ _ _ => trivial)
    fun σ t x h _ hg => hanswer σ t x h hg.1

theorem triple_lookUp (he : e.PassesOver key) {E : Stage → Prop} :
    (passing s P e).Triple (Filling s P e key spec done)
      (Pass.Job.lookUp ⟨key, spec.provider, spec.image⟩ location.name)
      (Sought s P e key spec done location) E := by
  let call : CatalogCall := ⟨key, spec.provider, location.name, spec.image, Pass.callLimit⟩
  refine Role.Triple.bind (Q := fun x => Sought s P e key spec done location
    (Program.settle _ Pass.callLimit x)) (triple_wait_filling (q := .lookUp call) rfl ?_)
    fun _ => Role.Triple.done fun _ h => h
  intro σ t x h htruthful
  have hmissed : (∀ n, ¬ (Deed.answered e (.lookUp call) x).Finds n) →
      Filling s P e key spec done (σ.after (.answered e (.lookUp call) x) σ.ledger t) :=
    fun hfinds => h.answered rfl hfinds (by simp) t
  have hstopped : Request.Stops (.lookUp call) x →
      CutShort s key (σ.after (.answered e (.lookUp call) x) σ.ledger t).past :=
    fun hx => .of_stops he h.1.turn hx _ t
  rcases x with (reason | present) | _ | _
  · exact ⟨hmissed fun _ => id, hstopped⟩
  · cases present with
    | false => exact hmissed fun _ hfinds => by cases hfinds.1
    | true =>
      have hfinds : ∀ n, (Deed.answered e (.lookUp call) (.finished (.ok true))).Finds n →
          n = key := fun _ hfinds => hfinds.2.symm
      have hhandling : Handling s P e key spec
          (σ.after (.answered e (.lookUp call) (.finished (.ok true))) σ.ledger t) :=
        h.1.answered rfl hfinds (by simp) t
      refine .of_stocked hhandling ((h.2.1.answered (by simp) _).append_singleton ?_)
      intro hsome
      rw [← isSome_shelvesAfter P σ.past] at hsome
      obtain ⟨held, hheld⟩ := Option.isSome_iff_exists.mp hsome
      have htrue : (shelvesAfter P σ.past).holds spec.provider location.name spec.image := by
        rw [Shelves.holds, hheld]
        exact (htruthful held hheld).symm
      exact htrue
  · exact ⟨hmissed fun _ => id, fun hreason => by cases hreason⟩
  · exact ⟨hmissed fun _ => id, fun _ => hstopped trivial⟩

/-- What holds after an upload. -/
def Sent (s : Service) (P : Provider.Registry) (e : Errand) (key : String) (spec : Spec)
    (done : List Location) (location : Location) : Except Failure Unit → Stage → Prop
  | .ok _ => Filling s P e key spec (done ++ [location])
  | .error _ => Uploading s P e key spec done

theorem triple_upload {E : Stage → Prop} :
    (passing s P e).Triple (Uploading s P e key spec done)
      (Pass.Job.upload ⟨key, spec.provider, spec.image⟩ location.name url)
      (Sent s P e key spec done location) E := by
  let call : CatalogCall := ⟨key, spec.provider, location.name, spec.image, Pass.uploadLimit⟩
  refine Role.Triple.bind (Q := fun x => Sent s P e key spec done location
    (Program.settle _ Pass.uploadLimit x)) (Role.triple_wait (r := .upload call url) rfl rfl
      (fun _ _ h _ => h.keep rfl (h.1.1.turn.issued _ _ _)) (fun _ h => h.1.1.others.named)
      (fun _ _ h hm => h.tended hm) (fun _ _ _ => trivial) ?_)
    fun _ => Role.Triple.done fun _ h => h
  intro σ t x h _ _
  have hfinds : ∀ n, (Deed.answered e (.upload call url) x).Finds n → n = key := by
    intro n hfinds
    rcases x with (_ | _) | _ | _ <;> first | exact hfinds.elim | exact hfinds.symm
  have hwithheld : Withheld s P e key spec
      (σ.after (.answered e (.upload call url) x) σ.ledger t) :=
    h.1.answered rfl hfinds (by simp) t
  have hstocked : Stocked P (σ.after (.answered e (.upload call url) x) σ.ledger t).past spec
      done :=
    h.2.answered (by simp) x
  rcases x with (_ | _) | _ | _
  · exact ⟨hwithheld, hstocked⟩
  · refine .of_stocked hwithheld.1 (hstocked.append_singleton ?_)
    intro hsome
    have hset : ((shelvesAfter P σ.past).set call true).holds call.provider call.location
        call.image = true := by
      rw [Shelves.holds_set_self, Bool.and_true, isSome_shelvesAfter]
      exact hsome
    exact hset
  · exact ⟨hwithheld, hstocked⟩
  · exact ⟨hwithheld, hstocked⟩

theorem triple_isReachable (he : e.PassesOver key)
    (hlocations : s.setup.providers.get? spec.provider = some (done ++ rest)) :
    (passing s P e).Triple (Filling s P e key spec done) (Pass.Job.isReachable url)
      (fun _ => Filling s P e key spec done) (InOrder s P e key) := by
  refine Role.triple_isReachable (T := fun x σ => Filling s P e key spec done σ ∧
    ∀ reason, x = .error reason → reason.isCancelled → CutShort s key σ.past)
    (triple_wait_filling (q := .probe url) rfl ?_) ?_ fun _ _ h => h.1
  · intro σ t x h _
    refine ⟨h.answered rfl (fun _ => id) (by simp) t, ?_⟩
    rintro reason rfl hreason
    exact CutShort.of_stops (q := .probe url) (x := .error reason) he h.1.turn hreason _ t
  · exact fun reason σ h hreason => h.1.inOrder hlocations (.inr (h.2 reason rfl hreason))

theorem triple_fill :
    (passing s P e).Triple (Filling s P e key spec done)
      (Pass.Job.fill ⟨key, spec.provider, spec.image⟩ url location.name)
      (fun _ => Filling s P e key spec (done ++ [location])) (InOrder s P e key) := by
  refine triple_enter_uploading.bind fun _ => ?_
  refine (even_uploading.still.emit _ rfl).bind fun _ => triple_upload.bind fun x => ?_
  cases x with
  | error reason =>
    exact triple_giveUp even_uploading (fun _ h => h.1.1) fun _ h _ => h.1.inOrder
  | ok _ => exact triple_enter_available.bind fun _ => even_filling.still.emit _ rfl

theorem triple_placeAt (he : e.PassesOver key)
    (hlocations : s.setup.providers.get? spec.provider = some (done ++ rest)) :
    (passing s P e).Triple (Filling s P e key spec done)
      (Pass.Job.placeAt ⟨key, spec.provider, spec.image⟩ url location.name)
      (fun _ => Filling s P e key spec (done ++ [location])) (InOrder s P e key) := by
  refine (triple_lookUp he).bind fun x => ?_
  rcases x with reason | present
  · have heven : (passing s P e).Even (Sought s P e key spec done location (.error reason)) := by
      refine even_of_keep (fun _ h => h.1.1.turn) ?_
      intro σ d t h hd hturn
      exact ⟨h.1.keep hd hturn, fun hreason =>
        (h.2 hreason).after (fun hfinds => hfinds.exchange? hd) _ t⟩
    exact triple_giveUp heven (fun _ h => h.1.1) fun _ h hreason =>
      h.1.inOrder hlocations (.inr (h.2 hreason))
  · cases present with
    | true => exact triple_enter_available.bind fun _ => even_filling.still.emit _ rfl
    | false => exact triple_fill

/-- **The placement**, location by location. -/
theorem triple_placements (he : e.PassesOver key)
    (hlocations : s.setup.providers.get? spec.provider = some (done ++ rest)) :
    (passing s P e).Triple (Filling s P e key spec done)
      (Pass.Job.place ⟨key, spec.provider, spec.image⟩ url rest)
      (fun _ => InOrder s P e key) (InOrder s P e key) := by
  induction rest generalizing done with
  | nil => exact Role.Triple.done fun _ h => h.inOrder hlocations (.inl rfl)
  | cons location rest ih =>
    refine (triple_isReachable he hlocations).bind fun reachable => ?_
    cases reachable with
    | true =>
      have hnext : s.setup.providers.get? spec.provider = some (done ++ [location] ++ rest) := by
        rw [hlocations, List.append_assoc, List.singleton_append]
      exact (triple_placeAt he hlocations).bind fun _ => ih hnext
    | false =>
      refine (triple_withhold .missing (by decide) even_filling fun _ h => h.1).bind fun _ => ?_
      exact (even_withheld.still.emit _ rfl).bind fun _ => Role.Triple.done fun _ h => h.inOrder

theorem triple_place (he : e.PassesOver key) (r : Record) :
    (passing s P e).Triple (fun σ => InOrder s P e key σ ∧ σ.record? key = some r)
      (Pass.place s.setup key r) (fun _ => InOrder s P e key) (InOrder s P e key) := by
  have hstart : ∀ σ, InOrder s P e key σ ∧ σ.record? key = some r →
      Filling s P e key r.spec [] σ := fun σ h =>
    ⟨h.1.handling h.2, .nil P σ.past r.spec, fun _ hunmixed => h.1.1.provided hunmixed key trivial⟩
  refine Role.Triple.weaken (O := Filling s P e key r.spec []) ?_ hstart (fun _ _ h => h)
    fun _ h => h
  simp only [Pass.place]
  split
  · refine (even_filling.still.log _).bind fun _ => ?_
    refine (triple_withhold .error (by decide) even_filling fun _ h => h.1).bind fun _ => ?_
    exact Role.Triple.fail fun _ h => h.inOrder
  · split
    · refine (triple_withhold .error (by decide) even_filling fun _ h => h.1).bind fun _ => ?_
      exact (even_withheld.still.emit _ rfl).bind fun _ => Role.Triple.done fun _ h => h.inOrder
    · rename_i locations hlocations
      refine (triple_placements he hlocations).bind fun placed => ?_
      cases placed <;> exact Role.Triple.done fun _ h => h

end Filling

/-! ### Runs -/

/-- **Passes deliver.** -/
theorem triple_of_isPass (he : e.isPass) :
    (passing s P e).Triple (AllDelivered s P) (e.program s) (fun _ => AllDelivered s P)
      (AllDelivered s P) := by
  cases e with
  | pass key =>
    have hover : (Errand.pass key).PassesOver key := .inl rfl
    refine ((provision s P hover).triple_run_of_place rfl (Filling.triple_place hover)).weaken ?_
      (fun _ _ h => h) fun _ h => h
    intro σ h
    exact ⟨h, fun hround => by cases hround⟩
  | passAll =>
    have hover : ∀ key, Errand.passAll.PassesOver key := fun _ => .inr rfl
    have heven : (passing s P .passAll).Even (AllDelivered s P) :=
      ⟨fun _ _ => trivial, fun σ d t h _ _ hp _ => h.keep hp.exchange? t⟩
    refine triple_runAll (fun key => (provision s P (hover key)).triple_run_of_place rfl
      (Filling.triple_place (hover key))) heven.still (fun _ h => h.1) ?_
    intro σ t x h _
    exact ⟨h.keep rfl t, fun _ => rfl⟩
  | consumerAdded | consumerRemoved | releaseAdded | releaseRemoved | requestDeletion => cases he

/-- **All errands keep the contract.** -/
theorem provisioning_holds (s : Service) (P : Provider.Registry) :
    (provisioning s P).Holds (.dependable P) s where
  start t _ := by
    refine ⟨fun n r hr => ?_, fun _ n _ spec hoffers => ?_⟩
    · cases hr
    · obtain ⟨r, hr, -⟩ := hoffers
      cases hr
  errand e σ t _ h _ := by
    refine ⟨trivial, ?_⟩
    cases hpass : e.isPass with
    | false =>
      refine (tended_of_not_isPass hpass h.named t).mono ?_
      intro x σ' hx t' _
      exact h.tended (hx t')
    | true =>
      refine (triple_of_isPass hpass _ (h.keep rfl t)).mono ?_
      intro x σ' hx t' _
      have hx' : AllDelivered s P σ' := by
        cases x <;> exact hx
      exact hx'.keep rfl t'
  visitor q e σ t hv hnamed _ := by
    have hpass : e.isPass = false := by simpa [Regime.dependable, Regime.truthful] using hv
    refine ⟨trivial, (tended_of_not_isPass hpass hnamed t).mono ?_⟩
    intro x σ' hx t' _
    exact ⟨(hx t').named hnamed, hx t'⟩

/-- **What it means that an image is available.** Whenever nothing is at work, its provider is
registered, the image is at its first locations and at least at one of them; and it is at all of
them unless a pass over the record was interrupted and the image has not been found since. -/
theorem spread_of_available (s : Service) (P : Provider.Registry) {σ : Stage}
    (h : Reachable s (.dependable P) ⟨σ, []⟩) (hunmixed : Unmixed σ.past) {key : String}
    {r : Record} (hr : σ.record? key = some r) (hphase : r.phase = some .available) :
    Spread s P key r.spec σ.past := by
  cases h.keeps (provisioning_holds s P) with
  | idle hi => exact hi.provided hunmixed key trivial r.spec ⟨r, hr, rfl, hphase⟩

/-! ### A run that is cut short -/

/-- A store in memory is never out of order. -/
theorem World.not_refused_answer {w : World} {l : Ledger} (hw : w.store = .ledger l) (r : Request) :
    ¬ r.Refused (w.answer r).1 := by
  cases r with
  | createRecord r =>
    have hanswer : (w.answer (.createRecord r)).1 = (l.create r).1 := by
      simp only [answer, onStore, hw, Store.create]
      rfl
    rw [hanswer]
    cases hr : l.get? r.name with
    | none => simp [Ledger.create_of_absent hr, Request.Refused]
    | some stored => simp [Ledger.create_of_present hr, Request.Refused, Failure.isOutage,
        Failure.kind]
  | replaceRecord r =>
    have hanswer : (w.answer (.replaceRecord r)).1 = (l.replace r).1 := by
      simp only [answer, onStore, hw, Store.replace]
      rfl
    rw [hanswer]
    cases hr : l.get? r.name with
    | none => simp [Ledger.replace_of_absent hr, Request.Refused, Failure.isOutage, Failure.kind]
    | some stored =>
      by_cases hv : stored.version = r.version
      · simp [Ledger.replace_of_version hr hv.symm, Request.Refused]
      · simp [Ledger.replace_of_stale hr hv, Request.Refused, Failure.isOutage, Failure.kind]
  | removeRecord name version =>
    have hanswer : (w.answer (.removeRecord name version)).1 = (l.remove name version).1 := by
      simp only [answer, onStore, hw, Store.remove]
      rfl
    rw [hanswer]
    cases hr : l.get? name with
    | none => simp [Ledger.remove_of_absent hr, Request.Refused]
    | some stored =>
      cases version with
      | none => simp [Ledger.remove_of_unchecked hr, Request.Refused]
      | some v =>
        by_cases hv : stored.version = v
        · rw [← hv, Ledger.remove_of_version hr]
          exact id
        · simp [Ledger.remove_of_stale hr hv, Request.Refused, Failure.isOutage, Failure.kind]
  | readRecord | listRecords =>
    simp [answer, onStore, hw, Store.read, Store.list, Request.Refused]
  | now | emit | log | probe | lookUp | upload | withdraw | isInterrupted => exact id

theorem Performance.conforms_dependable (P : Provider.Registry) :
    Conforms (.dependable P) fun past w =>
      w.shelves = shelvesAfter P past ∧ w.store = .ledger w.ledger where
  admits r h := ⟨World.truthful_answer h.1 r, World.not_refused_answer h.2 r⟩
  answered e r l t h :=
    ⟨(conforms_truthful P).answered e r l t h.1, (World.answers_of_ledger h.2 r).1⟩
  began _ _ _ h := h
  issued _ _ _ _ h := h
  ended _ _ _ _ h := h
  clock _ h := h
  interrupt h := h

/-- Whether the image of an available record is missing from a location of its provider. -/
def Stage.lacks (s : Service) (P : Provider.Registry) (key : String) (σ : Stage) : Bool :=
  (σ.record? key).any fun r => r.phase == some .available &&
    (s.setup.providers.get? r.spec.provider).any fun locations =>
      (P.shelves r.spec.provider).isSome && locations.any fun location =>
        !(shelvesAfter P σ.past).holds r.spec.provider location.name r.spec.image

theorem Stage.of_lacks {σ : Stage} (h : σ.lacks s P key) :
    ∃ r locations location, σ.record? key = some r ∧ r.phase = some .available ∧
      s.setup.providers.get? r.spec.provider = some locations ∧
      (P.shelves r.spec.provider).isSome ∧ location ∈ locations ∧
      (shelvesAfter P σ.past).holds r.spec.provider location.name r.spec.image = false := by
  obtain ⟨r, hr, hany⟩ := (Option.any_eq_true _ _).mp h
  obtain ⟨hphase, hany⟩ := (Bool.and_eq_true _ _).mp hany
  obtain ⟨locations, hlocations, hany⟩ := (Option.any_eq_true _ _).mp hany
  obtain ⟨hcatalogs, hany⟩ := (Bool.and_eq_true _ _).mp hany
  obtain ⟨location, hlocation, hmissing⟩ := List.any_eq_true.mp hany
  exact ⟨r, locations, location, hr, beq_iff_eq.mp hphase, hlocations, hcatalogs, hlocation,
    by simpa using hmissing⟩

/-- The work is interrupted once the image is at the first location. The probe for the second one is
not started, and the record stays as it is. -/
theorem exists_lacks :
    let s := Performance.smallService .zero
    let P := (Performance.opening .epoch).world.providers
    ∃ σ, Reachable s (.dependable P) ⟨σ, []⟩ ∧ Unmixed σ.past ∧ σ.lacks s P "flatcar" := by
  intro s P
  obtain ⟨⟨σ, tasks⟩, hc, hfound⟩ := Performance.exists_reachable_of_bound (s := s)
    (Performance.conforms_dependable P) (t := .epoch) rfl ⟨rfl, rfl⟩
    [.begin (.consumerAdded "early" "flatcar" "capv"), .begin (.pass "flatcar"), .resume, .resume,
      .resume, .interrupt, .resume]
    (fun c => c.tasks.isEmpty && decide (Unmixed c.stage.past) && c.stage.lacks s P "flatcar")
    (by decide +kernel)
  simp only [Bool.and_eq_true, List.isEmpty_iff, decide_eq_true_eq] at hfound
  obtain ⟨⟨rfl, hunmixed⟩, hlacks⟩ := hfound
  exact ⟨σ, hc, hunmixed, hlacks⟩

/-- The available image is at one location of two, since the pass was cut short. -/
theorem spread_of_available_cut :
    let s := Performance.smallService .zero
    let P := (Performance.opening .epoch).world.providers
    ∃ (σ : Stage) (r : Record), Reachable s (.dependable P) ⟨σ, []⟩ ∧ Unmixed σ.past ∧
      σ.record? "flatcar" = some r ∧ r.phase = some .available ∧
      Spread s P "flatcar" r.spec σ.past ∧ CutShort s "flatcar" σ.past := by
  intro s P
  obtain ⟨σ, hσ, hunmixed, hlacks⟩ := exists_lacks
  obtain ⟨r, locations, location, hr, hphase, hlocations, hcatalogs, hlocation, hmissing⟩ :=
    Stage.of_lacks hlacks
  have hspread := spread_of_available s P hσ hunmixed hr hphase
  refine ⟨σ, r, hσ, hunmixed, hr, hphase, hspread, ?_⟩
  obtain ⟨done, rest, hdone, -, hstocked, hrest⟩ := hspread
  refine hrest.resolve_left ?_
  rintro rfl
  rw [List.append_nil, hlocations, Option.some.injEq] at hdone
  have hheld := hstocked hcatalogs location (hdone ▸ hlocation)
  rw [hmissing] at hheld
  cases hheld

/-- **So an available image need not be everywhere.** -/
theorem not_everywhere_of_available :
    ¬ ∀ (s : Service) (P : Provider.Registry) (σ : Stage), Reachable s (.dependable P) ⟨σ, []⟩ →
      Unmixed σ.past → ∀ key r, σ.record? key = some r → r.phase = some .available →
      ∀ locations, s.setup.providers.get? r.spec.provider = some locations →
      (P.shelves r.spec.provider).isSome → ∀ location ∈ locations,
      (shelvesAfter P σ.past).holds r.spec.provider location.name r.spec.image = true := by
  intro h
  obtain ⟨σ, hσ, hunmixed, hlacks⟩ := exists_lacks
  obtain ⟨r, locations, location, hr, hphase, hlocations, hcatalogs, hlocation, hmissing⟩ :=
    Stage.of_lacks hlacks
  have heverywhere := h _ _ σ hσ hunmixed _ r hr hphase locations hlocations hcatalogs location
    hlocation
  rw [hmissing] at heverywhere
  cases heverywhere

end ImageCatalog
