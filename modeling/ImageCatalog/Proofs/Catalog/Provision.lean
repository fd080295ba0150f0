import ImageCatalog.Proofs.Catalog.Shelves
import ImageCatalog.Proofs.Consumers.Clerks
import ImageCatalog.Proofs.Dictionary

/-!
# What it means that an image is available

A record enters the phase `available` as soon as its image is at one location, and leaves it only
when a pass writes another phase. A pass that goes on to the next location and finds something amiss
does write one. A pass that is interrupted before the next upload writes nothing, and leaves the
record as it is. So the image is at the first locations of its provider, and at all of them unless
the last pass was stopped in this way.

## Where the image is

What a provider holds is told from the run by `shelvesAfter`. A withdrawal for one record may take
away the image of another one if both are for the same image of the same provider, so runs are
looked at in which that is never so.

## Main definitions

* `Spread` — the image is at the first locations of its provider, as far as the last pass came
* `Delivered` — the images of available records are spread
* `provisioning` — the contract, with what visitors do

## Main results

* `Delivered.after`, `Delivered.answered`, `Delivered.write` — deeds that deliver what was delivered
  before
* `Role.Meets.of_prompt` — a program that does not wait makes no calls
* `tended_of_not_isPass` — what errands do that are no passes
-/

namespace ImageCatalog

variable {s : Service} {P : Provider.Registry} {σ σ' : Stage} {past newer : List Entry}
  {name key : String} {spec : Spec} {locations : List Location} {e : Errand} {r r' : Record}
  {d : Deed} {l : Ledger} {t : Instant}

/-! ### Records -/

/-- The record of a name says that the image of a spec is available. -/
def Ledger.Offers (l : Ledger) (name : String) (spec : Spec) : Prop :=
  ∃ r, l.get? name = some r ∧ r.spec = spec ∧ r.phase = some .available

/-- No two records are for one image of one provider. -/
def Ledger.Distinct (l : Ledger) : Prop :=
  (l.list.map Record.spec).Nodup

instance (l : Ledger) : Decidable l.Distinct :=
  inferInstanceAs (Decidable (List.Nodup _))

/-- There have never been two records for one image of one provider. -/
def Unmixed (past : List Entry) : Prop :=
  ∀ m ∈ past, m.ledger.Distinct

instance (past : List Entry) : Decidable (Unmixed past) :=
  inferInstanceAs (Decidable (∀ m ∈ past, m.ledger.Distinct))

theorem Unmixed.of_append (h : Unmixed (newer ++ past)) : Unmixed past :=
  fun m hm => h m (List.mem_append_right _ hm)

theorem Unmixed.before (h : Unmixed (σ.after d l t).past) : Unmixed σ.past :=
  fun m hm => h m (List.mem_cons_of_mem _ hm)

theorem Unmixed.distinct (h : Unmixed (σ.after d l t).past) : l.Distinct :=
  h _ List.mem_cons_self

theorem Ledger.Distinct.eq_of_spec {name' : String} (h : l.Distinct)
    (hr : l.get? name = some r) (hr' : l.get? name' = some r') (hspec : r.spec = r'.spec) :
    name = name' := by
  have hnodup : (l.records.entries.map fun e => e.2.spec).Nodup := by
    rw [Distinct, list, Dictionary.values, List.map_map] at h
    exact h
  exact congrArg Prod.fst (List.inj_on_of_nodup_map hnodup (Dictionary.mem_entries.mpr hr)
    (Dictionary.mem_entries.mpr hr') hspec)

/-! ### Where an image is -/

/-- The image of a spec is at some locations of its provider, if the provider has catalogs. -/
def Stocked (P : Provider.Registry) (past : List Entry) (spec : Spec) (locations : List Location) :
    Prop :=
  (P.shelves spec.provider).isSome → ∀ location ∈ locations,
    (shelvesAfter P past).holds spec.provider location.name spec.image

/-- The image for a record is found at a location, or is brought there. -/
def Deed.Finds (name : String) : Deed → Prop
  | answered _ (.lookUp call) (.finished (.ok present)) => present ∧ call.record = name
  | answered _ (.upload call _) (.finished (.ok _)) => call.record = name
  | _ => False

/-- A probe or a look-up is answered by an interruption. -/
def Request.Stops : (r : Request) → r.Answer → Prop
  | probe _, .error e => e.isCancelled
  | lookUp _, x => x.IsCut
  | _, _ => False

/-- A pass over a record was stopped by an interruption, and the image for the record has not been
found anywhere since. -/
def CutShort (s : Service) (name : String) (past : List Entry) : Prop :=
  ∃ newer e r x l t older, past = newer ++ ⟨.answered e r x, l, t⟩ :: older ∧ e.isPass ∧
    e.WorksOn s older name ∧ r.Stops x ∧ ∀ m ∈ newer, ¬ m.deed.Finds name

/-- The image of a spec is at the first locations of its provider, and at all of them unless the
last pass over its record was cut short. -/
def Spread (s : Service) (P : Provider.Registry) (name : String) (spec : Spec)
    (past : List Entry) : Prop :=
  ∃ done rest, s.setup.providers.get? spec.provider = some (done ++ rest) ∧ done ≠ [] ∧
    Stocked P past spec done ∧ (rest = [] ∨ CutShort s name past)

theorem Deed.Finds.exchange? (h : d.Finds name) : d.exchange? ≠ none := by
  intro hnone
  cases d with
  | began | issued | ended => exact h
  | answered e r x =>
    cases r with
    | lookUp | upload => cases hnone
    | _ => exact h

theorem Deed.Prompt.exchange? (h : d.Prompt) : d.exchange? = none := by
  cases d with
  | answered e r x => exact exchange?_answered_of_prompt h
  | began | issued | ended => rfl

theorem Stocked.nil (P : Provider.Registry) (past : List Entry) (spec : Spec) :
    Stocked P past spec [] :=
  fun _ _ hlocation => absurd hlocation List.not_mem_nil

theorem Stocked.append_singleton {location : Location} (h : Stocked P past spec locations)
    (hlocation : (P.shelves spec.provider).isSome →
      (shelvesAfter P past).holds spec.provider location.name spec.image) :
    Stocked P past spec (locations ++ [location]) := by
  intro hsome l hl
  rcases List.mem_append.mp hl with hl | hl
  · exact h hsome l hl
  · rw [List.mem_singleton.mp hl]
    exact hlocation hsome

theorem Stocked.append (h : Stocked P past spec locations) (hnewer : exchanges newer = []) :
    Stocked P (newer ++ past) spec locations := by
  rw [Stocked, shelvesAfter_append_of_exchanges hnewer]
  exact h

theorem Stocked.after (h : Stocked P σ.past spec locations) (hd : d.exchange? = none) (l : Ledger)
    (t : Instant) : Stocked P (σ.after d l t).past spec locations := by
  rw [Stocked, Stage.past_after, shelvesAfter, Deed.shelve_of_exchange? hd]
  exact h

/-- Answers other than those to a withdrawal of the image take it away from nowhere. -/
theorem Stocked.answered {q : Request} (h : Stocked P past spec locations)
    (hq : ∀ call, q = .withdraw call → spec ≠ ⟨call.image, call.provider⟩) (x : q.Answer) :
    Stocked P (⟨.answered e q x, l, t⟩ :: past) spec locations := by
  intro hsome location hlocation
  have hheld := h hsome location hlocation
  rw [shelvesAfter]
  cases q with
  | upload call url =>
    by_cases hx : x = .finished (.ok ())
    · rw [hx, Deed.shelve]
      by_cases hsame : spec.provider = call.provider ∧ location.name = call.location ∧
          spec.image = call.image
      · obtain ⟨hprovider, hname, himage⟩ := hsame
        rw [hprovider, hname, himage, Shelves.holds_set_self, isSome_shelvesAfter, ← hprovider,
          hsome, Bool.and_true]
      · rw [Shelves.holds_set_of_ne hsame]
        exact hheld
    · rw [Deed.shelve_upload_of_ne hx]
      exact hheld
  | withdraw call =>
    by_cases hx : x = .finished (.ok ())
    · have hother : ¬ (spec.provider = call.provider ∧ location.name = call.location ∧
          spec.image = call.image) := by
        rintro ⟨hprovider, -, himage⟩
        refine hq call rfl ?_
        rw [← hprovider, ← himage]
      rw [hx, Deed.shelve, Shelves.holds_set_of_ne hother]
      exact hheld
    · rw [Deed.shelve_withdraw_of_ne hx]
      exact hheld
  | _ => exact hheld

theorem CutShort.append (h : CutShort s name past) (hnewer : ∀ m ∈ newer, ¬ m.deed.Finds name) :
    CutShort s name (newer ++ past) := by
  obtain ⟨since, e, q, x, l, t, older, rfl, he, hworks, hx, hsince⟩ := h
  refine ⟨newer ++ since, e, q, x, l, t, older, (List.append_assoc ..).symm, he, hworks, hx, ?_⟩
  intro m hm
  rcases List.mem_append.mp hm with hm | hm
  · exact hnewer m hm
  · exact hsince m hm

theorem CutShort.after (h : CutShort s name σ.past) (hd : ¬ d.Finds name) (l : Ledger)
    (t : Instant) : CutShort s name (σ.after d l t).past := by
  rw [Stage.past_after, ← List.singleton_append]
  refine h.append fun m hm => ?_
  rw [List.mem_singleton.mp hm]
  exact hd

theorem Spread.append (h : Spread s P name spec past) (hnewer : exchanges newer = []) :
    Spread s P name spec (newer ++ past) := by
  obtain ⟨done, rest, hlocations, hdone, hstocked, hrest⟩ := h
  refine ⟨done, rest, hlocations, hdone, hstocked.append hnewer, ?_⟩
  exact hrest.imp_right fun hcut => hcut.append fun m hm hfinds =>
    hfinds.exchange? (exchange?_of_mem hnewer hm)

/-- A call for another record does not matter, unless it is a withdrawal of the image. -/
theorem Spread.answered {q : Request} {x : q.Answer} (h : Spread s P name spec σ.past)
    (hfinds : ¬ (Deed.answered e q x).Finds name)
    (hq : ∀ call, q = .withdraw call → spec ≠ ⟨call.image, call.provider⟩) :
    Spread s P name spec (σ.after (.answered e q x) l t).past := by
  obtain ⟨done, rest, hlocations, hdone, hstocked, hrest⟩ := h
  refine ⟨done, rest, hlocations, hdone, hstocked.answered hq x, ?_⟩
  exact hrest.imp_right fun hcut => hcut.after hfinds l t

/-! ### What is offered is spread -/

/-- What the record of a name offers is spread. -/
def Provided (s : Service) (P : Provider.Registry) (name : String) (σ : Stage) : Prop :=
  ∀ spec, σ.ledger.Offers name spec → Spread s P name spec σ.past

/-- Records are under their names, and what those that are meant by `W` offer is spread, unless two
records were for the same image. -/
structure Delivered (s : Service) (P : Provider.Registry) (W : String → Prop) (σ : Stage) :
    Prop where
  named : ∀ n r, σ.record? n = some r → r.name = n
  provided : Unmixed σ.past → ∀ n, W n → Provided s P n σ

/-- What holds while nothing is at work. -/
abbrev AllDelivered (s : Service) (P : Provider.Registry) (σ : Stage) : Prop :=
  Delivered s P (fun _ => True) σ

variable {W W' : String → Prop}

theorem Provided.extend (h : Provided s P name σ) (hpast : σ'.past = newer ++ σ.past)
    (hnewer : exchanges newer = [])
    (hoffers : ∀ spec, σ'.ledger.Offers name spec → σ.ledger.Offers name spec) :
    Provided s P name σ' := by
  intro spec hspec
  rw [hpast]
  exact (h spec (hoffers spec hspec)).append hnewer

theorem Provided.keep (h : Provided s P name σ) (hd : d.exchange? = none) (t : Instant) :
    Provided s P name (σ.after d σ.ledger t) := by
  have hpast : (σ.after d σ.ledger t).past = [⟨d, σ.ledger, t⟩] ++ σ.past := rfl
  exact h.extend hpast (exchanges_cons_of_none hd []) fun _ hoffers => hoffers

namespace Delivered

/-- Deeds that bring no call to its end, and offer nothing that was not offered before. -/
theorem extend (h : Delivered s P W σ) (hpast : σ'.past = newer ++ σ.past)
    (hnewer : exchanges newer = []) (hnamed : ∀ n r, σ'.record? n = some r → r.name = n)
    (hoffers : ∀ n spec, W n → σ'.ledger.Offers n spec → σ.ledger.Offers n spec) :
    Delivered s P W σ' where
  named := hnamed
  provided hunmixed n hn := by
    rw [hpast] at hunmixed
    exact (h.provided hunmixed.of_append n hn).extend hpast hnewer fun spec => hoffers n spec hn

theorem after (h : Delivered s P W σ) (hd : d.exchange? = none)
    (hnamed : ∀ n r, l.get? n = some r → r.name = n)
    (hoffers : ∀ n spec, W n → l.Offers n spec → σ.ledger.Offers n spec) (t : Instant) :
    Delivered s P W (σ.after d l t) := by
  have hpast : (σ.after d l t).past = [⟨d, l, t⟩] ++ σ.past := rfl
  exact h.extend hpast (exchanges_cons_of_none hd []) hnamed hoffers

theorem keep (h : Delivered s P W σ) (hd : d.exchange? = none) (t : Instant) :
    Delivered s P W (σ.after d σ.ledger t) :=
  h.after hd h.named (fun _ _ _ hoffers => hoffers) t

/-- A call comes to its end, and is for none of the records. -/
theorem answered {q : Request} {x : q.Answer} (h : Delivered s P W σ)
    (hfinds : ∀ n, W n → ¬ (Deed.answered e q x).Finds n)
    (hq : σ.ledger.Distinct → ∀ call, q = .withdraw call → ∀ n, W n →
      ¬ σ.ledger.Offers n ⟨call.image, call.provider⟩) (t : Instant) :
    Delivered s P W (σ.after (.answered e q x) σ.ledger t) where
  named := h.named
  provided hunmixed n hn spec hspec := by
    refine (h.provided hunmixed.before n hn spec hspec).answered (hfinds n hn) ?_
    rintro call hcall rfl
    exact hq hunmixed.distinct call hcall n hn hspec

/-- A record is written with its name and its spec. -/
theorem write (h : Delivered s P W σ) (hr : σ.record? key = some r)
    (hr' : r'.name = r.name ∧ r'.spec = r.spec ∧
      (W key → r'.phase = some .available → r.phase = some .available)) (e : Errand)
    (t : Instant) : Delivered s P W (σ.write e r' t) := by
  obtain ⟨hname, hspec', hphase⟩ := hr'
  have hkey : r'.bumped.name = key := hname.trans (h.named key r hr)
  refine h.after rfl ?_ ?_ t
  · intro n q hq
    rcases Ledger.of_get?_put hkey hq with ⟨rfl, rfl⟩ | ⟨-, hq⟩
    · exact hkey
    · exact h.named n q hq
  · rintro n spec hn ⟨q, hq, hspec, hoffered⟩
    rcases Ledger.of_get?_put hkey hq with ⟨rfl, rfl⟩ | ⟨-, hq⟩
    · exact ⟨r, hr, hspec'.symm.trans hspec, hphase hn hoffered⟩
    · exact ⟨q, hq, hspec, hoffered⟩

theorem erase (h : Delivered s P W σ) (e : Errand) (v : Option UInt64) (t : Instant) :
    Delivered s P W (σ.after (.answered e (.removeRecord key v) (.ok true))
      ⟨σ.ledger.records.erase key⟩ t) := by
  refine h.after rfl ?_ ?_ t
  · intro n q hq
    exact h.named n q (Ledger.of_get?_erase hq).2
  · rintro n spec - ⟨q, hq, hspec, hoffered⟩
    exact ⟨q, (Ledger.of_get?_erase hq).2, hspec, hoffered⟩

theorem mono (h : Delivered s P W σ) (hW : ∀ n, W' n → W n) : Delivered s P W' σ where
  named := h.named
  provided hunmixed n hn := h.provided hunmixed n (hW n hn)

/-- One record more. -/
theorem all (h : Delivered s P (· ≠ key) σ) (hkey : Unmixed σ.past → Provided s P key σ) :
    AllDelivered s P σ where
  named := h.named
  provided hunmixed n _ := by
    by_cases hn : n = key
    · rw [hn]
      exact hkey hunmixed
    · exact h.provided hunmixed n hn

end Delivered

/-! ### The contract -/

/-- What visitors make of a stage: they make no calls, leave every record with its spec, and offer
nothing. -/
structure Tended (σ σ' : Stage) : Prop where
  past : ∃ newer, σ'.past = newer ++ σ.past ∧ exchanges newer = [] ∧
    ∀ m ∈ newer, m.deed.errand.isPass = false
  named : (∀ n r, σ.record? n = some r → r.name = n) → ∀ n r, σ'.record? n = some r → r.name = n
  kept : ∀ n r, σ.record? n = some r → ∃ r', σ'.record? n = some r' ∧ r'.spec = r.spec
  offers : ∀ n spec, σ'.ledger.Offers n spec → σ.ledger.Offers n spec

theorem Tended.refl (σ : Stage) : Tended σ σ where
  past := ⟨[], rfl, rfl, fun _ hm => absurd hm List.not_mem_nil⟩
  named h := h
  kept _ r hr := ⟨r, hr, rfl⟩
  offers _ _ h := h

theorem Tended.trans {σ'' : Stage} (h : Tended σ σ') (h' : Tended σ' σ'') : Tended σ σ'' where
  past := by
    obtain ⟨newer, hpast, hnewer, hpass⟩ := h.past
    obtain ⟨newer', hpast', hnewer', hpass'⟩ := h'.past
    refine ⟨newer' ++ newer, ?_, ?_, ?_⟩
    · rw [hpast', hpast, List.append_assoc]
    · rw [exchanges_append, hnewer, hnewer', List.append_nil]
    · intro m hm
      rcases List.mem_append.mp hm with hm | hm
      · exact hpass' m hm
      · exact hpass m hm
  named hnamed := h'.named (h.named hnamed)
  kept n r hr := by
    obtain ⟨q, hq, hspec⟩ := h.kept n r hr
    obtain ⟨q', hq', hspec'⟩ := h'.kept n q hq
    exact ⟨q', hq', hspec'.trans hspec⟩
  offers n spec hspec := h.offers n spec (h'.offers n spec hspec)

/-- The contract under which images are delivered. -/
def provisioning (s : Service) (P : Provider.Registry) : Contract where
  idle := AllDelivered s P
  during _ _ := True
  lull σ := ∀ n r, σ.record? n = some r → r.name = n
  may := Tended
  may_refl := .refl
  may_trans h h' := h.trans h'

/-- The runs with truthful look-ups and a store that is never out of order. -/
def Regime.dependable (P : Provider.Registry) : Regime :=
  { Regime.truthful P with answers := fun past r x => Truthful P past r x ∧ ¬ r.Refused x }

theorem Regime.reliable_dependable (P : Provider.Registry) : (Regime.dependable P).Reliable :=
  fun _ _ _ h => h.2

theorem Delivered.tended (h : Delivered s P W σ) (ht : Tended σ σ') : Delivered s P W σ' := by
  obtain ⟨newer, hpast, hnewer, -⟩ := ht.past
  exact h.extend hpast hnewer (ht.named h.named) fun n spec _ => ht.offers n spec

/-! ### Errands that are no passes -/

/-- **A program that does not wait makes no calls**, and all that is done is done by its errand. -/
theorem Role.Meets.of_prompt {α : Type} {R : Role} {p : Program α}
    {Q : Except Failure α → Stage → Prop} (hp : p.Prompt) (h : R.Meets p Q σ) :
    R.Meets p (fun x σ' => Q x σ' ∧ ∃ newer, σ'.past = newer ++ σ.past ∧ exchanges newer = [] ∧
      ∀ m ∈ newer, m.deed.errand = R.errand) σ := by
  induction p generalizing σ with
  | done a => exact ⟨h, [], rfl, rfl, fun _ hm => absurd hm List.not_mem_nil⟩
  | fail x => exact ⟨h, [], rfl, rfl, fun _ hm => absurd hm List.not_mem_nil⟩
  | ask q k ih =>
    obtain ⟨hq, hk⟩ := hp
    simp only [Meets, hq, Bool.false_eq_true, if_false] at h ⊢
    intro t x l ht ha hg
    obtain ⟨hduring, hnext⟩ := h t x l ht ha hg
    refine ⟨hduring, (ih x (hk x) hnext).mono ?_⟩
    rintro y σ' ⟨hy, newer, hpast, hnewer, hdeeds⟩
    refine ⟨hy, newer ++ [⟨.answered R.errand q x, l, t⟩], ?_, ?_, ?_⟩
    · rw [hpast, Stage.past_after, List.append_assoc, List.singleton_append]
    · rw [exchanges_append, exchanges_cons_of_none (Deed.exchange?_answered_of_prompt hq), hnewer]
      rfl
    · intro m hm
      rcases List.mem_append.mp hm with hm | hm
      · exact hdeeds m hm
      · rw [List.mem_singleton.mp hm]
        rfl

/-- What has become of the records of a stage: all are there with their specs, and none is available
that was not before. -/
structure Minded (σ₀ σ : Stage) : Prop where
  named : ∀ n r, σ.record? n = some r → r.name = n
  kept : ∀ n r, σ₀.record? n = some r → ∃ r', σ.record? n = some r' ∧ r'.spec = r.spec
  offers : ∀ n spec, σ.ledger.Offers n spec → σ₀.ledger.Offers n spec

namespace Minded

variable {σ₀ : Stage}

/-- A record is stored in place of one of the same spec, if there is one. -/
theorem put (h : Minded σ₀ σ) (hname : r'.name = key)
    (hspec : ∀ r, σ.record? key = some r → r'.spec = r.spec)
    (hphase : r'.phase = some .available →
      ∃ r, σ.record? key = some r ∧ r.spec = r'.spec ∧ r.phase = some .available)
    (d : Deed) (t : Instant) : Minded σ₀ (σ.after d (σ.ledger.put r') t) where
  named n q hq := by
    rcases Ledger.of_get?_put hname hq with ⟨rfl, rfl⟩ | ⟨-, hq⟩
    · exact hname
    · exact h.named n q hq
  kept n q hq := by
    obtain ⟨q', hq', hspec'⟩ := h.kept n q hq
    by_cases hn : n = key
    · subst hn
      exact ⟨r', Ledger.get?_put_of_eq hname, (hspec q' hq').trans hspec'⟩
    · refine ⟨q', ?_, hspec'⟩
      rw [← hname] at hn
      exact (Ledger.get?_put_of_ne hn).trans hq'
  offers n spec := by
    rintro ⟨q, hq, hspec', hoffered⟩
    refine h.offers n spec ?_
    rcases Ledger.of_get?_put hname hq with ⟨rfl, rfl⟩ | ⟨-, hq⟩
    · obtain ⟨r, hr, hr', hphase'⟩ := hphase hoffered
      exact ⟨r, hr, hr'.trans hspec', hphase'⟩
    · exact ⟨q, hq, hspec', hoffered⟩

theorem write (h : Minded σ₀ σ) (hr : σ.record? key = some r)
    (hr' : r'.name = r.name ∧ r'.spec = r.spec ∧
      (r'.phase = some .available → r.phase = some .available)) (e : Errand) (t : Instant) :
    Minded σ₀ (σ.write e r' t) := by
  obtain ⟨hname, hspec, hphase⟩ := hr'
  have hname : r'.bumped.name = key := hname.trans (h.named key r hr)
  refine h.put hname ?_ ?_ _ t
  · intro q hq
    obtain rfl := Option.some.inj (hr.symm.trans hq)
    exact hspec
  · exact fun hoffered => ⟨r, hr, hspec.symm, hphase hoffered⟩

end Minded

/-- A consumer makes no image available. -/
theorem Record.phase_revive_eq_available (h : r.revive.phase = some .available) :
    r.phase = some .available := by
  simp only [revive] at h
  split at h
  · cases h
  · exact h

section

variable {g : Regime} {visitor : Bool} {σ₀ : Stage}

theorem steady_minded : Role.Steady ⟨provisioning s P, g, e, visitor⟩ (Minded σ₀) where
  during _ _ := trivial
  quiet _ _ _ h _ _ _ := ⟨h.named, h.kept, h.offers⟩

/-- Errands about consumers make no image available. -/
theorem account_minded :
    Account ⟨provisioning s P, g, e, visitor⟩ s (Minded σ₀) (Minded σ₀) where
  steady := steady_minded
  steady' := steady_minded
  named h hr := h.named _ _ hr
  create {σ n spec c t t'} _ _ h hr _ := by
    have hname : (Record.new n spec t).atFirst.name = n := rfl
    refine h.put hname ?_ (fun hoffered => by cases hoffered) _ t'
    intro r hr'
    rw [hr] at hr'
    cases hr'
  added {σ n r c t} _ h hr _ := by
    refine h.write hr ⟨?_, ?_, fun hoffered => ?_⟩ e t
    · rw [r.addConsumer_eq c]
      rfl
    · rw [r.addConsumer_eq c]
      rfl
    · have hphase := Record.phase_revive_eq_available hoffered
      rw [r.addConsumer_eq c] at hphase
      exact hphase
  present _ h _ _ := h
  dropped _ h hr _ _ := h.write hr (by exact ⟨rfl, rfl, id⟩) _ _
  missing _ h _ := h

theorem minded_of_not_isPass (hpass : e.isPass = false) :
    Role.Triple ⟨provisioning s P, g, e, visitor⟩ (Minded σ₀) (e.program s) (fun _ => Minded σ₀)
      (Minded σ₀) :=
  account_minded.dealings.triple_of_not_isPass hpass fun _ _ _ _ _ h hr _ =>
    h.write hr (by exact ⟨rfl, rfl, id⟩) _ _

/-- **Errands that are no passes make no calls and offer nothing.** -/
theorem tended_of_not_isPass (hpass : e.isPass = false)
    (h : ∀ n r, σ.record? n = some r → r.name = n) (t : Instant) :
    Role.Meets ⟨provisioning s P, g, e, visitor⟩ (e.program s)
      (fun x σ' => ∀ t', Tended σ (σ'.after (.ended e x) σ'.ledger t'))
      (σ.after (.began e) σ.ledger t) := by
  have hbegan : Minded σ (σ.after (.began e) σ.ledger t) :=
    ⟨h, fun _ r hr => ⟨r, hr, rfl⟩, fun _ _ hoffers => hoffers⟩
  refine (((minded_of_not_isPass hpass) _ hbegan).of_prompt
    (Errand.prompt_program s hpass)).mono ?_
  rintro x σ' ⟨hx, newer, hpast, hnewer, hdeeds⟩ t'
  have hminded : Minded σ σ' := by
    cases x <;> exact hx
  refine ⟨⟨⟨.ended e x, σ'.ledger, t'⟩ :: newer ++ [⟨.began e, σ.ledger, t⟩], ?_, ?_, ?_⟩,
    fun _ => hminded.named, hminded.kept, hminded.offers⟩
  · rw [Stage.past_after, hpast, Stage.past_after, List.cons_append, List.cons_append,
      List.append_assoc, List.singleton_append]
  · rw [exchanges_append, exchanges_cons_of_none rfl newer, hnewer]
    rfl
  · intro m hm
    rcases List.mem_append.mp hm with hm | hm
    · rcases List.mem_cons.mp hm with rfl | hm
      · exact hpass
      · rw [hdeeds m hm]
        exact hpass
    · rw [List.mem_singleton.mp hm]
      exact hpass

end

end ImageCatalog
