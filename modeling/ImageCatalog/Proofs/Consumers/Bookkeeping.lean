import ImageCatalog.Proofs.Consumers.Books
import ImageCatalog.Proofs.Pass.Walk

/-!
# The books are kept

The contract under which all errands keep the books. Next to the books it speaks of the deed that
was done last: which record may have changed, which one may have gone, and what came before a
withdrawal. Visitors in a waiting pass keep the books too, remove nothing and leave every record
with its spec, so that a pass goes on with books in order.

## The beginning of a sweep

A pass looks at the consumers of its record before it takes the image out of the first catalog, and
not again until it is through with the last one. So what is known at a withdrawal is about the
moment at which the sweep began: the record had no consumers, and since then nothing has happened
but withdrawals for it, and visits while one of these was under way.

## Main definitions

* `Sweeping` — what has happened since a sweep began
* `Fair` — what a deed may do
* `bookkeeping` — the contract

## Main results

* `Sweeping.cons`, `Sweeping.visits` — a sweep goes on, by itself or with visitors
* `Fair.still`, `Fair.put`, `Fair.change` — which deeds are fair
-/

namespace ImageCatalog

/-! ### Sweeps -/

/-- What is done while an errand sweeps the catalogs for a record. -/
inductive SweepDeed (g : Regime) (e : Errand) (name : String) : Deed → Prop where
  | issued {call : CatalogCall} : call.record = name →
    SweepDeed g e name (.issued e (.withdraw call))
  | answered {r : Request} {x : r.Answer} : (Deed.answered e r x).created? name = none →
    SweepDeed g e name (.answered e r x)
  | visited {d : Deed} {r : Request} : g.visitors r d.errand → (∀ e' r', d ≠ .issued e' r') →
    SweepDeed g e name d

/-- The errand sweeps the catalogs for a record, which had no consumers after the deeds in `older`;
the deeds in `newer` have been done since then. -/
structure Sweeping (g : Regime) (e : Errand) (name : String) (newer older : List Entry) : Prop where
  free : ∃ r, (ledgerAfter older).get? name = some r ∧ r.consumers = []
  deeds : ∀ m ∈ newer, SweepDeed g e name m.deed
  /-- Nobody else is at work before the first withdrawal is under way. -/
  order : ∀ a m b, newer = a ++ m :: b → m.deed.errand ≠ e →
    ∃ m' ∈ b, ∃ call, m'.deed = .issued e (.withdraw call)

/-- A sweep is going on for a record of a spec. -/
def SweepAt (s : Service) (g : Regime) (e : Errand) (name : String) (spec : Spec) (σ : Stage) :
    Prop :=
  ∃ newer older, σ.past = newer ++ older ∧ Sweeping g e name newer older ∧
    tally s name older = [] ∧ ∃ r, σ.record? name = some r ∧ r.spec = spec

variable {s : Service} {g : Regime} {e : Errand} {name key : String} {spec : Spec} {σ σ' : Stage}
  {d : Deed} {l : Ledger} {t : Instant} {r r' : Record} {newer older : List Entry}

theorem Sweeping.cons (h : Sweeping g e name newer older) {m : Entry}
    (hm : SweepDeed g e name m.deed)
    (horder : m.deed.errand = e ∨ ∃ m' ∈ newer, ∃ call, m'.deed = .issued e (.withdraw call)) :
    Sweeping g e name (m :: newer) older where
  free := h.free
  deeds m' hm' := by
    rcases List.mem_cons.mp hm' with rfl | hm'
    · exact hm
    · exact h.deeds m' hm'
  order a m' b hab hne := by
    cases a with
    | nil =>
      obtain ⟨rfl, rfl⟩ := List.cons.inj hab
      exact horder.resolve_left hne
    | cons _ a => exact h.order a m' b (List.cons.inj hab).2 hne

/-- Visitors land once a withdrawal is under way. -/
theorem Sweeping.visits (h : Sweeping g e name newer older)
    (hissued : ∃ m ∈ newer, ∃ call, m.deed = .issued e (.withdraw call)) {v : List Entry}
    (hv : ∀ m ∈ v, (∃ r, g.visitors r m.deed.errand) ∧ ∀ e' r, m.deed ≠ .issued e' r) :
    Sweeping g e name (v ++ newer) older := by
  induction v with
  | nil => exact h
  | cons m v ih =>
    have hrest := ih fun m' hm' => hv m' (List.mem_cons_of_mem _ hm')
    obtain ⟨⟨r, hr⟩, hne⟩ := hv m List.mem_cons_self
    obtain ⟨m', hm', hcall⟩ := hissued
    exact hrest.cons (.visited hr hne) (.inr ⟨m', List.mem_append_right _ hm', hcall⟩)

/-- What is known when a withdrawal is started. -/
structure Withdrawing (s : Service) (g : Regime) (e : Errand) (call : CatalogCall) (σ : Stage)
    (l : Ledger) : Prop where
  ledger_eq : l = σ.ledger
  isPass : e.isPass
  worksOn : e.WorksOn s σ.past call.record
  books : Books s none σ
  sweep : SweepAt s g e call.record ⟨call.image, call.provider⟩ σ

/-! ### Fair deeds -/

/-- What a deed may do that leaves the records in `l`. -/
structure Fair (s : Service) (g : Regime) (σ : Stage) (d : Deed) (l : Ledger) : Prop where
  /-- A record changes only by an errand that works on it. -/
  frame : ∀ n, l.get? n ≠ σ.record? n → d.errand.WorksOn s σ.past n
  /-- Only a pass removes a record, and only if its consumers are all gone. -/
  removal : ∀ n r, σ.record? n = some r → l.get? n = none →
    d.errand.isPass ∧ tally s n σ.past = []
  /-- A pass changes nothing in a record but what passes keep there. -/
  pass : ∀ n r r', d.errand.isPass → σ.record? n = some r → l.get? n = some r' → r.Akin r'
  sweep : ∀ e call, d = .issued e (.withdraw call) → Withdrawing s g e call σ l

/-- The deed that was done last was fair. -/
def Latest (s : Service) (g : Regime) (σ : Stage) : Prop :=
  ∀ σ₀ d l t, σ = σ₀.after d l t → Fair s g σ₀ d l

theorem Latest.start (t : Instant) : Latest s g (.start t) :=
  Stage.Lately.start t

theorem Fair.latest (h : Fair s g σ d l) (t : Instant) : Latest s g (σ.after d l t) :=
  Stage.Lately.after h t

/-- A deed that leaves all records alone. -/
theorem Fair.still (h : ∀ e call, d = .issued e (.withdraw call) →
    Withdrawing s g e call σ σ.ledger) : Fair s g σ d σ.ledger where
  frame _ hn := absurd rfl hn
  removal n r hr hnone := by
    have : σ.record? n = none := hnone
    simp [hr] at this
  pass n r r' _ hr hr' := by
    obtain rfl := Option.some.inj (hr.symm.trans hr')
    exact .refl r
  sweep := h

/-- A deed that changes one record. -/
theorem Fair.change (hw : d.errand.WorksOn s σ.past name) (hd : ∀ e r, d ≠ .issued e r)
    (hother : ∀ n, n ≠ name → l.get? n = σ.record? n)
    (hremoval : ∀ r, σ.record? name = some r → l.get? name = none →
      d.errand.isPass ∧ tally s name σ.past = [])
    (hpass : ∀ r r', d.errand.isPass → σ.record? name = some r → l.get? name = some r' →
      r.Akin r') : Fair s g σ d l where
  frame n hn := by
    by_cases hne : n = name
    · rw [hne]
      exact hw
    · exact absurd (hother n hne) hn
  removal n r hr hnone := by
    by_cases hne : n = name
    · subst hne
      exact hremoval r hr hnone
    · rw [hother n hne, hr] at hnone
      cases hnone
  pass n r r' hp hr hr' := by
    by_cases hne : n = name
    · subst hne
      exact hpass r r' hp hr hr'
    · rw [hother n hne, hr, Option.some.injEq] at hr'
      subst hr'
      exact .refl r
  sweep e call he := absurd he (hd e _)

/-- A deed that stores a record. -/
theorem Fair.put (hname : r'.name = name) (hw : d.errand.WorksOn s σ.past name)
    (hd : ∀ e r, d ≠ .issued e r)
    (hpass : ∀ r, d.errand.isPass → σ.record? name = some r → r.Akin r') :
    Fair s g σ d (σ.ledger.put r') := by
  subst hname
  refine Fair.change hw hd ?_ ?_ ?_
  · intro n hn
    exact Ledger.get?_put_of_ne hn
  · intro r _ hnone
    rw [Ledger.get?_put_of_eq rfl] at hnone
    cases hnone
  · intro r q hp hr hq
    rw [Ledger.get?_put_of_eq rfl, Option.some.injEq] at hq
    rw [← hq]
    exact hpass r hp hr

/-- A write of a record. -/
theorem Latest.write (hname : r'.name = name) (hw : e.WorksOn s σ.past name)
    (hpass : ∀ r, e.isPass → σ.record? name = some r → r.Akin r') (t : Instant) :
    Latest s g (σ.write e r' t) := by
  have hbumped : r'.bumped.name = name := hname
  refine (Fair.put hbumped hw Deed.answered_ne_issued ?_).latest t
  intro r hp hr
  exact (hpass r hp hr).bumped

/-- The books are in order, and the last deed was fair. -/
def Orderly (s : Service) (g : Regime) (σ : Stage) : Prop :=
  Books s none σ ∧ Latest s g σ

/-! ### Visits -/

/-- What visitors may make of a stage. -/
structure Visits (g : Regime) (σ σ' : Stage) : Prop where
  past : ∃ v, σ'.past = v ++ σ.past ∧
    ∀ m ∈ v, (∃ r, g.visitors r m.deed.errand) ∧ ∀ e r, m.deed ≠ .issued e r
  kept : ∀ n r, σ.record? n = some r → ∃ r', σ'.record? n = some r' ∧ r'.spec = r.spec

theorem Visits.refl (σ : Stage) : Visits g σ σ :=
  ⟨⟨[], rfl, fun _ hm => by cases hm⟩, fun _ r hr => ⟨r, hr, rfl⟩⟩

theorem Visits.trans {σ₁ σ₂ σ₃ : Stage} (h : Visits g σ₁ σ₂) (h' : Visits g σ₂ σ₃) :
    Visits g σ₁ σ₃ := by
  obtain ⟨v, hv, hdeeds⟩ := h.past
  obtain ⟨w, hw, hdeeds'⟩ := h'.past
  refine ⟨⟨w ++ v, ?_, ?_⟩, ?_⟩
  · rw [hw, hv, List.append_assoc]
  · intro m hm
    rcases List.mem_append.mp hm with hm | hm
    · exact hdeeds' m hm
    · exact hdeeds m hm
  · intro n r hr
    obtain ⟨r', hr', hspec⟩ := h.kept n r hr
    obtain ⟨r'', hr'', hspec'⟩ := h'.kept n r' hr'
    exact ⟨r'', hr'', hspec'.trans hspec⟩

/-- What an errand carries along when its deeds remove no record and leave every spec as it is. -/
def Carried (e : Errand) (F : Stage → Prop) : Prop :=
  ∀ σ d l t, F σ → d.errand = e → (∀ e' r, d ≠ .issued e' r) →
    (∀ n r, σ.record? n = some r → ∃ r', l.get? n = some r' ∧ r'.spec = r.spec) →
    F (σ.after d l t)

theorem carried_visits {q : Request} (hv : g.visitors q e) (σ₀ : Stage) :
    Carried e (Visits g σ₀) := by
  intro σ d l t h he hd hkept
  have hvisitor : g.visitors q d.errand := by
    rw [he]
    exact hv
  refine h.trans ⟨⟨[⟨d, l, t⟩], rfl, ?_⟩, hkept⟩
  intro m hm
  rw [List.mem_singleton.mp hm]
  exact ⟨⟨q, hvisitor⟩, hd⟩

/-- The errand has begun. -/
def HasBegun (e : Errand) (σ : Stage) : Prop :=
  ∃ m ∈ σ.past, m.deed = .began e

theorem carried_hasBegun (e' : Errand) : Carried e (HasBegun e') := by
  rintro σ d l t ⟨m, hm, he⟩ _ _ _
  exact ⟨m, List.mem_cons_of_mem _ hm, he⟩

theorem Carried.and {F F' : Stage → Prop} (hF : Carried e F) (hF' : Carried e F') :
    Carried e fun σ => F σ ∧ F' σ :=
  fun σ d l t h he hd hkept => ⟨hF σ d l t h.1 he hd hkept, hF' σ d l t h.2 he hd hkept⟩

/-- A record that is stored takes nothing away. -/
theorem Carried.put {F : Stage → Prop} (hF : Carried e F) (h : F σ) (he : d.errand = e)
    (hd : ∀ e' r, d ≠ .issued e' r) (hname : r'.name = name)
    (hspec : ∀ r, σ.record? name = some r → r'.spec = r.spec)
    (t : Instant) : F (σ.after d (σ.ledger.put r') t) := by
  subst hname
  refine hF σ d _ t h he hd ?_
  intro n r hr
  by_cases hn : n = r'.name
  · subst hn
    exact ⟨r', Ledger.get?_put_of_eq rfl, hspec r hr⟩
  · exact ⟨r, (Ledger.get?_put_of_ne hn).trans hr, rfl⟩

theorem Carried.write {F : Stage → Prop} (hF : Carried e F) (h : F σ) (hr : σ.record? name = some r)
    (hname : r'.name = name) (hspec : r'.spec = r.spec) (t : Instant) : F (σ.write e r' t) := by
  have hbumped : r'.bumped.name = name := hname
  refine hF.put h rfl Deed.answered_ne_issued hbumped ?_ t
  intro q hq
  rw [hr, Option.some.injEq] at hq
  rw [← hq]
  exact hspec

theorem Carried.still {F : Stage → Prop} (hF : Carried e F) (h : F σ) (he : d.errand = e)
    (hd : ∀ e' r, d ≠ .issued e' r) (t : Instant) : F (σ.after d σ.ledger t) :=
  hF σ d σ.ledger t h he hd fun _ r hr => ⟨r, hr, rfl⟩

/-! ### The contract -/

/-- The books are kept. -/
def bookkeeping (s : Service) (g : Regime) : Contract where
  idle := Orderly s g
  during e σ :=
    (Books s none σ ∨ ∃ p, e.demand? s = some p ∧ Books s (some p) σ) ∧ Latest s g σ
  lull := Orderly s g
  may σ σ' := Visits g σ σ' ∧ (Orderly s g σ → Orderly s g σ')
  may_refl σ := ⟨.refl σ, id⟩
  may_trans h h' := ⟨h.1.trans h'.1, h'.2 ∘ h.2⟩

theorem during_of_orderly (h : Orderly s g σ) : (bookkeeping s g).during e σ :=
  ⟨.inl h.1, h.2⟩

/-- Deeds that change no record, do not count and start no withdrawal. -/
theorem Orderly.still (h : Orderly s g σ) (hd : ∀ n, d.Uncounted s n)
    (hw : ∀ e call, d ≠ .issued e (.withdraw call)) (t : Instant) :
    Orderly s g (σ.after d σ.ledger t) :=
  ⟨h.1.keep hd t, (Fair.still fun e call he => absurd he (hw e call)).latest t⟩

theorem Orderly.quiet (h : Orderly s g σ) (hd : d.Quiet) (t : Instant) :
    Orderly s g (σ.after d σ.ledger t) :=
  h.still (fun _ => hd.uncounted) (fun e call => hd.ne_issued e (.withdraw call)) t

end ImageCatalog
