import ImageCatalog.Proofs.Run.Scene

/-!
# Contracts of runs

What a run keeps is shown errand by errand. A contract says what holds while nothing is at work,
while an errand is at work, and while a pass waits, and what visitors may make of a stage in the
meantime. `Role.Meets` asks of a program that it keeps the contract from a stage on, whatever the
answers and whoever lands; it goes down the program, so that it is shown for the parts of a program
one after the other.

## What the two sides owe each other

A pass that waits does not see what visitors do. It relies on `Contract.may` alone, and has to go on
from every stage that `may` leads to. A visitor in turn starts at a stage of which it only knows
`Contract.lull`, and has to leave one that `may` leads to. So the two are shown apart, and
`Reachable.keeps` puts them together once for all contracts.

## Main definitions

* `Contract` — what is to be kept
* `Role.Meets` — a program keeps a contract, and what it leaves at its end
* `Contract.Holds` — every errand and every visitor keeps the contract

## Main results

* `Role.meets_bind` — a program is taken part by part
* `Reachable.keeps` — a contract that holds is kept at every moment of every run
-/

namespace ImageCatalog

/-- What is kept in a run. -/
structure Contract where
  /-- What holds while nothing is at work. -/
  idle : Stage → Prop
  /-- What holds while an errand is at work. -/
  during : Errand → Stage → Prop
  /-- What holds while a pass waits and no visitor is at work. -/
  lull : Stage → Prop
  /-- What visitors may make of a stage while a pass waits. -/
  may : Stage → Stage → Prop
  may_refl : ∀ σ, may σ σ
  may_trans : ∀ {σ σ' σ''}, may σ σ' → may σ' σ'' → may σ σ''

/-- Who runs a program: an errand in its own right, or a visitor while a pass waits. -/
structure Role where
  contract : Contract
  regime : Regime
  errand : Errand
  isVisitor : Bool

namespace Role

variable {α β : Type}

/-- Goes on with `next` after an answer to `r`, from whatever visitors have made of the stage. -/
def Resumes (R : Role) (r : Request) (next : r.Answer → Stage → Prop) (σ : Stage) : Prop :=
  ∀ σ' t x l, R.contract.may σ σ' → R.regime.tick σ'.clock t → σ'.ledger.Answers t r x l →
    R.regime.answers σ'.past r x →
    R.contract.during R.errand (σ'.after (.answered R.errand r x) l t) ∧
      next x (σ'.after (.answered R.errand r x) l t)

/-- The program keeps the contract from the stage on, and ends in `Q`. A visitor never waits. -/
def Meets (R : Role) : Program α → (Except Failure α → Stage → Prop) → Stage → Prop
  | .done a, Q, σ => Q (.ok a) σ
  | .fail e, Q, σ => Q (.error e) σ
  | .ask r k, Q, σ =>
    if r.waits then
      R.isVisitor = false ∧ ∀ t, R.regime.tick σ.clock t →
        R.contract.lull (σ.after (.issued R.errand r) σ.ledger t) ∧
          R.Resumes r (fun x => R.Meets (k x) Q) (σ.after (.issued R.errand r) σ.ledger t)
    else
      ∀ t x l, R.regime.tick σ.clock t → σ.ledger.Answers t r x l → R.regime.answers σ.past r x →
        R.contract.during R.errand (σ.after (.answered R.errand r x) l t) ∧
          R.Meets (k x) Q (σ.after (.answered R.errand r x) l t)

variable {R : Role}

theorem Resumes.mono {r : Request} {next next' : r.Answer → Stage → Prop} {σ : Stage}
    (h : R.Resumes r next σ) (himp : ∀ x σ, next x σ → next' x σ) : R.Resumes r next' σ :=
  fun σ' t x l hm ht ha hg => (h σ' t x l hm ht ha hg).imp_right (himp x _)

/-- Visitors come one after the other. -/
theorem Resumes.of_may {r : Request} {next : r.Answer → Stage → Prop} {σ σ' : Stage}
    (h : R.Resumes r next σ) (hm : R.contract.may σ σ') : R.Resumes r next σ' :=
  fun σ'' t x l hm' => h σ'' t x l (R.contract.may_trans hm hm')

theorem Meets.mono {p : Program α} {Q Q' : Except Failure α → Stage → Prop} {σ : Stage}
    (h : R.Meets p Q σ) (himp : ∀ x σ, Q x σ → Q' x σ) : R.Meets p Q' σ := by
  induction p generalizing σ with
  | done a => exact himp _ _ h
  | fail e => exact himp _ _ h
  | ask r k ih =>
    unfold Meets at h ⊢
    split at h
    · rename_i hw
      rw [if_pos hw]
      refine ⟨h.1, fun t ht => ?_⟩
      obtain ⟨hl, hr⟩ := h.2 t ht
      exact ⟨hl, hr.mono fun x σ hx => ih x hx⟩
    · rename_i hw
      rw [if_neg hw]
      exact fun t x l ht ha hg => (h t x l ht ha hg).imp_right (ih x)

/-- What has to hold after the first of two programs. -/
def Then (R : Role) (f : α → Program β) (Q : Except Failure β → Stage → Prop) :
    Except Failure α → Stage → Prop
  | .ok a, σ => R.Meets (f a) Q σ
  | .error e, σ => Q (.error e) σ

/-- **A program is taken part by part.** -/
theorem meets_bind {p : Program α} {f : α → Program β} {Q : Except Failure β → Stage → Prop}
    {σ : Stage} (h : R.Meets p (R.Then f Q) σ) : R.Meets (p >>= f) Q σ := by
  induction p generalizing σ with
  | done a => exact h
  | fail e => exact h
  | ask r k ih =>
    rw [Program.ask_bind]
    unfold Meets at h ⊢
    split at h
    · rename_i hw
      rw [if_pos hw]
      refine ⟨h.1, fun t ht => ?_⟩
      obtain ⟨hl, hr⟩ := h.2 t ht
      exact ⟨hl, hr.mono fun x σ hx => ih x hx⟩
    · rename_i hw
      rw [if_neg hw]
      exact fun t x l ht ha hg => (h t x l ht ha hg).imp_right (ih x)

/-- A failure becomes a result. -/
theorem meets_attempt {p : Program α} {Q : Except Failure (Except Failure α) → Stage → Prop}
    {σ : Stage} (h : R.Meets p (fun x => Q (.ok x)) σ) : R.Meets p.attempt Q σ := by
  induction p generalizing σ with
  | done a => exact h
  | fail e => exact h
  | ask r k ih =>
    rw [Program.attempt]
    unfold Meets at h ⊢
    split at h
    · rename_i hw
      rw [if_pos hw]
      refine ⟨h.1, fun t ht => ?_⟩
      obtain ⟨hl, hr⟩ := h.2 t ht
      exact ⟨hl, hr.mono fun x σ hx => ih x hx⟩
    · rename_i hw
      rw [if_neg hw]
      exact fun t x l ht ha hg => (h t x l ht ha hg).imp_right (ih x)

end Role

/-! ### From errands to runs -/

namespace Contract

variable (K : Contract) (g : Regime)

/-- What an errand leaves when nothing else is at work. -/
def AtEnd (e : Errand) (x : Except Failure e.Result) (σ : Stage) : Prop :=
  ∀ t, g.tick σ.clock t → K.idle (σ.after (.ended e x) σ.ledger t)

/-- What a visitor that came at `σ₀` leaves. -/
def AtLeave (e : Errand) (σ₀ : Stage) (x : Except Failure e.Result) (σ : Stage) : Prop :=
  ∀ t, g.tick σ.clock t →
    K.lull (σ.after (.ended e x) σ.ledger t) ∧ K.may σ₀ (σ.after (.ended e x) σ.ledger t)

/-- Every errand and every visitor keeps the contract. -/
structure Holds (s : Service) : Prop where
  start : ∀ t, g.starts t → K.idle (.start t)
  errand : ∀ e σ t, g.errands e → K.idle σ → g.tick σ.clock t →
    K.during e (σ.after (.began e) σ.ledger t) ∧
      Role.Meets ⟨K, g, e, false⟩ (e.program s) (K.AtEnd g e) (σ.after (.began e) σ.ledger t)
  visitor : ∀ r e σ t, g.visitors r e → K.lull σ → g.tick σ.clock t →
    K.during e (σ.after (.began e) σ.ledger t) ∧
      Role.Meets ⟨K, g, e, true⟩ (e.program s) (K.AtLeave g e σ) (σ.after (.began e) σ.ledger t)

/-- The contract is kept at a moment, and will be from there on. -/
inductive Kept : Scene → Prop where
  | idle {σ : Stage} : K.idle σ → Kept ⟨σ, []⟩
  | atWork {σ : Stage} {e : Errand} {p : Program e.Result} :
    K.during e σ → Role.Meets ⟨K, g, e, false⟩ p (K.AtEnd g e) σ → Kept ⟨σ, [⟨e, p, false⟩]⟩
  | waiting {σ : Stage} {e : Errand} {r : Request} {k : r.Answer → Program e.Result} :
    r.waits → K.lull σ →
    Role.Resumes ⟨K, g, e, false⟩ r (fun x => Role.Meets ⟨K, g, e, false⟩ (k x) (K.AtEnd g e)) σ →
    Kept ⟨σ, [⟨e, .ask r k, true⟩]⟩
  | visited {σ σ₀ : Stage} {v e : Errand} {p : Program v.Result} {r : Request}
      {k : r.Answer → Program e.Result} :
    r.waits → K.during v σ → Role.Meets ⟨K, g, v, true⟩ p (K.AtLeave g v σ₀) σ →
    Role.Resumes ⟨K, g, e, false⟩ r (fun x => Role.Meets ⟨K, g, e, false⟩ (k x) (K.AtEnd g e)) σ₀ →
    Kept ⟨σ, [⟨v, p, false⟩, ⟨e, .ask r k, true⟩]⟩

variable {K g}

/-- What an answer leads to, once visitors have had their turn or where there is no turn. -/
theorem Kept.answer {σ : Stage} {e : Errand} {r : Request} {k : r.Answer → Program e.Result}
    {x : r.Answer} {l : Ledger} {t : Instant}
    (h : Role.Resumes ⟨K, g, e, false⟩ r
      (fun x => Role.Meets ⟨K, g, e, false⟩ (k x) (K.AtEnd g e)) σ)
    (ha : σ.ledger.Answers t r x l) (hg : g.answers σ.past r x) (ht : g.tick σ.clock t) :
    K.Kept g ⟨σ.after (.answered e r x) l t, [⟨e, k x, false⟩]⟩ := by
  obtain ⟨hd, hm⟩ := h σ t x l (K.may_refl σ) ht ha hg
  exact .atWork hd hm

theorem Kept.step {s : Service} (h : K.Holds g s) {c c' : Scene} (hc : K.Kept g c)
    (hs : c.Step s g c') : K.Kept g c' := by
  cases hc with
  | idle hi =>
    cases hs with
    | begin he ht =>
      obtain ⟨hd, hm⟩ := h.errand _ _ _ he hi ht
      exact .atWork hd hm
  | atWork hd hm =>
    cases hs with
    | issue hr ht =>
      simp only [Role.Meets, hr, if_true] at hm
      obtain ⟨hl, hres⟩ := hm.2 _ ht
      exact .waiting hr hl hres
    | answer hw ha hg ht =>
      simp only [Role.Meets, ← hw, Bool.false_eq_true, if_false] at hm
      obtain ⟨hd', hm'⟩ := hm _ _ _ ht ha hg
      exact .atWork hd' hm'
    | finish ht => exact .idle (hm _ ht)
    | fail ht => exact .idle (hm _ ht)
  | waiting hw hl hr =>
    cases hs with
    | visit hv ht =>
      obtain ⟨hd, hm⟩ := h.visitor _ _ _ _ hv hl ht
      exact .visited hw hd hm hr
    | answer _ ha hg ht => exact .answer hr ha hg ht
  | visited hw hd hm hr =>
    cases hs with
    | issue hr' _ =>
      simp only [Role.Meets, hr', if_true, Bool.true_eq_false, false_and] at hm
    | answer hw' ha hg ht =>
      simp only [Role.Meets, ← hw', Bool.false_eq_true, if_false] at hm
      obtain ⟨hd', hm'⟩ := hm _ _ _ ht ha hg
      exact .visited hw hd' hm' hr
    | finish ht =>
      obtain ⟨hl, hmay⟩ := hm _ ht
      exact .waiting hw hl (hr.of_may hmay)
    | fail ht =>
      obtain ⟨hl, hmay⟩ := hm _ ht
      exact .waiting hw hl (hr.of_may hmay)

/-- A contract that is kept goes on to be kept. -/
theorem Kept.runs {s : Service} (h : K.Holds g s) {c c' : Scene} (hc : K.Kept g c)
    (hr : c.Runs s g c') : K.Kept g c' := by
  induction hr with
  | refl => exact hc
  | tail _ hs ih => exact ih.step h hs

end Contract

/-- **A contract that holds is kept at every moment of every run.** -/
theorem Reachable.keeps {K : Contract} {g : Regime} {s : Service} (h : K.Holds g s) {c : Scene}
    (hc : Reachable s g c) : K.Kept g c := by
  induction hc with
  | start ht => exact .idle (h.start _ ht)
  | step _ hs ih => exact ih.step h hs

end ImageCatalog
