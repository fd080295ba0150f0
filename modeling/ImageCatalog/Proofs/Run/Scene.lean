import ImageCatalog.Proofs.Run.Errand
import ImageCatalog.Store.Ledger
import Mathlib.Logic.Relation

/-!
# Runs of the service

A run starts with no records. Errands are done one after the other; only while a pass waits for the
answer to a call on a provider or a probe of the source may other errands land, and those are done
before the pass goes on. Every run is kept in a chronicle, so that a statement about one moment can
refer to all earlier ones.

## What is fixed and what is free

A request of the store is answered as a ledger in memory answers it, or it fails for a reason that
is not in the records and leaves them alone, as a store in files may. The time that is read is the
time on the clock. All other answers are free: a probe, a call on a provider and the question for an
interruption may be answered in any way. This covers every provider, every fault, every time limit
and every interruption at every point. A `Regime` says which errands there
are, which of them may land in a waiting pass, how the clock moves, and which of the free answers
are given.

A statement about every reachable scene is a statement about every moment of every run, since each
request, each answer and each beginning and end of an errand is a step of its own.

## Main definitions

* `Deed`, `Entry`, `Stage` — what happens, and the chronicle of it
* `Ledger.Answers` — what may be answered to a request
* `Task`, `Scene`, `Scene.Step` — errands at work, and one step of a run
* `Regime`, `Reachable` — the runs that are looked at
* `Scene.Runs` — a run goes on from one moment to another

## Main results

* `Reachable.mono` — a run under a stricter regime is a run under a laxer one
-/

namespace ImageCatalog

/-- Whether a request takes its time: it is a probe of the source or a call on a provider. -/
def Request.waits : Request → Bool
  | probe _ | lookUp _ | upload .. | withdraw _ => true
  | _ => false

/-- Whether a request is a call on a provider. -/
def Request.isProviderCall : Request → Bool
  | lookUp _ | upload .. | withdraw _ => true
  | _ => false

/-! ### The chronicle -/

/-- Something that happens in a run. -/
inductive Deed where
  | began (errand : Errand)
  /-- A request that takes its time is under way. -/
  | issued (errand : Errand) (request : Request)
  | answered (errand : Errand) (request : Request) (answer : request.Answer)
  | ended (errand : Errand) (result : Except Failure errand.Result)

/-- The errand that a deed is done for. -/
def Deed.errand : Deed → Errand
  | began e | issued e _ | answered e _ _ | ended e _ => e

/-- A deed, with the records and the time after it. -/
structure Entry where
  deed : Deed
  ledger : Ledger
  clock : Instant

/-- The records after some deeds: none at the beginning, then those that the latest deed left. -/
def ledgerAfter : List Entry → Ledger
  | [] => .empty
  | m :: _ => m.ledger

/-- What all errands share: when the run started, and what has happened since, the latest first. -/
@[ext]
structure Stage where
  started : Instant
  past : List Entry

namespace Stage

/-- The beginning of a run. -/
def start (t : Instant) : Stage := ⟨t, []⟩

/-- The records that were left. -/
def ledger (σ : Stage) : Ledger :=
  ledgerAfter σ.past

/-- The time on the clock. -/
def clock (σ : Stage) : Instant :=
  match σ.past with
  | [] => σ.started
  | m :: _ => m.clock

/-- The record of a name. -/
def record? (σ : Stage) (name : String) : Option Record :=
  σ.ledger.get? name

/-- A deed is done at a time, and leaves the given records. -/
def after (σ : Stage) (d : Deed) (l : Ledger) (t : Instant) : Stage :=
  ⟨σ.started, ⟨d, l, t⟩ :: σ.past⟩

@[simp] theorem past_after (σ : Stage) (d : Deed) (l : Ledger) (t : Instant) :
    (σ.after d l t).past = ⟨d, l, t⟩ :: σ.past := rfl

@[simp] theorem record?_start (t : Instant) (name : String) : (start t).record? name = none := rfl

/-- What is said of the deed that was done last. -/
def Lately (P : Stage → Deed → Ledger → Prop) (σ : Stage) : Prop :=
  ∀ σ₀ d l t, σ = σ₀.after d l t → P σ₀ d l

variable {P : Stage → Deed → Ledger → Prop}

theorem Lately.start (t : Instant) : (Stage.start t).Lately P := by
  intro σ₀ d l t' h
  have hpast := congrArg Stage.past h
  cases hpast

theorem Lately.after {σ : Stage} {d : Deed} {l : Ledger} (h : P σ d l) (t : Instant) :
    (σ.after d l t).Lately P := by
  intro σ₀ d' l' t' heq
  simp only [Stage.after, Stage.mk.injEq, List.cons.injEq, Entry.mk.injEq] at heq
  obtain ⟨hstarted, ⟨rfl, rfl, -⟩, hpast⟩ := heq
  obtain rfl : σ₀ = σ := Stage.ext hstarted.symm hpast.symm
  exact h

end Stage

/-- Whether a failure of a store says nothing about the records that it holds. -/
def Failure.isOutage (e : Failure) : Bool :=
  e.kind != .conflict && e.kind != .notFound

/-- A request of the store has the outcome that is due, or fails and leaves the records alone. -/
def Ledger.Settles {α : Type} (l : Ledger) (due : Except Failure α × Ledger)
    (x : Except Failure α) (l' : Ledger) : Prop :=
  (x, l') = due ∨ (∃ e, x = .error e ∧ e.isOutage) ∧ l' = l

/-- The answers that a request may get from a ledger at a time, with the ledger after it. What is
not a matter of records or time may be answered in any way. -/
def Ledger.Answers (l : Ledger) (t : Instant) : (r : Request) → r.Answer → Ledger → Prop
  | .readRecord name, x, l' => l.Settles (.ok (l.get? name), l) x l'
  | .createRecord r, x, l' => l.Settles (l.create r) x l'
  | .replaceRecord r, x, l' => l.Settles (l.replace r) x l'
  | .removeRecord name version, x, l' => l.Settles (l.remove name version) x l'
  | .listRecords, x, l' => l.Settles (.ok l.list, l) x l'
  | .now, x, l' => x = t ∧ l' = l
  | _, _, l' => l' = l

/-! ### Errands at work -/

/-- An errand at work. -/
structure Task where
  errand : Errand
  /-- What is left to do. -/
  rest : Program errand.Result
  /-- Whether the next request is issued and waits for its answer. -/
  waiting : Bool

/-- An errand that nothing is done for yet. -/
def Task.start (s : Service) (e : Errand) : Task := ⟨e, e.program s, false⟩

/-- A moment of a run: what all errands share, and the errands at work, the latest first. -/
structure Scene where
  stage : Stage
  tasks : List Task

/-- The withdrawal that was started last, if nothing has happened since. -/
def Scene.withdrawal? (c : Scene) : Option CatalogCall :=
  match c.stage.past with
  | ⟨.issued _ (.withdraw call), _, _⟩ :: _ => some call
  | _ => none

theorem Scene.of_withdrawal? {c : Scene} {call : CatalogCall} (h : c.withdrawal? = some call) :
    ∃ e l t past, c.stage.past = ⟨.issued e (.withdraw call), l, t⟩ :: past := by
  unfold withdrawal? at h
  split at h
  · rename_i e call' l t past hpast
    obtain rfl := Option.some.inj h
    exact ⟨e, l, t, past, hpast⟩
  · cases h

/-- Which runs are looked at. -/
structure Regime where
  /-- The times at which a run may start. -/
  starts : Instant → Bool
  /-- How the clock may move from one deed to the next. -/
  tick : Instant → Instant → Bool
  /-- What the service is sent on while it does nothing. -/
  errands : Errand → Bool
  /-- What may land while a pass waits for the answer to a request. -/
  visitors : Request → Errand → Bool
  /-- Which answers are given, after what has happened. -/
  answers : List Entry → (r : Request) → r.Answer → Prop

/-- One step of a run. -/
inductive Scene.Step (s : Service) (g : Regime) : Scene → Scene → Prop where
  | begin {σ : Stage} {t : Instant} {e : Errand} :
    g.errands e → g.tick σ.clock t →
    Step s g ⟨σ, []⟩ ⟨σ.after (.began e) σ.ledger t, [.start s e]⟩
  | visit {σ : Stage} {t : Instant} {v e : Errand} {r : Request} {k : r.Answer → Program e.Result} :
    g.visitors r v → g.tick σ.clock t →
    Step s g ⟨σ, [⟨e, .ask r k, true⟩]⟩
      ⟨σ.after (.began v) σ.ledger t, [.start s v, ⟨e, .ask r k, true⟩]⟩
  | issue {σ : Stage} {t : Instant} {e : Errand} {r : Request} {k : r.Answer → Program e.Result}
      {tasks : List Task} :
    r.waits → g.tick σ.clock t →
    Step s g ⟨σ, ⟨e, .ask r k, false⟩ :: tasks⟩
      ⟨σ.after (.issued e r) σ.ledger t, ⟨e, .ask r k, true⟩ :: tasks⟩
  | answer {σ : Stage} {t : Instant} {e : Errand} {r : Request} {k : r.Answer → Program e.Result}
      {x : r.Answer} {l : Ledger} {waiting : Bool} {tasks : List Task} :
    waiting = r.waits → σ.ledger.Answers t r x l → g.answers σ.past r x → g.tick σ.clock t →
    Step s g ⟨σ, ⟨e, .ask r k, waiting⟩ :: tasks⟩
      ⟨σ.after (.answered e r x) l t, ⟨e, k x, false⟩ :: tasks⟩
  | finish {σ : Stage} {t : Instant} {e : Errand} {a : e.Result} {tasks : List Task} :
    g.tick σ.clock t →
    Step s g ⟨σ, ⟨e, .done a, false⟩ :: tasks⟩ ⟨σ.after (.ended e (.ok a)) σ.ledger t, tasks⟩
  | fail {σ : Stage} {t : Instant} {e : Errand} {reason : Failure} {tasks : List Task} :
    g.tick σ.clock t →
    Step s g ⟨σ, ⟨e, .fail reason, false⟩ :: tasks⟩
      ⟨σ.after (.ended e (.error reason)) σ.ledger t, tasks⟩

/-- The moments of the runs under a regime. -/
inductive Reachable (s : Service) (g : Regime) : Scene → Prop where
  | start {t : Instant} : g.starts t → Reachable s g ⟨.start t, []⟩
  | step {c c' : Scene} : Reachable s g c → c.Step s g c' → Reachable s g c'

/-- Whatever happens, the past stays. -/
theorem Scene.Step.after {s : Service} {g : Regime} {c c' : Scene} (h : c.Step s g c') :
    ∃ d t, c'.stage = c.stage.after d c'.stage.ledger t := by
  cases h <;> exact ⟨_, _, rfl⟩

/-- Every moment of the past has been a moment of the run. -/
theorem Reachable.earlier {s : Service} {g : Regime} {c : Scene} (h : Reachable s g c)
    (newer : List Entry) {older : List Entry} (hpast : c.stage.past = newer ++ older) :
    ∃ c', Reachable s g c' ∧ c'.stage.past = older := by
  induction h generalizing newer with
  | @start t ht =>
    obtain ⟨-, rfl⟩ := List.append_eq_nil_iff.mp hpast.symm
    exact ⟨_, .start ht, rfl⟩
  | @step c c' hc hs ih =>
    cases newer with
    | nil => exact ⟨c', hc.step hs, hpast⟩
    | cons m newer =>
      obtain ⟨d, t, hafter⟩ := hs.after
      rw [hafter, Stage.past_after] at hpast
      exact ih newer (List.cons.inj hpast).2

/-- Every deed of the past was a step of the run. -/
theorem Reachable.exists_step {s : Service} {g : Regime} {c : Scene} (h : Reachable s g c)
    {newer older : List Entry} {m : Entry} (hpast : c.stage.past = newer ++ m :: older) :
    ∃ c₀ c₁, Reachable s g c₀ ∧ c₀.Step s g c₁ ∧ c₀.stage.past = older ∧
      c₁.stage.past = m :: older := by
  obtain ⟨c₁, h₁, hpast₁⟩ := h.earlier newer hpast
  cases h₁ with
  | start _ => cases hpast₁
  | @step c₀ _ h₀ hstep =>
    obtain ⟨d, t, hafter⟩ := hstep.after
    have hpast₀ := hpast₁
    rw [hafter, Stage.past_after] at hpast₀
    exact ⟨c₀, c₁, h₀, hstep, (List.cons.inj hpast₀).2, hpast₁⟩

/-- A run that is at one moment goes on to another. -/
def Scene.Runs (s : Service) (g : Regime) : Scene → Scene → Prop :=
  Relation.ReflTransGen (Scene.Step s g)

namespace Scene.Runs

variable {s : Service} {g : Regime} {c c' c'' : Scene}

theorem refl (c : Scene) : Scene.Runs s g c c :=
  Relation.ReflTransGen.refl

theorem step (h : Scene.Runs s g c c') (hs : c'.Step s g c'') : Scene.Runs s g c c'' :=
  Relation.ReflTransGen.tail h hs

theorem reachable (h : Scene.Runs s g c c') (hc : Reachable s g c) : Reachable s g c' := by
  induction h with
  | refl => exact hc
  | tail _ hs ih => exact ih.step hs

theorem past (h : Scene.Runs s g c c') : ∃ run, c'.stage.past = run ++ c.stage.past := by
  induction h with
  | refl => exact ⟨[], rfl⟩
  | @tail b c _ hs ih =>
    obtain ⟨run, hrun⟩ := ih
    obtain ⟨d, t, hafter⟩ := hs.after
    refine ⟨⟨d, c.stage.ledger, t⟩ :: run, ?_⟩
    rw [hafter, Stage.past_after, hrun]
    rfl

end Scene.Runs

/-! ### Stricter regimes -/

/-- Whatever `g` admits, `g'` admits. -/
structure Regime.Within (g g' : Regime) : Prop where
  starts : ∀ t, g.starts t → g'.starts t
  tick : ∀ t t', g.tick t t' → g'.tick t t'
  errands : ∀ e, g.errands e → g'.errands e
  visitors : ∀ r e, g.visitors r e → g'.visitors r e
  answers : ∀ past r x, g.answers past r x → g'.answers past r x

variable {s : Service} {g g' : Regime} {c c' : Scene}

theorem Scene.Step.mono (h : g.Within g') (hs : c.Step s g c') : c.Step s g' c' := by
  cases hs with
  | begin he ht => exact .begin (h.errands _ he) (h.tick _ _ ht)
  | visit hv ht => exact .visit (h.visitors _ _ hv) (h.tick _ _ ht)
  | issue hr ht => exact .issue hr (h.tick _ _ ht)
  | answer hw ha hg ht => exact .answer hw ha (h.answers _ _ _ hg) (h.tick _ _ ht)
  | finish ht => exact .finish (h.tick _ _ ht)
  | fail ht => exact .fail (h.tick _ _ ht)

/-- **A run under a stricter regime is a run under a laxer one.** -/
theorem Reachable.mono (h : g.Within g') (hc : Reachable s g c) : Reachable s g' c := by
  induction hc with
  | start ht => exact .start (h.starts _ ht)
  | step _ hs ih => exact ih.step (hs.mono h)

end ImageCatalog
