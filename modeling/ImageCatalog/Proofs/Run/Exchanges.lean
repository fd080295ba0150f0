import ImageCatalog.Proofs.Run.Trace

/-!
# Calls in the chronicle of a run

A chronicle keeps what all errands do, visitors included. Only a pass has calls that take their
time, so what was called since a pass has begun is a trace of that pass: visitors may change the
records in the meantime, but they leave nothing between its calls.

## Main definitions

* `exchanges` — the calls of a chronicle that were answered, the earliest first

## Main results

* `Reachable.of_issued` — a call that is issued goes on with the trace of its errand
* `Reachable.of_answered` — an answer is one that the regime admits
-/

namespace ImageCatalog

variable {s : Service} {g : Regime} {c c' : Scene} {e : Errand} {r : Request} {past : List Entry}
  {l : Ledger} {t : Instant}

/-- The call that a deed brings to its end. -/
def Deed.exchange? : Deed → Option Exchange
  | answered _ r x => if r.waits then some ⟨r, some x⟩ else none
  | _ => none

/-- The calls of a chronicle that were answered, the earliest first. -/
def exchanges (past : List Entry) : List Exchange :=
  past.reverse.filterMap fun m => m.deed.exchange?

theorem exchanges_cons (m : Entry) (past : List Entry) :
    exchanges (m :: past) = exchanges past ++ m.deed.exchange?.toList := by
  rw [exchanges, List.reverse_cons, List.filterMap_append]
  cases h : m.deed.exchange? <;> simp [exchanges, h]

theorem exchanges_cons_of_none {m : Entry} (h : m.deed.exchange? = none) (past : List Entry) :
    exchanges (m :: past) = exchanges past := by
  rw [exchanges_cons, h, Option.toList_none, List.append_nil]

theorem exchanges_append (newer older : List Entry) :
    exchanges (newer ++ older) = exchanges older ++ exchanges newer := by
  rw [exchanges, List.reverse_append, List.filterMap_append]
  rfl

theorem Deed.exchange?_answered {x : r.Answer} (hr : r.waits) :
    (answered e r x).exchange? = some ⟨r, some x⟩ :=
  if_pos hr

theorem Deed.exchange?_answered_of_prompt {x : r.Answer} (hr : r.waits = false) :
    (answered e r x).exchange? = none :=
  if_neg (by simp [hr])

/-- Where no call was answered, no deed is an answer to a call. -/
theorem exchange?_of_mem {m : Entry} (h : exchanges past = []) (hm : m ∈ past) :
    m.deed.exchange? = none := by
  rw [exchanges, List.filterMap_eq_nil_iff] at h
  exact h m (List.mem_reverse.mpr hm)

theorem Deed.exchange?_eq_some {d : Deed} {x : r.Answer} (h : d.exchange? = some ⟨r, some x⟩) :
    ∃ e, d = .answered e r x := by
  cases d with
  | began | issued | ended => cases h
  | answered e r' x' =>
    simp only [exchange?] at h
    split at h
    · cases h
      exact ⟨e, rfl⟩
    · cases h

/-- The last call of a chronicle, and what has happened before and after it. -/
theorem exchanges_eq_append {t : List Exchange} {z : Exchange} (h : exchanges past = t ++ [z]) :
    ∃ newer m older, past = newer ++ m :: older ∧ exchanges newer = [] ∧
      m.deed.exchange? = some z ∧ exchanges older = t := by
  induction past with
  | nil => simp [exchanges] at h
  | cons m past ih =>
    rw [exchanges_cons] at h
    cases hm : m.deed.exchange? with
    | none =>
      rw [hm, Option.toList_none, List.append_nil] at h
      obtain ⟨newer, m', older, rfl, hnewer, hz, ht⟩ := ih h
      exact ⟨m :: newer, m', older, rfl, (exchanges_cons_of_none hm _).trans hnewer, hz, ht⟩
    | some z' =>
      rw [hm, Option.toList_some] at h
      obtain ⟨ht, hz⟩ := List.append_inj' h rfl
      obtain rfl := List.cons.inj hz |>.1
      exact ⟨[], m, past, rfl, rfl, hm, ht⟩

/-! ### Since an errand has begun -/

/-- An errand has begun, no pass since then, and this is what is left of it after its calls. -/
def Follows (s : Service) (e : Errand) (p : Program e.Result) (past : List Entry) : Prop :=
  ∃ newer m older, past = newer ++ m :: older ∧ m.deed = .began e ∧
    (∀ m' ∈ newer, ∀ e', m'.deed = .began e' → e'.isPass = false) ∧
    (e.program s).Comes (exchanges newer) p

/-- Something else has happened. -/
theorem Follows.cons {p : Program e.Result} (h : Follows s e p past) {m : Entry}
    (hbegan : ∀ e', m.deed = .began e' → e'.isPass = false) (hm : m.deed.exchange? = none) :
    Follows s e p (m :: past) := by
  obtain ⟨newer, m₀, older, rfl, hm₀, hnewer, hcomes⟩ := h
  refine ⟨m :: newer, m₀, older, rfl, hm₀, ?_, ?_⟩
  · intro m' hm'
    rcases List.mem_cons.mp hm' with rfl | hm'
    · exact hbegan
    · exact hnewer m' hm'
  · rw [exchanges_cons_of_none hm]
    exact hcomes

/-- The errand is told an answer. -/
theorem Follows.answered {k : r.Answer → Program e.Result} (h : Follows s e (.ask r k) past)
    (x : r.Answer) : Follows s e (k x) (⟨.answered e r x, l, t⟩ :: past) := by
  obtain ⟨newer, m₀, older, rfl, hm₀, hnewer, hcomes⟩ := h
  refine ⟨⟨.answered e r x, l, t⟩ :: newer, m₀, older, rfl, hm₀, ?_, ?_⟩
  · intro m' hm'
    rcases List.mem_cons.mp hm' with rfl | hm'
    · exact nofun
    · exact hnewer m' hm'
  · by_cases hr : r.waits
    · rw [exchanges_cons, Deed.exchange?_answered hr, Option.toList_some]
      exact hcomes.answered hr x
    · have hprompt : r.waits = false := by simpa using hr
      rw [exchanges_cons_of_none (Deed.exchange?_answered_of_prompt hprompt)]
      exact hcomes.skipped hprompt x

/-- At every moment the errand at work is one that has begun, and a visitor makes no calls. -/
inductive Scene.Traced (s : Service) : Scene → Prop where
  | idle (σ : Stage) : Traced s ⟨σ, []⟩
  | atWork {σ : Stage} {e : Errand} {p : Program e.Result} {waiting : Bool} :
    Follows s e p σ.past → Traced s ⟨σ, [⟨e, p, waiting⟩]⟩
  | visited {σ : Stage} {v e : Errand} {q : Program v.Result} {p : Program e.Result} :
    q.Prompt → Follows s e p σ.past → Traced s ⟨σ, [⟨v, q, false⟩, ⟨e, p, true⟩]⟩

theorem Scene.Traced.step (hg : ∀ q v, g.visitors q v → v.isPass = false) (h : c.Traced s)
    (hs : c.Step s g c') : c'.Traced s := by
  cases h with
  | idle σ =>
    cases hs with
    | begin => exact .atWork ⟨[], _, _, rfl, rfl, fun _ h => absurd h List.not_mem_nil, .refl _⟩
  | atWork h =>
    cases hs with
    | visit hv =>
      have hpass := hg _ _ hv
      refine .visited (Errand.prompt_program s hpass) (h.cons (fun e' he' => ?_) rfl)
      cases he'
      exact hpass
    | issue => exact .atWork (h.cons nofun rfl)
    | answer => exact .atWork (h.answered _)
    | finish | fail => exact .idle _
  | visited hq h =>
    cases hs with
    | issue hr =>
      rw [hq.1] at hr
      cases hr
    | answer =>
      exact .visited (hq.2 _) (h.cons nofun (Deed.exchange?_answered_of_prompt hq.1))
    | finish | fail => exact .atWork (h.cons nofun rfl)

theorem Reachable.traced (hg : ∀ q v, g.visitors q v → v.isPass = false) (h : Reachable s g c) :
    c.Traced s := by
  induction h with
  | start => exact .idle _
  | step _ hs ih => exact ih.step hg hs

/-- **A call that is issued goes on with the trace of its errand.** -/
theorem Reachable.of_issued (hg : ∀ q v, g.visitors q v → v.isPass = false) (h : Reachable s g c)
    (hpast : c.stage.past = ⟨.issued e r, l, t⟩ :: past) :
    ∃ newer m older, past = newer ++ m :: older ∧ m.deed = .began e ∧
      (∀ m' ∈ newer, ∀ e', m'.deed = .began e' → e'.isPass = false) ∧
      (e.program s).Trace (exchanges newer ++ [⟨r, none⟩]) none := by
  cases h with
  | start => cases hpast
  | step h hs =>
    have htraced := h.traced hg
    cases hs with
    | begin | visit | answer | finish | fail => cases hpast
    | issue hr =>
      obtain ⟨hm, rfl⟩ := List.cons.inj hpast
      cases hm
      cases htraced with
      | atWork hfollows =>
        obtain ⟨newer, m, older, hpast, hm, hnewer, hcomes⟩ := hfollows
        exact ⟨newer, m, older, hpast, hm, hnewer, hcomes.trace hr⟩
      | visited hq =>
        rw [hq.1] at hr
        cases hr

/-- **An answer is one that the regime admits.** -/
theorem Reachable.of_answered {newer older : List Entry} {x : r.Answer} (h : Reachable s g c)
    (hpast : c.stage.past = newer ++ ⟨.answered e r x, l, t⟩ :: older) : g.answers older r x := by
  obtain ⟨c', hc', hpast'⟩ := h.earlier newer hpast
  cases hc' with
  | start => cases hpast'
  | step _ hs =>
    cases hs with
    | begin | visit | issue | finish | fail => cases hpast'
    | answer _ _ hg =>
      obtain ⟨hm, rfl⟩ := List.cons.inj hpast'
      cases hm
      exact hg

end ImageCatalog
