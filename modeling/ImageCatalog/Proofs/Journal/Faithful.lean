import ImageCatalog.Proofs.Consumers.References
import ImageCatalog.Proofs.Journal.Chronicle

/-!
# The journal is faithful, and records stay in good shape

What the contract of records and journal comes to, at each moment of a run in which errands about
consumers and deletion requests land wherever a pass waits. A store in memory is never out of order,
so that the exception for outages is none in a run with such a store.

## Main results

* `journal_faithful` — the journal, replayed, gives the records, and no report contradicts another
* `records_valid` — every record is in good shape, and none is left deleted
-/

namespace ImageCatalog

variable {s : Service} {g : Regime} {c : Scene}

/-- Records and journal at each moment of a run. -/
theorem Reachable.sound (hg : ∀ q v, g.visitors q v → v.isPass = false) (h : Reachable s g c) :
    Tidy s (fun _ => True) (fun _ => ∃ task ∈ c.tasks, task.errand.isPass) c.stage ∧
      Chained (journal c.stage.past) ∧ (c.tasks = [] → InStep c.stage) := by
  have hduring : ∀ {σ : Stage} {tasks : List Task} {task : Task}, task ∈ tasks →
      (chronicle s).during task.errand σ →
      Tidy s (fun _ => True) (fun _ => ∃ task ∈ tasks, task.errand.isPass) σ ∧
        Chained (journal σ.past) ∧ (tasks = [] → InStep σ) := by
    intro σ tasks task hmem hd
    refine ⟨hd.1.mono (fun _ h => h) fun _ hp => ⟨task, hmem, hp⟩, hd.2, ?_⟩
    rintro rfl
    cases hmem
  have hsound : ∀ {σ : Stage} {tasks : List Task}, Sound s (fun _ => True) (fun _ => False) σ →
      Tidy s (fun _ => True) (fun _ => ∃ task ∈ tasks, task.errand.isPass) σ ∧
        Chained (journal σ.past) ∧ (tasks = [] → InStep σ) := by
    intro σ tasks h
    exact ⟨h.toTidy.mono (fun _ h => h) fun _ hf => hf.elim, h.chained, fun _ => h.toInStep⟩
  cases h.keeps (chronicle_holds s hg) with
  | idle hi => exact hsound hi
  | atWork hd _ => exact hduring List.mem_cons_self hd
  | waiting _ hl _ => exact hsound hl
  | visited _ hd _ _ => exact hduring List.mem_cons_self hd

/-- **The journal is faithful.** Every change of phase that was reported starts from the phase that
the reports before it lead to, and is a change. While nothing is at work, the journal replayed gives
the names that there are, each with the provider, the consumers and the phase of its record. -/
theorem journal_faithful (s : Service) {c : Scene} (h : Reachable s .interleaved c) :
    (∀ before n source target after,
      journal c.stage.past = before ++ .stateChanged n source target :: after →
      (∃ k, replay n before = some k ∧ k.phase = source) ∧ source ≠ some target) ∧
    (c.tasks = [] →
      ∀ n, replay n (journal c.stage.past) = (c.stage.record? n).map Record.sketch) := by
  obtain ⟨_, hchained, hstep⟩ := h.sound fun _ _ => Regime.isPass_of_interleaved
  refine ⟨?_, fun htasks => (hstep htasks).replay⟩
  intro before n source target after heq
  exact hchained before (.stateChanged n source target) after heq

/-- A consumer that comes while the image is taken out of a catalog: the record is on its way out,
and the journal has both. -/
theorem journal_faithful_in_sweep :
    let s := Performance.smallService .zero
    ∃ c before after k r, Reachable s .interleaved c ∧ c.tasks = [] ∧
      journal c.stage.past =
        before ++ .stateChanged "flatcar" (some .pending) .deleting :: after ∧
      replay "flatcar" before = some k ∧ k.phase = some .pending ∧
      c.stage.record? "flatcar" = some r ∧ r.consumers = ["late"] ∧
      replay "flatcar" (journal c.stage.past) = some r.sketch := by
  intro s
  let found (c : Scene) : Bool :=
    c.tasks.isEmpty &&
      (journal c.stage.past).contains (.stateChanged "flatcar" (some .pending) .deleting) &&
      (c.stage.record? "flatcar").any fun r => r.consumers == ["late"]
  obtain ⟨c, hc, hfound⟩ := Performance.exists_reachable (s := s)
    (g := .interleaved) (fun _ _ _ => trivial) (t := .epoch) rfl
    [.begin (.consumerAdded "early" "flatcar" "capv"), .begin (.consumerRemoved "early" "flatcar"),
      .begin (.pass "flatcar"), .visit (.consumerAdded "late" "flatcar" "capv"), .resume, .resume]
    found (by decide +kernel)
  simp only [found, Bool.and_eq_true, List.contains_iff_mem, Option.any_eq_true, beq_iff_eq]
    at hfound
  obtain ⟨⟨htasks, hmem⟩, r, hr, hcons⟩ := hfound
  have htasks' : c.tasks = [] := List.isEmpty_iff.mp htasks
  obtain ⟨before, after, heq⟩ := List.append_of_mem hmem
  obtain ⟨hchain, hreplay⟩ := journal_faithful s hc
  obtain ⟨⟨k, hk, hphase⟩, _⟩ := hchain before _ _ _ after heq
  refine ⟨c, before, after, k, r, hc, htasks', heq, hk, hphase, hr, hcons, ?_⟩
  rw [hreplay htasks' "flatcar", hr]
  rfl

/-- **Records stay in good shape.** While no pass is at work, none of them is deleted, unless a
store was out of order when a record was to be removed. -/
theorem records_valid (s : Service) {c : Scene} (h : Reachable s .interleaved c) :
    (∀ n r, c.stage.record? n = some r → r.Valid s.setup.period n) ∧
    ((∀ m ∈ c.stage.past, m.deed.isOutage = false) →
      (∀ task ∈ c.tasks, task.errand.isPass = false) →
      ∀ n r, c.stage.record? n = some r → r.phase ≠ some .deleted) := by
  obtain ⟨htidy, _, _⟩ := h.sound fun _ _ => Regime.isPass_of_interleaved
  refine ⟨htidy.valid, ?_⟩
  intro hstore hpass n r hr hphase
  rcases htidy.deleted n r hr hphase with ⟨task, hmem, ht⟩ | ⟨m, hmem, hm⟩
  · rw [hpass task hmem] at ht
    cases ht
  · rw [hstore m hmem] at hm
    cases hm

/-- With a period of one minute, a record that nobody needs any more waits for deletion after a
pass. -/
theorem records_valid_of_one_minute :
    let s := Performance.smallService (.ofSeconds 60)
    ∃ c r, Reachable s .interleaved c ∧ c.stage.record? "flatcar" = some r ∧
      r.phase = some .awaitingDeletion ∧ r.Valid (.ofSeconds 60) "flatcar" ∧
      ∀ n r', c.stage.record? n = some r' → r'.phase ≠ some .deleted := by
  intro s
  let found (c : Scene) : Bool :=
    c.tasks.isEmpty && c.stage.past.all (fun m => !m.deed.isOutage) &&
      (c.stage.record? "flatcar").any fun r => r.phase == some .awaitingDeletion
  obtain ⟨c, hc, hfound⟩ := Performance.exists_reachable (s := s)
    (g := .interleaved) (fun _ _ _ => trivial) (t := .epoch) rfl
    [.begin (.consumerAdded "cluster" "flatcar" "capv"),
      .begin (.consumerRemoved "cluster" "flatcar"), .begin (.pass "flatcar")]
    found (by decide +kernel)
  simp only [found, Bool.and_eq_true, List.all_eq_true, Bool.not_eq_true', Option.any_eq_true,
    beq_iff_eq] at hfound
  obtain ⟨⟨htasks, hstore⟩, r, hr, hphase⟩ := hfound
  obtain ⟨hvalid, hdeleted⟩ := records_valid s hc
  refine ⟨c, r, hc, hr, hphase, hvalid "flatcar" r hr, hdeleted hstore ?_⟩
  intro task hmem
  rw [List.isEmpty_iff.mp htasks] at hmem
  cases hmem

end ImageCatalog
