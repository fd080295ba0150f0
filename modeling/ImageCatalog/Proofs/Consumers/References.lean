import ImageCatalog.Proofs.Consumers.Clerks
import ImageCatalog.Proofs.Run.Performance

/-!
# No reference is lost

Whatever lands in a waiting pass, the consumers of every record are those that the errands have
asked for, and a pass leaves everything in a record alone but what it keeps there itself. This is
read off the contract of the books at each moment of a run.

## Main results

* `Reachable.books` — the books at each moment of a run
* `references_kept` — consumers, identity and removal of all records, in all runs
-/

namespace ImageCatalog

variable {s : Service} {g : Regime} {c c' : Scene}

/-- The books are in order at each moment of a run, but for the demand of an errand at work. -/
theorem Reachable.books (hg : ∀ q v, g.visitors q v → v.isPass = false) (h : Reachable s g c) :
    (Books s none c.stage ∨ ∃ task ∈ c.tasks, ∃ p, task.errand.demand? s = some p ∧
      Books s (some p) c.stage) ∧ Latest s g c.stage := by
  have hduring : ∀ {σ : Stage} {tasks : List Task} {task : Task}, task ∈ tasks →
      (bookkeeping s g).during task.errand σ →
      (Books s none σ ∨ ∃ task ∈ tasks, ∃ p, task.errand.demand? s = some p ∧
        Books s (some p) σ) ∧ Latest s g σ := by
    intro σ tasks task hmem hd
    exact ⟨hd.1.imp_right fun hp => ⟨task, hmem, hp⟩, hd.2⟩
  cases h.keeps (bookkeeping_holds s hg) with
  | idle hi => exact ⟨.inl hi.1, hi.2⟩
  | atWork hd _ => exact hduring List.mem_cons_self hd
  | waiting _ hl _ => exact ⟨.inl hl.1, hl.2⟩
  | visited _ hd _ _ => exact hduring List.mem_cons_self hd

/-- Every errand there is. Everything but a pass may land wherever a pass waits; clock and answers
are free. -/
def Regime.interleaved : Regime where
  starts _ := true
  tick _ _ := true
  errands _ := true
  visitors _ v := !v.isPass
  answers _ _ _ := True

theorem Regime.isPass_of_interleaved {q : Request} {v : Errand}
    (h : Regime.interleaved.visitors q v) : v.isPass = false := by
  simpa [interleaved] using h

/-- **No reference is lost, and a pass changes nothing but what is its own.** At each moment of a
run a record is what it was created as, and its consumers are those of the tally; only while an
errand about consumers is at work on it, its demand may be met already. Each step changes the
records that its errand works on, and no others; what goes is removed by a pass, with no consumers
left in the tally. -/
theorem references_kept (s : Service) {c : Scene} (h : Reachable s .interleaved c) :
    (∀ n r, c.stage.record? n = some r →
      (∃ b, birth? n c.stage.past = some b ∧ b.name = n ∧ r.name = b.name ∧ r.spec = b.spec ∧
        r.created = b.created) ∧
      (r.consumers = tally s n c.stage.past ∨
        ∃ task ∈ c.tasks, ∃ d, task.errand.demand? s = some (n, d) ∧
          r.consumers = d.apply (tally s n c.stage.past))) ∧
    ∀ c', c.Step s .interleaved c' → ∃ d t, c'.stage = c.stage.after d c'.stage.ledger t ∧
      (∀ n, c'.stage.record? n ≠ c.stage.record? n → d.errand.WorksOn s c.stage.past n) ∧
      (∀ n r, c.stage.record? n = some r → c'.stage.record? n = none →
        d.errand.isPass ∧ tally s n c.stage.past = []) ∧
      ∀ n r r', d.errand.isPass → c.stage.record? n = some r → c'.stage.record? n = some r' →
        r.Akin r' := by
  refine ⟨fun n r hr => ?_, fun c' hstep => ?_⟩
  · have hidentity : ∀ {p}, Accounted s p c.stage.past n r →
        ∃ b, birth? n c.stage.past = some b ∧ b.name = n ∧ r.name = b.name ∧ r.spec = b.spec ∧
          r.created = b.created := by
      intro p ha
      obtain ⟨b, hb, hn, hspec, hcreated⟩ := ha.birth
      exact ⟨b, hb, hn, ha.name_eq.trans hn.symm, hspec, hcreated⟩
    obtain ⟨hbooks, _⟩ := h.books fun _ _ => Regime.isPass_of_interleaved
    rcases hbooks with hbooks | ⟨task, hmem, ⟨m, d⟩, hd, hbooks⟩
    · exact ⟨hidentity (hbooks n r hr), .inl (hbooks n r hr).consumers⟩
    · refine ⟨hidentity (hbooks n r hr), ?_⟩
      have hcons := (hbooks n r hr).consumers
      by_cases hm : m = n
      · subst hm
        rw [met_self] at hcons
        exact .inr ⟨task, hmem, d, hd, hcons⟩
      · rw [met_of_ne hm] at hcons
        exact .inl hcons
  · obtain ⟨d, t, hafter⟩ := hstep.after
    obtain ⟨_, hlatest⟩ := (h.step hstep).books fun _ _ => Regime.isPass_of_interleaved
    have hfair := hlatest c.stage d c'.stage.ledger t hafter
    exact ⟨d, t, hafter, hfair.frame, hfair.removal, hfair.pass⟩

/-- A consumer that comes while the image is taken out of a catalog keeps the record alive, and is
found in it when the pass is over. -/
theorem references_kept_in_sweep :
    let s := Performance.smallService .zero
    ∃ c r, Reachable s .interleaved c ∧ c.stage.record? "flatcar" = some r ∧
      r.consumers = ["late"] ∧ r.consumers = tally s "flatcar" c.stage.past := by
  intro s
  let found (c : Scene) : Bool :=
    c.tasks.isEmpty && (c.stage.record? "flatcar").any fun r => r.consumers == ["late"]
  obtain ⟨c, hc, hfound⟩ := Performance.exists_reachable (s := s)
    (g := .interleaved) (fun _ _ _ => trivial) (t := .epoch) rfl
    [.begin (.consumerAdded "early" "flatcar" "capv"), .begin (.consumerRemoved "early" "flatcar"),
      .begin (.pass "flatcar"), .visit (.consumerAdded "late" "flatcar" "capv"), .resume, .resume]
    found (by decide +kernel)
  simp only [found, Bool.and_eq_true, Option.any_eq_true, beq_iff_eq] at hfound
  obtain ⟨htasks, r, hr, hcons⟩ := hfound
  obtain ⟨_, htally | ⟨task, hmem, _⟩⟩ := (references_kept _ hc).1 "flatcar" r hr
  · exact ⟨c, r, hc, hr, hcons, htally⟩
  · rw [List.isEmpty_iff.mp htasks] at hmem
    cases hmem

end ImageCatalog
