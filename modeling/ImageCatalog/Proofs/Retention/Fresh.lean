import ImageCatalog.Proofs.Consumers.Walk
import ImageCatalog.Proofs.Pass.Walk
import ImageCatalog.Proofs.Retention.Grace
import ImageCatalog.Proofs.Run.Performance

/-!
# Fresh records

A record is created before its first consumer is written, so for a while it is there and nobody
needs it. Retention leaves a record alone that was never looked at, and tells such a record by its
phase. But a pass that leaves it alone looks at it: it brings the image to its locations, and writes
how far that has come. So the record is safe from the first pass that writes its phase, and not from
the next one.

Here passes are all that happens, from a moment on at which the record is there without a phase and
without a deletion request.

## Main definitions

* `Regime.passing` — runs of passes
* `Looked` — a pass has given the record its first phase, and another pass may have begun since
* `Guarded` — what is known of the record in the meantime

## Main results

* `Guarded.write`, `guardCourse` — what a pass makes of a record, fresh or not
* `deletion_after_look` — a fresh record is deleted by a later pass than the one that gave it a
  phase
* `not_fresh_record_kept` — it may well be deleted
-/

namespace ImageCatalog

/-- Passes, one after the other. Clock and answers are free. These runs go on from a moment that is
given. -/
def Regime.passing : Regime where
  starts _ := false
  tick _ _ := true
  errands e := e.isPass
  visitors _ _ := false
  answers _ _ _ := True

/-- A pass writes a phase into a record that has none. -/
def Entry.Looks (m : Entry) (name : String) (past : List Entry) : Prop :=
  ∃ e r r', m.deed = .answered e (.replaceRecord r') (.ok r'.bumped) ∧ e.isPass ∧ r'.name = name ∧
    (ledgerAfter past).get? name = some r ∧ r.phase = none ∧ r'.phase ≠ none

/-- Since `past₀` a pass has given the record its first phase; if `opened` is set, another pass has
begun after that. -/
def Looked (opened : Bool) (name : String) (past₀ past : List Entry) : Prop :=
  ∃ newer m older, past = newer ++ m :: (older ++ past₀) ∧ m.Looks name (older ++ past₀) ∧
    (opened → ∃ m' ∈ newer, m'.deed.Opens)

/-- What is known of the record of a name since a stage at which it was `r₀`. -/
structure Guarded (past₀ : List Entry) (name : String) (r₀ : Record) (opened : Bool) (σ : Stage) :
    Prop where
  past : ∃ run, σ.past = run ++ past₀
  named : ∀ key r, σ.record? key = some r → r.name = key
  /-- Before the first look, the record is there as it was. -/
  fresh : Looked false name past₀ σ.past ∨
    ∃ r, σ.record? name = some r ∧ r₀.Akin r ∧ r.phase = none ∧ r.deletion = none
  looked : ∀ r, σ.record? name = some r → r.phase ≠ none → Looked opened name past₀ σ.past
  due : ∀ r, σ.record? name = some r → r.deletion ≠ none → Looked true name past₀ σ.past
  latest : ∀ m run, σ.past = m :: (run ++ past₀) → m.Deletes name (run ++ past₀) →
    Looked true name past₀ (run ++ past₀)

variable {past₀ past : List Entry} {name key : String} {r₀ r r' : Record} {opened opened' : Bool}
  {σ σ' : Stage} {s : Service} {e : Errand} {d : Deed} {t : Instant} {l : Ledger} {spec : Spec}

namespace Looked

theorem cons (h : Looked opened name past₀ past) (m : Entry) :
    Looked opened name past₀ (m :: past) := by
  obtain ⟨newer, m₁, older, rfl, hlooks, hopened⟩ := h
  refine ⟨m :: newer, m₁, older, rfl, hlooks, ?_⟩
  intro ho
  obtain ⟨m', hm', hopens⟩ := hopened ho
  exact ⟨m', List.mem_cons_of_mem _ hm', hopens⟩

theorem weaken (h : Looked opened name past₀ past) (hle : opened' → opened) :
    Looked opened' name past₀ past := by
  obtain ⟨newer, m₁, older, rfl, hlooks, hopened⟩ := h
  exact ⟨newer, m₁, older, rfl, hlooks, fun ho => hopened (hle ho)⟩

/-- Another pass begins. -/
theorem opens (h : Looked opened name past₀ past) {m : Entry} (hm : m.deed.Opens) :
    Looked true name past₀ (m :: past) := by
  obtain ⟨newer, m₁, older, rfl, hlooks, _⟩ := h
  exact ⟨m :: newer, m₁, older, rfl, hlooks, fun _ => ⟨m, List.mem_cons_self, hm⟩⟩

end Looked

/-! ### Deeds -/

namespace Guarded

theorem weaken (h : Guarded past₀ name r₀ opened σ) : Guarded past₀ name r₀ false σ where
  past := h.past
  named := h.named
  fresh := h.fresh
  looked r hr hp := (h.looked r hr hp).weaken fun ho => by cases ho
  due := h.due
  latest := h.latest

/-- What is known after a deed. -/
theorem after (h : Guarded past₀ name r₀ opened σ)
    (hnamed : ∀ key r, l.get? key = some r → r.name = key)
    (hfresh : Looked false name past₀ (⟨d, l, t⟩ :: σ.past) ∨
      ∃ r, l.get? name = some r ∧ r₀.Akin r ∧ r.phase = none ∧ r.deletion = none)
    (hlooked : ∀ r, l.get? name = some r → r.phase ≠ none →
      Looked opened' name past₀ (⟨d, l, t⟩ :: σ.past))
    (hdue : ∀ r, l.get? name = some r → r.deletion ≠ none → Looked true name past₀ σ.past)
    (hlatest : Entry.Deletes ⟨d, l, t⟩ name σ.past → Looked true name past₀ σ.past) :
    Guarded past₀ name r₀ opened' (σ.after d l t) where
  past := by
    obtain ⟨run, hrun⟩ := h.past
    exact ⟨⟨d, l, t⟩ :: run, by rw [Stage.past_after, hrun, List.cons_append]⟩
  named := hnamed
  fresh := hfresh
  looked := hlooked
  due r hr hd := (hdue r hr hd).cons _
  latest m run hpast hm := by
    obtain ⟨rfl, hrun⟩ := List.cons.inj hpast
    rw [← hrun] at hm ⊢
    exact hlatest hm

/-- **A deed that leaves all records alone.** -/
theorem keep (h : Guarded past₀ name r₀ opened σ)
    (hd : ∀ e call, d = .issued e (.withdraw call) → call.record = name →
      Looked true name past₀ σ.past) (t : Instant) :
    Guarded past₀ name r₀ opened (σ.after d σ.ledger t) := by
  refine h.after h.named (h.fresh.imp_left fun hl => hl.cons _)
    (fun r hr hp => (h.looked r hr hp).cons _) h.due ?_
  rintro (⟨e, call, he, hcall⟩ | ⟨hsome, hnone⟩)
  · exact hd e call he hcall
  · exact absurd hnone hsome

/-- A deed that leaves all records alone and starts no withdrawal. -/
theorem keep_of_ne (h : Guarded past₀ name r₀ opened σ)
    (hd : ∀ e call, d ≠ .issued e (.withdraw call)) (t : Instant) :
    Guarded past₀ name r₀ opened (σ.after d σ.ledger t) :=
  h.keep (fun e call he => absurd he (hd e call)) t

/-- A pass begins. -/
theorem opens (h : Guarded past₀ name r₀ opened σ) (hd : d.Opens) (t : Instant) :
    Guarded past₀ name r₀ true (σ.after d σ.ledger t) := by
  have hnext : Guarded past₀ name r₀ opened (σ.after d σ.ledger t) := by
    refine h.keep_of_ne ?_ t
    rintro e call rfl
    cases hd
  refine ⟨hnext.past, hnext.named, hnext.fresh, ?_, hnext.due, hnext.latest⟩
  intro r hr hp
  exact (h.looked r hr hp).opens hd

/-- A pass that gives the record its first phase has looked at it. -/
theorem looked_write (h : Guarded past₀ name r₀ opened σ) (he : e.isPass)
    (hr : σ.record? name = some r) (hname : r'.name = name) (hle : opened' → opened)
    (hphase : r.phase ≠ none ∨ opened' = false) (hp : r'.phase ≠ none) (t : Instant) :
    Looked opened' name past₀ (σ.write e r' t).past := by
  by_cases hold : r.phase = none
  · obtain rfl := hphase.resolve_left (absurd hold)
    obtain ⟨run, hrun⟩ := h.past
    refine ⟨[], ⟨.answered e (.replaceRecord r') (.ok r'.bumped), σ.ledger.put r'.bumped, t⟩, run,
      ?_, ⟨e, r, r', rfl, he, hname, ?_, hold, hp⟩, ?_⟩
    · rw [Stage.write, Stage.past_after, hrun, List.nil_append]
    · rw [← hrun]
      exact hr
    · intro ho
      cases ho
  · exact ((h.looked r hr hold).weaken hle).cons _

/-- A record that is written back without a phase and a deletion request is as fresh as before. -/
theorem fresh_write (h : Guarded past₀ name r₀ opened σ) (hr : σ.record? key = some r)
    (ha : r.Akin r') (t : Instant)
    (hlooked : key = name → r'.phase ≠ none ∨ r'.deletion ≠ none →
      Looked false name past₀ (σ.write e r' t).past) :
    Looked false name past₀ (σ.write e r' t).past ∨
      ∃ q, (σ.write e r' t).record? name = some q ∧ r₀.Akin q ∧ q.phase = none ∧
        q.deletion = none := by
  have hname : r'.name = key := ha.name.trans (h.named key r hr)
  rcases h.fresh with hl | ⟨q, hq, hakin, hnone, hdel⟩
  · exact .inl (hl.cons _)
  rw [Stage.record?_write, hname]
  by_cases hn : name = key
  · subst hn
    obtain rfl := Option.some.inj (hr.symm.trans hq)
    rw [if_pos rfl]
    by_cases hfresh : r'.phase = none ∧ r'.deletion = none
    · refine .inr ⟨r'.bumped, rfl, ?_, hfresh.1, hfresh.2⟩
      exact ⟨ha.name.trans hakin.name, ha.created.trans hakin.created,
        ha.spec.trans hakin.spec, ha.consumers.trans hakin.consumers⟩
    · exact .inl (hlooked rfl (Decidable.not_and_iff_not_or_not.mp hfresh))
  · rw [if_neg hn]
    exact .inr ⟨q, hq, hakin, hnone, hdel⟩

/-- **A pass writes a record.** It may give it its first phase, which is then one of this pass, and
it asks for a deletion only after the look of an earlier one. -/
theorem write (h : Guarded past₀ name r₀ opened σ) (he : e.isPass) (hr : σ.record? key = some r)
    (ha : r.Akin r') (hle : opened' → opened)
    (hphase : key = name → r'.phase ≠ none → r.phase ≠ none ∨ opened' = false)
    (hdeletion : key = name → r'.deletion ≠ none → Looked true name past₀ σ.past) (t : Instant) :
    Guarded past₀ name r₀ opened' (σ.write e r' t) := by
  have hname : r'.name = key := ha.name.trans (h.named key r hr)
  have hlooked : key = name → r'.phase ≠ none →
      Looked opened' name past₀ (σ.write e r' t).past := by
    rintro rfl hp
    exact h.looked_write he hr hname hle (hphase rfl hp) hp t
  refine h.after ?_ (h.fresh_write hr ha t ?_) ?_ ?_ ?_
  · intro n q hq
    obtain ⟨rfl, rfl⟩ | ⟨_, hq⟩ := Ledger.of_get?_put (r := r'.bumped) hname hq
    · exact hname
    · exact h.named n q hq
  · rintro hn (hp | hd)
    · exact (hlooked hn hp).weaken fun ho => by cases ho
    · exact ((hdeletion hn hd).weaken fun _ => rfl).cons _
  · intro q hq hp
    obtain ⟨rfl, rfl⟩ | ⟨_, hq⟩ := Ledger.of_get?_put (r := r'.bumped) hname hq
    · exact hlooked rfl hp
    · exact ((h.looked q hq hp).weaken hle).cons _
  · intro q hq hd
    obtain ⟨rfl, rfl⟩ | ⟨_, hq⟩ := Ledger.of_get?_put (r := r'.bumped) hname hq
    · exact hdeletion rfl hd
    · exact h.due q hq hd
  · rintro (⟨e', call, he', _⟩ | ⟨hsome, hnone⟩)
    · exact absurd he' (Deed.answered_ne_issued _ _)
    · exact absurd (Ledger.of_get?_put_eq_none hnone) hsome

/-- **A record is removed**, after the look of an earlier pass if it is the one. -/
theorem erase (h : Guarded past₀ name r₀ opened σ)
    (hlooked : key = name → Looked true name past₀ σ.past) (hd : ∀ e r, d ≠ .issued e r)
    (t : Instant) : Guarded past₀ name r₀ opened (σ.after d ⟨σ.ledger.records.erase key⟩ t) := by
  have hget : ∀ n q, (⟨σ.ledger.records.erase key⟩ : Ledger).get? n = some q →
      σ.record? n = some q := by
    intro n q hq
    exact (Ledger.of_get?_erase hq).2
  refine h.after (fun n q hq => h.named n q (hget n q hq)) ?_
    (fun q hq hp => (h.looked q (hget name q hq) hp).cons _)
    (fun q hq hdel => h.due q (hget name q hq) hdel) ?_
  · by_cases hn : name = key
    · exact .inl (((hlooked hn.symm).weaken fun _ => rfl).cons _)
    · refine h.fresh.imp (fun hl => hl.cons _) ?_
      rintro ⟨q, hq, hrest⟩
      refine ⟨q, ?_, hrest⟩
      rw [Ledger.get?_erase, if_neg hn]
      exact hq
  · rintro (⟨e', call, he', _⟩ | ⟨hsome, hnone⟩)
    · exact absurd he' (hd _ _)
    · by_cases hn : name = key
      · exact hlooked hn.symm
      · rw [Ledger.get?_erase, if_neg hn] at hnone
        exact absurd hnone hsome

end Guarded

/-! ### Passes -/

/-- The record is deleted after the look of an earlier pass only. Nobody lands while a pass
waits. -/
def guard (past₀ : List Entry) (name : String) (r₀ : Record) : Contract where
  idle := Guarded past₀ name r₀ false
  during _ := Guarded past₀ name r₀ false
  lull := Guarded past₀ name r₀ false
  may σ σ' := σ' = σ
  may_refl _ := rfl
  may_trans h h' := h'.trans h

/-- What holds while a pass takes an image out of the catalogs. -/
def GuardedSweep (past₀ : List Entry) (name : String) (r₀ : Record) (key : String) (σ : Stage) :
    Prop :=
  Guarded past₀ name r₀ false σ ∧ (key = name → Looked true name past₀ σ.past)

theorem steady_guarded :
    Role.Steady ⟨guard past₀ name r₀, .passing, e, false⟩ (Guarded past₀ name r₀ opened) where
  during _ h := h.weaken
  quiet _ _ t h _ hd _ := h.keep_of_ne (fun e call => hd.ne_issued e (.withdraw call)) t

theorem steady_guardedSweep :
    Role.Steady ⟨guard past₀ name r₀, .passing, e, false⟩ (GuardedSweep past₀ name r₀ key) where
  during _ h := h.1
  quiet _ _ t h he hd ht := ⟨steady_guarded.quiet _ _ t h.1 he hd ht, fun hn => (h.2 hn).cons _⟩

/-- A deletion is requested after the look of an earlier pass. -/
theorem Guarded.looked_of_requested (h : Guarded past₀ name r₀ opened σ)
    (hr : σ.record? key = some r) (hreq : r.isDeletionRequested) (hn : key = name) :
    Looked true name past₀ σ.past := by
  subst hn
  refine h.due r hr ?_
  intro hnone
  simp [Record.isDeletionRequested, hnone] at hreq

/-- A pass writes the record without a deletion request. -/
theorem Guarded.writes (h : Guarded past₀ name r₀ opened σ) (he : e.isPass)
    (hr : σ.record? key = some r) (hc : r.Keeps r')
    (hdeletion : key = name → r'.deletion ≠ none → Looked true name past₀ σ.past)
    (events : List Event) :
    Role.Writes ⟨guard past₀ name r₀, .passing, e, false⟩ (Guarded past₀ name r₀ false) r' events
      σ := by
  intro t _
  exact steady_guarded.owes events
    (h.write he hr hc.toAkin (fun ho => by cases ho) (fun _ _ => .inr rfl) hdeletion t)

theorem GuardedSweep.writes (h : GuardedSweep past₀ name r₀ key σ) (he : e.isPass)
    (hr : σ.record? key = some r) (hc : r.Keeps r') (events : List Event) :
    Role.Writes ⟨guard past₀ name r₀, .passing, e, false⟩ (GuardedSweep past₀ name r₀ key) r' events
      σ := by
  intro t _
  refine steady_guardedSweep.owes events ⟨?_, fun hn => (h.2 hn).cons _⟩
  exact h.1.write he hr hc.toAkin (fun ho => by cases ho) (fun _ _ => .inr rfl)
    (fun hn _ => h.2 hn) t

theorem Retention.phase_of_deleteNow {period : Duration}
    (h : Retention.decide period r t = .deleteNow) : r.phase ≠ none := by
  intro hnone
  by_cases hr : r.isReferenced <;> simp [Retention.decide, hr, hnone] at h

/-- **The course of a pass** over a record, fresh or not. -/
def guardCourse (past₀ : List Entry) (name : String) (r₀ : Record) (he : e.isPass)
    (period : Duration) (key : String) :
    Course ⟨guard past₀ name r₀, .passing, e, false⟩ period key (Guarded past₀ name r₀ true)
      (Guarded past₀ name r₀ false) where
  base := Guarded past₀ name r₀ false
  opened := Guarded past₀ name r₀ true
  looked _ := Guarded past₀ name r₀ true
  placing := Guarded past₀ name r₀ false
  sweep _ := GuardedSweep past₀ name r₀ key
  leaving _ := GuardedSweep past₀ name r₀ key
  alone := rfl
  still_base := steady_guarded.still
  still_opened := steady_guarded.still
  still_looked _ := steady_guarded.still
  still_placing := steady_guarded.still
  still_sweep _ := steady_guardedSweep.still
  still_leaving _ := steady_guardedSweep.still
  base_of_opened h := h.weaken
  base_of_looked h := h.weaken
  base_of_placing h := h
  placing_of_sweep h := h.1
  home_of_base h := h
  lull_of_placing h := h
  named h hr := h.named _ _ hr
  read x h _ := h.keep_of_ne (fun _ _ => Deed.answered_ne_issued _ _) _
  drop {_ r} h hr := by
    intro t _
    refine h.write he hr r.calm_dropDeletion.toAkin id (fun _ hp => .inl hp) ?_ t
    intro _ hd
    exact absurd rfl hd
  now h _ := h.keep_of_ne (fun _ _ => Deed.answered_ne_issued _ _) _
  place h _ _ := h
  endWait {_ _ r} h hr _ _ := by
    refine h.writes he hr r.calm_revive.toKeeps ?_ []
    intro _ hd
    exact absurd rfl hd
  mark {t _ r} h hr hd := by
    refine h.writes he hr (r.keeps_requestDeletion t) ?_ []
    rintro rfl _
    exact h.looked r hr (Retention.phase_of_deleteNow hd)
  stamp {t _ r _} h hr _ := by
    refine h.writes he hr (r.keeps_stampLastUsed _ t) ?_ _
    rintro rfl hd
    exact h.due r hr hd
  issue h hr _ := by
    refine h.keep_of_ne ?_ _
    intro e' call hi
    cases hi
    exact hr call rfl
  visits {σ σ'} h hm := by
    obtain rfl : σ' = σ := hm
    exact h
  answered h hr ht := steady_guarded.answered h hr _ ht
  enter {_ r phase} h hr _ hwaits _ _ := by
    refine h.writes he hr (r.calm_phase phase hwaits).toKeeps ?_ _
    rintro rfl hd
    exact h.due r hr hd
  start {_ r} h hr hreq _ _ := by
    have hsweep : GuardedSweep past₀ name r₀ key _ := ⟨h, h.looked_of_requested hr hreq⟩
    exact hsweep.writes he hr (r.calm_clearLastUsed .deleting (by decide)).toKeeps _
  started h hr hreq _ _ := ⟨h, h.looked_of_requested hr hreq⟩
  enter_sweep {_ _ r} h hr _ := h.writes he hr (r.calm_phase .deleting (by decide)).toKeeps _
  withdraw {_ σ σ' t call} h hcall _ _ _ hm := by
    obtain rfl : σ' = σ.after (.issued e (.withdraw call)) σ.ledger t := hm
    refine ⟨h.1.keep ?_ t, fun hn => (h.2 hn).cons _⟩
    intro e' call' hi hname
    cases hi
    exact h.2 (hcall.symm.trans hname)
  withdrawn h _ _ ht := steady_guardedSweep.answered h rfl _ ht
  leave {_ _ r} h hr _ _ := h.writes he hr (r.calm_phase .deleted (by decide)).toKeeps _
  left h _ _ _ := h
  removed h _ _ _ :=
    steady_guarded.owes _ (h.1.erase h.2 Deed.answered_ne_issued _)
  stuck h _ _ := h.1.keep_of_ne (fun _ _ => Deed.answered_ne_issued _ _) _

/-- **Passes delete the record only after an earlier look.** -/
theorem guarded_of_isPass (hpass : e.isPass) (h : Guarded past₀ name r₀ false σ)
    {Q : Except Failure e.Result → Stage → Prop}
    (hend : ∀ x σ', Guarded past₀ name r₀ false σ' → Q x σ') (t : Instant) :
    Role.Meets ⟨guard past₀ name r₀, .passing, e, false⟩ (e.program s) Q
      (σ.after (.began e) σ.ledger t) := by
  have hrun := fun key =>
    (guardCourse past₀ name r₀ hpass s.setup.period key).triple_run (s := s.setup) rfl
  cases e with
  | pass key =>
    have hopen : Guarded past₀ name r₀ true (σ.after (.began (.pass key)) σ.ledger t) :=
      h.opens (by trivial) t
    refine (hrun key _ hopen).mono ?_
    intro x σ' hx
    cases x <;> exact hend _ σ' hx
  | passAll =>
    have hbegan : Guarded past₀ name r₀ false (σ.after (.began .passAll) σ.ledger t) := by
      refine h.keep_of_ne ?_ t
      intro e' call hi
      cases hi
    have hround := triple_runAll hrun steady_guarded.still (fun _ h => h.weaken)
      fun _ t _ h _ => h.opens (by trivial) t
    refine (hround _ hbegan).mono ?_
    intro x σ' hx
    cases x <;> exact hend _ σ' hx
  | consumerAdded | consumerRemoved | releaseAdded | releaseRemoved | requestDeletion =>
    cases hpass

/-- **The record is deleted only after an earlier look.** -/
theorem guard_holds (s : Service) (past₀ : List Entry) (name : String) (r₀ : Record) :
    (guard past₀ name r₀).Holds .passing s where
  start _ ht := by cases ht
  errand e σ t he h _ := by
    have hend : ∀ x σ', Guarded past₀ name r₀ false σ' →
        (guard past₀ name r₀).AtEnd .passing e x σ' := by
      intro x σ' h' t' _
      refine h'.keep_of_ne ?_ t'
      intro e' call hi
      cases hi
    refine ⟨?_, guarded_of_isPass he h hend t⟩
    refine h.keep_of_ne ?_ t
    intro e' call hi
    cases hi
  visitor _ _ _ _ hv := by cases hv

/-! ### Runs -/

/-- What is known in a run that goes on from a stage at which the record is fresh. -/
theorem Scene.Runs.guarded {c : Scene} (h : Scene.Runs s .passing ⟨σ, []⟩ c)
    (hnamed : ∀ key r, σ.record? key = some r → r.name = key) (hr : σ.record? name = some r)
    (hphase : r.phase = none) (hdeletion : r.deletion = none) :
    Guarded σ.past name r false c.stage := by
  have hstart : Guarded σ.past name r false σ := by
    refine ⟨⟨[], rfl⟩, hnamed, .inr ⟨r, hr, .refl r, hphase, hdeletion⟩, ?_, ?_, ?_⟩
    · intro q hq hp
      obtain rfl := Option.some.inj (hr.symm.trans hq)
      exact absurd hphase hp
    · intro q hq hd
      obtain rfl := Option.some.inj (hr.symm.trans hq)
      exact absurd hdeletion hd
    · intro m run hpast
      have hlength := congrArg List.length hpast
      simp at hlength
      omega
  have hkept : (guard σ.past name r).Kept .passing ⟨σ, []⟩ := .idle hstart
  cases hkept.runs (guard_holds s σ.past name r) h with
  | idle hi => exact hi
  | atWork hd _ => exact hd
  | waiting _ hl _ => exact hl
  | visited _ hd _ _ => exact hd

/-- **A fresh record is deleted by a later pass than the one that gave it a phase.** While passes
are all that happens, a record without a phase and without a deletion request stays as it is until a
pass gives it its first phase. Its image is withdrawn, or the record removed, only after that, and
after another pass has begun. -/
theorem deletion_after_look (s : Service) {σ : Stage} {name : String} {r : Record}
    (hnamed : ∀ key q, σ.record? key = some q → q.name = key) (hr : σ.record? name = some r)
    (hphase : r.phase = none) (hdeletion : r.deletion = none) {c : Scene}
    (h : Scene.Runs s .passing ⟨σ, []⟩ c) :
    (Looked false name σ.past c.stage.past ∨
      ∃ q, c.stage.record? name = some q ∧ r.Akin q ∧ q.phase = none ∧ q.deletion = none) ∧
    ∀ m run, c.stage.past = m :: (run ++ σ.past) → m.Deletes name (run ++ σ.past) →
      Looked true name σ.past (run ++ σ.past) := by
  have hguarded := h.guarded hnamed hr hphase hdeletion
  exact ⟨hguarded.fresh, hguarded.latest⟩

/-- The moment between the creation of a record and the write of its first consumer. -/
def Performance.betweenWrites : Performance :=
  let p := opening .epoch
  let σ := p.scene.stage.create (.consumerAdded "cluster" "flatcar" "capv")
    (.new "flatcar" ⟨"flatcar", "capv"⟩ .epoch) .epoch
  ⟨⟨σ, []⟩, { p.world with store := .ledger σ.ledger }⟩

theorem Performance.named_betweenWrites (key : String) (r : Record)
    (h : betweenWrites.scene.stage.record? key = some r) : r.name = key := by
  have hget : (Stage.create (.start .epoch) (.consumerAdded "cluster" "flatcar" "capv")
      (.new "flatcar" ⟨"flatcar", "capv"⟩ .epoch) .epoch).record? key = some r := h
  rw [Stage.record?_create] at hget
  split at hget
  · rename_i hkey
    rw [← Option.some.inj hget, hkey]
    rfl
  · rw [Stage.record?_start] at hget
    cases hget

/-- Without a period, the second pass withdraws the image of a record that nobody has needed yet. -/
theorem exists_deletes_fresh :
    ∃ c m run, Performance.betweenWrites.scene.Runs (Performance.smallService .zero) .passing c ∧
      c.stage.past = m :: (run ++ Performance.betweenWrites.scene.stage.past) ∧
      m.Deletes "flatcar" (run ++ Performance.betweenWrites.scene.stage.past) := by
  let found (c : Scene) : Bool := c.withdrawal?.any fun call => call.record == "flatcar"
  obtain ⟨c, hc, hfound⟩ := Performance.exists_runs (s := Performance.smallService .zero)
    (g := .passing) (fun _ _ _ => trivial) (p := Performance.betweenWrites) rfl
    [.begin (.pass "flatcar"), .resume, .resume, .resume, .resume, .resume, .resume,
      .begin (.pass "flatcar")]
    found (by decide +kernel)
  obtain ⟨call, hcall, hname⟩ := (Option.any_eq_true _ _).mp hfound
  obtain ⟨e, l, t, past, hpast⟩ := Scene.of_withdrawal? hcall
  obtain ⟨run, hrun⟩ := hc.past
  cases run with
  | nil =>
    -- The record was created last, and nothing withdrawn.
    rw [List.nil_append, hpast] at hrun
    cases hrun
  | cons m run =>
    refine ⟨c, m, run, hc, hrun, ?_⟩
    rw [hpast] at hrun
    obtain ⟨rfl, -⟩ := List.cons.inj hrun
    exact .inl ⟨e, call, rfl, eq_of_beq hname⟩

/-- There is such a run: the first of two passes has given the record its phase, and the second
withdraws the image. -/
theorem deletion_after_look_of_two_passes :
    let s := Performance.smallService .zero
    let σ := Performance.betweenWrites.scene.stage
    ∃ c m run, Scene.Runs s .passing ⟨σ, []⟩ c ∧ c.stage.past = m :: (run ++ σ.past) ∧
      m.Deletes "flatcar" (run ++ σ.past) ∧ Looked true "flatcar" σ.past (run ++ σ.past) := by
  intro s σ
  obtain ⟨c, m, run, hc, hpast, hdeletes⟩ := exists_deletes_fresh
  have hfresh : σ.record? "flatcar" =
      some (Record.new "flatcar" ⟨"flatcar", "capv"⟩ .epoch).atFirst := rfl
  obtain ⟨_, hlatest⟩ :=
    deletion_after_look s Performance.named_betweenWrites hfresh rfl rfl hc
  exact ⟨c, m, run, hc, hpast, hdeletes, hlatest m run hpast hdeletes⟩

/-- **Passes alone may delete a fresh record.** -/
theorem not_fresh_record_kept :
    ¬ ∀ (s : Service) (σ : Stage) (name : String) (spec : Spec) (t : Instant),
      (∀ key q, σ.record? key = some q → q.name = key) →
      σ.record? name = some (Record.new name spec t).atFirst →
      ∀ c m run, Scene.Runs s .passing ⟨σ, []⟩ c → c.stage.past = m :: (run ++ σ.past) →
        ¬ m.Deletes name (run ++ σ.past) := by
  intro h
  obtain ⟨c, m, run, hc, hpast, hdeletes⟩ := exists_deletes_fresh
  exact h (Performance.smallService .zero) Performance.betweenWrites.scene.stage "flatcar"
    ⟨"flatcar", "capv"⟩ .epoch Performance.named_betweenWrites rfl c m run hc hpast hdeletes

end ImageCatalog
