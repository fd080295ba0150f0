import ImageCatalog.Proofs.Rehearsal.Commuting
import ImageCatalog.Proofs.Rehearsal.Resume

/-!
# Passes in any order

Passes over different images have disjoint footprints. So it does not matter in which order two of
them come, and the passes over all records come to the same in any order of the records: the same
records with the same versions, the same images in the catalogs, as many passes that succeed, and
the same time to look again. Only the failures are listed in the order in which they have come.

## Main definitions

* `Pass.Report.Like` — reports that differ in the order of the failures at most

## Main results

* `Pass.runEach_perm` — the passes over some records, in any order
* `passes_commute` — two passes, and the passes over all records
-/

namespace ImageCatalog

variable {α β : Type} {source : String → Except Failure Bool} {w w₁ w₂ : World}
  {l l' : Ledger} {s : Pass.Setup} {rs rs' : List Record}

/-! ### Reports -/

namespace Duration

theorem min_comm (a b : Duration) : a.min b = b.min a := by
  obtain ⟨a⟩ := a
  obtain ⟨b⟩ := b
  simp only [Duration.min]
  grind

theorem min_right_comm (a b c : Duration) : (a.min b).min c = (a.min c).min b := by
  obtain ⟨a⟩ := a
  obtain ⟨b⟩ := b
  obtain ⟨c⟩ := c
  simp only [Duration.min]
  grind

end Duration

namespace Pass.Report

variable {a b c : Report}

/-- Two reports that differ in the order of the failures at most. -/
structure Like (a b : Report) : Prop where
  succeeded : a.succeeded = b.succeeded
  nextRequeue : a.nextRequeue = b.nextRequeue
  failed : a.failed.Perm b.failed

theorem Like.refl (a : Report) : a.Like a :=
  ⟨rfl, rfl, .refl _⟩

theorem Like.trans (h : a.Like b) (h' : b.Like c) : a.Like c :=
  ⟨h.succeeded.trans h'.succeeded, h.nextRequeue.trans h'.nextRequeue, h.failed.trans h'.failed⟩

theorem Like.add (h : a.Like b) (key : String) (x : Except Failure Outcome) :
    (a.add key x).Like (b.add key x) := by
  cases x with
  | ok o => exact ⟨congrArg (· + 1) h.succeeded, by simp only [Report.add, h.nextRequeue], h.failed⟩
  | error e => exact ⟨h.succeeded, h.nextRequeue, h.failed.append_right _⟩

/-- The order of two passes does not matter for a report. -/
theorem like_add_add (a : Report) (key key' : String) (x y : Except Failure Outcome) :
    ((a.add key x).add key' y).Like ((a.add key' y).add key x) := by
  cases x with
  | error e =>
    cases y with
    | ok o => exact .refl _
    | error e' =>
      refine ⟨rfl, rfl, ?_⟩
      simp only [Report.add, List.append_assoc]
      exact (List.perm_append_comm).append_left a.failed
  | ok o =>
    cases y with
    | error e' => exact .refl _
    | ok o' =>
      refine ⟨rfl, ?_, .refl _⟩
      obtain ⟨count, failed, next⟩ := a
      obtain ⟨d⟩ := o
      obtain ⟨d'⟩ := o'
      cases next with
      | none => cases d <;> cases d' <;> simp [Report.add, Duration.min_comm]
      | some n => cases d <;> cases d' <;> simp [Report.add, Duration.min_right_comm]

end Pass.Report

/-! ### Passes one after the other -/

/-- The passes over some records begin with the first of them. -/
theorem World.runBy_runEach_cons (hi : w.timeline.interrupted = false) (report : Pass.Report)
    (r : Record) (rest : List Record) :
    w.runBy source (Pass.runEach s report (r :: rest)) =
      (w.runBy source (Pass.run s r.name)).2.runBy source
        (Pass.runEach s (report.add r.name (w.runBy source (Pass.run s r.name)).1) rest) := by
  have hgo : w.runBy source Program.isInterrupted = (.ok false, w) := by
    rw [← hi]
    rfl
  rw [Pass.runEach, runBy_bind, hgo]
  simp only [Bool.false_eq_true, if_false]
  rw [runBy_bind, runBy_attempt]
  rcases w.runBy source (Pass.run s r.name) with ⟨e | o, w'⟩
  · rfl
  · rfl

namespace Pass

open Footprint

/-- The records of some names, if there are any, are those of the passes over them. -/
structure Ready (s : Setup) (rs : List Record) (l : Ledger) (w : World) : Prop where
  store : w.store.Holds l
  tame : w.Tame
  fits : ∀ r ∈ rs, (s.footprint r).Fits l w
  apart : rs.Pairwise fun a b => (s.footprint a).Apart (s.footprint b)

variable {r r' : Record} {rest : List Record} {report report' : Report}

theorem Ready.perm (h : Ready s rs l w) (hperm : rs.Perm rs') : Ready s rs' l w where
  store := h.store
  tame := h.tame
  fits r hr := h.fits r (hperm.mem_iff.mpr hr)
  apart := (hperm.pairwise_iff fun hab => hab.symm).mp h.apart

/-- A pass leaves the others as ready as they were. -/
theorem Ready.tail (h : Ready s (r :: rest) l w) (hl : (s.footprint r).Fits l' w')
    (hs : (s.footprint r).Spares l l' w w') (ht : w'.Tame) : Ready s rest l' w' where
  store := hl.store
  tame := ht
  fits q hq :=
    ((List.pairwise_cons.mp h.apart).1 q hq).symm.fits (h.fits q (List.mem_cons_of_mem _ hq)) hl hs
  apart := (List.pairwise_cons.mp h.apart).2

/-- The passes over some records come to the same in twins. -/
theorem Ready.twins (h : Ready s rs l w₁) (htwins : World.Twins l w₁ w₂) (ht : w₂.Tame)
    (hlike : report.Like report') (source : String → Except Failure Bool) :
    ∃ a b w₁' w₂' l', w₁.runBy source (runEach s report rs) = (.ok a, w₁') ∧
      w₂.runBy source (runEach s report' rs) = (.ok b, w₂') ∧ a.Like b ∧
      World.Twins l' w₁' w₂' := by
  induction rs generalizing report report' l w₁ w₂ with
  | nil => exact ⟨report, report', w₁, w₂, l, rfl, rfl, hlike, htwins⟩
  | cons r rest ih =>
    have hpass := within_run s r
    have hf := h.fits r List.mem_cons_self
    obtain ⟨hresult, l', htwins', hf', hs'⟩ := hpass.twins htwins hf h.tame ht source
    rw [World.runBy_runEach_cons h.tame.quiet.1, World.runBy_runEach_cons ht.quiet.1, ← hresult]
    exact ih (h.tail hf' hs' (h.tame.runBy hpass hf source)) htwins'
      (ht.runBy hpass (htwins.fits hf) source) (hlike.add _ _)

/-- **The passes over some records come to the same in any order.** -/
theorem runEach_perm (hperm : rs.Perm rs') (h : Ready s rs l w) (hlike : report.Like report')
    (source : String → Except Failure Bool) :
    ∃ a b w₁ w₂ l', w.runBy source (runEach s report rs) = (.ok a, w₁) ∧
      w.runBy source (runEach s report' rs') = (.ok b, w₂) ∧ a.Like b ∧
      World.Twins l' w₁ w₂ := by
  induction hperm generalizing report report' l w with
  | nil => exact h.twins (.refl h.store) h.tame hlike source
  | cons r hperm ih =>
    have hpass := within_run s r
    have hf := h.fits r List.mem_cons_self
    obtain ⟨l', hf', hs'⟩ := hpass.runBy hf source
    rw [World.runBy_runEach_cons h.tame.quiet.1, World.runBy_runEach_cons h.tame.quiet.1]
    exact ih (h.tail hf' hs' (h.tame.runBy hpass hf source)) (hlike.add _ _)
  | swap a b rest =>
    -- After the two passes the worlds are twins, and the rest comes to the same in twins.
    obtain ⟨hb, hrest⟩ := List.pairwise_cons.mp h.apart
    have hapart := (hb a List.mem_cons_self).symm
    have hfa := h.fits a (List.mem_cons_of_mem _ List.mem_cons_self)
    have hfb := h.fits b List.mem_cons_self
    obtain ⟨hresulta, hresultb, lab, htwins⟩ :=
      (within_run s a).commute (within_run s b) hapart hfa hfb h.tame source
    obtain ⟨la, hfa', hsa⟩ := (within_run s a).runBy hfa source
    obtain ⟨lb, hfb', hsb⟩ := (within_run s b).runBy hfb source
    have hta := h.tame.runBy (within_run s a) hfa source
    have htb := h.tame.runBy (within_run s b) hfb source
    have hready : Ready s (a :: rest) lb (w.runBy source (run s b.name)).2 :=
      h.tail hfb' hsb htb
    have hready' : Ready s (b :: rest) la (w.runBy source (run s a.name)).2 :=
      (h.perm (.swap a b rest)).tail hfa' hsa hta
    rw [World.runBy_runEach_cons h.tame.quiet.1, World.runBy_runEach_cons h.tame.quiet.1,
      World.runBy_runEach_cons htb.quiet.1, World.runBy_runEach_cons hta.quiet.1, hresulta,
      hresultb]
    obtain ⟨lba, hfba, hsba⟩ :=
      (within_run s a).runBy (hready.fits a List.mem_cons_self) source
    have htba := htb.runBy (within_run s a) (hready.fits a List.mem_cons_self) source
    have htab := hta.runBy (within_run s b) (hready'.fits b List.mem_cons_self) source
    refine (hready.tail hfba hsba htba).twins ?_ htab ?_ source
    · rw [hfba.store.unique htwins.right]
      exact htwins.symm
    · exact (Report.like_add_add _ _ _ _ _).trans ((hlike.add _ _).add _ _)
  | trans hperm hperm' ih ih' =>
    obtain ⟨x, y, w₁, w₂, l', hx, hy, hlike', htwins⟩ := ih h (.refl report)
    obtain ⟨y', z, w₂', w₃, l'', hy', hz, hlike'', htwins'⟩ := ih' (h.perm hperm) hlike
    obtain ⟨hresult, rfl⟩ := Prod.mk.inj (hy.symm.trans hy')
    obtain rfl := Except.ok.inj hresult
    exact ⟨x, z, w₁, w₃, l', hx, hz, hlike'.trans hlike'', htwins.trans htwins'⟩

/-- The records of a store are ready for passes, if they are of different images. -/
theorem ready_list (s : Setup) (hw : w.store.Holds l)
    (hnamed : ∀ n r, l.get? n = some r → r.name = n) (ht : w.Tame)
    (hspecs : l.list.Pairwise fun a b => a.spec ≠ b.spec) : Ready s l.list l w where
  store := hw
  tame := ht
  fits r hr := fits_footprint s hw ((Ledger.mem_list hnamed r).mp hr)
  apart := (Ledger.ascending_list hnamed).imp₂ (fun a b hlt hne =>
    ⟨fun heq : a.name = b.name => String.lt_irrefl _ (heq ▸ hlt), hne⟩) hspecs

end Pass

/-- **Passes over different images commute.** The providers have no faults in store, nothing
interrupts the work, and the source answers in any way that depends on the address only. Two passes
over records of different images come to the same results in both orders, and to the same records
and images. If all records are of different images, the passes over them come to the same records
and images in any order, and to the same report up to the order of the failures. -/
theorem passes_commute (s : Service) (source : String → Except Failure Bool) {w : World} {l : Ledger}
    (hstore : w.store.Holds l) (hnamed : ∀ n r, l.get? n = some r → r.name = n)
    (hfaults : w.Faultless) (hquiet : w.timeline.Quiet) :
    (∀ a b, l.get? a.name = some a → l.get? b.name = some b → a.spec ≠ b.spec →
      let afterA := w.runBy source (s.pass a.name)
      let afterB := w.runBy source (s.pass b.name)
      let ab := afterA.2.runBy source (s.pass b.name)
      let ba := afterB.2.runBy source (s.pass a.name)
      ba.1 = afterA.1 ∧ ab.1 = afterB.1 ∧ ∃ l', World.Twins l' ab.2 ba.2) ∧
    (l.list.Pairwise (fun a b => a.spec ≠ b.spec) → ∀ rs, rs.Perm l.list →
      ∃ all any w₁ w₂ l', w.runBy source s.passAll = (.ok all, w₁) ∧
        w.runBy source (Pass.runEach s.setup .empty rs) = (.ok any, w₂) ∧
        all.Like any ∧ World.Twins l' w₁ w₂) := by
  have ht : w.Tame := ⟨hfaults, hquiet⟩
  refine ⟨fun a b ha hb hspec => ?_, fun hspecs rs hrs => ?_⟩
  · have hname : a.name ≠ b.name := by
      intro hname
      rw [hname, hb] at ha
      exact hspec (congrArg Record.spec (Option.some.inj ha).symm)
    exact (Pass.within_run s.setup a).commute (Pass.within_run s.setup b) ⟨hname, hspec⟩
      (Pass.fits_footprint s.setup hstore ha) (Pass.fits_footprint s.setup hstore hb) ht source
  · have hlist : w.runBy source s.passAll =
        w.runBy source (Pass.runEach s.setup .empty l.list) := by
      have hanswer : w.answerBy source .listRecords = (.ok l.list, w) := by
        show w.onStore w.store.list = _
        rw [hstore.list]
        rfl
      have hrun : w.runBy source Program.listRecords = (.ok l.list, w) := by
        show World.runBy source (Program.ofExcept (w.answerBy source .listRecords).1)
          (w.answerBy source .listRecords).2 = _
        rw [hanswer]
        rfl
      show w.runBy source (Program.listRecords >>= Pass.runEach s.setup .empty) = _
      rw [World.runBy_bind, hrun]
    rw [hlist]
    exact Pass.runEach_perm hrs.symm (Pass.ready_list s.setup hstore hnamed ht hspecs) (.refl _)
      source

/-- Two images of one provider, one to be placed and one to be deleted. The passes over their records
commute, and come to the same in the other order. -/
theorem passes_commute_of_two_images :
    let s := Performance.smallService .zero
    let wanted : Record :=
      { Record.new "flatcar" ⟨"flatcar", "capv"⟩ .epoch with consumers := ["cluster"] }
    let unwanted : Record :=
      { Record.new "ubuntu" ⟨"ubuntu", "capv"⟩ .epoch with phase := some .available }
    let l := (Ledger.empty.put wanted).put unwanted
    let w : World := { (Performance.opening .epoch).world with store := .ledger l }
    let source : String → Except Failure Bool := fun _ => .ok true
    wanted.spec ≠ unwanted.spec ∧ l.list = [wanted, unwanted] ∧
      ((w.runBy source (s.pass "ubuntu")).2.runBy source (s.pass "flatcar")).1 =
        (w.runBy source (s.pass "flatcar")).1 ∧
      ∃ all any w₁ w₂ l', w.runBy source s.passAll = (.ok all, w₁) ∧
        w.runBy source (Pass.runEach s.setup .empty [unwanted, wanted]) = (.ok any, w₂) ∧
        all.Like any ∧ World.Twins l' w₁ w₂ := by
  intro s wanted unwanted l w source
  have hlist : l.list = [wanted, unwanted] := by decide +kernel
  have hnamed : ∀ n r, l.get? n = some r → r.name = n := by
    intro n r hr
    rcases Ledger.of_get?_put rfl hr with ⟨rfl, rfl⟩ | ⟨-, hr⟩
    · rfl
    · rcases Ledger.of_get?_put rfl hr with ⟨rfl, rfl⟩ | ⟨-, hr⟩
      · rfl
      · simp [Ledger.get?, Ledger.empty] at hr
  have hfaults : w.Faultless := by
    intro p c hc
    obtain rfl := Performance.eq_new_of_opening rfl hc
    rfl
  have hspec : wanted.spec ≠ unwanted.spec := by decide
  obtain ⟨htwo, hall⟩ := passes_commute s source (w := w) (l := l) rfl hnamed hfaults ⟨rfl, rfl⟩
  have hwanted : l.get? wanted.name = some wanted := by decide +kernel
  have hunwanted : l.get? unwanted.name = some unwanted := by decide +kernel
  rw [hlist] at hall
  exact ⟨hspec, hlist, (htwo wanted unwanted hwanted hunwanted hspec).1,
    hall (by simpa using hspec) _ (.swap _ _ _)⟩

end ImageCatalog
