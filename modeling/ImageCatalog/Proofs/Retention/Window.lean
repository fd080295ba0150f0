import ImageCatalog.Proofs.Catalog.Sweep

/-!
# The retention window

A record that nobody needs is kept for the period, to the nanosecond. The pass that opens the window
stamps the record; every pass before the end of the window asks to be called again at that very
moment, however often and in whichever order of times passes come; the first pass from then on takes
the record away. A clock that was set back to before the stamp counts as no time passed.

Passes follow one another here with nothing between them that writes a record. All else may change
in the meantime: the clock, the catalogs, what is reachable, and whether the work is interrupted.

## Leap seconds

Distances of instants add up only outside of leap seconds, so none of the times is in one.

## Main definitions

* `World.InTurn` — a program that runs in one world after the other
* `World.Sound` — no withdrawal from a provider is going to fail
* `Record.Waiting` — a record within its window

## Main results

* `Instant.since_later?` — the distance to the end of the window
* `World.run_open`, `World.run_wait`, `World.run_close` — the three kinds of passes
* `retention_window` — the whole window
-/

namespace ImageCatalog

variable {w w' : World} {l : Ledger} {key provider image : String} {r q : Record} {s : Pass.Setup}

/-! ### Sums of times -/

namespace Instant

variable {t u due : Instant} {d : Duration}

theorem of_make? {second : Int} {nano : Nat} (h : make? second nano = some t) :
    t.second = second ∧ t.nano = nano := by
  unfold make? at h
  split at h
  · obtain rfl := Option.some.inj h
    exact ⟨rfl, rfl⟩
  · cases h

/-- The fields of a sum, with whole seconds carried over. -/
theorem of_later? (ht : t.isLeap = false) (h : t.later? d = some due) :
    due.second = t.second + d.secs + ((t.nano + d.subsec) / 1000000000 : Nat) ∧
      due.nano = (t.nano + d.subsec) % 1000000000 := by
  simp only [later?, ht, Bool.false_and, Bool.false_eq_true, if_false] at h
  exact of_make? h

theorem isLeap_later? (ht : t.isLeap = false) (h : t.later? d = some due) :
    due.isLeap = false := by
  have hnano := (of_later? ht h).2
  simp only [isLeap, decide_eq_false_iff_not, Nat.not_le]
  omega

/-- **The distance to a sum** is the distance to its start and the duration. -/
theorem since_later? (ht : t.isLeap = false) (hu : u.isLeap = false) (h : t.later? d = some due) :
    due.since u = t.since u + d.nanos := by
  obtain ⟨hsecond, hnano⟩ := of_later? ht h
  have hparts : d.nanos = d.secs * 1000000000 + d.subsec := by
    simp only [Duration.secs, Duration.subsec, Duration.perSecond]
    omega
  rw [since_of_not_leap hu (isLeap_later? ht h), since_of_not_leap hu ht]
  omega

theorem since_swap (ht : t.isLeap = false) (hu : u.isLeap = false) : t.since u = -u.since t := by
  rw [since_of_not_leap hu ht, since_of_not_leap ht hu]
  omega

end Instant

/-! ### What retention asks for -/

/-- A record that nobody needs waits for its deletion since a stamp. -/
structure Record.Waiting (r : Record) (stamp : Instant) : Prop where
  free : r.isReferenced = false
  phase_eq : r.phase = some .awaitingDeletion
  deletion_eq : r.deletion = none
  stamp_eq : r.lastUsed? = some stamp

namespace Retention

variable {period : Duration} {stamp now : Instant}

/-- A record outside of a window gets one. -/
theorem decide_of_not_waiting (hfree : r.isReferenced = false) (hphase : r.phase ≠ none)
    (hopen : r.phase = some .awaitingDeletion → r.lastUsed? = none) (hperiod : 0 < period.nanos) :
    decide period r now = .startGracePeriod period := by
  have hzero : period.isZero = false := by simp [Duration.isZero, Nat.ne_of_gt hperiod]
  obtain ⟨phase, hsome⟩ := Option.ne_none_iff_exists'.mp hphase
  simp only [decide, hfree, hsome, hzero, Bool.false_eq_true, if_false]
  split
  · rename_i t hstamp
    rw [hopen hsome] at hstamp
    cases hstamp
  · rfl

theorem decide_of_waiting (h : r.Waiting stamp) (hperiod : 0 < period.nanos) :
    decide period r now =
      if period.nanos ≤ (elapsed stamp now).nanos then .deleteNow
      else .wait ⟨period.nanos - (elapsed stamp now).nanos⟩ := by
  have hzero : period.isZero = false := by simp [Duration.isZero, Nat.ne_of_gt hperiod]
  simp only [decide, h.free, h.phase_eq, h.stamp_eq, hzero, Bool.false_eq_true, if_false]

end Retention

namespace World

/-! ### A removal without failures -/

/-- No withdrawal from a provider is going to fail. -/
def Sound (provider : String) (w : World) : Prop :=
  ∀ c, w.catalog? provider = some c → ∀ location, (.withdraw, location) ∉ c.faults

theorem Sound.wrote (h : w.Sound provider) (hwrote : Wrote l w w') : w'.Sound provider := by
  intro c hc
  exact h c ((hwrote.catalog? provider).symm.trans hc)

/-- A withdrawal does not fail, be it from a provider with catalogs or without. -/
theorem run_withdraw_of_sound (hsound : w.Sound provider) (hcut : w.timeline.interrupted = false)
    (key location image : String) :
    ∃ w', w.run (Pass.Job.withdraw ⟨key, provider, image⟩ location) = (.ok (.ok ()), w') ∧
      w'.store = w.store ∧ w'.timeline = w.timeline ∧ w'.Sound provider := by
  cases hc : w.catalog? provider with
  | none =>
    have hanswer : w.answer
        (.withdraw (Pass.Job.call ⟨key, provider, image⟩ location Pass.callLimit)) =
        (.finished (.ok ()), w) := by
      have hgo : ¬ w.timeline.interrupted := by simp [hcut]
      refine (if_neg hgo).trans ?_
      show finish (w.withdraw provider location image) = _
      rw [World.withdraw, onProvider_of_none hc]
      rfl
    exact ⟨w, run_bind_ok (run_request hanswer) _, rfl, rfl, hsound⟩
  | some c =>
    have hrun := run_withdraw hc hcut key location image
    rw [Catalog.withdraw_of_sound (hsound c hc location)] at hrun
    refine ⟨_, hrun, rfl, rfl, fun c' hc' => ?_⟩
    rw [catalog?_setCatalog, if_pos rfl] at hc'
    obtain rfl := Option.some.inj hc'
    exact hsound c hc

/-- A sweep over some locations in which nothing fails. -/
theorem run_clear_of_sound (hw : w.store.Holds l) (hr : l.get? key = some r)
    (hphase : r.phase = some .deleting) (hsound : w.Sound provider)
    (hcut : w.timeline.interrupted = false) (image : String) (locations : List Location) :
    ∃ w', w.run (Pass.Job.clear ⟨key, provider, image⟩ locations) = (.ok [], w') ∧
      w'.store.Holds l := by
  induction locations generalizing w with
  | nil => exact ⟨w, rfl, hw⟩
  | cons location rest ih =>
    have henter := run_enter_self hw hr hphase
    obtain ⟨w₁, hwithdraw, hstore, htimeline, hsound₁⟩ :=
      run_withdraw_of_sound hsound hcut key location.name image
    have hw₁ : w₁.store.Holds l := by
      rw [hstore]
      exact hw
    have hcut₁ : w₁.timeline.interrupted = false := by
      rw [htimeline]
      exact hcut
    obtain ⟨w', hrest, hw'⟩ := ih hw₁ hsound₁ hcut₁
    refine ⟨w', ?_, hw'⟩
    rw [Pass.Job.clear, run_bind_ok henter, run_bind_ok hwithdraw]
    exact hrest

/-- The image is taken from the catalogs of its provider, if passes know that provider. -/
theorem run_clearCatalogs_of_sound (hw : w.store.Holds l) (hr : l.get? key = some r)
    (hphase : r.phase = some .deleting) (hsound : w.Sound q.spec.provider)
    (hcut : w.timeline.interrupted = false) (s : Pass.Setup) :
    ∃ w', w.run (Pass.clearCatalogs s key q) = (.ok (), w') ∧ w'.store.Holds l := by
  rw [Pass.clearCatalogs]
  cases s.providers.get? q.spec.provider with
  | none =>
    obtain ⟨w', hemit, hwrote⟩ := run_emit hw (.providerNotConfigured q.name q.spec.provider)
    exact ⟨w', (run_bind_ok (run_log w _) _).trans hemit, hwrote.store⟩
  | some locations =>
    obtain ⟨w', hclear, hw'⟩ :=
      run_clear_of_sound hw hr hphase hsound hcut q.spec.image locations
    exact ⟨w', run_bind_ok hclear _, hw'⟩

/-- **A removal in which nothing fails** takes the record away. -/
theorem run_remove_of_sound (hw : w.store.Holds l) (hr : l.get? r.name = some r)
    (hfree : r.isReferenced = false) (hsound : w.Sound r.spec.provider)
    (hcut : w.timeline.interrupted = false) (s : Pass.Setup) :
    ∃ w', w.run (Pass.remove s r.name r) = (.ok .finished, w') ∧
      w'.store.Holds ⟨l.records.erase r.name⟩ := by
  obtain ⟨r₁, w₁, hstart, hr₁, hwrote₁⟩ := run_startRemoval hw hr rfl
  have hname₁ : r₁.name = r.name := (congrArg Record.name hr₁ :)
  have hphase₁ : r₁.phase = some .deleting := (congrArg Record.phase hr₁ :)
  have hfree₁ : r₁.isReferenced = false := (congrArg Record.isReferenced hr₁ :).trans hfree
  have hget₁ : (l.put r₁).get? r.name = some r₁ := Ledger.get?_put_of_eq hname₁
  obtain ⟨w₂, hclear, hw₂⟩ := run_clearCatalogs_of_sound hwrote₁.store hget₁ hphase₁
    (hsound.wrote hwrote₁) ((congrArg Timeline.interrupted hwrote₁.timeline).trans hcut) s
  obtain ⟨w₃, htake, hwrote₃⟩ :=
    run_takeAway hw₂ (r := r₁) (hname₁ ▸ hget₁) hfree₁ (q := r) hname₁.symm
  rw [Ledger.erase_put, hname₁] at hwrote₃
  rw [hname₁] at htake
  refine ⟨w₃, ?_, hwrote₃.store⟩
  rw [Pass.remove_eq, run_bind_ok hstart, run_bind_ok hclear]
  exact htake

/-! ### The three kinds of passes -/

section

variable (hw : w.store.Holds l) (hr : l.get? r.name = some r)

include hw hr

/-- A pass over a record without a deletion request asks retention. -/
theorem run_of_no_request (hnone : r.deletion = none) (s : Pass.Setup) :
    w.run (Pass.run s r.name) = w.run (Pass.retainOrPlace s r.name r) := by
  have hgo : ¬ (r.isDeletionRequested && !r.isReferenced) = true := by
    simp [Record.isDeletionRequested, hnone]
  rw [run_look hw hr, if_neg hgo, run_bind_ok (run_dropDeletionRequest_of_none r.name w hnone)]

/-- **The window opens.** -/
theorem run_open (hfree : r.isReferenced = false) (hphase : r.phase ≠ none)
    (hnone : r.deletion = none) (hopen : r.phase = some .awaitingDeletion → r.lastUsed? = none)
    (hperiod : 0 < s.period.nanos) (hyear : 0 ≤ w.clock.year ∧ w.clock.year ≤ 9999) :
    ∃ r' w', w.run (Pass.run s r.name) = (.ok (.after s.period), w') ∧
      r'.unversioned =
        ({ r with phase := some .awaitingDeletion }.stampLastUsed w.clock).unversioned ∧
      r'.Waiting w.clock ∧ Wrote (l.put r') w w' := by
  obtain ⟨r', w', hstart, hr', hwrote⟩ := run_startGracePeriod hw hr rfl hfree s.period w.clock
  have hann : r'.annotations.get? Record.lastUsedKey = some w.clock.stamp := by
    have hann := congrArg (fun r => r.annotations.get? Record.lastUsedKey) hr'
    exact hann.trans (Dictionary.get?_insert_self ..)
  refine ⟨r', w', ?_, hr', ?_, hwrote⟩
  · rw [run_of_no_request hw hr hnone, Pass.retainOrPlace, run_bind_ok (run_now w),
      Retention.decide_of_not_waiting hfree hphase hopen hperiod]
    exact run_bind_ok hstart _
  · exact ⟨(congrArg Record.isReferenced hr' :).trans hfree, (congrArg Record.phase hr' :),
      (congrArg Record.deletion hr' :).trans hnone,
      by rw [Record.lastUsed?_of_stamp hann, if_pos hyear]⟩

variable {stamp due : Instant} (hwaits : r.Waiting stamp) (hperiod : 0 < s.period.nanos)
  (hstamp : stamp.isLeap = false) (hclock : w.clock.isLeap = false)
  (hdue : stamp.later? s.period = some due)

include hwaits hperiod hstamp hclock hdue

/-- **Within the window** nothing is done, and the next pass is asked for at its end. -/
theorem run_wait (hearly : 0 < due.since w.clock) :
    let remaining : Duration :=
      if 0 ≤ w.clock.since stamp then ⟨(due.since w.clock).toNat⟩ else s.period
    w.run (Pass.run s r.name) =
      (.ok (.after remaining), w.record (.retentionWaiting r.name remaining)) := by
  intro remaining
  have hsum := Instant.since_later? hstamp hclock hdue
  have hswap := Instant.since_swap hstamp hclock
  have hdecide : Retention.decide s.period r w.clock = .wait remaining := by
    have hlong : ¬ s.period.nanos ≤ (w.clock.since stamp).toNat := by omega
    rw [Retention.decide_of_waiting hwaits hperiod, Retention.elapsed, if_neg hlong]
    congr 1
    by_cases hafter : 0 ≤ w.clock.since stamp
    · have hrest : s.period.nanos - (w.clock.since stamp).toNat = (due.since w.clock).toNat := by
        omega
      simp only [remaining, hafter, if_true, hrest]
    · have hrest : s.period.nanos - (w.clock.since stamp).toNat = s.period.nanos := by omega
      simp only [remaining, hafter, if_false, hrest]
  rw [run_of_no_request hw hr hwaits.deletion_eq, Pass.retainOrPlace,
    run_bind_ok (run_now w), hdecide]
  rfl

/-- **The window is over**, and the record goes. -/
theorem run_close (hlate : 0 ≤ w.clock.since due) (hsound : w.Sound r.spec.provider)
    (hcut : w.timeline.interrupted = false) :
    ∃ w', w.run (Pass.run s r.name) = (.ok .finished, w') ∧
      w'.store.Holds ⟨l.records.erase r.name⟩ := by
  have hsum := Instant.since_later? hstamp hclock hdue
  have hswap := Instant.since_swap hstamp hclock
  have hswap' := Instant.since_swap (Instant.isLeap_later? hstamp hdue) hclock
  have hdecide : Retention.decide s.period r w.clock = .deleteNow := by
    have hlong : s.period.nanos ≤ (w.clock.since stamp).toNat := by omega
    rw [Retention.decide_of_waiting hwaits hperiod, Retention.elapsed, if_pos hlong]
  obtain ⟨r₁, w₁, hmark, hr₁, hwrote⟩ :=
    run_markForDeletion hw hr rfl hwaits.free hwaits.deletion_eq w.clock
  have hname₁ : r₁.name = r.name := (congrArg Record.name hr₁ :)
  have hspec₁ : r₁.spec = r.spec := (congrArg Record.spec hr₁ :)
  have hfree₁ : r₁.isReferenced = false := (congrArg Record.isReferenced hr₁ :).trans hwaits.free
  obtain ⟨w', hremove, hw'⟩ := run_remove_of_sound hwrote.store
    (Ledger.get?_put_of_eq rfl) hfree₁ (hspec₁ ▸ hsound.wrote hwrote)
    ((congrArg Timeline.interrupted hwrote.timeline).trans hcut) s
  rw [Ledger.erase_put, hname₁] at hw'
  rw [hname₁] at hremove
  refine ⟨w', ?_, hw'⟩
  rw [run_of_no_request hw hr hwaits.deletion_eq, Pass.retainOrPlace,
    run_bind_ok (run_now w), hdecide]
  exact (run_bind_ok hmark _).trans ((run_bind_ok (run_log w₁ _) _).trans hremove)

end

/-! ### One pass after the other -/

/-- A program runs in one world after the other. From each run only the store is handed on to the
next one. -/
inductive InTurn {α : Type} (p : Program α) : World → List World → Prop
  | nil (w : World) : InTurn p w []
  | cons {w v : World} {others : List World} (hstore : v.store = w.store)
      (hrest : InTurn p (v.run p).2 others) : InTurn p w (v :: others)

variable {α : Type} {p : Program α} {vs : List World} {v : World}

/-- Runs that write nothing all start from the same store, and so does the next one. -/
theorem InTurn.store_eq (h : InTurn p w (vs ++ [v]))
    (hstill : ∀ u ∈ vs, u.store = w.store → (u.run p).2.store = w.store) :
    ∀ u ∈ vs ++ [v], u.store = w.store := by
  induction vs generalizing w with
  | nil =>
    cases h with
    | cons hstore _ => simpa using hstore
  | cons u vs ih =>
    cases h with
    | cons hstore hrest =>
      have hfirst : (u.run p).2.store = w.store := hstill u List.mem_cons_self hstore
      have hothers := ih hrest fun u' hu' hsame =>
        (hstill u' (List.mem_cons_of_mem _ hu') (hsame.trans hfirst)).trans hfirst.symm
      intro u' hu'
      rcases List.mem_cons.mp hu' with rfl | hu'
      · exact hstore
      · exact (hothers u' hu').trans hfirst

end World

/-- **The retention window, to the nanosecond.** A pass at a time `t` over a record that nobody
needs, and that is not within a window yet, opens one that is over at `due`, the period after `t`.
Consider a pass after any number of passes within the window. If it comes before `due` as well, it
asks for the next one in the time that is left until `due`, or in the whole period if the clock was
set back to before `t`, and changes nothing. If it comes at `due` or later, and nothing fails, the
record goes. -/
theorem retention_window (s : Service) {w : World} {l : Ledger} {r : Record} {due : Instant}
    (hstore : w.store.Holds l) (hr : l.get? r.name = some r) (hfree : r.isReferenced = false)
    (hlooked : r.phase ≠ none) (hnone : r.deletion = none)
    (hopen : r.phase = some .awaitingDeletion → r.lastUsed? = none)
    (hperiod : 0 < s.setup.period.nanos) (hyear : 0 ≤ w.clock.year ∧ w.clock.year ≤ 9999)
    (hleap : w.clock.isLeap = false) (hdue : w.clock.later? s.setup.period = some due) :
    let pass := s.pass r.name
    let first := w.run pass
    first.1 = .ok (.after s.setup.period) ∧
    (∃ l₁ r₁, first.2.store.Holds l₁ ∧ l₁.get? r.name = some r₁ ∧ r₁.Waiting w.clock ∧
      r₁.unversioned =
        ({ r with phase := some .awaitingDeletion }.stampLastUsed w.clock).unversioned ∧
      ∀ n, n ≠ r.name → l₁.get? n = l.get? n) ∧
    ∀ vs v, World.InTurn pass first.2 (vs ++ [v]) →
      (∀ u ∈ vs, u.clock.isLeap = false ∧ 0 < due.since u.clock) → v.clock.isLeap = false →
      (0 < due.since v.clock →
        let remaining : Duration :=
          if 0 ≤ v.clock.since w.clock then ⟨(due.since v.clock).toNat⟩ else s.setup.period
        0 < remaining.nanos ∧
          v.run pass = (.ok (.after remaining), v.record (.retentionWaiting r.name remaining))) ∧
      (0 ≤ v.clock.since due → v.Sound r.spec.provider → v.timeline.interrupted = false →
        (v.run pass).1 = .ok .finished ∧ ∃ l', (v.run pass).2.store.Holds l' ∧
          l'.get? r.name = none ∧ ∀ n, n ≠ r.name → l'.get? n = l.get? n) := by
  intro pass first
  obtain ⟨r₁, w₁, hrun, hr₁, hwaits, hwrote⟩ :=
    World.run_open (s := s.setup) hstore hr hfree hlooked hnone hopen hperiod hyear
  have hname₁ : r₁.name = r.name := (congrArg Record.name hr₁ :)
  have hspec₁ : r₁.spec = r.spec := (congrArg Record.spec hr₁ :)
  have hfirst : first = (.ok (.after s.setup.period), w₁) := hrun
  have hget₁ : (l.put r₁).get? r₁.name = some r₁ := Ledger.get?_put_of_eq rfl
  have hpass : pass = Pass.run s.setup r₁.name := by
    rw [hname₁]
    rfl
  rw [hfirst]
  refine ⟨rfl, ⟨_, r₁, hwrote.store, hname₁ ▸ hget₁, hwaits, hr₁, fun n hn => ?_⟩, ?_⟩
  · exact Ledger.get?_put_of_ne (hname₁.symm ▸ hn)
  · intro vs v hturn hearly hv
    have hsame := hturn.store_eq fun u hu hsame => by
      have hu₁ : u.store.Holds (l.put r₁) := hsame ▸ hwrote.store
      rw [hpass, World.run_wait hu₁ hget₁ hwaits hperiod hleap (hearly u hu).1 hdue (hearly u hu).2]
      exact hsame
    have hv₁ : v.store.Holds (l.put r₁) := by
      rw [hsame v (by simp)]
      exact hwrote.store
    refine ⟨fun hbefore => ?_, fun hafter hsound hcut => ?_⟩
    · intro remaining
      have hwait := World.run_wait hv₁ hget₁ hwaits hperiod hleap hv hdue hbefore
      rw [← hpass, hname₁] at hwait
      refine ⟨?_, hwait⟩
      simp only [remaining]
      split
      · exact Int.lt_toNat.mpr hbefore
      · exact hperiod
    · obtain ⟨w', hclose, hw'⟩ := World.run_close hv₁ hget₁ hwaits hperiod hleap hv hdue hafter
        (hspec₁.symm ▸ hsound) hcut
      rw [← hpass] at hclose
      rw [Ledger.erase_put, hname₁] at hw'
      rw [hclose]
      refine ⟨rfl, _, hw', ?_, fun n hn => ?_⟩
      · rw [Ledger.get?_erase, if_pos rfl]
      · rw [Ledger.get?_erase, if_neg hn]

/-- A period of one second and one nanosecond. One second after the first pass the one nanosecond is
left; with the clock set back there is the whole period; and then the window is over. -/
theorem retention_window_of_one_second :
    let s := Performance.smallService ⟨1000000001⟩
    let pass := s.pass "flatcar"
    let at_ (second : Int) (nano : Nat) : Instant := (Instant.make? second nano).getD .epoch
    let r : Record :=
      { Record.new "flatcar" ⟨"flatcar", "capv"⟩ .epoch with phase := some .available }
    let w : World :=
      { (Performance.opening .epoch).world with store := .ledger (Ledger.empty.put r) }
    let early : World := { (w.run pass).2 with clock := at_ 1 0 }
    let back : World := { (early.run pass).2 with clock := at_ (-1) 0 }
    let late : World := { (back.run pass).2 with clock := at_ 1 1 }
    (w.run pass).1 = .ok (.after ⟨1000000001⟩) ∧ (early.run pass).1 = .ok (.after ⟨1⟩) ∧
      (back.run pass).1 = .ok (.after ⟨1000000001⟩) ∧ (late.run pass).1 = .ok .finished := by
  intro s pass at_ r w early back late
  have hdue : w.clock.later? s.setup.period = some (at_ 1 1) := by decide
  obtain ⟨hfirst, -, hnext⟩ := retention_window s (w := w) (r := r) rfl
    (Ledger.get?_put_of_eq rfl) rfl (by decide) rfl (fun h => by cases h) (by decide) (by decide)
    (by decide) hdue
  have hearly : early.clock.isLeap = false ∧ 0 < (at_ 1 1).since early.clock := by decide
  have hback : back.clock.isLeap = false ∧ 0 < (at_ 1 1).since back.clock := by decide
  have hcatalog : (late.catalog? "capv").map Catalog.faults = some [] := by decide +kernel
  have hsound : late.Sound "capv" := by
    intro c hc location
    rw [hc] at hcatalog
    rw [Option.some.inj hcatalog]
    exact List.not_mem_nil
  obtain ⟨hwait, -⟩ :=
    hnext [] early (.cons rfl (.nil _)) (fun _ h => by cases h) hearly.1
  obtain ⟨hwait', -⟩ :=
    hnext [early] back (.cons rfl (.cons rfl (.nil _))) (by simpa using hearly) hback.1
  obtain ⟨-, hclose⟩ := hnext [early, back] late (.cons rfl (.cons rfl (.cons rfl (.nil _))))
    (by simpa using ⟨hearly, hback⟩) (by decide)
  refine ⟨hfirst, ?_, ?_, (hclose (by decide) hsound (by decide +kernel)).1⟩
  · exact congrArg Prod.fst (hwait hearly.2).2
  · exact congrArg Prod.fst (hwait' hback.2).2

end ImageCatalog
