import ImageCatalog.Proofs.Rehearsal.Locality

/-!
# How records are written in a world

A store answers whatever becomes of the providers and of the work. So what a program does to a
record can be told exactly, in any world: with faults in store and with the work interrupted. Since
nobody else writes meanwhile, the first attempt at a revision always succeeds.

## Main definitions

* `World.Wrote` — nothing but the records is written between two moments

## Main results

* `World.run_revise` — a revision
* `World.run_enter`, `World.run_enter_self` — a phase is entered
* `World.run_removeRecord` — a record is removed
-/

namespace ImageCatalog

variable {α β : Type} {w w' w'' : World} {l l' l'' : Ledger} {key : String} {r : Record}

/-! ### What is written back -/

/-- A ledger with a record put in its own place is the same. -/
theorem Ledger.put_self (h : l.get? r.name = some r) : l.put r = l := by
  refine ext_get? fun n => ?_
  rw [get?_put]
  split
  · rename_i hn
    rw [hn, h]
  · rfl

theorem Ledger.put_put {q : Record} (h : q.name = r.name) : (l.put r).put q = l.put q := by
  refine ext_get? fun n => ?_
  rw [get?_put, get?_put, get?_put, h]
  split <;> rfl

theorem Ledger.erase_put : (⟨(l.put r).records.erase r.name⟩ : Ledger) =
    ⟨l.records.erase r.name⟩ := by
  refine ext_get? fun n => ?_
  rw [get?_erase, get?_erase, get?_put]
  split <;> rfl

/-- There is no stamp to take from a record without one. -/
theorem Record.clearLastUsed_of_not_hasStamp (h : r.hasStamp = false) : r.clearLastUsed = r := by
  have hnone : r.annotations.get? lastUsedKey = none := by
    simpa [hasStamp, Dictionary.contains] using h
  have hsame : r.annotations.erase lastUsedKey = r.annotations := by
    refine Dictionary.ext_get? fun n => ?_
    rw [Dictionary.get?_erase]
    split
    · rename_i hn
      rw [hn, hnone]
    · rfl
  rw [clearLastUsed, hsame]

namespace World

/-- Between two moments nothing is written but records, which are those of a ledger then. -/
structure Wrote (l' : Ledger) (w w' : World) : Prop where
  store : w'.store.Holds l'
  providers : w'.providers = w.providers
  timeline : w'.timeline = w.timeline
  clock : w'.clock = w.clock
  reachable : w'.reachable = w.reachable

theorem Wrote.refl (h : w.store.Holds l) : Wrote l w w :=
  ⟨h, rfl, rfl, rfl, rfl⟩

theorem Wrote.trans (h : Wrote l' w w') (h' : Wrote l'' w' w'') : Wrote l'' w w'' where
  store := h'.store
  providers := h'.providers.trans h.providers
  timeline := h'.timeline.trans h.timeline
  clock := h'.clock.trans h.clock
  reachable := h'.reachable.trans h.reachable

theorem Wrote.catalog? (h : Wrote l' w w') (p : String) : w'.catalog? p = w.catalog? p := by
  rw [World.catalog?, World.catalog?, h.providers]

/-! ### Programs one after the other -/

theorem run_bind_ok {p : Program α} {a : α} (hp : w.run p = (.ok a, w')) (f : α → Program β) :
    w.run (p >>= f) = w'.run (f a) := by
  rw [run_bind, hp]

theorem run_bind_error {p : Program α} {e : Failure} (hp : w.run p = (.error e, w'))
    (f : α → Program β) : w.run (p >>= f) = (.error e, w') := by
  rw [run_bind, hp]

theorem run_request {q : Request} {x : q.Answer} (hq : w.answer q = (x, w')) :
    w.run (Program.request q) = (.ok x, w') := by
  show (Except.ok (w.answer q).1, (w.answer q).2) = _
  rw [hq]

theorem run_log (w : World) (line : LogLine) : w.run (Program.log line) = (.ok (), w) := rfl

theorem run_now (w : World) : w.run Program.now = (.ok w.clock, w) := rfl

/-! ### Requests -/

section

variable (hw : w.store.Holds l)

include hw

theorem run_readRecord_of_accepts (hkey : w.store.Accepts key) :
    w.run (Program.readRecord key) = (.ok (l.get? key), w) := by
  have hanswer : w.answer (.readRecord key) = (.ok (l.get? key), w) := by
    show w.onStore (w.store.read key) = _
    rw [hw.read_of_accepts hkey]
    rfl
  show World.run (Program.ofExcept (w.answer (.readRecord key)).1) (w.answer (.readRecord key)).2 = _
  rw [hanswer]
  rfl

theorem run_emit (event : Event) :
    ∃ w', w.run (Program.emit event) = (.ok (), w') ∧ Wrote l w w' :=
  ⟨_, rfl, hw, rfl, rfl, rfl, rfl⟩

theorem run_emitIf (b : Bool) (event : Event) :
    ∃ w', w.run (Program.emitIf b event) = (.ok (), w') ∧ Wrote l w w' := by
  cases b with
  | false => exact ⟨w, rfl, .refl hw⟩
  | true => exact run_emit hw event

/-- A record is replaced from the version that is stored. -/
theorem answer_replaceRecord (hr : l.get? key = some r) {q : Record} (hname : q.name = key)
    (hversion : q.version = r.version) :
    ∃ w', w.answer (.replaceRecord q) = (.ok q.bumped, w') ∧ Wrote (l.put q.bumped) w w' := by
  subst hname
  obtain ⟨hresult, hstore⟩ := hw.replace_of_accepts (hw.accepts hr)
  rw [Ledger.replace_of_version hr hversion] at hresult hstore
  refine ⟨{ w with store := (w.store.replace q).2 }, ?_, hstore, rfl, rfl, rfl, rfl⟩
  exact Prod.ext hresult rfl

/-- **A record is removed** in the version that is stored. -/
theorem run_removeRecord (hr : l.get? key = some r) :
    ∃ w', w.run (Program.removeRecord key (some r.version)) = (.ok true, w') ∧
      Wrote ⟨l.records.erase key⟩ w w' := by
  obtain ⟨hresult, hstore⟩ := hw.remove_of_accepts (hw.accepts hr) (some r.version)
  rw [Ledger.remove_of_version hr] at hresult hstore
  refine ⟨{ w with store := (w.store.remove key (some r.version)).2 }, ?_, hstore, rfl, rfl, rfl,
    rfl⟩
  show World.run (Program.ofExcept (w.store.remove key (some r.version)).1) _ = _
  rw [hresult]
  rfl

/-! ### Revisions -/

variable {needed : Record → Bool} {change : Record → Record}

/-- What is not needed is not written. -/
theorem run_revise_of_not_needed (hr : l.get? key = some r) (hneeded : needed r = false) :
    w.run (Record.revise key (.when needed change)) = (.ok ⟨r, r, false⟩, w) := by
  have hread := run_readRecord_of_accepts hw (hw.accepts hr)
  rw [hr] at hread
  have hattempt : w.run (Record.revise? key (.when needed change)) =
      (.ok (some ⟨r, r, false⟩), w) := by
    refine (run_bind_ok hread _).trans ?_
    simp only [Edit.editor_apply, Edit.when, hneeded, Bool.false_eq_true, if_false]
    rfl
  exact run_bind_ok hattempt _

/-- **A record is revised**, at the first attempt. -/
theorem run_revise (needed : Record → Bool) (change : Record → Record) (hr : l.get? key = some r)
    (hname : r.name = key) (hchange : (change r).name = r.name ∧ (change r).version = r.version) :
    ∃ r' w', w.run (Record.revise key (.when needed change)) = (.ok ⟨r, r', needed r⟩, w') ∧
      r'.unversioned = (if needed r then change r else r).unversioned ∧
      Wrote (l.put r') w w' := by
  by_cases hneeded : needed r
  · have hread := run_readRecord_of_accepts hw (hw.accepts hr)
    rw [hr] at hread
    obtain ⟨w', hreplace, hwrote⟩ :=
      answer_replaceRecord hw hr (hchange.1.trans hname) hchange.2
    have hattempt : w.run (Record.revise? key (.when needed change)) =
        (.ok (some ⟨r, (change r).bumped, true⟩), w') := by
      refine (run_bind_ok hread _).trans ?_
      simp only [Edit.editor_apply, Edit.when, hneeded, if_true]
      exact run_bind_ok (run_request hreplace) _
    refine ⟨(change r).bumped, w', ?_, ?_, hwrote⟩
    · rw [hneeded]
      exact run_bind_ok hattempt _
    · rw [if_pos hneeded]
      rfl
  · rw [Bool.not_eq_true] at hneeded
    refine ⟨r, w, ?_, ?_, ?_⟩
    · rw [hneeded]
      exact run_revise_of_not_needed hw hr hneeded
    · rw [hneeded]
      rfl
    · rw [Ledger.put_self (hname ▸ hr)]
      exact .refl hw

/-- A record is in a phase already. -/
theorem run_enter_self (hr : l.get? key = some r) {phase : Phase} (hphase : r.phase = some phase) :
    w.run (Record.enter key phase) = (.ok (), w) := by
  have hneeded : (r.phase != some phase) = false := by simp [hphase]
  exact run_bind_ok (run_revise_of_not_needed hw hr hneeded) _

/-- **A phase is entered.** -/
theorem run_enter (hr : l.get? key = some r) (hname : r.name = key) (phase : Phase) :
    ∃ r' w', w.run (Record.enter key phase) = (.ok (), w') ∧
      r'.unversioned = { r.unversioned with phase := some phase } ∧ Wrote (l.put r') w w' := by
  obtain ⟨r', w₁, hrevise, hr', hwrote⟩ := run_revise hw (fun r => r.phase != some phase)
    (fun r => { r with phase := some phase }) hr hname ⟨rfl, rfl⟩
  obtain ⟨w₂, hemit, hwrote'⟩ := run_emitIf hwrote.store (r.phase != some phase)
    (.stateChanged key r.phase phase)
  refine ⟨r', w₂, (run_bind_ok hrevise _).trans hemit, ?_, hwrote.trans hwrote'⟩
  rw [hr']
  by_cases hphase : r.phase = some phase
  · rw [if_neg (by simp [hphase])]
    show r.unversioned = { r.unversioned with phase := some phase }
    rw [← hphase]
    rfl
  · rw [if_pos (by simpa using hphase)]
    rfl

end

end World

end ImageCatalog
