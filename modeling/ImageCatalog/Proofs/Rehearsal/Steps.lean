import ImageCatalog.Proofs.Rehearsal.Writes

/-!
# The steps of a pass in a world

What each of the smaller steps of a pass makes of its record, in any world: which fields it sets,
and that nothing else is written. Each step edits the record in one revision and tells about it.

## Main results

* `World.run_look` — the beginning of a pass
* `World.run_dropDeletionRequest`, `World.run_endWait` — steps for a record with consumers
* `World.run_startGracePeriod`, `World.run_markForDeletion` — steps for a record without consumers
* `World.run_startRemoval`, `World.run_takeAway` — the two ends of a removal
-/

namespace ImageCatalog

variable {w : World} {l : Ledger} {key : String} {r : Record}

namespace World

/-- A pass reads its record, and goes by that. -/
theorem run_look (hw : w.store.Holds l) (hr : l.get? r.name = some r) (s : Pass.Setup) :
    w.run (Pass.run s r.name) =
      w.run (if r.isDeletionRequested && !r.isReferenced then Pass.remove s r.name r
        else Pass.dropDeletionRequest r.name r >>= Pass.retainOrPlace s r.name) := by
  have hread := run_readRecord_of_accepts hw (hw.accepts hr)
  rw [hr] at hread
  rw [Pass.run, run_bind_ok hread]

/-! ### Records with consumers -/

theorem run_dropDeletionRequest_of_none (key : String) (w : World) (h : r.deletion = none) :
    w.run (Pass.dropDeletionRequest key r) = (.ok r, w) := by
  have hdue : ¬ r.isDeletionRequested := by simp [Record.isDeletionRequested, h]
  rw [Pass.dropDeletionRequest, if_neg hdue]
  rfl

/-- A deletion request is dropped. -/
theorem run_dropDeletionRequest (hw : w.store.Holds l) (hr : l.get? key = some r)
    (hname : r.name = key) :
    ∃ r' w', w.run (Pass.dropDeletionRequest key r) = (.ok r', w') ∧
      r'.unversioned = { r.unversioned with deletion := none } ∧ Wrote (l.put r') w w' := by
  by_cases hdue : r.isDeletionRequested
  · obtain ⟨r', w₁, hrevise, hr', hwrote⟩ := run_revise hw Record.isDeletionRequested
      (fun r => { r with deletion := none }) hr hname ⟨rfl, rfl⟩
    obtain ⟨w₂, hemit, hwrote'⟩ :=
      run_emit hwrote.store (.deletionBlocked key r'.consumers.length)
    refine ⟨r', w₂, ?_, ?_, hwrote.trans hwrote'⟩
    · rw [Pass.dropDeletionRequest, if_pos hdue, run_bind_ok hrevise]
      exact run_bind_ok hemit _
    · rw [hr', if_pos hdue]
      rfl
  · have hnone : r.deletion = none := by simpa [Record.isDeletionRequested] using hdue
    refine ⟨r, w, run_dropDeletionRequest_of_none key w hnone, ?_, ?_⟩
    · show r.unversioned = { r.unversioned with deletion := none }
      rw [← hnone]
      rfl
    · rw [Ledger.put_self (hname ▸ hr)]
      exact .refl hw

/-- A record with consumers does not wait for its deletion any more. -/
theorem run_endWait (hw : w.store.Holds l) (hr : l.get? key = some r) (hname : r.name = key)
    (hneeded : r.isReferenced) :
    ∃ r' w', w.run (Pass.endWait key r) = (.ok r', w') ∧
      r'.unversioned =
        (if r.phase = some .awaitingDeletion then r.revive else r).unversioned ∧
      Wrote (l.put r') w w' := by
  by_cases hphase : r.phase = some .awaitingDeletion
  · have hgo : (r.isReferenced && r.phase == some .awaitingDeletion) = true := by
      simp [hneeded, hphase]
    have hrevivable : r.isRevivable := by simp [Record.isRevivable, hphase]
    obtain ⟨r', w₁, hrevise, hr', hwrote⟩ := run_revise hw Record.isRevivable Record.revive hr
      hname ⟨rfl, rfl⟩
    obtain ⟨w₂, hemit, hwrote'⟩ := run_emit hwrote.store (.retentionCancelled key)
    refine ⟨r', w₂, ?_, ?_, hwrote.trans hwrote'⟩
    · rw [Pass.endWait, if_pos hgo, run_bind_ok hrevise]
      exact run_bind_ok hemit _
    · rw [hr', if_pos hrevivable, if_pos hphase]
  · refine ⟨r, w, ?_, by rw [if_neg hphase], ?_⟩
    · rw [Pass.endWait, if_neg (by simp [hphase])]
      rfl
    · rw [Ledger.put_self (hname ▸ hr)]
      exact .refl hw

/-! ### Records without consumers -/

/-- The wait for deletion starts, with a stamp. -/
theorem run_startGracePeriod (hw : w.store.Holds l) (hr : l.get? key = some r) (hname : r.name = key)
    (hfree : r.isReferenced = false) (period : Duration) (now : Instant) :
    ∃ r' w', w.run (Pass.startGracePeriod key period now) = (.ok true, w') ∧
      r'.unversioned =
        ({ r with phase := some .awaitingDeletion }.stampLastUsed now).unversioned ∧
      Wrote (l.put r') w w' := by
  obtain ⟨r', w₁, hrevise, hr', hwrote⟩ := run_revise hw (fun r => !r.isReferenced)
    (fun r => { r with phase := some .awaitingDeletion }.stampLastUsed now) hr hname ⟨rfl, rfl⟩
  obtain ⟨w₂, hemit, hwrote₂⟩ := run_emitIf hwrote.store (r.phase != some .awaitingDeletion)
    (.stateChanged key r.phase .awaitingDeletion)
  obtain ⟨w₃, hemit', hwrote₃⟩ := run_emit hwrote₂.store (.retentionStarted key period)
  refine ⟨r', w₃, ?_, by rw [hr', if_pos (by simp [hfree])],
    hwrote.trans (hwrote₂.trans hwrote₃)⟩
  rw [Pass.startGracePeriod, run_bind_ok hrevise, if_neg (by simp [hfree]), run_bind_ok hemit]
  exact run_bind_ok hemit' _

/-- Deletion is requested. -/
theorem run_markForDeletion (hw : w.store.Holds l) (hr : l.get? key = some r) (hname : r.name = key)
    (hfree : r.isReferenced = false) (hnone : r.deletion = none) (now : Instant) :
    ∃ r' w', w.run (Pass.markForDeletion key now) = (.ok (some r'), w') ∧
      r'.unversioned = { r.unversioned with deletion := some now } ∧ Wrote (l.put r') w w' := by
  have hneeded : (!r.isReferenced && !r.isDeletionRequested) = true := by
    simp [hfree, Record.isDeletionRequested, hnone]
  obtain ⟨r', w', hrevise, hr', hwrote⟩ := run_revise hw
    (fun r => !r.isReferenced && !r.isDeletionRequested)
    (fun r => { r with deletion := some now }) hr hname ⟨rfl, rfl⟩
  refine ⟨r', w', ?_, ?_, hwrote⟩
  · rw [Pass.markForDeletion, run_bind_ok hrevise, if_neg (by simp [hfree])]
    rfl
  · rw [hr', if_pos hneeded]
    rfl

/-! ### Removals -/

/-- The removal starts. -/
theorem run_startRemoval (hw : w.store.Holds l) (hr : l.get? key = some r) (hname : r.name = key) :
    ∃ r' w', w.run (Pass.startRemoval key) = (.ok (), w') ∧
      r'.unversioned = { r.unversioned.clearLastUsed with phase := some .deleting } ∧
      Wrote (l.put r') w w' := by
  obtain ⟨r', w₁, hrevise, hr', hwrote⟩ := run_revise hw
    (fun r => r.hasStamp || r.phase != some .deleting)
    (fun r => { r.clearLastUsed with phase := some .deleting }) hr hname ⟨rfl, rfl⟩
  obtain ⟨w₂, hemit, hwrote'⟩ := run_emitIf hwrote.store (r.phase != some .deleting)
    (.stateChanged key r.phase .deleting)
  refine ⟨r', w₂, (run_bind_ok hrevise _).trans hemit, ?_, hwrote.trans hwrote'⟩
  rw [hr']
  split
  · rfl
  · rename_i hneeded
    obtain ⟨hstamp, hphase⟩ : r.hasStamp = false ∧ r.phase = some .deleting := by
      simpa using hneeded
    have hsame : r.unversioned.clearLastUsed = r.unversioned :=
      Record.clearLastUsed_of_not_hasStamp hstamp
    rw [hsame, ← hphase]
    rfl

/-- The record goes, once its image is gone. -/
theorem run_takeAway (hw : w.store.Holds l) (hr : l.get? r.name = some r)
    (hfree : r.isReferenced = false) {q : Record} (hq : q.name = r.name) :
    ∃ w', w.run (Pass.takeAway r.name q) = (.ok .finished, w') ∧
      Wrote ⟨l.records.erase r.name⟩ w w' := by
  obtain ⟨r', w₁, hrevise, hr', hwrote⟩ := run_revise hw
    (fun r => !r.isReferenced && r.phase != some .deleted)
    (fun r => { r with phase := some .deleted }) hr rfl ⟨rfl, rfl⟩
  have hname : r'.name = r.name := by
    have hname := congrArg Record.name hr'
    split at hname <;> exact hname
  have hnone : ¬ 0 < r.consumers.length := by
    have hnil : r.consumers = [] := Record.consumers_eq_nil hfree
    simp [hnil]
  obtain ⟨w₂, hemit, hwrote₂⟩ := run_emitIf hwrote.store (r.phase != some .deleted)
    (.stateChanged q.name r.phase .deleted)
  obtain ⟨w₃, hremove, hwrote₃⟩ := run_removeRecord hwrote₂.store (Ledger.get?_put_of_eq hname)
  obtain ⟨w₄, hemit', hwrote₄⟩ := run_emit hwrote₃.store (.removed q.name)
  rw [← hname, Ledger.erase_put, hname] at hwrote₄
  refine ⟨w₄, ?_, hwrote.trans (hwrote₂.trans (hwrote₃.trans hwrote₄))⟩
  rw [Pass.takeAway, run_bind_ok hrevise]
  simp only [hnone, if_false]
  rw [run_bind_ok hemit, hq, run_bind_ok hremove]
  rw [hq] at hemit'
  exact run_bind_ok hemit' _

end World

end ImageCatalog
