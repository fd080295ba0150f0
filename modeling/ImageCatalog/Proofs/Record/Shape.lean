import ImageCatalog.Proofs.Pass.Outline

/-!
# Records in good shape

What holds of every record that is stored: the name that it is kept under is its own, its consumers
are told apart, and its stamp, its phase and its consumers fit together. The stamp is written apart
from the phase, so what counts is that the two go together in every write: a record gets its stamp
as it begins to wait for deletion, and whatever ends the wait takes the stamp away.

## Main definitions

* `Record.Valid` — a record in good shape

## Main results

* `Record.Valid.enter`, `Record.Valid.startRemoval`, `Record.Valid.startWait` — the writes of passes
* `Record.Valid.add`, `Record.Valid.remove` — the writes for consumers
-/

namespace ImageCatalog

/-- The record that is stored under a name is in good shape, where images are kept for a period. -/
structure Record.Valid (period : Duration) (name : String) (r : Record) : Prop where
  name_eq : r.name = name
  name_ok : Name.fault? name = none
  nodup : r.consumers.Nodup
  consumers_ok : ∀ c ∈ r.consumers, Name.fault? c = none
  /-- A record is stamped while it waits for deletion. -/
  stamp_iff : r.hasStamp ↔ r.phase = some .awaitingDeletion
  /-- Nobody needs a record that waits for deletion, and there is something to wait for. -/
  waits : r.phase = some .awaitingDeletion → r.consumers = [] ∧ 0 < period.nanos
  /-- A record that somebody needs was looked at. -/
  looked : r.consumers ≠ [] → r.phase ≠ none

namespace Record

variable {period : Duration} {name : String} {r : Record}

theorem hasStamp_clearLastUsed (r : Record) : r.clearLastUsed.hasStamp = false := by
  have h : (r.annotations.erase lastUsedKey).get? lastUsedKey = none :=
    Dictionary.get?_erase_self ..
  simp only [hasStamp, clearLastUsed, Dictionary.contains]
  rw [h]
  rfl

theorem hasStamp_stampLastUsed (r : Record) (t : Instant) :
    (r.stampLastUsed t).hasStamp = true := by
  have h : (r.annotations.insert lastUsedKey t.stamp).get? lastUsedKey = some t.stamp :=
    Dictionary.get?_insert_self ..
  simp only [hasStamp, stampLastUsed, Dictionary.contains]
  rw [h]
  rfl

theorem phase_addConsumer (r : Record) (c : String) : (r.addConsumer c).phase = r.phase := by
  rw [r.addConsumer_eq c]

theorem hasStamp_revive (r : Record) : r.revive.hasStamp = false :=
  r.hasStamp_clearLastUsed

theorem exists_phase_revive (r : Record) : ∃ phase, r.revive.phase = some phase := by
  cases h : r.phase with
  | none => exact ⟨.pending, by simp [revive, h]⟩
  | some phase =>
    by_cases hp : phase = .awaitingDeletion
    · exact ⟨.pending, by simp [revive, h, hp]⟩
    · exact ⟨phase, by simp [revive, h, hp]⟩

theorem phase_revive_eq_deleted (h : r.revive.phase = some .deleted) : r.phase = some .deleted := by
  simp only [revive] at h
  split at h
  · cases h
  · exact h

theorem valid_new (hname : Name.fault? name = none) (spec : Spec) (t : Instant) :
    Valid period name (new name spec t).atFirst where
  name_eq := rfl
  name_ok := hname
  nodup := List.nodup_nil
  consumers_ok c hc := by cases hc
  stamp_iff := by
    constructor
    · intro h
      cases h
    · intro h
      cases h
  waits h := by cases h
  looked h := absurd rfl h

/-- A record without a stamp, in a phase in which nothing waits. -/
theorem valid_of_phase (hname : r.name = name) (hok : Name.fault? name = none)
    (hnodup : r.consumers.Nodup) (hcons : ∀ c ∈ r.consumers, Name.fault? c = none)
    (hstamp : r.hasStamp = false) {phase : Phase} (hphase : r.phase = some phase)
    (hne : phase ≠ .awaitingDeletion) : r.Valid period name := by
  have hwaits : r.phase ≠ some .awaitingDeletion := by
    rw [hphase]
    intro hp
    exact hne (Option.some.inj hp)
  refine ⟨hname, hok, hnodup, hcons, ?_, fun hp => absurd hp hwaits, fun _ => ?_⟩
  · rw [hstamp]
    constructor
    · intro hs
      cases hs
    · intro hp
      exact absurd hp hwaits
  · rw [hphase]
    exact Option.some_ne_none phase

namespace Valid

variable (h : r.Valid period name)

include h

theorem bumped : r.bumped.Valid period name :=
  ⟨h.name_eq, h.name_ok, h.nodup, h.consumers_ok, h.stamp_iff, h.waits, h.looked⟩

/-- A deletion request has no part in this. -/
theorem setDeletion (deletion : Option Instant) :
    Valid period name { r with deletion := deletion } :=
  ⟨h.name_eq, h.name_ok, h.nodup, h.consumers_ok, h.stamp_iff, h.waits, h.looked⟩

/-- A record that does not wait for deletion has no stamp. -/
theorem hasStamp_eq_false (hne : r.phase ≠ some .awaitingDeletion) : r.hasStamp = false := by
  have hn : ¬ r.hasStamp = true := fun hs => hne (h.stamp_iff.mp hs)
  simpa using hn

/-- A record that somebody needs does not wait for deletion. -/
theorem ne_awaitingDeletion (hplace : r.isReferenced ∨ r.phase = none) :
    r.phase ≠ some .awaitingDeletion := by
  intro hp
  rcases hplace with href | hnone
  · have hnil := (h.waits hp).1
    simp [isReferenced, hnil] at href
  · rw [hnone] at hp
    cases hp

/-- A record that does not wait for deletion enters a phase. -/
theorem enter (hne : r.phase ≠ some .awaitingDeletion) {phase : Phase}
    (hphase : phase ≠ .awaitingDeletion) : Valid period name { r with phase := some phase } :=
  valid_of_phase h.name_eq h.name_ok h.nodup h.consumers_ok (h.hasStamp_eq_false hne) rfl hphase

/-- The removal starts. -/
theorem startRemoval : Valid period name { r.clearLastUsed with phase := some .deleting } :=
  valid_of_phase h.name_eq h.name_ok h.nodup h.consumers_ok r.hasStamp_clearLastUsed rfl (by decide)

/-- The wait for deletion starts. -/
theorem startWait (hcons : r.consumers = []) (hperiod : 0 < period.nanos) (t : Instant) :
    Valid period name ({ r with phase := some .awaitingDeletion }.stampLastUsed t) where
  name_eq := h.name_eq
  name_ok := h.name_ok
  nodup := h.nodup
  consumers_ok := h.consumers_ok
  stamp_iff := by
    rw [hasStamp_stampLastUsed]
    exact ⟨fun _ => rfl, fun _ => rfl⟩
  waits _ := ⟨hcons, hperiod⟩
  looked hc := absurd hcons hc

/-- A consumer is added, and the record revived. -/
theorem add {c : String} (hc : Name.fault? c = none) :
    Valid period name (r.addConsumer c).revive := by
  obtain ⟨phase, hphase⟩ := (r.addConsumer c).exists_phase_revive
  have hcons : (r.addConsumer c).revive.consumers = (Demand.add c).apply r.consumers := by
    rw [r.addConsumer_eq c]
    rfl
  refine valid_of_phase ?_ h.name_ok ?_ ?_ (hasStamp_revive _) hphase ?_
  · rw [r.addConsumer_eq c]
    exact h.name_eq
  · rw [hcons]
    exact (Demand.add c).nodup_apply h.nodup
  · rw [hcons]
    intro a ha
    rcases Demand.mem_apply ha with ha | ha
    · exact h.consumers_ok a ha
    · cases ha
      exact hc
  · rintro rfl
    exact (r.addConsumer c).phase_revive_ne hphase

/-- A consumer is dropped. -/
theorem remove (c : String) : Valid period name (r.removeConsumer c) where
  name_eq := h.name_eq
  name_ok := h.name_ok
  nodup := h.nodup.filter _
  consumers_ok a ha := h.consumers_ok a (List.mem_filter.mp ha).1
  stamp_iff := h.stamp_iff
  waits hp := by
    obtain ⟨hnil, hperiod⟩ := h.waits hp
    refine ⟨?_, hperiod⟩
    rw [removeConsumer, hnil]
    rfl
  looked hc := by
    refine h.looked fun hnil => hc ?_
    rw [removeConsumer, hnil]
    rfl

end Valid

end Record

end ImageCatalog
