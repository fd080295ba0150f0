import ImageCatalog.Proofs.Pass.Outline
import ImageCatalog.Proofs.Record.LastUsed

/-!
# Periods of grace

A record that nobody needs is stamped by a pass, and a later pass may delete its image once the
period is over. What a record knows of this lies in three fields that are written by different
operations: its phase, its stamp and its deletion request. `Patient` ties each of them to what has
happened since the stamp, and says that the deed that was done last has deleted nothing too early.

## Main definitions

* `Grace` — a record was stamped, and nobody has needed it since
* `Over` — the period has passed since a stamp that an earlier pass has left
* `Patient` — what the fields of all records say about the past

## Main results

* `Patient.still`, `Patient.put`, `Patient.erase` — what becomes of it with each kind of deed
-/

namespace ImageCatalog

/-! ### Time that passes -/

namespace Instant

variable {s t t' : Instant}

theorem since_of_not_leap (hs : s.isLeap = false) (ht : t.isLeap = false) :
    t.since s = (t.second - s.second) * 1000000000 + (t.nano - s.nano) := by
  simp [since, hs, ht]

/-- A stamp only gets older. -/
theorem since_le_since (hs : s.isLeap = false) (ht : t.isLeap = false) (ht' : t'.isLeap = false)
    (h : 0 ≤ t'.since t) : t.since s ≤ t'.since s := by
  rw [since_of_not_leap ht ht'] at h
  rw [since_of_not_leap hs ht, since_of_not_leap hs ht']
  omega

theorem since_self (t : Instant) : t.since t = 0 := by
  simp [since]

end Instant

/-! ### Stamps and what came after them -/

/-- The record of a name is stored, and nobody needs it. -/
def Ledger.Frees (l : Ledger) (name : String) : Prop :=
  ∃ r, l.get? name = some r ∧ r.consumers = []

/-- Whether a pass over a record comes next: an errand for it begins, or a round of passes has asked
for an interruption. -/
def Deed.Opens : Deed → Prop
  | began (.pass _) | answered .passAll .isInterrupted _ => True
  | _ => False

/-- The errand has read the time `t`, and since then it has done nothing that changes a record. -/
def Reads (e : Errand) (t : Instant) (entries : List Entry) : Prop :=
  ∃ quiet l, entries = quiet ++ [⟨.answered e .now t, l, t⟩] ∧
    ∀ m ∈ quiet, m.deed.errand = e ∧ m.deed.Quiet

/-- A pass writes the time that it has read into a record as its stamp, and has it wait. -/
structure Stamps (e : Errand) (name : String) (stamp : Instant) (m : Entry)
    (reading : List Entry) : Prop where
  isPass : e.isPass
  reads : Reads e stamp reading
  writes : ∃ r, m.deed = .answered e (.replaceRecord r) (.ok r.bumped) ∧ r.name = name ∧
    r.phase = some .awaitingDeletion ∧
    r.annotations.get? Record.lastUsedKey = some stamp.stamp

/-- A pass has stamped the record, and nobody has needed it from the reading of the time on. The
deeds in `newer` have been done since the stamp was written. -/
def Grace (name : String) (stamp : Instant) (newer past : List Entry) : Prop :=
  ∃ e m reading older, past = newer ++ m :: (reading ++ older) ∧ Stamps e name stamp m reading ∧
    ∀ m' ∈ newer ++ m :: reading, m'.ledger.Frees name

/-- The record waits since a stamp, which an earlier pass has left if `opened` is set. -/
def Waits (opened : Bool) (name : String) (stamp : Instant) (past : List Entry) : Prop :=
  ∃ newer, Grace name stamp newer past ∧ (opened → ∃ m ∈ newer, m.deed.Opens)

/-- At the time `t` the period has passed since a stamp that an earlier pass has left, and nobody
has needed the record since. -/
def Over (period : Duration) (name : String) (past : List Entry) (t : Instant) : Prop :=
  ∃ stamp, stamp.isLeap = false ∧ period.nanos ≤ t.since stamp ∧ Waits true name stamp past

variable {name key : String} {stamp t t' : Instant} {newer past : List Entry} {m : Entry}
  {opened : Bool} {period : Duration} {r r' : Record} {σ : Stage} {d : Deed} {l : Ledger}

theorem Grace.cons (h : Grace name stamp newer past) (hm : m.ledger.Frees name) :
    Grace name stamp (m :: newer) (m :: past) := by
  obtain ⟨e, w, reading, older, rfl, hstamps, hfree⟩ := h
  refine ⟨e, w, reading, older, rfl, hstamps, ?_⟩
  intro m' hm'
  rcases List.mem_cons.mp hm' with rfl | hm'
  · exact hm
  · exact hfree m' hm'

/-- Nobody needs the record now. -/
theorem Grace.free (h : Grace name stamp newer past) : (ledgerAfter past).Frees name := by
  obtain ⟨e, w, reading, older, rfl, _, hfree⟩ := h
  cases newer with
  | nil => exact hfree w List.mem_cons_self
  | cons m newer => exact hfree m List.mem_cons_self

namespace Waits

theorem cons (h : Waits opened name stamp past) (hm : m.ledger.Frees name) :
    Waits opened name stamp (m :: past) := by
  obtain ⟨newer, hgrace, hopened⟩ := h
  refine ⟨m :: newer, hgrace.cons hm, ?_⟩
  intro ho
  obtain ⟨m', hm', hopens⟩ := hopened ho
  exact ⟨m', List.mem_cons_of_mem _ hm', hopens⟩

/-- A pass comes next, for which the stamp is one of an earlier pass. -/
theorem opens (h : Waits opened name stamp past) (hm : m.ledger.Frees name) (hd : m.deed.Opens) :
    Waits true name stamp (m :: past) := by
  obtain ⟨newer, hgrace, _⟩ := h
  exact ⟨m :: newer, hgrace.cons hm, fun _ => ⟨m, List.mem_cons_self, hd⟩⟩

theorem weaken (h : Waits opened name stamp past) : Waits false name stamp past := by
  obtain ⟨newer, hgrace, _⟩ := h
  exact ⟨newer, hgrace, fun ho => by cases ho⟩

theorem free (h : Waits opened name stamp past) : (ledgerAfter past).Frees name := by
  obtain ⟨_, hgrace, _⟩ := h
  exact hgrace.free

end Waits

theorem Over.free (h : Over period name past t) : (ledgerAfter past).Frees name := by
  obtain ⟨_, _, _, hwaits⟩ := h
  exact hwaits.free

/-- Once the period is over it stays over. -/
theorem Over.later (h : Over period name past t) (ht : t.isLeap = false) (ht' : t'.isLeap = false)
    (hle : 0 ≤ t'.since t) : Over period name past t' := by
  obtain ⟨stamp, hstamp, hlong, hwaits⟩ := h
  exact ⟨stamp, hstamp, Int.le_trans hlong (Instant.since_le_since hstamp ht ht' hle), hwaits⟩

theorem Over.cons (h : Over period name past t) (hm : m.ledger.Frees name) :
    Over period name (m :: past) t := by
  obtain ⟨stamp, hstamp, hlong, hwaits⟩ := h
  exact ⟨stamp, hstamp, hlong, hwaits.cons hm⟩

/-! ### What records say about the past -/

/-- What the fields of a record say about the past. -/
structure Explained (period : Duration) (opened : Bool) (past : List Entry) (t : Instant)
    (name : String) (r : Record) : Prop where
  name_eq : r.name = name
  /-- A stamp counts while the record waits for its deletion. -/
  waits : r.phase = some .awaitingDeletion → ∀ stamp, r.lastUsed? = some stamp →
    stamp.isLeap = false ∧ Waits opened name stamp past
  /-- Deletion is requested only when the period is over. -/
  due : r.deletion ≠ none → Over period name past t

/-- Whether a deed takes the image of a record out of a catalog, or removes the record. -/
def Entry.Deletes (m : Entry) (name : String) (past : List Entry) : Prop :=
  (∃ e call, m.deed = .issued e (.withdraw call) ∧ call.record = name) ∨
    (ledgerAfter past).get? name ≠ none ∧ m.ledger.get? name = none

/-- The fields of all records agree with the past, and the deed that was done last has deleted
nothing before the period was over. -/
structure Patient (period : Duration) (opened : Bool) (σ : Stage) : Prop where
  clock : σ.clock.isLeap = false
  records : ∀ name r, σ.record? name = some r →
    Explained period opened σ.past σ.clock name r
  latest : ∀ m past, σ.past = m :: past → ∀ name, m.Deletes name past →
    Over period name past m.clock

/-- The clock goes on, and not into a leap second. -/
structure Passes (t t' : Instant) : Prop where
  isLeap : t'.isLeap = false
  since : 0 ≤ t'.since t

theorem Explained.weaken (h : Explained period opened past t name r) :
    Explained period false past t name r where
  name_eq := h.name_eq
  waits hp s hs := (h.waits hp s hs).imp_right Waits.weaken
  due := h.due

/-- The record is left as it is, or changed in a way that starts no wait and requests no
deletion. -/
theorem Explained.cons (h : Explained period opened past t name r) (ht : t.isLeap = false)
    (hr : (ledgerAfter past).get? name = some r) (hm : m.ledger.get? name = some r')
    (hclock : Passes t m.clock) (hname : r'.name = r.name)
    (hcons : r.consumers = [] → r'.consumers = [])
    (hwaits : r'.phase = some .awaitingDeletion →
      r.phase = some .awaitingDeletion ∧ r'.annotations = r.annotations)
    (hdel : r'.deletion = r.deletion ∨ r'.deletion = none) :
    Explained period opened (m :: past) m.clock name r' := by
  have hfrees : (ledgerAfter past).Frees name → m.ledger.Frees name := by
    rintro ⟨q, hq, hnil⟩
    obtain rfl := Option.some.inj (hr.symm.trans hq)
    exact ⟨r', hm, hcons hnil⟩
  refine ⟨hname.trans h.name_eq, ?_, ?_⟩
  · intro hp s hs
    obtain ⟨hp₀, hann⟩ := hwaits hp
    have hs₀ : r.lastUsed? = some s := by
      rw [Record.lastUsed?, ← hann]
      exact hs
    obtain ⟨hleap, hw⟩ := h.waits hp₀ s hs₀
    exact ⟨hleap, hw.cons (hfrees hw.free)⟩
  · intro hreq
    have hreq₀ : r.deletion ≠ none := by
      rcases hdel with hdel | hdel
      · rw [← hdel]
        exact hreq
      · exact absurd hdel hreq
    have hover := h.due hreq₀
    exact (hover.later ht hclock.isLeap hclock.since).cons (hfrees hover.free)

theorem Explained.calm (h : Explained period opened past t name r) (ht : t.isLeap = false)
    (hr : (ledgerAfter past).get? name = some r) (hm : m.ledger.get? name = some r'.bumped)
    (hclock : Passes t m.clock) (hc : r.Calm r') :
    Explained period opened (m :: past) m.clock name r'.bumped :=
  h.cons ht hr hm hclock hc.name (fun hnil => hc.consumers.trans hnil) hc.waits hc.deletion

/-- A record that neither waits nor is to be deleted says nothing about the past. -/
theorem Explained.of_plain (hname : r.name = name) (hphase : r.phase ≠ some .awaitingDeletion)
    (hdel : r.deletion = none) : Explained period opened past t name r :=
  ⟨hname, fun hp => absurd hp hphase, fun hreq => absurd hdel hreq⟩

namespace Patient

theorem start (h : t.isLeap = false) : Patient period opened (.start t) where
  clock := h
  records _ _ hr := by cases hr
  latest _ _ hpast := by cases hpast

theorem weaken (h : Patient period opened σ) : Patient period false σ where
  clock := h.clock
  records name r hr := (h.records name r hr).weaken
  latest := h.latest

theorem named (h : Patient period opened σ) (hr : σ.record? name = some r) : r.name = name :=
  (h.records name r hr).name_eq

/-- What is known after a deed. -/
theorem after {opened' : Bool} (hclock : Passes σ.clock t)
    (hrecords : ∀ name r, l.get? name = some r →
      Explained period opened' (⟨d, l, t⟩ :: σ.past) t name r)
    (hlatest : ∀ name, Entry.Deletes ⟨d, l, t⟩ name σ.past → Over period name σ.past t) :
    Patient period opened' (σ.after d l t) where
  clock := hclock.isLeap
  records := hrecords
  latest m past hpast name hm := by
    obtain ⟨rfl, rfl⟩ := List.cons.inj hpast
    exact hlatest name hm

/-- A record that nothing is done to. -/
theorem untouched (h : Patient period opened σ) (hclock : Passes σ.clock t)
    (hr : σ.record? name = some r) (hl : l.get? name = some r) :
    Explained period opened (⟨d, l, t⟩ :: σ.past) t name r :=
  (h.records name r hr).cons h.clock hr hl hclock rfl id (fun hp => ⟨hp, rfl⟩) (.inl rfl)

/-- **A deed that leaves all records alone.** -/
theorem still (h : Patient period opened σ) (hclock : Passes σ.clock t)
    (hd : ∀ e call, d = .issued e (.withdraw call) → Over period call.record σ.past t) :
    Patient period opened (σ.after d σ.ledger t) := by
  refine after hclock ?_ ?_
  · intro name r hr
    exact h.untouched hclock hr hr
  · intro name hm
    rcases hm with ⟨e, call, he, rfl⟩ | ⟨hsome, hnone⟩
    · exact hd e call he
    · exact absurd hnone hsome

/-- A pass comes next. -/
theorem opens (h : Patient period opened σ) (hclock : Passes σ.clock t) (hd : d.Opens) :
    Patient period true (σ.after d σ.ledger t) := by
  have hnext : Patient period opened (σ.after d σ.ledger t) := by
    refine h.still hclock ?_
    rintro e call rfl
    cases hd
  refine ⟨hnext.clock, ?_, hnext.latest⟩
  intro name r hr
  have hold := h.records name r hr
  refine ⟨hold.name_eq, ?_, (hnext.records name r hr).due⟩
  intro hp s hs
  obtain ⟨hleap, hw⟩ := hold.waits hp s hs
  exact ⟨hleap, hw.opens hw.free hd⟩

/-- **A record is stored.** -/
theorem put (h : Patient period opened σ) (hclock : Passes σ.clock t)
    (hd : ∀ e r, d ≠ .issued e r)
    (hr : Explained period opened (⟨d, σ.ledger.put r', t⟩ :: σ.past) t r'.name r') :
    Patient period opened (σ.after d (σ.ledger.put r') t) := by
  refine after hclock ?_ ?_
  · intro name r hget
    obtain ⟨rfl, rfl⟩ | ⟨_, hold⟩ := Ledger.of_get?_put rfl hget
    · exact hr
    · exact h.untouched hclock hold hget
  · intro name hm
    rcases hm with ⟨e, call, he, _⟩ | ⟨hsome, hnone⟩
    · exact absurd he (hd e _)
    · exact absurd (Ledger.of_get?_put_eq_none hnone) hsome

/-- **A record is removed.** -/
theorem erase (h : Patient period opened σ) (hclock : Passes σ.clock t)
    (hd : ∀ e r, d ≠ .issued e r) (hover : Over period key σ.past t) :
    Patient period opened (σ.after d ⟨σ.ledger.records.erase key⟩ t) := by
  refine after hclock ?_ ?_
  · intro name r hr
    exact h.untouched hclock (Ledger.of_get?_erase hr).2 hr
  · intro name hm
    rcases hm with ⟨e, call, he, _⟩ | ⟨hsome, hnone⟩
    · exact absurd he (hd e _)
    · by_cases hname : name = key
      · rw [hname]
        exact hover
      · rw [Ledger.get?_erase, if_neg hname] at hnone
        exact absurd hnone hsome

end Patient

end ImageCatalog
