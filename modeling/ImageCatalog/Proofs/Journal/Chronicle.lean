import ImageCatalog.Proofs.Consumers.Walk
import ImageCatalog.Proofs.Journal.Replay
import ImageCatalog.Proofs.Pass.Walk
import ImageCatalog.Proofs.Record.Shape

/-!
# Every errand keeps records and journal together

The contract behind both statements about all records: that they are in good shape, and that the
journal tells what they hold. The two belong together. A consumer that ends a wait for deletion
would leave the journal behind if it came to a pass, since a pass ends a wait without a report; it
never does, because no record with consumers waits.

## Exceptions

Two things hold of all records but some, and which ones changes in the course of an errand. A pass
that brings an image to its locations relies on its record not waiting for deletion, so visitors
must not make it wait. And a pass that is about to remove its record has it in the phase of deleted
records, where no other errand finds one. `Sound` has the exceptions as parameters: the records that
may wait, and those that may be deleted. If a store is out of order when a record is to be removed,
the record stays, and that is the only way for it to outlast its pass.

## Main definitions

* `Behind`, `InStep` — the journal tells of all records, or of all but one, what they hold
* `Sound` — records in good shape, with the journal in step
* `chronicle` — the contract

## Main results

* `Tidy.owes` — what is owed to the journal is reported
* `dealings_sound`, `soundCourse` — errands about consumers and passes
* `chronicle_holds` — every errand keeps the contract, if no pass lands in another
-/

namespace ImageCatalog

/-- Whether a store is out of order. -/
def Deed.isOutage : Deed → Bool
  | answered _ (.readRecord _) (.error e) | answered _ (.createRecord _) (.error e)
  | answered _ (.replaceRecord _) (.error e) | answered _ (.removeRecord _ _) (.error e)
  | answered _ .listRecords (.error e) => e.isOutage
  | _ => false

/-- A store has been out of order. -/
def Faulted (past : List Entry) : Prop :=
  ∃ m ∈ past, m.deed.isOutage

theorem Faulted.cons {past : List Entry} (h : Faulted past) (m : Entry) : Faulted (m :: past) := by
  obtain ⟨m', hm, hout⟩ := h
  exact ⟨m', List.mem_cons_of_mem _ hm, hout⟩

/-! ### Records and journal -/

/-- Every record is in good shape; of those that wait for deletion `W` holds, and of those that are
deleted `D`, unless a store was out of order. -/
structure Tidy (s : Service) (W D : String → Prop) (σ : Stage) : Prop where
  valid : ∀ n r, σ.record? n = some r → r.Valid s.setup.period n
  waits : ∀ n r, σ.record? n = some r → r.phase = some .awaitingDeletion → W n
  deleted : ∀ n r, σ.record? n = some r → r.phase = some .deleted → D n ∨ Faulted σ.past

/-- The journal tells of a name what is in `k`, and of all other names what their records hold. -/
structure Behind (key : String) (k : Option Sketch) (σ : Stage) : Prop where
  chained : Chained (journal σ.past)
  replay : replay key (journal σ.past) = k
  others : ∀ n, n ≠ key →
    ImageCatalog.replay n (journal σ.past) = (σ.record? n).map Record.sketch

/-- The journal tells what the records hold. -/
structure InStep (σ : Stage) : Prop where
  chained : Chained (journal σ.past)
  replay : ∀ n, ImageCatalog.replay n (journal σ.past) = (σ.record? n).map Record.sketch

/-- Records in good shape, with the journal in step. -/
structure Sound (s : Service) (W D : String → Prop) (σ : Stage) : Prop
    extends Tidy s W D σ, InStep σ

variable {s : Service} {W W' D D' : String → Prop} {σ σ' : Stage} {key : String}
  {k : Option Sketch} {r r' : Record} {d : Deed} {t : Instant}

theorem InStep.behind (h : InStep σ) (key : String) :
    Behind key ((σ.record? key).map Record.sketch) σ :=
  ⟨h.chained, h.replay key, fun n _ => h.replay n⟩

theorem Behind.inStep (h : Behind key ((σ.record? key).map Record.sketch) σ) : InStep σ where
  chained := h.chained
  replay n := by
    by_cases hn : n = key
    · rw [hn]
      exact h.replay
    · exact h.others n hn

/-- A deed that reports nothing leaves the journal as it is. -/
theorem Behind.after (h : Behind key k σ) (hd : ¬ d.Reports) {l : Ledger}
    (hl : ∀ n, n ≠ key → l.get? n = σ.record? n) (t : Instant) : Behind key k (σ.after d l t) where
  chained := h.chained.of_not_reports hd
  replay := by
    rw [Stage.past_after, replay_journal_of_not_reports hd]
    exact h.replay
  others n hn := by
    rw [Stage.past_after, replay_journal_of_not_reports hd, h.others n hn, ← hl n hn]
    rfl

theorem Tidy.mono (h : Tidy s W D σ) (hW : ∀ n, W n → W' n) (hD : ∀ n, D n → D' n) :
    Tidy s W' D' σ where
  valid := h.valid
  waits n r hr hp := hW n (h.waits n r hr hp)
  deleted n r hr hp := (h.deleted n r hr hp).imp_left (hD n)

/-- A record that does not wait for deletion is none of those that may. -/
theorem Tidy.awake (h : Tidy s W D σ) (hr : σ.record? key = some r)
    (hne : r.phase ≠ some .awaitingDeletion) : Tidy s (· ≠ key) D σ where
  valid := h.valid
  waits := by
    rintro n q hq hp rfl
    obtain rfl := Option.some.inj (hq.symm.trans hr)
    exact hne hp
  deleted := h.deleted

theorem Sound.mono (h : Sound s W D σ) (hW : ∀ n, W n → W' n) (hD : ∀ n, D n → D' n) :
    Sound s W' D' σ :=
  ⟨h.toTidy.mono hW hD, h.toInStep⟩

/-- A deed that changes no record. -/
theorem Tidy.keep (h : Tidy s W D σ) (d : Deed) (t : Instant) :
    Tidy s W D (σ.after d σ.ledger t) where
  valid := h.valid
  waits := h.waits
  deleted n r hr hp := (h.deleted n r hr hp).imp_right fun hf => hf.cons _

/-- A record is stored. -/
theorem Tidy.put (h : Tidy s W D σ) (hvalid : r.Valid s.setup.period key)
    (hwaits : r.phase = some .awaitingDeletion → W' key)
    (hdeleted : r.phase = some .deleted → D' key ∨ Faulted σ.past)
    (hW : ∀ n, n ≠ key → W n → W' n) (hD : ∀ n, n ≠ key → D n → D' n) (d : Deed) (t : Instant) :
    Tidy s W' D' (σ.after d (σ.ledger.put r) t) := by
  have hget : ∀ n q, (σ.after d (σ.ledger.put r) t).record? n = some q →
      (n = key ∧ q = r) ∨ (n ≠ key ∧ σ.record? n = some q) := by
    intro n q hq
    exact Ledger.of_get?_put hvalid.name_eq hq
  refine ⟨?_, ?_, ?_⟩
  · intro n q hq
    obtain ⟨rfl, rfl⟩ | ⟨_, hq⟩ := hget n q hq
    · exact hvalid
    · exact h.valid n q hq
  · intro n q hq hp
    obtain ⟨rfl, rfl⟩ | ⟨hn, hq⟩ := hget n q hq
    · exact hwaits hp
    · exact hW n hn (h.waits n q hq hp)
  · intro n q hq hp
    obtain ⟨rfl, rfl⟩ | ⟨hn, hq⟩ := hget n q hq
    · exact (hdeleted hp).imp_right fun hf => hf.cons _
    · exact (h.deleted n q hq hp).imp (hD n hn) fun hf => hf.cons _

/-- A record is removed. -/
theorem Tidy.erase (h : Tidy s W D σ) (hD : ∀ n, n ≠ key → D n → D' n) (d : Deed) (t : Instant) :
    Tidy s W D' (σ.after d ⟨σ.ledger.records.erase key⟩ t) := by
  have hget : ∀ n q, (σ.after d ⟨σ.ledger.records.erase key⟩ t).record? n = some q →
      n ≠ key ∧ σ.record? n = some q := by
    intro n q hq
    exact Ledger.of_get?_erase hq
  refine ⟨?_, ?_, ?_⟩
  · intro n q hq
    exact h.valid n q (hget n q hq).2
  · intro n q hq
    exact h.waits n q (hget n q hq).2
  · intro n q hq hp
    exact (h.deleted n q (hget n q hq).2 hp).imp (hD n (hget n q hq).1) fun hf => hf.cons _

/-- A deed that changes no record and reports nothing. -/
theorem Sound.keep (h : Sound s W D σ) (hd : ¬ d.Reports) (t : Instant) :
    Sound s W D (σ.after d σ.ledger t) := by
  refine ⟨h.toTidy.keep d t, h.chained.of_not_reports hd, ?_⟩
  intro n
  rw [Stage.past_after, replay_journal_of_not_reports hd, h.replay n]
  rfl

/-! ### The contract -/

/-- Records are in good shape and no report contradicts an earlier one. While nothing is at work,
and while a pass waits, the journal is in step as well. Visitors make no record wait for
deletion. -/
def chronicle (s : Service) : Contract where
  idle := Sound s (fun _ => True) fun _ => False
  during e σ := Tidy s (fun _ => True) (fun _ => e.isPass) σ ∧ Chained (journal σ.past)
  lull := Sound s (fun _ => True) fun _ => False
  may σ σ' := ∀ W, Sound s W (fun _ => False) σ → Sound s W (fun _ => False) σ'
  may_refl _ _ h := h
  may_trans h h' W hσ := h' W (h W hσ)

variable {g : Regime} {e : Errand} {visitor : Bool}

theorem Tidy.during (h : Tidy s W D σ) (hD : ∀ n, D n → e.isPass) (hc : Chained (journal σ.past)) :
    (chronicle s).during e σ :=
  ⟨h.mono (fun _ _ => trivial) hD, hc⟩

theorem still_sound (hD : ∀ n, D n → e.isPass) :
    Role.Still ⟨chronicle s, g, e, visitor⟩ (Sound s W D) where
  during _ h := h.toTidy.during hD h.chained
  quiet _ _ t h _ _ _ hrep _ := h.keep hrep t

/-- **What is owed to the journal is reported.** The records are as they are to be, the journal is
behind by some events about one name, and in step once they are out. -/
theorem Tidy.owes (hD : ∀ n, D n → e.isPass) {events : List Event} (h : Tidy s W D σ)
    (hb : Behind key k σ) (hl : Leads key k events ((σ.record? key).map Record.sketch)) :
    Role.Owes ⟨chronicle s, g, e, visitor⟩ (Sound s W D) events σ := by
  induction events generalizing σ k with
  | nil =>
    obtain rfl : k = (σ.record? key).map Record.sketch := hl
    exact ⟨h, hb.inStep⟩
  | cons event rest ih =>
    refine ⟨fun σ => (Tidy s W D σ ∧ Behind key k σ) ∧
      Leads key k (event :: rest) ((σ.record? key).map Record.sketch), ⟨?_, ?_⟩, ⟨⟨h, hb⟩, hl⟩, ?_⟩
    · intro σ hσ
      exact hσ.1.1.during hD hσ.1.2.chained
    · intro σ d t hσ _ _ _ hrep _
      exact ⟨⟨hσ.1.1.keep d t, hσ.1.2.after hrep (fun _ _ => rfl) t⟩, hσ.2⟩
    · rintro σ t ⟨⟨h, hb⟩, himage, hfollows, hrest⟩ _
      refine ih (h.keep _ t) ⟨?_, ?_, ?_⟩ hrest
      · rw [journal_told]
        refine chained_append hb.chained ?_
        rw [himage, hb.replay]
        exact hfollows
      · rw [replay_journal_told, if_pos himage, hb.replay]
      · intro n hn
        have hne : event.image ≠ n := by
          rw [himage]
          exact hn.symm
        rw [replay_journal_told, if_neg hne, hb.others n hn]
        rfl

/-- **A record is written, and the write is reported.** -/
theorem Sound.writes (hD' : ∀ n, D' n → e.isPass) (h : Sound s W D σ)
    (hr : σ.record? key = some r) (hvalid : r'.Valid s.setup.period key)
    (hwaits : r'.phase = some .awaitingDeletion → W' key)
    (hdeleted : r'.phase = some .deleted → D' key ∨ Faulted σ.past)
    (hW : ∀ n, n ≠ key → W n → W' n) (hD : ∀ n, n ≠ key → D n → D' n) {events : List Event}
    (hl : Leads key (some r.sketch) events (some r'.sketch)) :
    Role.Writes ⟨chronicle s, g, e, visitor⟩ (Sound s W' D') r' events σ := by
  intro t _
  have hname : r'.name = key := hvalid.name_eq
  have hstored : (σ.write e r' t).record? key = some r'.bumped := by
    rw [Stage.record?_write, if_pos hname.symm]
  have hbehind : Behind key (some r.sketch) (σ.write e r' t) := by
    have hb := h.toInStep.behind key
    rw [hr] at hb
    refine hb.after (by exact not_false) ?_ t
    intro n hn
    refine Ledger.get?_put_of_ne ?_
    rw [show r'.bumped.name = key from hname]
    exact hn
  refine Tidy.owes hD' (h.toTidy.put hvalid.bumped hwaits hdeleted hW hD _ t) hbehind ?_
  rw [hstored]
  exact hl

/-! ### Changes of phase -/

theorem leads_entered (sketch : Sketch) (target : Phase) :
    Leads key (some sketch) (Event.entered key sketch.phase target)
      (some { sketch with phase := some target }) := by
  by_cases h : sketch.phase = some target
  · rw [h, Event.entered_self, ← h]
    rfl
  · rw [Event.entered_of_ne h]
    exact leads_stateChanged h

/-! ### Errands about consumers -/

section Demands

variable {n c : String}

theorem Event.leads_addition (r : Record) (c : String) :
    Leads key (some r.sketch) (addition key c r (r.addConsumer c).revive.phase)
      (some (r.addConsumer c).revive.sketch) := by
  obtain ⟨phase, hphase⟩ := (r.addConsumer c).exists_phase_revive
  have hsketch : (r.addConsumer c).revive.sketch =
      { (r.addConsumer c).sketch with phase := some phase } := by
    rw [← hphase]
    rfl
  have hentered : Leads key (some (r.addConsumer c).sketch) (entered key r.phase phase)
      (some (r.addConsumer c).revive.sketch) := by
    rw [hsketch, ← r.phase_addConsumer c]
    exact leads_entered _ phase
  unfold addition
  rw [hphase]
  refine Leads.append ?_ hentered
  by_cases hc : r.hasConsumer c
  · rw [hc, Record.addConsumer, if_pos hc]
    rfl
  · rw [Record.addConsumer, if_neg hc]
    simp only [hc, Bool.not_false, if_true]
    exact ⟨rfl, trivial, rfl⟩

/-- **Errands about consumers** make no record wait for deletion, and leave none deleted. -/
theorem dealings_sound (W : String → Prop) :
    Dealings ⟨chronicle s, g, e, visitor⟩ s (Sound s W fun _ => False)
      (Sound s W fun _ => False) where
  still := still_sound fun _ h => h.elim
  still' := still_sound fun _ h => h.elim
  named h hr := (h.valid _ _ hr).name_eq
  create {σ n spec c t t'} _ _ hn h hr _ := by
    have hvalid : (Record.new n spec t).atFirst.Valid s.setup.period n :=
      Record.valid_new hn spec t
    have hstored : (σ.create e (.new n spec t) t').record? n =
        some (Record.new n spec t).atFirst := by
      rw [Stage.record?_create]
      exact if_pos rfl
    have hbehind : Behind n none (σ.create e (.new n spec t) t') := by
      have hb := h.toInStep.behind n
      rw [hr] at hb
      exact hb.after (by exact not_false) (fun m hm => Ledger.get?_put_of_ne hm) t'
    refine Tidy.owes (fun _ h => h.elim) (h.toTidy.put hvalid (fun hp => by cases hp)
      (fun hp => by cases hp) (fun _ _ h => h) (fun _ _ h => h) _ t') hbehind ?_
    rw [hstored]
    exact ⟨rfl, trivial, rfl⟩
  added {σ n r c} _ hc h hr _ := by
    refine h.writes (fun _ h => h.elim) hr ((h.valid n r hr).add hc)
      (fun hp => absurd hp (Record.phase_revive_ne _)) (fun hp => ?_) (fun _ _ h => h)
      (fun _ _ h => h) (Event.leads_addition r c)
    have hdeleted : r.phase = some .deleted := by
      rw [← r.phase_addConsumer c]
      exact Record.phase_revive_eq_deleted hp
    exact h.deleted n r hr hdeleted
  present _ h _ _ _ := h
  dropped {σ n r c} _ h hr _ := by
    refine h.writes (fun _ h => h.elim) hr ((h.valid n r hr).remove c) (fun hp => ?_)
      (fun hp => ?_) (fun _ _ h => h) (fun _ _ h => h) ⟨rfl, trivial, rfl⟩
    · exact h.waits n r hr hp
    · exact h.deleted n r hr hp
  missing _ h _ := h

/-- A deletion is requested. -/
theorem Sound.requestDeletion (h : Sound s W (fun _ => False) σ) (hr : σ.record? n = some r)
    (now : Instant) (ht : g.tick σ.clock t) :
    Sound s W (fun _ => False) (σ.write e { r with deletion := some now } t) := by
  have hwrites : Role.Writes ⟨chronicle s, g, e, false⟩ (Sound s W fun _ => False)
      { r with deletion := some now } [] σ := by
    refine h.writes (fun _ h => h.elim) hr ((h.valid n r hr).setDeletion _) (fun hp => ?_)
      (fun hp => ?_) (fun _ _ h => h) (fun _ _ h => h) rfl
    · exact h.waits n r hr hp
    · exact h.deleted n r hr hp
  exact hwrites t ht

/-- **Errands that may land** keep records and journal together. -/
theorem meets_sound_of_not_isPass (hpass : e.isPass = false) (h : Sound s W (fun _ => False) σ)
    {Q : Except Failure e.Result → Stage → Prop}
    (hend : ∀ x σ', Sound s W (fun _ => False) σ' → Q x σ') :
    Role.Meets ⟨chronicle s, g, e, visitor⟩ (e.program s) Q σ := by
  have hprogram : Role.Triple ⟨chronicle s, g, e, visitor⟩ (Sound s W fun _ => False)
      (e.program s) (fun _ => Sound s W fun _ => False) (Sound s W fun _ => False) :=
    (dealings_sound W).triple_of_not_isPass hpass fun _ _ _ now _ h hr ht =>
      h.requestDeletion hr now ht
  refine (hprogram σ h).mono ?_
  intro x σ' hx
  cases x <;> exact hend _ σ' hx

end Demands

/-! ### Passes -/

section Passes

variable {visitor : Bool}

/-- A pass that brings an image to its locations writes a phase. -/
theorem Sound.enter (h : Sound s (· ≠ key) (fun _ => False) σ) (hr : σ.record? key = some r)
    {phase : Phase} (hwaits : phase ≠ .awaitingDeletion) (hdeleted : phase ≠ .deleted)
    (hphase : r.phase ≠ some phase) :
    Role.Writes ⟨chronicle s, g, e, visitor⟩ (Sound s (· ≠ key) fun _ => False)
      { r with phase := some phase } [.stateChanged key r.phase phase] σ := by
  have hne : r.phase ≠ some .awaitingDeletion := fun hp => h.waits key r hr hp rfl
  refine h.writes (fun _ h => h.elim) hr ((h.valid key r hr).enter hne hwaits)
    (fun hp => absurd (Option.some.inj hp) hwaits) (fun hp => absurd (Option.some.inj hp) hdeleted)
    (fun _ _ h => h) (fun _ _ h => h) ?_
  exact leads_stateChanged (k := r.sketch) hphase

/-- The removal is reported. -/
theorem Sound.removed (h : Sound s W (· = key) σ) (hr : σ.record? key = some r)
    {v : Option UInt64} :
    Role.Owes ⟨chronicle s, g, e, visitor⟩ (Sound s W fun _ => False) [.removed key]
      (σ.after (.answered e (.removeRecord key v) (.ok true)) ⟨σ.ledger.records.erase key⟩ t) := by
  have hgone : (σ.after (.answered e (.removeRecord key v) (.ok true))
      ⟨σ.ledger.records.erase key⟩ t).record? key = none := by
    show (⟨σ.ledger.records.erase key⟩ : Ledger).get? key = none
    rw [Ledger.get?_erase, if_pos rfl]
  have hbehind : Behind key (some r.sketch) (σ.after (.answered e (.removeRecord key v) (.ok true))
      ⟨σ.ledger.records.erase key⟩ t) := by
    have hb := h.toInStep.behind key
    rw [hr] at hb
    refine hb.after (by exact not_false) ?_ t
    intro n hn
    rw [Ledger.get?_erase, if_neg hn]
    rfl
  refine Tidy.owes (fun _ h => h.elim) (h.toTidy.erase (fun _ hn h => absurd h hn) _ t) hbehind ?_
  rw [hgone]
  exact ⟨rfl, trivial, rfl⟩

/-- **The course of a pass** that keeps records and journal together. -/
def soundCourse (s : Service) (g : Regime) (hpass : e.isPass) (key : String) :
    Course ⟨chronicle s, g, e, false⟩ s.setup.period key (Sound s (fun _ => True) fun _ => False)
      (Sound s (fun _ => True) fun _ => False) where
  base := Sound s (fun _ => True) fun _ => False
  opened := Sound s (fun _ => True) fun _ => False
  looked _ := Sound s (fun _ => True) fun _ => False
  placing := Sound s (· ≠ key) fun _ => False
  sweep _ := Sound s (· ≠ key) fun _ => False
  leaving _ := Sound s (fun _ => True) (· = key)
  alone := rfl
  still_base := still_sound fun _ h => h.elim
  still_opened := still_sound fun _ h => h.elim
  still_looked _ := still_sound fun _ h => h.elim
  still_placing := still_sound fun _ h => h.elim
  still_sweep _ := still_sound fun _ h => h.elim
  still_leaving _ := still_sound fun _ _ => hpass
  base_of_opened h := h
  base_of_looked h := h
  base_of_placing h := h.mono (fun _ _ => trivial) fun _ h => h
  placing_of_sweep h := h
  home_of_base h := h
  lull_of_placing h := h.mono (fun _ _ => trivial) fun _ h => h
  named h hr := (h.valid _ _ hr).name_eq
  read x h _ := h.keep (by exact not_false) _
  drop {_ r} h hr := by
    refine h.writes (fun _ h => h.elim) hr ((h.valid key r hr).setDeletion _) (fun _ => trivial)
      (fun hp => ?_) (fun _ _ h => h) (fun _ _ h => h) rfl
    exact h.deleted key r hr hp
  now h _ := h.keep (by exact not_false) _
  place {_ r} h hr hplace :=
    ⟨h.toTidy.awake hr ((h.valid key r hr).ne_awaitingDeletion hplace), h.toInStep⟩
  endWait {_ _ r} h hr href hp :=
    absurd hp ((h.valid key r hr).ne_awaitingDeletion (.inl href))
  mark {_ _ r} h hr _ := by
    refine h.writes (fun _ h => h.elim) hr ((h.valid key r hr).setDeletion _) (fun _ => trivial)
      (fun hp => ?_) (fun _ _ h => h) (fun _ _ h => h) rfl
    exact h.deleted key r hr hp
  stamp {t _ r _} h hr hd := by
    have hnil := Record.consumers_eq_nil (Retention.isReferenced_of_startGracePeriod hd)
    have hperiod := Retention.pos_of_startGracePeriod hd
    refine h.writes (fun _ h => h.elim) hr ((h.valid key r hr).startWait hnil hperiod t)
      (fun _ => trivial) (fun hp => by cases hp) (fun _ _ h => h) (fun _ _ h => h) ?_
    exact leads_entered r.sketch .awaitingDeletion
  issue h _ _ := h.keep (by exact not_false) _
  visits h hm := hm _ h
  answered h hr _ := h.keep (Deed.not_reports_of_waits hr) _
  enter h hr _ hwaits hdeleted hphase := h.enter hr hwaits hdeleted hphase
  start {_ r} h hr _ _ _ := by
    refine h.writes (fun _ h => h.elim) hr (h.valid key r hr).startRemoval (fun hp => by cases hp)
      (fun hp => by cases hp) (fun _ hn _ => hn) (fun _ _ h => h) ?_
    exact leads_entered r.sketch .deleting
  started {σ r} h hr _ _ hn := by
    have hphase : r.phase = some .deleting := by
      have hn' : r.hasStamp = false ∧ r.phase = some .deleting := by simpa using hn
      exact hn'.2
    refine ⟨h.toTidy.awake hr ?_, h.toInStep⟩
    rw [hphase]
    decide
  enter_sweep h hr hphase := h.enter hr (by decide) (by decide) hphase
  withdraw h _ _ _ _ hm := hm _ (h.keep (by exact not_false) _)
  withdrawn h _ _ _ := h.keep (by exact not_false) _
  leave {_ _ r} h hr _ hphase := by
    have hne : r.phase ≠ some .awaitingDeletion := fun hp => h.waits key r hr hp rfl
    refine h.writes (fun _ _ => hpass) hr ((h.valid key r hr).enter hne ?_) (fun _ => trivial)
      (fun _ => ?_) (fun _ _ _ => trivial) (fun _ _ h => h.elim) ?_
    · decide
    · exact .inl rfl
    · exact leads_stateChanged (k := r.sketch) hphase
  left h _ _ _ := h.mono (fun _ _ => trivial) fun _ h => h.elim
  removed h hr _ _ := h.removed hr
  stuck {_ σ e' t v} h hout _ := by
    refine ⟨⟨h.valid, fun _ _ _ _ => trivial, ?_⟩, (h.keep (by exact not_false) t).toInStep⟩
    intro n r _ _
    exact .inr ⟨_, List.mem_cons_self, hout⟩

/-- **Passes** keep records and journal together. -/
theorem meets_sound_of_isPass (hpass : e.isPass)
    (h : Sound s (fun _ => True) (fun _ => False) σ) {Q : Except Failure e.Result → Stage → Prop}
    (hend : ∀ x σ', Sound s (fun _ => True) (fun _ => False) σ' → Q x σ') :
    Role.Meets ⟨chronicle s, g, e, false⟩ (e.program s) Q σ := by
  have hrun := fun key => (soundCourse (e := e) s g hpass key).triple_run (s := s.setup) rfl
  cases e with
  | pass key =>
    refine (hrun key σ h).mono ?_
    intro x σ' hx
    cases x <;> exact hend _ σ' hx
  | passAll =>
    have hround := triple_runAll hrun (still_sound fun _ h => h.elim) (fun _ h => h)
      fun _ t _ h _ => h.keep (by exact not_false) t
    refine (hround σ h).mono ?_
    intro x σ' hx
    cases x <;> exact hend _ σ' hx
  | consumerAdded | consumerRemoved | releaseAdded | releaseRemoved | requestDeletion =>
    cases hpass

end Passes

/-! ### Runs -/

theorem sound_start (s : Service) (t : Instant) : Sound s W D (.start t) where
  valid _ _ hr := by cases hr
  waits _ _ hr := by cases hr
  deleted _ _ hr := by cases hr
  chained := chained_nil
  replay _ := rfl

/-- The records that wait for deletion at a stage. -/
def Stage.Waits (σ : Stage) (n : String) : Prop :=
  ∃ r, σ.record? n = some r ∧ r.phase = some .awaitingDeletion

/-- What waits for deletion is among the records that may. -/
theorem Tidy.of_waits (h : Tidy s W D σ) : ∀ n, σ.Waits n → W n := by
  rintro n ⟨r, hr, hp⟩
  exact h.waits n r hr hp

/-- **Records and journal are kept together**, under every regime in which no pass lands in
another. -/
theorem chronicle_holds (s : Service) {g : Regime}
    (hg : ∀ q v, g.visitors q v → v.isPass = false) : (chronicle s).Holds g s where
  start t _ := sound_start s t
  errand e σ t _ h _ := by
    have hbegan := h.keep (d := .began e) (by exact not_false) t
    refine ⟨hbegan.toTidy.during (fun _ h => h.elim) hbegan.chained, ?_⟩
    have hend : ∀ x σ', Sound s (fun _ => True) (fun _ => False) σ' →
        (chronicle s).AtEnd g e x σ' := by
      intro x σ' h' t' _
      exact h'.keep (by exact not_false) t'
    by_cases hpass : e.isPass
    · exact meets_sound_of_isPass hpass hbegan hend
    · exact meets_sound_of_not_isPass (by simpa using hpass) hbegan hend
  visitor q e σ t hv h _ := by
    have hpass := hg q e hv
    have hwaits : Sound s σ.Waits (fun _ => False) σ :=
      ⟨⟨h.valid, fun n r hr hp => ⟨r, hr, hp⟩, h.deleted⟩, h.toInStep⟩
    have hbegan := hwaits.keep (d := .began e) (by exact not_false) t
    refine ⟨hbegan.toTidy.during (fun _ h => h.elim) hbegan.chained, ?_⟩
    refine meets_sound_of_not_isPass hpass hbegan ?_
    intro x σ' h' t' _
    have hleft := h'.keep (d := .ended e x) (by exact not_false) t'
    refine ⟨hleft.mono (fun _ _ => trivial) fun _ h => h, ?_⟩
    -- What waits now waited when the visitor came.
    exact fun W hW => hleft.mono hW.of_waits fun _ h => h

end ImageCatalog
