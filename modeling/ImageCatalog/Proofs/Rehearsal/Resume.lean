import ImageCatalog.Proofs.Journal.Faithful
import ImageCatalog.Proofs.Record.Attendance
import ImageCatalog.Proofs.Rehearsal.Outcome

/-!
# A pass that is cut short can be taken up again

A pass is interrupted somewhere, and a second pass over the same record is not. Together they leave
the records and the catalogs that one pass leaves which is not interrupted. After the interruption
no provider is called any more.

Where the work is interrupted does not matter: beforehand, at some request, or while an upload is
under way. Records are the same but for their versions, since the second pass writes some of them
once more, and catalogs hold the same images at the same locations.

## Why a record has to have been attended to

A pass makes the image of a record without a phase come to its locations, even if nobody needs it.
The first step on the way is a phase, and with a phase a record that nobody needs waits for its
deletion instead. So a pass over such a record could not be taken up. There is none as long as the
store is in order: see `Reachable.attended`.

## Main definitions

* `World.unhurried` — the same world, in which the work is not interrupted
* `World.Resembles` — the same records but for their versions, and the same catalogs

## Main results

* `pass_resumed` — a pass that is cut short can be taken up again
-/

namespace ImageCatalog

variable {s : Service} {key : String} {k : Terms} {l : Ledger} {x x' : Sight} {w w' : World}

namespace World

/-- The same world, in which the work is not interrupted. -/
def unhurried (w : World) : World :=
  { w with timeline := .start }

/-- The same records, but for their versions, and the same images at the same locations. -/
structure Resembles (w w' : World) : Prop where
  records : ∃ l l', w.store.Holds l ∧ w'.store.Holds l' ∧
    ∀ n, (l.get? n).map Record.unversioned = (l'.get? n).map Record.unversioned
  catalogs : ∀ p, (w.catalog? p).map Catalog.holds = (w'.catalog? p).map Catalog.holds

/-- What can be seen of a world with the records of a ledger. -/
def sight (w : World) (l : Ledger) : Sight where
  records n := (l.get? n).map Record.unversioned
  held := w.held

/-- Of which catalogs there are, and what is in them, all can be seen. -/
theorem Bears.catalogs (h : w.Bears k l x) (p : String) :
    (w.catalog? p).map Catalog.holds = if k.hasCatalog p then some (x.held p) else none := by
  rw [h.hasCatalog]
  cases hc : w.catalog? p with
  | none => rfl
  | some c =>
    have hheld : x.held p = c.holds := by
      funext location image
      exact h.held_of_catalog hc location image
    rw [hheld]
    rfl

/-- Worlds with the same sight resemble each other. -/
theorem Bears.resembles {l' : Ledger} (h : w.Bears k l x) (h' : w'.Bears k l' x) :
    w.Resembles w' where
  records := ⟨l, l', h.store, h'.store, fun n => by rw [← h.records, h'.records]⟩
  catalogs p := by rw [h.catalogs, h'.catalogs]

end World

namespace Rehearsal

variable {h : Rehearsal} {cut : Bool}

/-- Work that was cut short may be taken up in a world where nothing interrupts it. -/
theorem Shows.unhurried (hs : h.Shows cut k x) : Shows false k x ⟨h.world.unhurried, []⟩ := by
  obtain ⟨l, hb⟩ := hs
  refine ⟨l, hb.world.withTimeline _, fun d hd => ?_, fun _ => ⟨rfl, rfl, rfl⟩⟩
  cases hd

/-- A pass that is not cut short comes to its goal. -/
theorem Shows.run_uncut (hs : h.Shows false k x) (key : String) :
    (h.run (s.pass key)).2.Shows false k (Pass.goal s.setup k key x).2 := by
  cases hname : Name.fault? key with
  | none =>
    rcases hs.yields_run (s := s.setup) hname (by simp) with ⟨-, hs'⟩ | ⟨hcut, -⟩
    · exact hs'
    · cases hcut
  | some fault =>
    have hnone : x.records key = none := by
      obtain ⟨l, hb⟩ := hs
      rw [hb.world.records, Option.map_eq_none_iff, Option.eq_none_iff_forall_ne_some]
      intro r hr
      rw [(hb.world.named key r hr).2] at hname
      cases hname
    have hgoal : (Pass.goal s.setup k key x).2 = x := by simp only [Pass.goal, hnone]
    rw [hgoal]
    exact hs.run_of_fault hname

/-- A pass leaves a sight with the same goal, also if it is cut short. -/
theorem Shows.run_cut (hs : h.Shows true k x) (hripe : Name.fault? key = none → Pass.Ripe key x) :
    ∃ x', (h.run (s.pass key)).2.Shows true k x' ∧
      (Pass.goal s.setup k key x').2 = (Pass.goal s.setup k key x).2 := by
  cases hname : Name.fault? key with
  | none =>
    have hripe := hripe hname
    rcases hs.yields_run (s := s.setup) hname fun _ => hripe with ⟨-, hs'⟩ | ⟨-, -, x', hx', hs'⟩
    · exact ⟨_, hs', congrArg Prod.snd (Pass.goal_goal hripe)⟩
    · exact ⟨x', hs', congrArg Prod.snd hx'⟩
  | some fault => exact ⟨x, hs.run_of_fault hname, rfl⟩

end Rehearsal

/-- **A pass that is cut short can be taken up again.** A store holds the records of a run of the
service in which nothing is at work, the providers have no faults in store, and all that is laid out
for the pass are interruptions. Once the work is interrupted, it stays so, nothing happens to the
providers and a call on one is not started. The pass and a second one that is not interrupted leave
the records and the catalogs that one pass leaves which is not interrupted. -/
theorem pass_resumed (s : Service) {σ : Stage} (hσ : Reachable s .interleaved ⟨σ, []⟩)
    (key : String)
    (hsound : Name.fault? key = none → ∀ m ∈ σ.past, m.deed.isOutageAt key = false)
    {w : World} (hw : w.store.Holds σ.ledger) (hfaults : w.Faultless) {ds : List Disturbance}
    (hds : Disturbance.OnlyInterrupt ds) :
    (∀ p h p' h', Rehearsal.Comes (s.pass key, ⟨w, ds⟩) (p, h) → h.interrupted →
      Rehearsal.Comes (p, h) (p', h') →
        h'.interrupted ∧ h'.world.providers = h.world.providers ∧
          ∀ r next, p' = .ask r next → r.isProviderCall →
            r.IsCut (h'.answer r).1 ∧ (h'.answer r).2 = h') ∧
    World.Resembles
      ((Rehearsal.run (s.pass key) ⟨w, ds⟩).2.world.unhurried.run (s.pass key)).2
      (w.unhurried.run (s.pass key)).2 := by
  refine ⟨fun p h p' h' _ hi hc => hc.of_interrupted hi, ?_⟩
  have hvalid := (hσ.sound fun _ _ => Regime.isPass_of_interleaved).1.valid
  have hbears : w.Bears w.terms σ.ledger (w.sight σ.ledger) :=
    { store := hw
      named := fun n r hr => ⟨(hvalid n r hr).name_eq, (hvalid n r hr).name_ok⟩
      records := fun n => rfl
      held := rfl
      terms := rfl
      faultless := hfaults }
  have hshows : Rehearsal.Shows true w.terms (w.sight σ.ledger) ⟨w, ds⟩ :=
    ⟨σ.ledger, hbears, hds, fun hcut => by cases hcut⟩
  have hripe : Name.fault? key = none → Pass.Ripe key (w.sight σ.ledger) := by
    rintro hname r hr
    obtain ⟨q, hq, rfl⟩ := Option.map_eq_some_iff.mp hr
    have hphase : q.phase ≠ none :=
      hσ.attended (fun _ _ => Regime.isPass_of_interleaved) (hsound hname) hq
    exact .inr hphase
  obtain ⟨x', hcut, hgoal⟩ := hshows.run_cut (s := s) hripe
  obtain ⟨l₁, hresumed⟩ := hcut.unhurried.run_uncut (s := s) key
  obtain ⟨l₂, huncut⟩ := hshows.unhurried.run_uncut (s := s) key
  rw [hgoal, Rehearsal.run_calm] at hresumed
  rw [Rehearsal.run_calm] at huncut
  exact hresumed.world.resembles huncut.world

/-- The catalogs of the small cast are new. -/
theorem Performance.eq_new_of_opening {p : String} {c : Catalog}
    (hproviders : w.providers = (opening .epoch).world.providers) (hc : w.catalog? p = some c) :
    c = .new "capv" [.named "dc1", .named "dc2"] := by
  have hinsert : w.providers = Dictionary.empty.insert "capv"
    (.catalog (.new "capv" [.named "dc1", .named "dc2"])) := hproviders
  rw [World.catalog?, hinsert, Dictionary.get?_insert] at hc
  split at hc
  · exact (Option.some.inj hc).symm
  · simp [Dictionary.get?_empty] at hc

/-- The pass is interrupted when it has come to the second location: the first one has got the image
by then, and the second one has not. -/
theorem pass_resumed_at_second_location :
    let s := Performance.smallService .zero
    let ds : List Disturbance := [⟨.lookUp, some "dc2", 0, 1, .interrupt⟩]
    ∃ w : World,
      let cutShort := (Rehearsal.run (s.pass "flatcar") ⟨w, ds⟩).2.world
      cutShort.timeline.interrupted ∧ cutShort.held "capv" "dc1" "flatcar" ∧
        cutShort.held "capv" "dc2" "flatcar" = false ∧
        (cutShort.unhurried.run (s.pass "flatcar")).2.held "capv" "dc2" "flatcar" ∧
        World.Resembles (cutShort.unhurried.run (s.pass "flatcar")).2
          (w.unhurried.run (s.pass "flatcar")).2 := by
  intro s ds
  let world (σ : Stage) : World :=
    { (Performance.opening .epoch).world with store := .ledger σ.ledger }
  let found (c : Scene) : Bool :=
    let cutShort := (Rehearsal.run (s.pass "flatcar") ⟨world c.stage, ds⟩).2.world
    c.tasks.isEmpty && c.stage.past.all (fun m => !m.deed.isOutageAt "flatcar") &&
      (cutShort.timeline.interrupted && cutShort.held "capv" "dc1" "flatcar" &&
        !cutShort.held "capv" "dc2" "flatcar" &&
        (cutShort.unhurried.run (s.pass "flatcar")).2.held "capv" "dc2" "flatcar")
  obtain ⟨⟨σ, tasks⟩, hc, hfound⟩ := Performance.exists_reachable (s := s)
    (g := .interleaved) (fun _ _ _ => trivial) (t := .epoch) rfl
    [.begin (.consumerAdded "cluster" "flatcar" "capv")] found (by decide +kernel)
  simp only [found, Bool.and_eq_true, List.all_eq_true, Bool.not_eq_true', List.isEmpty_iff]
    at hfound
  obtain ⟨⟨rfl, hstore⟩, ⟨⟨hinterrupted, hfirst⟩, hsecond⟩, hresumed⟩ := hfound
  have hheld : (world σ).store.Holds σ.ledger := rfl
  have hfaults : (world σ).Faultless := by
    intro p c hc
    obtain rfl := Performance.eq_new_of_opening rfl hc
    rfl
  have hds : Disturbance.OnlyInterrupt ds := by
    intro d hd
    rw [List.mem_singleton.mp hd]
  exact ⟨world σ, hinterrupted, hfirst, hsecond, hresumed,
    (pass_resumed s hc "flatcar" (fun _ => hstore) hheld hfaults hds).2⟩

end ImageCatalog
