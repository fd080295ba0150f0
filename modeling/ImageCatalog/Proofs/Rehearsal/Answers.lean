import ImageCatalog.Proofs.Rehearsal.Moments
import ImageCatalog.Proofs.Rehearsal.Sight

/-!
# What is answered in a rehearsal

The answers that a program gets in a rehearsal, as far as they depend on the sight of its world. All
that is laid out is that the work is interrupted.

A store answers all the same, interrupted or not. The answer to a probe or to a call of a provider
is told by the sight or is that the work was interrupted, and in the latter case nothing has
changed. So there are two ways to go on after such a call, and `cut` says whether the second one is
possible at all: if nothing is laid out and no interruption is due, it is not.

## Main definitions

* `Disturbance.OnlyInterrupt` — what is laid out are interruptions
* `Rehearsal.Bears` — a rehearsal with given records and catalogs

## Main results

* `Rehearsal.Bears.read`, `Rehearsal.Bears.replace`, `Rehearsal.Bears.remove` — the store
* `Rehearsal.Bears.probe`, `Rehearsal.Bears.lookUp`, `Rehearsal.Bears.upload`,
  `Rehearsal.Bears.withdraw` — the source and the providers
-/

namespace ImageCatalog

/-- Interruptions are all that is laid out. -/
def Disturbance.OnlyInterrupt (ds : List Disturbance) : Prop :=
  ∀ d ∈ ds, d.effect = .interrupt

theorem Disturbance.OnlyInterrupt.next {ds : List Disturbance} (h : OnlyInterrupt ds)
    (moment : Moment) (key : String) :
    ((Disturbance.next moment key ds).1 = none ∨
        (Disturbance.next moment key ds).1 = some .interrupt ∧ ds ≠ []) ∧
      OnlyInterrupt (Disturbance.next moment key ds).2 := by
  induction ds with
  | nil => exact ⟨.inl rfl, h⟩
  | cons d rest ih =>
    obtain ⟨hd, hrest⟩ := List.forall_mem_cons.mp h
    obtain ⟨heffect, hnext⟩ := ih hrest
    unfold Disturbance.next
    split
    · split
      · exact ⟨.inl rfl, List.forall_mem_cons.mpr ⟨hd, hrest⟩⟩
      · split
        · exact ⟨.inr ⟨congrArg some hd, List.cons_ne_nil d rest⟩,
            List.forall_mem_cons.mpr ⟨hd, hrest⟩⟩
        · exact ⟨.inr ⟨congrArg some hd, List.cons_ne_nil d rest⟩, hrest⟩
    · exact ⟨heffect.imp_right fun h => ⟨h.1, List.cons_ne_nil d rest⟩,
        List.forall_mem_cons.mpr ⟨hd, hnext⟩⟩

namespace Rehearsal

theorem ofWorld_eq {α : Type} {h : Rehearsal} {answer : World → α × World} {a : α} {w : World}
    (ha : answer h.world = (a, w)) : h.ofWorld answer = (a, { h with world := w }) := by
  rw [ofWorld, ha]

/-- A rehearsal with the records of a ledger, and with the sight that goes with it. Interruptions
are all that is laid out, and there are none unless the work may be cut short. -/
structure Bears (cut : Bool) (k : Terms) (l : Ledger) (x : Sight) (h : Rehearsal) : Prop where
  world : h.world.Bears k l x
  interrupts : Disturbance.OnlyInterrupt h.disturbances
  uncut : cut = false → h.disturbances = [] ∧ h.world.timeline.Quiet

namespace Bears

variable {h : Rehearsal} {cut : Bool} {k : Terms} {l l' : Ledger} {x x' : Sight} {key : String}
  {r r' : Record} (hb : h.Bears cut k l x)

include hb

/-- The world answers. -/
theorem ofWorld {w : World} (hw : w.Bears k l' x')
    (hquiet : h.world.timeline.Quiet → w.timeline.Quiet) :
    Bears cut k l' x' { h with world := w } :=
  ⟨hw, hb.interrupts, fun hcut => ⟨(hb.uncut hcut).1, hquiet (hb.uncut hcut).2⟩⟩

/-- The work is interrupted at most. -/
theorem disturb (moment : Moment) (key : String) (limit : Option Duration) :
    ∃ h' : Rehearsal, h.disturb moment key limit = (.proceeds, h') ∧ h'.Bears cut k l x ∧
      h'.world.timeline.elapsed = h.world.timeline.elapsed := by
  obtain ⟨heffect, hrest⟩ := hb.interrupts.next moment key
  rw [Rehearsal.disturb]
  generalize hnext : Disturbance.next moment key h.disturbances = next at heffect hrest
  obtain ⟨effect, rest⟩ := next
  rcases heffect with rfl | ⟨rfl, hne⟩
  · refine ⟨_, rfl, ⟨hb.world, hrest, fun hcut => ?_⟩, rfl⟩
    obtain ⟨hnil, hquiet⟩ := hb.uncut hcut
    rw [hnil] at hnext
    exact ⟨(congrArg Prod.snd hnext).symm, hquiet⟩
  · refine ⟨_, rfl, ⟨hb.world.withTimeline _, hrest, fun hcut => ?_⟩, rfl⟩
    exact absurd (hb.uncut hcut).1 hne

/-- The store and the source answer. -/
theorem plain {α : Type} (moment : Moment) (key : String) (reply? : Bool → Option α)
    (answer : World → Except Failure α × World) :
    ∃ h' : Rehearsal, h.plain moment key reply? answer = h'.ofWorld answer ∧
      h'.Bears cut k l x := by
  obtain ⟨h', hdisturb, hb', -⟩ := hb.disturb moment key none
  refine ⟨h', ?_, hb'⟩
  rw [Rehearsal.plain, hdisturb]

/-- A provider answers, unless the work is interrupted. -/
theorem bounded {α : Type} (moment : Moment) (call : CatalogCall) (reply : Bool → α)
    (answer : (limit : Option Duration) → World → Attempt α × World) :
    (∃ h' : Rehearsal, h.bounded moment call reply answer =
        h'.ofWorld (answer (some (h'.world.timeline.after call.limit))) ∧ h'.Bears cut k l x) ∨
      (cut = true ∧ h.bounded moment call reply answer = (.interrupted, h)) := by
  unfold Rehearsal.bounded
  split
  · rename_i hnow
    refine .inr ⟨?_, rfl⟩
    cases cut with
    | true => rfl
    | false =>
      rw [(hb.uncut rfl).2.1] at hnow
      cases hnow
  · obtain ⟨h', hdisturb, hb', helapsed⟩ :=
      hb.disturb moment call.location (h.world.limitOf call)
    refine .inl ⟨h', ?_, hb'⟩
    simp only [hdisturb]
    rw [World.limitOf, Timeline.after, Timeline.after, helapsed]

/-! #### The store -/

/-- A request of the store: the records may be others afterwards. -/
theorem store {α : Type} (moment : Moment) (key : String) (reply? : Bool → Option α)
    (call : Store → Except Failure α × Store) {a : Except Failure α}
    (hcall : ∀ st : Store, st.Holds l → ∃ st', call st = (a, st') ∧ st'.Holds l')
    (hnamed : ∀ n r, l'.get? n = some r → r.name = n ∧ Name.fault? n = none)
    (hrecords : ∀ n, x'.records n = (l'.get? n).map Record.unversioned)
    (hheld : x'.held = x.held) :
    ∃ h' : Rehearsal, h.plain moment key reply? (fun w => w.onStore (call w.store)) = (a, h') ∧
      h'.Bears cut k l' x' := by
  obtain ⟨h', hplain, hb'⟩ := hb.plain moment key reply? fun w => w.onStore (call w.store)
  obtain ⟨st, ha, hst⟩ := hcall _ hb'.world.store
  have hworld : h'.world.onStore (call h'.world.store) = (a, { h'.world with store := st }) := by
    rw [ha]
    rfl
  refine ⟨_, hplain.trans (ofWorld_eq hworld), hb'.ofWorld ?_ id⟩
  exact { hb'.world with
    store := hst
    named := hnamed
    records := hrecords
    held := hb'.world.held.trans hheld.symm }

/-- A record is read. -/
theorem read {n : String} (hn : Name.fault? n = none) :
    ∃ h' : Rehearsal, h.answer (.readRecord n) = (.ok (l.get? n), h') ∧ h'.Bears cut k l x :=
  hb.store .readRecord n (fun _ => some none) (fun st => st.read n) (fun _ hst => hst.read hn)
    hb.world.named hb.world.records rfl

/-- What is no name has no record, and the store may say so. -/
theorem read_of_fault {n : String} {fault : Name.Fault} (hn : Name.fault? n = some fault) :
    ∃ h' : Rehearsal, h'.Bears cut k l x ∧
      (h.answer (.readRecord n) = (.ok none, h') ∨
        h.answer (.readRecord n) = (.error (.ofImageName n fault), h')) := by
  obtain ⟨h', hplain, hb'⟩ := hb.plain .readRecord n (fun _ => some none)
    fun w => w.answer (.readRecord n)
  have hnone : l.get? n = none := by
    refine Option.eq_none_iff_forall_ne_some.mpr fun r hr => ?_
    rw [(hb.world.named n r hr).2] at hn
    cases hn
  have hworld : ∀ a : Except Failure (Option Record), h'.world.store.read n = (a, h'.world.store) →
      h'.world.onStore (h'.world.store.read n) = (a, h'.world) := by
    intro a ha
    rw [ha]
    rfl
  refine ⟨h', hb', ?_⟩
  refine (hb'.world.store.read_of_fault hnone hn).imp (fun ha => ?_) fun ha => ?_
  · exact hplain.trans (ofWorld_eq (hworld _ ha))
  · exact hplain.trans (ofWorld_eq (hworld _ ha))

/-- A record is written back. -/
theorem replace (hr : l.get? key = some r) (hname : r'.name = key)
    (hversion : r'.version = r.version) :
    ∃ h' : Rehearsal, h.answer (.replaceRecord r') = (.ok r'.bumped, h') ∧
      h'.Bears cut k (l.put r'.bumped) (x.put key (some r'.unversioned)) := by
  subst hname
  obtain ⟨-, hvalid⟩ := hb.world.named _ _ hr
  refine hb.store .replaceRecord r'.name (fun _ => none) (fun st => st.replace r')
    (fun st hst => ?_) (fun n q hq => ?_) (fun n => ?_) rfl
  · have hreplace := hst.replace hvalid
    rwa [Ledger.replace_of_version hr hversion] at hreplace
  · have hbumped : r'.bumped.name = r'.name := rfl
    rcases Ledger.of_get?_put hbumped hq with ⟨rfl, rfl⟩ | ⟨-, hq⟩
    · exact ⟨rfl, hvalid⟩
    · exact hb.world.named n q hq
  · rw [Ledger.get?_put, Sight.put]
    show (if n = r'.name then _ else _) = Option.map _ (if n = r'.name then _ else _)
    split
    · rfl
    · exact hb.world.records n

/-- A record is removed. -/
theorem remove (hr : l.get? key = some r) :
    ∃ h' : Rehearsal, h.answer (.removeRecord key (some r.version)) = (.ok true, h') ∧
      h'.Bears cut k ⟨l.records.erase key⟩ (x.put key none) := by
  obtain ⟨-, hvalid⟩ := hb.world.named _ _ hr
  refine hb.store .removeRecord key some (fun st => st.remove key (some r.version))
    (fun st hst => ?_) (fun n q hq => ?_) (fun n => ?_) rfl
  · have hremove := hst.remove hvalid (some r.version)
    rwa [Ledger.remove_of_version hr] at hremove
  · exact hb.world.named n q (Ledger.of_get?_erase hq).2
  · rw [Ledger.get?_erase, Sight.put]
    dsimp only
    split
    · rfl
    · exact hb.world.records n

/-- Events and log lines are out of sight. -/
theorem emit (event : Event) :
    ∃ h' : Rehearsal, h.answer (.emit event) = ((), h') ∧ h'.Bears cut k l x :=
  ⟨_, rfl, hb.ofWorld { hb.world with } id⟩

/-- The time that is read is on the clock. -/
theorem now : h.answer .now = (k.clock, h) := by
  rw [← hb.world.terms]
  rfl

/-! #### The source and the providers -/

/-- A probe tells whether the artifact is reachable, unless the work is interrupted. -/
theorem probe (url : String) :
    ∃ a, ∃ h' : Rehearsal, h.answer (.probe url) = (a, h') ∧ h'.Bears cut k l x ∧
      (a = .ok k.reachable ∨ cut = true ∧ ∃ e, a = .error e ∧ e.isCancelled) := by
  rw [answer_probe, Rehearsal.probe, Rehearsal.ofWorld, World.probe]
  by_cases hnow : h.world.timeline.interrupted
  · rw [if_pos hnow]
    refine ⟨_, _, rfl, hb, .inr ⟨?_, _, rfl, rfl⟩⟩
    cases cut with
    | true => rfl
    | false =>
      rw [(hb.uncut rfl).2.1] at hnow
      cases hnow
  · rw [if_neg hnow]
    have hprobed : World.Bears k l x { h.world with probes := h.world.probes + 1 } :=
      { hb.world with }
    obtain ⟨h', hplain, hb'⟩ := (hb.ofWorld hprobed id).plain .probe "" some
      fun w => (.ok w.reachable, w)
    refine ⟨_, _, hplain, hb', .inl ?_⟩
    rw [← hb'.world.terms]
    rfl

/-- A look-up. -/
theorem lookUp (call : CatalogCall) :
    ∃ a, ∃ h' : Rehearsal, h.answer (.lookUp call) = (a, h') ∧ h'.Bears cut k l x ∧
      (a = .finished (.ok (x.held call.provider call.location call.image)) ∨
        cut = true ∧ a.IsCut) := by
  rw [answer_lookUp]
  rcases hb.bounded .lookUp call id fun _ w =>
      World.finish (w.lookUp call.provider call.location call.image) with
    ⟨h', hanswer, hb'⟩ | ⟨hcut, hanswer⟩
  · obtain ⟨w, hw, hbw, htime⟩ := hb'.world.lookUp call.provider call.location call.image
    have hfinish : World.finish (h'.world.lookUp call.provider call.location call.image) =
        (.finished (.ok (x.held call.provider call.location call.image)), w) := by
      rw [World.finish, hw]
    refine ⟨_, _, hanswer.trans (ofWorld_eq hfinish), ?_, .inl rfl⟩
    exact hb'.ofWorld hbw fun hquiet => by rwa [htime]
  · exact ⟨_, _, hanswer, hb, .inr ⟨hcut, trivial⟩⟩

/-- A withdrawal. -/
theorem withdraw (call : CatalogCall) :
    ∃ a, ∃ h' : Rehearsal, h.answer (.withdraw call) = (a, h') ∧
      (a = .finished (.ok ()) ∧
          h'.Bears cut k l (x.take k ⟨call.image, call.provider⟩ [call.location]) ∨
        cut = true ∧ a.IsCut ∧ h'.Bears cut k l x) := by
  rw [answer_withdraw]
  rcases hb.bounded .withdraw call (fun _ => ()) fun _ w =>
      World.finish (w.withdraw call.provider call.location call.image) with
    ⟨h', hanswer, hb'⟩ | ⟨hcut, hanswer⟩
  · obtain ⟨w, hw, hbw, htime⟩ := hb'.world.withdraw ⟨call.image, call.provider⟩ call.location
    have hfinish : World.finish (h'.world.withdraw call.provider call.location call.image) =
        (.finished (.ok ()), w) := by
      rw [World.finish, hw]
    refine ⟨_, _, hanswer.trans (ofWorld_eq hfinish), .inl ⟨rfl, ?_⟩⟩
    exact hb'.ofWorld hbw fun hquiet => by rwa [htime]
  · exact ⟨_, _, hanswer, .inr ⟨hcut, trivial, hb⟩⟩

/-- An upload of an image that is not there. -/
theorem upload (call : CatalogCall) (url : String) (hlimit : call.limit = Pass.uploadLimit)
    (hlacks : x.held call.provider call.location call.image = false) :
    ∃ a, ∃ h' : Rehearsal, h.answer (.upload call url) = (a, h') ∧
      ((k.tooSlow call.provider = false ∧ a = .finished (.ok ()) ∧
          h'.Bears cut k l (x.bring ⟨call.image, call.provider⟩ [call.location])) ∨
        (k.tooSlow call.provider ∧ a = .timedOut ∧ h'.Bears cut k l x) ∨
        (cut = true ∧ a.IsCut ∧ h'.Bears cut k l x)) := by
  rw [answer_upload]
  rcases hb.bounded .upload call (fun _ => ()) fun limit w =>
      w.upload call.provider call.location call.image limit with
    ⟨h', hanswer, hb'⟩ | ⟨hcut, hanswer⟩
  · obtain ⟨a, w, hw, hquiet, hcases⟩ :=
      hb'.world.upload ⟨call.image, call.provider⟩ call.location hlacks
    rw [hlimit] at hanswer
    refine ⟨_, _, hanswer.trans (ofWorld_eq hw), ?_⟩
    rcases hcases with ⟨hfast, ha, hbw⟩ | ⟨hslow, ha, hbw⟩ | ⟨hcut, ha, hbw⟩
    · exact .inl ⟨hfast, ha, hb'.ofWorld hbw hquiet⟩
    · exact .inr (.inl ⟨hslow, ha, hb'.ofWorld hbw hquiet⟩)
    · refine .inr (.inr ⟨?_, ha, hb'.ofWorld hbw hquiet⟩)
      cases cut with
      | true => rfl
      | false => exact absurd (hb'.uncut rfl).2 hcut
  · exact ⟨_, _, hanswer, .inr (.inr ⟨hcut, trivial, hb⟩)⟩

end Bears

end Rehearsal

end ImageCatalog
