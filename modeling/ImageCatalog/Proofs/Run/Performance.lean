import ImageCatalog.Proofs.Run.Scene
import ImageCatalog.World

/-!
# Runs in a world

A world in memory answers as a run does, so what the service does in a world is a run. With visitors
a world alone does not say who lands when: that is a matter of the cues of a performance, which is a
run that can be computed.

## Main definitions

* `Performance`, `Cue` — a scene with the world that answers, and what is to happen next
* `Performance.play` — a performance under some cues, if the regime admits it
* `Performance.Conforms` — what binds a world to the chronicle, so that its answers are admitted

## Main results

* `World.answers_of_ledger` — a world with its records in memory answers as a run does
* `World.run_reachable` — an errand in such a world is part of a run
* `Performance.play_sound`, `Performance.exists_runs`, `Performance.exists_reachable` — so is every
  performance, also under a regime that does not admit every answer
-/

namespace ImageCatalog

namespace World

/-- The records of a world that keeps them in memory. -/
def ledger (w : World) : Ledger :=
  match w.store with
  | .ledger l => l
  | .folder .. => .empty

/-! ### Answers -/

/-- The parts of a world that providers have no part in. -/
def base (w : World) : Store × Instant :=
  (w.store, w.clock)

theorem base_awaitUpload (w : World) (provider location image : String) (limit : Option Duration) :
    (w.awaitUpload provider location image limit).2.base = w.base := by
  simp only [awaitUpload]
  split
  · rfl
  · split <;> rfl

theorem base_mapCatalog (w : World) (provider : String) (f : Catalog → Catalog) :
    (w.mapCatalog provider f).base = w.base := by
  simp only [mapCatalog]
  split <;> rfl

theorem base_upload (w : World) (provider location image : String) (limit : Option Duration) :
    (w.upload provider location image limit).2.base = w.base := by
  have hcall : ∀ call : Catalog → Except Failure Unit × Catalog,
      (w.onProvider provider () call).2.base = w.base := fun _ => rfl
  simp only [upload]
  split
  · rename_i e w' h
    exact (congrArg (fun x => x.2.base) h).symm.trans (hcall _)
  · rename_i w' h
    have hw' : w'.base = w.base := (congrArg (fun x => x.2.base) h).symm.trans (hcall _)
    have hwait := w'.base_awaitUpload provider location image limit
    split
    · rename_i w'' h'
      have hw'' : w''.base = w'.base := (congrArg (fun x => x.2.base) h').symm.trans hwait
      exact (w''.base_mapCatalog provider _).trans (hw''.trans hw')
    · exact hwait.trans hw'

/-- Only requests of the store have to do with the records, and none with the clock. -/
theorem base_answer_of_waits (w : World) {r : Request} (hr : r.waits) :
    (w.answer r).2.base = w.base := by
  by_cases hi : w.timeline.interrupted
  · cases r <;> first | (simp [answer, probe, hi]; done) | cases hr
  · cases r with
    | probe url => simp [answer, probe, hi, base]
    | lookUp call => simp [answer, hi, finish, base, lookUp, onProvider]
    | withdraw call => simp [answer, hi, finish, base, withdraw, onProvider]
    | upload call url =>
      simp only [answer, hi, Bool.false_eq_true]
      exact w.base_upload call.provider call.location call.image _
    | _ => cases hr

/-- Time does not pass while a world answers. -/
theorem clock_answer (w : World) (r : Request) : (w.answer r).2.clock = w.clock := by
  by_cases hr : r.waits
  · exact congrArg Prod.snd (w.base_answer_of_waits hr)
  · cases r <;> first | rfl | exact absurd rfl hr

/-- **A world with its records in memory answers as a run does.** Its clock is the time of the
answer. -/
theorem answers_of_ledger {w : World} {l : Ledger} (hw : w.store = .ledger l) (r : Request) :
    (w.answer r).2.store = .ledger (w.answer r).2.ledger ∧
      l.Answers w.clock r (w.answer r).1 (w.answer r).2.ledger := by
  by_cases hr : r.waits
  · have hstore : (w.answer r).2.store = .ledger l :=
      (congrArg Prod.fst (w.base_answer_of_waits hr)).trans hw
    have hledger : (w.answer r).2.ledger = l := by rw [ledger, hstore]
    rw [hledger]
    refine ⟨hstore, ?_⟩
    cases r <;> first | rfl | cases hr
  · cases r with
    | readRecord | createRecord | replaceRecord | removeRecord | listRecords =>
      simp only [answer, onStore, hw, ledger]
      exact ⟨rfl, .inl rfl⟩
    | now | emit | log | isInterrupted =>
      have hledger : w.ledger = l := by rw [ledger, hw]
      refine ⟨hw.trans (congrArg _ hledger.symm), ?_⟩
      first | exact ⟨rfl, hledger⟩ | exact hledger
    | probe | lookUp | upload | withdraw => exact absurd rfl hr

end World

/-! ### Performances -/

/-- A scene with the world that answers its requests. -/
structure Performance where
  scene : Scene
  world : World

/-- What is to happen next. -/
inductive Cue where
  | begin (errand : Errand)
  /-- A visitor comes while a pass waits, and does all it has to do. -/
  | visit (errand : Errand)
  /-- The pass gets the answer that it waits for, and goes on. -/
  | resume
  /-- The clock is set. -/
  | clock (time : Instant)
  /-- The work is interrupted. -/
  | interrupt

namespace Performance

/-- Goes on with an errand to its end, or until it has to wait. -/
def proceed (e : Errand) (others : List Task) : Program e.Result → Stage → World → Performance
  | .done a, σ, w => ⟨⟨σ.after (.ended e (.ok a)) σ.ledger w.clock, others⟩, w⟩
  | .fail x, σ, w => ⟨⟨σ.after (.ended e (.error x)) σ.ledger w.clock, others⟩, w⟩
  | .ask r k, σ, w =>
    if r.waits then
      ⟨⟨σ.after (.issued e r) σ.ledger w.clock, ⟨e, .ask r k, true⟩ :: others⟩, w⟩
    else
      let a := w.answer r
      proceed e others (k a.1) (σ.after (.answered e r a.1) a.2.ledger w.clock) a.2

/-- Whether the clock of the world may be read now, and deeds be done while it stands still. -/
def inTime (g : Regime) (σ : Stage) (w : World) : Bool :=
  g.tick σ.clock w.clock && g.tick w.clock w.clock

/-- The performance after a cue, unless the regime forbids it. -/
def next (s : Service) (g : Regime) : Performance → Cue → Option Performance
  | ⟨c, w⟩, .clock t => some ⟨c, { w with clock := t }⟩
  | ⟨c, w⟩, .interrupt => some ⟨c, { w with timeline := w.timeline.interrupt }⟩
  | ⟨⟨σ, []⟩, w⟩, .begin e =>
    if inTime g σ w && g.errands e then
      some (proceed e [] (e.program s) (σ.after (.began e) σ.ledger w.clock) w)
    else none
  | ⟨⟨σ, [⟨e, .ask r k, true⟩]⟩, w⟩, .visit v =>
    if inTime g σ w && g.visitors r v then
      some (proceed v [⟨e, .ask r k, true⟩] (v.program s) (σ.after (.began v) σ.ledger w.clock) w)
    else none
  | ⟨⟨σ, [⟨e, .ask r k, true⟩]⟩, w⟩, .resume =>
    if inTime g σ w && r.waits then
      let a := w.answer r
      some (proceed e [] (k a.1) (σ.after (.answered e r a.1) a.2.ledger w.clock) a.2)
    else none
  | _, _ => none

/-- The performance after some cues. -/
def play (s : Service) (g : Regime) : List Cue → Performance → Option Performance
  | [], p => some p
  | cue :: cues, p => (p.next s g cue).bind (play s g cues)

/-! ### Performances are runs -/

/-- What binds a world to the chronicle, so that the regime admits the answers of the world. -/
structure Conforms (g : Regime) (J : List Entry → World → Prop) : Prop where
  admits : ∀ {past w} r, J past w → g.answers past r (w.answer r).1
  answered : ∀ {past w} e r l t, J past w →
    J (⟨.answered e r (w.answer r).1, l, t⟩ :: past) (w.answer r).2
  began : ∀ {past w} e l t, J past w → J (⟨.began e, l, t⟩ :: past) w
  issued : ∀ {past w} e r l t, J past w → J (⟨.issued e r, l, t⟩ :: past) w
  ended : ∀ {past w} e x l t, J past w → J (⟨.ended e x, l, t⟩ :: past) w
  clock : ∀ {past w} t, J past w → J past { w with clock := t }
  interrupt : ∀ {past w}, J past w → J past { w with timeline := w.timeline.interrupt }

/-- Under a regime that admits all answers there is nothing to bind. -/
theorem Conforms.of_free {g : Regime} (hg : ∀ past r x, g.answers past r x) :
    Conforms g fun _ _ => True where
  admits _ _ := hg _ _ _
  answered _ _ _ _ _ := trivial
  began _ _ _ _ := trivial
  issued _ _ _ _ _ := trivial
  ended _ _ _ _ _ := trivial
  clock _ _ := trivial
  interrupt _ := trivial

variable {s : Service} {g : Regime} {c₀ : Scene} {J : List Entry → World → Prop}

/-- A performance whose scene is a moment of a run from `c₀` on, with the records of the scene in
the world. -/
structure Sound (s : Service) (g : Regime) (J : List Entry → World → Prop) (c₀ : Scene)
    (p : Performance) : Prop where
  runs : c₀.Runs s g p.scene
  store : p.world.store = .ledger p.scene.stage.ledger
  bound : J p.scene.stage.past p.world

theorem proceed_sound (hg : Conforms g J) {e : Errand} {others : List Task}
    {q : Program e.Result} {σ : Stage} {w : World} (hc : c₀.Runs s g ⟨σ, ⟨e, q, false⟩ :: others⟩)
    (hw : w.store = .ledger σ.ledger) (hJ : J σ.past w) (hclock : σ.clock = w.clock)
    (ht : g.tick w.clock w.clock) : Sound s g J c₀ (proceed e others q σ w) := by
  have ht' : g.tick σ.clock w.clock := by
    rw [hclock]
    exact ht
  induction q generalizing σ w with
  | done a => exact ⟨hc.step (.finish ht'), hw, hg.ended _ _ _ _ hJ⟩
  | fail x => exact ⟨hc.step (.fail ht'), hw, hg.ended _ _ _ _ hJ⟩
  | ask r k ih =>
    by_cases hr : r.waits
    · simp only [proceed, hr, if_true]
      exact ⟨hc.step (.issue hr ht'), hw, hg.issued _ _ _ _ hJ⟩
    · simp only [proceed, hr, Bool.false_eq_true, if_false]
      obtain ⟨hstore, hans⟩ := World.answers_of_ledger hw r
      have hstep := hc.step (.answer (by simpa using hr) hans (hg.admits r hJ) ht')
      have hclock' := w.clock_answer r
      have hstill : g.tick (w.answer r).2.clock (w.answer r).2.clock := by
        rw [hclock']
        exact ht
      have hnow : g.tick w.clock (w.answer r).2.clock := by
        rw [hclock']
        exact ht
      exact ih _ hstep hstore (hg.answered _ _ _ _ hJ) hclock'.symm hstill hnow

theorem next_sound (hg : Conforms g J) {p p' : Performance} {cue : Cue}
    (h : Sound s g J c₀ p) (hp : p.next s g cue = some p') : Sound s g J c₀ p' := by
  obtain ⟨hc, hw, hJ⟩ := h
  unfold next at hp
  split at hp
  · obtain rfl := Option.some.inj hp
    exact ⟨hc, hw, hg.clock _ hJ⟩
  · obtain rfl := Option.some.inj hp
    exact ⟨hc, hw, hg.interrupt hJ⟩
  · rename_i σ w e
    split at hp
    · rename_i hok
      simp only [inTime, Bool.and_eq_true] at hok
      obtain ⟨⟨ht, hstill⟩, he⟩ := hok
      obtain rfl := Option.some.inj hp
      exact proceed_sound hg (hc.step (.begin he ht)) hw (hg.began _ _ _ hJ) rfl hstill
    · cases hp
  · rename_i σ e r k w v
    split at hp
    · rename_i hok
      simp only [inTime, Bool.and_eq_true] at hok
      obtain ⟨⟨ht, hstill⟩, hv⟩ := hok
      obtain rfl := Option.some.inj hp
      exact proceed_sound hg (hc.step (.visit hv ht)) hw (hg.began _ _ _ hJ) rfl hstill
    · cases hp
  · rename_i σ e r k w
    split at hp
    · rename_i hok
      simp only [inTime, Bool.and_eq_true] at hok
      obtain ⟨⟨ht, hstill⟩, hr⟩ := hok
      obtain rfl := Option.some.inj hp
      obtain ⟨hstore, hans⟩ := World.answers_of_ledger hw r
      have hstep := hc.step (.answer hr.symm hans (hg.admits r hJ) ht)
      have hclock := w.clock_answer r
      refine proceed_sound hg hstep hstore (hg.answered _ _ _ _ hJ) hclock.symm ?_
      rw [hclock]
      exact hstill
    · cases hp
  · cases hp

/-- **What is performed is a run.** -/
theorem play_sound (hg : Conforms g J) {cues : List Cue} {p p' : Performance}
    (h : Sound s g J c₀ p) (hp : p.play s g cues = some p') : Sound s g J c₀ p' := by
  induction cues generalizing p with
  | nil =>
    obtain rfl := Option.some.inj hp
    exact h
  | cons cue cues ih =>
    obtain ⟨q, hq, hplay⟩ := Option.bind_eq_some_iff.mp hp
    exact ih (next_sound hg h hq) hplay

/-! ### A small cast -/

/-- A service with one provider of two locations. -/
def smallService (period : Duration) : Service where
  setup :=
    { providers := .ofList [("capv", [.named "dc1", .named "dc2"])]
      source := ⟨"https://images.s3.eu-west-1.amazonaws.com"⟩
      period := period }
  channel := "stable"

/-- The beginning of a run with that provider, which has no images yet. -/
def opening (t : Instant) : Performance where
  scene := ⟨.start t, []⟩
  world :=
    { store := .ledger .empty
      providers := .ofList [("capv", .catalog (.new "capv" [.named "dc1", .named "dc2"]))]
      clock := t
      reachable := true
      probes := 0
      journal := []
      timeline := .start }

/-- **A run can be computed**: what is found at the end of a performance is found in a run that goes
on from where the performance begins. -/
theorem exists_runs_of_bound (hg : Conforms g J) {p : Performance}
    (hstore : p.world.store = .ledger p.scene.stage.ledger) (hJ : J p.scene.stage.past p.world)
    (cues : List Cue) (found : Scene → Bool)
    (h : (p.play s g cues).any (fun p => found p.scene) = true) :
    ∃ c, p.scene.Runs s g c ∧ found c = true := by
  obtain ⟨p', hp, hfound⟩ := (Option.any_eq_true _ _).mp h
  exact ⟨p'.scene, (play_sound hg ⟨.refl p.scene, hstore, hJ⟩ hp).runs, hfound⟩

theorem exists_runs (hg : ∀ past r x, g.answers past r x) {p : Performance}
    (hstore : p.world.store = .ledger p.scene.stage.ledger) (cues : List Cue)
    (found : Scene → Bool) (h : (p.play s g cues).any (fun p => found p.scene) = true) :
    ∃ c, p.scene.Runs s g c ∧ found c = true :=
  exists_runs_of_bound (.of_free hg) hstore trivial cues found h

/-- A run from an errand at work on, which goes on to where it has to wait before the first cue. -/
theorem exists_runs_of_task (hg : ∀ past r x, g.answers past r x) {e : Errand}
    {q : Program e.Result} {σ : Stage} {w : World} (hstore : w.store = .ledger σ.ledger)
    (hclock : σ.clock = w.clock) (ht : g.tick w.clock w.clock) (cues : List Cue)
    (found : Scene → Bool)
    (h : ((proceed e [] q σ w).play s g cues).any (fun p => found p.scene) = true) :
    ∃ c, Scene.Runs s g ⟨σ, [⟨e, q, false⟩]⟩ c ∧ found c = true := by
  obtain ⟨p, hp, hfound⟩ := (Option.any_eq_true _ _).mp h
  have hstart : Sound s g (fun _ _ => True) ⟨σ, [⟨e, q, false⟩]⟩ (proceed e [] q σ w) :=
    proceed_sound (.of_free hg) (.refl _) hstore trivial hclock ht
  exact ⟨p.scene, (play_sound (.of_free hg) hstart hp).runs, hfound⟩

theorem exists_reachable_of_bound (hg : Conforms g J) {t : Instant} (ht : g.starts t)
    (hJ : J [] (opening t).world) (cues : List Cue) (found : Scene → Bool)
    (h : ((opening t).play s g cues).any (fun p => found p.scene) = true) :
    ∃ c, Reachable s g c ∧ found c = true := by
  obtain ⟨c, hc, hfound⟩ := exists_runs_of_bound hg rfl hJ cues found h
  exact ⟨c, hc.reachable (.start ht), hfound⟩

theorem exists_reachable (hg : ∀ past r x, g.answers past r x) {t : Instant} (ht : g.starts t)
    (cues : List Cue) (found : Scene → Bool)
    (h : ((opening t).play s g cues).any (fun p => found p.scene) = true) :
    ∃ c, Reachable s g c ∧ found c = true :=
  exists_reachable_of_bound (.of_free hg) ht trivial cues found h

end Performance

/-! ### Errands in a world -/

section

variable {s : Service} {g : Regime} {e : Errand} {σ : Stage} {w : World}

theorem World.run_finishes (hg : ∀ past r x, g.answers past r x) {p : Program e.Result}
    (hc : Reachable s g ⟨σ, [⟨e, p, false⟩]⟩) (hw : w.store = .ledger σ.ledger)
    (ht : g.tick σ.clock w.clock) (hstill : g.tick w.clock w.clock) :
    ∃ σ' past, Reachable s g ⟨σ', []⟩ ∧ (w.run p).2.store = .ledger σ'.ledger ∧
      σ'.past = ⟨.ended e (w.run p).1, σ'.ledger, w.clock⟩ :: past := by
  induction p generalizing σ w with
  | done a => exact ⟨_, _, hc.step (.finish ht), hw, rfl⟩
  | fail x => exact ⟨_, _, hc.step (.fail ht), hw, rfl⟩
  | ask r k ih =>
    obtain ⟨hstore, hans⟩ := World.answers_of_ledger hw r
    have hclock := w.clock_answer r
    have hnext : ∃ σ₁, σ₁.clock = w.clock ∧ σ₁.ledger = (w.answer r).2.ledger ∧
        Reachable s g ⟨σ₁, [⟨e, k (w.answer r).1, false⟩]⟩ := by
      by_cases hr : r.waits
      · have hissued := hc.step (.issue hr ht)
        exact ⟨_, rfl, rfl, hissued.step (.answer hr.symm hans (hg _ _ _) hstill)⟩
      · exact ⟨_, rfl, rfl, hc.step (.answer (by simpa using hr) hans (hg _ _ _) ht)⟩
    obtain ⟨σ₁, hσ₁, hledger, hc₁⟩ := hnext
    obtain ⟨σ', past, hc', hstore', hpast⟩ := ih _ hc₁ (hstore.trans (congrArg _ hledger.symm))
      (by rw [hσ₁, hclock]; exact hstill) (by rw [hclock]; exact hstill)
    rw [hclock] at hpast
    exact ⟨σ', past, hc', hstore', hpast⟩

/-- **An errand in a world is part of a run**, with the same outcome and the same records after
it. -/
theorem World.run_reachable (hg : ∀ past r x, g.answers past r x) (hc : Reachable s g ⟨σ, []⟩)
    (hw : w.store = .ledger σ.ledger) (he : g.errands e) (ht : g.tick σ.clock w.clock)
    (hstill : g.tick w.clock w.clock) :
    ∃ σ' past, Reachable s g ⟨σ', []⟩ ∧ (w.run (e.program s)).2.store = .ledger σ'.ledger ∧
      σ'.past = ⟨.ended e (w.run (e.program s)).1, σ'.ledger, w.clock⟩ :: past :=
  World.run_finishes hg (hc.step (.begin he ht)) hw hstill hstill

end

end ImageCatalog
