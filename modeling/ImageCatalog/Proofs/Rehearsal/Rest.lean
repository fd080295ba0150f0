import ImageCatalog.Proofs.Rehearsal.Outcome

/-!
# A pass with nothing left to do

If the goal of a pass is the sight that the world shows already, the pass looks at the record, asks
the source and the catalogs, and writes nothing. So the records keep even their versions. That does
not follow from the sights alone: they do not show versions, and a pass that took a record out of a
phase and back would leave the same sight.

Two things have to be excluded. An upload that is too slow is tried again by every pass, by way of
two writes. And a stamp that cannot be read back is written once more.

## Main definitions

* `World.Alike` — the same records with the same versions, and the same catalogs
* `World.Rests` — a program comes to a result and leaves a world alike
* `Pass.AtGoal` — there is nothing left to do for a pass

## Main results

* `World.Calm.rests_run` — a pass with nothing left to do leaves the world alike
-/

namespace ImageCatalog

variable {α β : Type} {w w' w'' : World} {k : Terms} {l : Ledger} {x : Sight} {key : String}
  {r : Record} {s : Pass.Setup}

/-! ### Worlds alike -/

namespace World

/-- The same records with the same versions, and the same images in the catalogs in the same
order. -/
structure Alike (w w' : World) : Prop where
  store : w'.store = w.store
  catalogs : ∀ p, (w'.catalog? p).map Catalog.holdings = (w.catalog? p).map Catalog.holdings

theorem Alike.refl (w : World) : w.Alike w := ⟨rfl, fun _ => rfl⟩

theorem Alike.trans (h : w.Alike w') (h' : w'.Alike w'') : w.Alike w'' :=
  ⟨h'.store.trans h.store, fun p => (h'.catalogs p).trans (h.catalogs p)⟩

/-- A call that is on record does not count. -/
theorem alike_noted {provider : String} {c : Catalog} (hc : w.catalog? provider = some c)
    (verb : Verb) (location image : String) :
    w.Alike (w.setCatalog provider (c.noted verb location image)) where
  store := rfl
  catalogs p := by
    rw [catalog?_setCatalog]
    split
    · rename_i hp
      rw [hp, hc]
      rfl
    · rfl

/-- A look-up leaves the catalogs as they are. -/
theorem alike_lookUp (hw : w.Faultless) (provider location image : String) :
    w.Alike (w.lookUp provider location image).2 := by
  cases hc : w.catalog? provider with
  | none =>
    rw [World.lookUp, onProvider_of_none hc]
    exact .refl w
  | some c =>
    have hcall : (c.lookUp location image).2 = c.noted .lookUp location image := by
      rw [Catalog.lookUp, Catalog.receive_of_faultless (hw provider c hc)]
    rw [World.lookUp, onProvider_of_catalog hc, hcall]
    exact alike_noted hc .lookUp location image

/-! ### Programs that leave a world alike -/

/-- A world with the records of a ledger, in which nothing interrupts the work. -/
structure Calm (k : Terms) (l : Ledger) (x : Sight) (w : World) : Prop where
  bears : w.Bears k l x
  quiet : w.timeline.Quiet

/-- A program comes to a result and leaves a world alike. -/
def Rests (k : Terms) (l : Ledger) (x : Sight) (p : Program α) (a : Except Failure α)
    (w : World) : Prop :=
  ∃ w', w.run p = (a, w') ∧ w'.Calm k l x ∧ w.Alike w'

theorem run_ask (q : Request) (next : q.Answer → Program α) (w : World) :
    w.run (.ask q next) = (w.answer q).2.run (next (w.answer q).1) := rfl

/-- **Programs one after the other.** -/
theorem run_bind (p : Program α) (f : α → Program β) (w : World) :
    w.run (p >>= f) =
      match w.run p with
      | (.ok a, w') => w'.run (f a)
      | (.error e, w') => (.error e, w') := by
  induction p generalizing w with
  | done a => rfl
  | fail e => rfl
  | ask q next ih =>
    rw [Program.ask_bind, run_ask, run_ask]
    exact ih _ _

section

variable {p : Program α} {f : α → Program β} {a : α} {b : Except Failure β} {e : Failure}

theorem Calm.done (h : w.Calm k l x) (a : α) : w.Rests k l x (.done a) (.ok a) :=
  ⟨w, rfl, h, .refl w⟩

theorem Calm.fail (h : w.Calm k l x) (e : Failure) :
    w.Rests k l x (.fail e : Program α) (.error e) :=
  ⟨w, rfl, h, .refl w⟩

theorem Rests.bind (hp : w.Rests k l x p (.ok a))
    (hf : ∀ w' : World, w'.Calm k l x → w'.Rests k l x (f a) b) :
    w.Rests k l x (p >>= f) b := by
  obtain ⟨w₁, hrun, hw₁, halike⟩ := hp
  obtain ⟨w₂, hrun', hw₂, halike'⟩ := hf w₁ hw₁
  refine ⟨w₂, ?_, hw₂, halike.trans halike'⟩
  rw [run_bind, hrun]
  exact hrun'

/-- Programs one after the other, whatever the second one comes to. -/
theorem Rests.bind_exists (hp : w.Rests k l x p (.ok a))
    (hf : ∀ w' : World, w'.Calm k l x → ∃ b, w'.Rests k l x (f a) b) :
    ∃ b, w.Rests k l x (p >>= f) b := by
  obtain ⟨w₁, hrun, hw₁, halike⟩ := hp
  obtain ⟨b, w₂, hrun', hw₂, halike'⟩ := hf w₁ hw₁
  refine ⟨b, w₂, ?_, hw₂, halike.trans halike'⟩
  rw [run_bind, hrun]
  exact hrun'

/-- A program goes on with the answer that it gets. -/
theorem Rests.ask {q : Request} {next : q.Answer → Program α} {y : q.Answer}
    {b : Except Failure α} (hq : w.answer q = (y, w')) (halike : w.Alike w')
    (hnext : w'.Rests k l x (next y) b) : w.Rests k l x (.ask q next) b := by
  obtain ⟨w'', hrun, hw'', halike'⟩ := hnext
  refine ⟨w'', ?_, hw'', halike.trans halike'⟩
  rw [run_ask, hq]
  exact hrun

end

namespace Calm

variable (h : w.Calm k l x)

include h

/-! #### Requests -/

theorem rests_readRecord (hname : Name.fault? key = none) :
    w.Rests k l x (Program.readRecord key) (.ok (l.get? key)) := by
  obtain ⟨st, hread, -⟩ := h.bears.store.read hname
  obtain rfl : st = w.store := by
    rw [← w.store.read_snd key, hread]
  have hanswer : w.answer (.readRecord key) = (.ok (l.get? key), w) := by
    rw [World.answer, hread]
    rfl
  exact .ask hanswer (.refl w) (h.done _)

theorem rests_emit (event : Event) : w.Rests k l x (Program.emit event) (.ok ()) :=
  ⟨w.record event, rfl, ⟨{ h.bears with }, h.quiet⟩, rfl, fun _ => rfl⟩

theorem rests_emitIf (b : Bool) (event : Event) :
    w.Rests k l x (Program.emitIf b event) (.ok ()) := by
  cases b with
  | false => exact h.done ()
  | true => exact h.rests_emit event

theorem rests_log (line : LogLine) : w.Rests k l x (Program.log line) (.ok ()) :=
  ⟨w, rfl, h, .refl w⟩

theorem rests_now : w.Rests k l x Program.now (.ok k.clock) := by
  obtain rfl := h.bears.terms
  exact ⟨w, rfl, h, .refl w⟩

theorem rests_isReachable (url : String) :
    w.Rests k l x (Pass.Job.isReachable url) (.ok k.reachable) := by
  have hanswer : w.answer (.probe url) = (.ok k.reachable, { w with probes := w.probes + 1 }) := by
    rw [← h.bears.terms, World.answer, World.probe, h.quiet.1]
    rfl
  have hprobed : Calm k l x { w with probes := w.probes + 1 } := ⟨{ h.bears with }, h.quiet⟩
  exact .ask hanswer ⟨rfl, fun _ => rfl⟩ (hprobed.done k.reachable)

theorem rests_lookUp (job : Pass.Job) (location : String) :
    w.Rests k l x (job.lookUp location) (.ok (.ok (x.held job.provider location job.image))) := by
  obtain ⟨w', hlookUp, hb, htime⟩ := h.bears.lookUp job.provider location job.image
  have hanswer : w.answer (.lookUp (job.call location Pass.callLimit)) =
      (.finished (.ok (x.held job.provider location job.image)), w') := by
    have hstarts : ¬ w.timeline.interrupted := by simp [h.quiet.1]
    refine (if_neg hstarts).trans ?_
    rw [finish, Pass.Job.call, hlookUp]
    rfl
  have halike : w.Alike w' := by
    have hlike := alike_lookUp h.bears.faultless job.provider location job.image
    rwa [hlookUp] at hlike
  have hcalm : w'.Calm k l x := ⟨hb, by rw [htime]; exact h.quiet⟩
  exact .ask hanswer halike (hcalm.done _)

/-! #### Records -/

/-- An edit that is not needed. -/
theorem rests_revise (hr : l.get? key = some r) {needed : Record → Bool} (hn : needed r = false)
    (change : Record → Record) :
    w.Rests k l x (Record.revise key (.when needed change)) (.ok ⟨r, r, false⟩) := by
  have hattempt : w.Rests k l x (Record.revise? key (.when needed change))
      (.ok (some ⟨r, r, false⟩)) := by
    refine (h.rests_readRecord (h.bears.named key r hr).2).bind fun w₁ h₁ => ?_
    simp only [hr, Edit.editor_apply, Edit.when, hn, Bool.false_eq_true, if_false]
    exact h₁.done _
  exact hattempt.bind fun w₁ h₁ => h₁.done _

/-- A phase that the record is in already. -/
theorem rests_enter (hr : l.get? key = some r) {phase : Phase} (hphase : r.phase = some phase) :
    w.Rests k l x (Record.enter key phase) (.ok ()) := by
  refine (h.rests_revise hr (by simp [hphase]) _).bind fun w₁ h₁ => ?_
  exact h₁.rests_emitIf false _

end Calm

end World

/-! ### Goals that are reached -/

namespace Pass

/-- There is nothing left to do for a pass. -/
def AtGoal (s : Setup) (k : Terms) (key : String) (x : Sight) : Prop :=
  (goal s k key x).2 = x

/-- A phase that a record is brought into is the one that it is in. -/
theorem phase_of_put {x' : Sight} {phase : Phase} (hr : x.records key = some r)
    (hx : x'.records key = x.records key)
    (hput : x'.records key = some { r with phase := some phase }) : r.phase = some phase := by
  rw [hx, hr] at hput
  exact congrArg Record.phase (Option.some.inj hput)

/-- What is left of a placement at some locations: the record is in the phase that says so. -/
theorem of_placesGoal_eq (hfast : k.tooSlow r.spec.provider = false)
    (hr : x.records key = some r) {places : List String} (hne : places ≠ [])
    (hx : (placesGoal k key r x places).2 = x) :
    if k.reachable then
      r.phase = some .available ∧ ∀ l ∈ places, x.held r.spec.provider l r.spec.image
    else r.phase = some .missing := by
  by_cases hreach : k.reachable
  · rw [placesGoal_of_reachable key hne hreach (.inl hfast)] at hx
    rw [if_pos hreach]
    refine ⟨phase_of_put hr (congrArg (Sight.records · key) hx) (Sight.records_put ..), ?_⟩
    intro l hl
    have hheld : (x.bring r.spec places).held r.spec.provider l r.spec.image =
        x.held r.spec.provider l r.spec.image :=
      congrArg (fun x => x.held r.spec.provider l r.spec.image) hx
    rw [← hheld]
    simp [Sight.bring, hl]
  · have hreach' : k.reachable = false := by simpa using hreach
    rw [placesGoal_of_not_reachable key r x hne hreach'] at hx
    rw [if_neg hreach]
    exact phase_of_put hr (congrArg (Sight.records · key) hx) (Sight.records_put ..)

section

variable (h : AtGoal s k key x) (hr : x.records key = some r)

include h hr

/-- The record is still there, so it was not removed. -/
theorem AtGoal.ne_removalGoal (spec : Spec) : goal s k key x ≠ removalGoal s k key spec x := by
  intro hgoal
  have hnone : (goal s k key x).2.records key = none := by
    rw [hgoal]
    exact Sight.records_put ..
  rw [h, hr] at hnone
  cases hnone

theorem AtGoal.not_due : (r.isDeletionRequested && !r.isReferenced) = false := by
  rw [← Bool.not_eq_true]
  intro hdue
  obtain ⟨hreq, hfree⟩ : r.isDeletionRequested = true ∧ r.isReferenced = false := by
    simpa using hdue
  exact h.ne_removalGoal hr r.spec (goal_of_due hr hreq hfree)

/-- The goal is that of the record without its deletion request, and leaves no request on it. -/
theorem AtGoal.deletion_eq_none : r.deletion = none := by
  by_contra hdeletion
  have hreq : r.isDeletionRequested := Option.isSome_iff_ne_none.mpr hdeletion
  have href : r.isReferenced := by simpa [hreq] using h.not_due hr
  have hgoal := goal_dropDeletion (s := s) (k := k) hr (h.not_due hr)
  have href' : ({ r with deletion := none } : Record).isReferenced := href
  rw [goal_of_decide (Sight.records_put ..) rfl, decide_of_referenced href'] at hgoal
  dsimp only at hgoal
  rw [placingGoal_put] at hgoal
  generalize hq : (if ({ r with deletion := none } : Record).isReferenced &&
    ({ r with deletion := none } : Record).phase == some .awaitingDeletion then
      ({ r with deletion := none } : Record).revive else { r with deletion := none }) = q at hgoal
  obtain ⟨phase, -, hrecord, -⟩ := placingGoal_again s k key q x
  rw [hgoal, h, hr] at hrecord
  apply hdeletion
  rw [Option.some.inj hrecord]
  show q.deletion = none
  rw [← hq]
  split <;> rfl

/-- A wait for deletion has begun already, if one has to. -/
theorem AtGoal.not_startGracePeriod (hyear : 0 ≤ k.clock.year ∧ k.clock.year ≤ 9999)
    (d : Duration) : Retention.decide s.period r k.clock ≠ .startGracePeriod d := by
  intro hd
  have hsame := congrArg (Sight.records · key) h
  rw [goal_of_decide hr (h.deletion_eq_none hr), hd] at hsame
  dsimp only at hsame
  rw [Sight.records_put, hr] at hsame
  have hr' := Option.some.inj hsame
  have hfree := Retention.isReferenced_of_startGracePeriod hd
  have hperiod : s.period.isZero = false := by
    have hpos := Retention.pos_of_startGracePeriod hd
    obtain rfl := eq_of_startGracePeriod hd
    simp [Duration.isZero, Nat.ne_of_gt hpos]
  have hphase : r.phase = some .awaitingDeletion := by
    rw [← hr']
    rfl
  have hstamp : r.lastUsed? = some k.clock := by
    rw [← hr', Record.lastUsed?_of_stamp (Dictionary.get?_insert_self ..), if_pos hyear]
  simp only [Retention.decide, hfree, hphase, hperiod, hstamp, Bool.false_eq_true, if_false] at hd
  split at hd <;> cases hd

/-- **What is left to do for a pass**: to place an image that is placed, or to wait. -/
theorem AtGoal.cases (hyear : 0 ≤ k.clock.year ∧ k.clock.year ≤ 9999) :
    (Retention.decide s.period r k.clock = .notEligible ∧
        (r.isReferenced && r.phase == some .awaitingDeletion) = false ∧
        (placingGoal s k key r x).2 = x) ∨
      ∃ remaining, Retention.decide s.period r k.clock = .wait remaining := by
  have hdeletion := h.deletion_eq_none hr
  have hgoal := goal_of_decide (s := s) (k := k) hr hdeletion
  cases hd : Retention.decide s.period r k.clock with
  | notEligible =>
    rw [hd] at hgoal
    dsimp only at hgoal
    have hkept : (r.isReferenced && r.phase == some .awaitingDeletion) = false := by
      rw [← Bool.not_eq_true]
      intro hends
      rw [if_pos hends] at hgoal
      obtain ⟨phase, hphase, hrecord, -⟩ := placingGoal_again s k key r.revive x
      rw [← hgoal, h, hr] at hrecord
      have hawaits : phase = some .awaitingDeletion := by
        rw [Bool.and_eq_true] at hends
        exact (congrArg Record.phase (Option.some.inj hrecord)).symm.trans (beq_iff_eq.mp hends.2)
      rcases hphase with rfl | ⟨p, rfl, hp⟩
      · exact r.phase_revive_ne hawaits
      · exact hp (Option.some.inj hawaits)
    rw [if_neg (by simp [hkept])] at hgoal
    refine .inl ⟨rfl, hkept, ?_⟩
    rw [← hgoal]
    exact h
  | deleteNow =>
    rw [hd] at hgoal
    exact absurd hgoal (h.ne_removalGoal hr r.spec)
  | startGracePeriod d => exact absurd hd (h.not_startGracePeriod hr hyear d)
  | wait remaining => exact .inr ⟨remaining, rfl⟩

end

end Pass

/-! ### Passes with nothing left to do -/

namespace World.Calm

/-- A record is read as the ledger has it. -/
theorem get?_of_records {q : Record} (h : w.Calm k l x) (hq : l.get? key = some q) :
    x.records key = some q.unversioned := by
  rw [h.bears.records, hq]
  rfl

/-- The image is at all locations already. -/
theorem rests_placeAll (h : w.Calm k l x) (hr : l.get? key = some r) (url : String)
    (hreach : k.reachable) (hphase : r.phase = some .available) {locations : List Location}
    (hheld : ∀ m ∈ locations.map Location.name, x.held r.spec.provider m r.spec.image) :
    w.Rests k l x (Pass.Job.place ⟨key, r.spec.provider, r.spec.image⟩ url locations)
      (.ok .everywhere) := by
  induction locations generalizing w with
  | nil => exact h.done _
  | cons location rest ih =>
    obtain ⟨hfirst, hrest⟩ := List.forall_mem_cons.mp hheld
    have hat : ∀ w₁ : World, w₁.Calm k l x → w₁.Rests k l x
        (Pass.Job.placeAt ⟨key, r.spec.provider, r.spec.image⟩ url location.name) (.ok ()) := by
      intro w₁ h₁
      refine (h₁.rests_lookUp _ location.name).bind fun w₂ h₂ => ?_
      simp only [hfirst]
      exact (h₂.rests_enter hr hphase).bind fun w₃ h₃ => h₃.rests_emit _
    refine (h.rests_isReachable url).bind fun w₁ h₁ => ?_
    rw [if_pos hreach]
    exact (hat w₁ h₁).bind fun w₂ h₂ => ih h₂ hrest

/-- The artifact is missing, and the record says so already. -/
theorem rests_placeAll_of_missing (h : w.Calm k l x) (hr : l.get? key = some r) (url : String)
    (hreach : k.reachable = false) (hphase : r.phase = some .missing) (location : Location)
    (rest : List Location) :
    w.Rests k l x (Pass.Job.place ⟨key, r.spec.provider, r.spec.image⟩ url (location :: rest))
      (.ok .sourceMissing) := by
  refine (h.rests_isReachable url).bind fun w₁ h₁ => ?_
  rw [if_neg (by simp [hreach])]
  refine (h₁.rests_enter hr hphase).bind fun w₂ h₂ => ?_
  exact (h₂.rests_emit _).bind fun w₃ h₃ => h₃.done _

/-- The image is placed as far as can be. -/
theorem rests_places (h : w.Calm k l x) (hr : l.get? key = some r) (url : String)
    (hfast : k.tooSlow r.spec.provider = false) {locations : List Location}
    (hat : (Pass.placesGoal k key r.unversioned x (locations.map Location.name)).2 = x) :
    ∃ placed, w.Rests k l x
      (Pass.Job.place ⟨key, r.spec.provider, r.spec.image⟩ url locations) (.ok placed) := by
  cases locations with
  | nil => exact ⟨.everywhere, h.done _⟩
  | cons location rest =>
    have hdone := Pass.of_placesGoal_eq (r := r.unversioned) hfast (h.get?_of_records hr)
      (List.cons_ne_nil _ _) hat
    cases hreach : k.reachable with
    | true =>
      rw [hreach, if_pos rfl] at hdone
      exact ⟨.everywhere, h.rests_placeAll hr url hreach hdone.1 hdone.2⟩
    | false =>
      rw [hreach, if_neg Bool.false_ne_true] at hdone
      exact ⟨.sourceMissing, h.rests_placeAll_of_missing hr url hreach hdone location rest⟩

/-- A placement that is done. -/
theorem rests_place (h : w.Calm k l x) (hr : l.get? key = some r)
    (hfast : k.tooSlow r.spec.provider = false)
    (hat : (Pass.placingGoal s k key r.unversioned x).2 = x) :
    ∃ a, w.Rests k l x (Pass.place s key r) a := by
  have hrecord := h.get?_of_records hr
  have hsame := congrArg (Sight.records · key) hat
  rw [Pass.place]
  cases hurl : Artifact.addressFault? (s.source.artifact r.spec.image) with
  | some fault =>
    have hurl' : Artifact.addressFault? (s.source.artifact r.unversioned.spec.image) =
      some fault := hurl
    have hphase : r.unversioned.phase = some .error := by
      refine Pass.phase_of_put hrecord hsame ?_
      simp only [Pass.placingGoal, hurl']
      exact Sight.records_put ..
    refine (h.rests_log _).bind_exists fun w₁ h₁ => ?_
    exact (h₁.rests_enter hr hphase).bind_exists fun w₂ h₂ => ⟨_, h₂.fail _⟩
  | none =>
    have hurl' : Artifact.addressFault? (s.source.artifact r.unversioned.spec.image) = none := hurl
    cases hget : s.providers.get? r.spec.provider with
    | none =>
      have hnone : s.places? r.unversioned.spec.provider = none := by
        have hget' : s.providers.get? r.unversioned.spec.provider = none := hget
        rw [Pass.Setup.places?, hget']
        rfl
      have hphase : r.unversioned.phase = some .error := by
        refine Pass.phase_of_put hrecord hsame ?_
        simp only [Pass.placingGoal, hurl', hnone]
        exact Sight.records_put ..
      refine (h.rests_enter hr hphase).bind_exists fun w₁ h₁ => ?_
      exact (h₁.rests_emit _).bind_exists fun w₂ h₂ => ⟨_, h₂.done _⟩
    | some locations =>
      have hplaces : s.places? r.unversioned.spec.provider =
          some (locations.map Location.name) := by
        have hget' : s.providers.get? r.unversioned.spec.provider = some locations := hget
        rw [Pass.Setup.places?, hget']
        rfl
      rw [Pass.placingGoal_of_places hurl' hplaces] at hat
      obtain ⟨placed, hplace⟩ := h.rests_places hr (s.source.artifact r.spec.image) hfast hat
      cases placed with
      | everywhere => exact hplace.bind_exists fun w₁ h₁ => ⟨_, h₁.done _⟩
      | sourceMissing => exact hplace.bind_exists fun w₁ h₁ => ⟨_, h₁.done _⟩

/-- Retention has nothing left to do. -/
theorem rests_retainOrPlace (h : w.Calm k l x) (hr : l.get? key = some r)
    (hfast : k.tooSlow r.spec.provider = false)
    (hyear : 0 ≤ k.clock.year ∧ k.clock.year ≤ 9999) (hat : Pass.AtGoal s k key x) :
    ∃ a, w.Rests k l x (Pass.retainOrPlace s key r) a := by
  have hdecide : Retention.decide s.period r k.clock =
      Retention.decide s.period r.unversioned k.clock := rfl
  refine h.rests_now.bind_exists fun w₁ h₁ => ?_
  rw [hdecide]
  rcases hat.cases (h.get?_of_records hr) hyear with ⟨hd, hkept, hplaced⟩ | ⟨remaining, hd⟩
  · have hend : Pass.endWait key r = .done r := by
      have hkept' : (r.isReferenced && r.phase == some .awaitingDeletion) = false := hkept
      rw [Pass.endWait, hkept']
      rfl
    rw [hd]
    simp only [hend, Program.done_bind]
    exact h₁.rests_place hr hfast hplaced
  · rw [hd]
    exact (h₁.rests_emit _).bind_exists fun w₂ h₂ => ⟨_, h₂.done _⟩

/-- **A pass with nothing left to do leaves the world alike.** -/
theorem rests_run (h : w.Calm k l x) (hname : Name.fault? key = none)
    (hfast : ∀ p, k.tooSlow p = false) (hyear : 0 ≤ k.clock.year ∧ k.clock.year ≤ 9999)
    (hat : Pass.AtGoal s k key x) : ∃ a, w.Rests k l x (Pass.run s key) a := by
  have hread := h.rests_readRecord hname
  rw [Pass.run]
  refine hread.bind_exists fun w₁ h₁ => ?_
  cases hr : l.get? key with
  | none => exact ⟨_, h₁.done _⟩
  | some r =>
    have hrecord := h.get?_of_records hr
    have hdue : (r.isDeletionRequested && !r.isReferenced) = false :=
      hat.not_due (r := r.unversioned) hrecord
    have hdrop : Pass.dropDeletionRequest key r = .done r := by
      have hdeletion : r.deletion = none := hat.deletion_eq_none (r := r.unversioned) hrecord
      have hreq : r.isDeletionRequested = false := by
        rw [Record.isDeletionRequested, hdeletion]
        rfl
      rw [Pass.dropDeletionRequest, hreq]
      rfl
    simp only [hdue, Bool.false_eq_true, if_false, hdrop, Program.done_bind]
    exact h₁.rests_retainOrPlace hr (hfast _) hyear hat

end World.Calm

end ImageCatalog
