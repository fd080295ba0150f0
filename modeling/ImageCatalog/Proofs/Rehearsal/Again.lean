import ImageCatalog.Proofs.Rehearsal.Resume
import ImageCatalog.Proofs.Rehearsal.Rest
import ImageCatalog.Proofs.Run.Prompt

/-!
# A pass right after a pass

The second of two passes over a record comes to the same result as the first one and changes
nothing: the records keep their versions, and the catalogs what is in them. The first pass comes to
its goal, the goal is its own goal, and a pass with nothing left to do writes nothing.

A source may answer that an artifact is reachable or not, or fail. A pass takes a failure for a
source that has not got the artifact yet, so the three come down to two.

## What is supposed of the world

Time has to stand still, since a pass that waits for the end of a period tells how long. The year
has to have four digits, because a stamp with another one is written anew by every pass. And uploads
have to be fast enough: one that runs out of time is tried again, and leaves its marks on the way.

## Main definitions

* `World.answerFrom`, `World.runFrom` — a program in a world with another source
* `Program.BearsWithProbes` — a program that takes a failed probe for a missing artifact

## Main results

* `pass_again` — a pass right after a pass changes nothing
-/

namespace ImageCatalog

variable {α β : Type} {s : Service} {key : String} {k : Terms} {l : Ledger} {x : Sight} {w : World}
  {σ : Stage} {source : Except Failure Bool}

/-! ### Sources -/

/-- What is answered in a world with another source. -/
def World.answerFrom (source : Except Failure Bool) (w : World) : (r : Request) → r.Answer × World
  | .probe url =>
    if w.timeline.interrupted then (.error (.cancelled ("probe " ++ url)), w)
    else (source, { w with probes := w.probes + 1 })
  | r => w.answer r

/-- A program in a world with another source: its outcome, and the world after it. -/
def World.runFrom (source : Except Failure Bool) (p : Program α) (w : World) :
    Except Failure α × World :=
  match p with
  | .done a => (.ok a, w)
  | .fail e => (.error e, w)
  | .ask r next =>
    let (x, w) := w.answerFrom source r
    runFrom source (next x) w

/-- What is made of a failed probe is what is made of an artifact that is not reachable. -/
def Request.BearsWith (r : Request) (next : r.Answer → Program α) : Prop :=
  match r with
  | .probe _ => ∀ e : Failure, e.isCancelled = false → next (.error e) = next (.ok false)
  | _ => True

/-- A program takes a failed probe for an artifact that is not reachable. -/
def Program.BearsWithProbes : Program α → Prop
  | done _ => True
  | fail _ => True
  | ask r next => r.BearsWith next ∧ ∀ x, (next x).BearsWithProbes

namespace Program

theorem BearsWithProbes.bind {p : Program α} {f : α → Program β} (hp : p.BearsWithProbes)
    (hf : ∀ a, (f a).BearsWithProbes) : (p >>= f).BearsWithProbes := by
  induction p with
  | done a => exact hf a
  | fail e => trivial
  | ask r next ih =>
    refine ⟨?_, fun x => ih x (hp.2 x)⟩
    cases r with
    | probe url => exact fun e he => congrArg (· >>= f) (hp.1 e he)
    | _ => trivial

/-- Who does not wait does not probe. -/
theorem Prompt.bearsWithProbes {p : Program α} (hp : p.Prompt) : p.BearsWithProbes := by
  induction p with
  | done a => trivial
  | fail e => trivial
  | ask r next ih =>
    refine ⟨?_, fun x => ih x (hp.2 x)⟩
    cases r with
    | probe url => cases hp.1
    | _ => trivial

end Program

namespace Pass

theorem Job.bearsWith_placeAt (job : Job) (url location : String) :
    (job.placeAt url location).BearsWithProbes := by
  have hfill : (job.fill url location).BearsWithProbes := by
    refine (Record.prompt_enter _ _).bearsWithProbes.bind fun _ => ?_
    refine (Program.prompt_emit _).bearsWithProbes.bind fun _ => ?_
    refine Program.BearsWithProbes.bind ⟨trivial, fun _ => trivial⟩ fun x => ?_
    cases x with
    | error e => exact (job.prompt_giveUp e).bearsWithProbes
    | ok _ =>
      exact ((Record.prompt_enter _ _).bind fun _ => Program.prompt_emit _).bearsWithProbes
  refine Program.BearsWithProbes.bind ⟨trivial, fun _ => trivial⟩ fun x => ?_
  cases x with
  | error e => exact (job.prompt_giveUp e).bearsWithProbes
  | ok present =>
    cases present with
    | true => exact ((Record.prompt_enter _ _).bind fun _ => Program.prompt_emit _).bearsWithProbes
    | false => exact hfill

theorem Job.bearsWith_place (job : Job) (url : String) (locations : List Location) :
    (job.place url locations).BearsWithProbes := by
  induction locations with
  | nil => trivial
  | cons location rest ih =>
    have hreach : (Job.isReachable url).BearsWithProbes := by
      refine ⟨fun e he => ?_, fun x => ?_⟩
      · show (if e.isCancelled then _ else _) = _
        rw [he]
        rfl
      · cases x with
        | ok b => trivial
        | error e =>
          show Program.BearsWithProbes (if e.isCancelled then .fail e else .done false)
          split <;> trivial
    refine hreach.bind fun reachable => ?_
    cases reachable with
    | true => exact (job.bearsWith_placeAt url location.name).bind fun _ => ih
    | false =>
      exact Program.Prompt.bearsWithProbes ((Record.prompt_enter _ _).bind fun _ =>
        (Program.prompt_emit _).bind fun _ => trivial)

theorem bearsWith_place (s : Setup) (key : String) (r : Record) :
    (place s key r).BearsWithProbes := by
  simp only [place]
  split
  · exact Program.Prompt.bearsWithProbes ((Program.prompt_log _).bind fun _ =>
      (Record.prompt_enter _ _).bind fun _ => trivial)
  · split
    · exact Program.Prompt.bearsWithProbes ((Record.prompt_enter _ _).bind fun _ =>
        (Program.prompt_emit _).bind fun _ => trivial)
    · refine (Job.bearsWith_place _ _ _).bind fun placed => ?_
      cases placed <;> trivial

theorem Job.bearsWith_clear (job : Job) (locations : List Location) :
    (job.clear locations).BearsWithProbes := by
  induction locations with
  | nil => trivial
  | cons location rest ih =>
    refine (Record.prompt_enter _ _).bearsWithProbes.bind fun _ => ?_
    refine Program.BearsWithProbes.bind ⟨trivial, fun _ => trivial⟩ fun x => ?_
    cases x with
    | ok _ => exact ih
    | error e =>
      dsimp only
      split
      · trivial
      · exact (Program.prompt_emit _).bearsWithProbes.bind fun _ => ih.bind fun _ => trivial

theorem bearsWith_remove (s : Setup) (key : String) (r : Record) :
    (remove s key r).BearsWithProbes := by
  rw [remove_eq]
  refine (prompt_startRemoval key).bearsWithProbes.bind fun _ => ?_
  refine Program.BearsWithProbes.bind ?_ fun _ => (prompt_takeAway key r).bearsWithProbes
  unfold clearCatalogs
  split
  · refine (Job.bearsWith_clear _ _).bind fun failed => ?_
    cases failed with
    | nil => trivial
    | cons =>
      exact Program.Prompt.bearsWithProbes ((Record.prompt_enter _ _).bind fun _ => trivial)
  · exact ((Program.prompt_log _).bind fun _ => Program.prompt_emit _).bearsWithProbes

/-- **A pass takes a failed probe for an artifact that is not reachable.** -/
theorem bearsWith_run (s : Setup) (key : String) : (run s key).BearsWithProbes := by
  refine (Program.prompt_readRecord key).bearsWithProbes.bind fun r? => ?_
  cases r? with
  | none => trivial
  | some r =>
    dsimp only
    split
    · exact bearsWith_remove s key r
    · refine (prompt_dropDeletionRequest key r).bearsWithProbes.bind fun r => ?_
      refine Program.prompt_now.bearsWithProbes.bind fun now => ?_
      split
      · exact (prompt_endWait key r).bearsWithProbes.bind fun r => bearsWith_place s key r
      · refine (prompt_markForDeletion key now).bearsWithProbes.bind fun marked => ?_
        cases marked with
        | none => exact bearsWith_place s key r
        | some r =>
          exact (Program.prompt_log _).bearsWithProbes.bind fun _ => bearsWith_remove s key r
      · refine (prompt_startGracePeriod key _ now).bearsWithProbes.bind fun started => ?_
        cases started with
        | true => trivial
        | false => exact bearsWith_place s key r
      · exact Program.Prompt.bearsWithProbes ((Program.prompt_emit _).bind fun _ => trivial)

end Pass

namespace World

/-- The same world with a source that has got its artifacts, or not. -/
def withSource (w : World) (b : Bool) : World :=
  { w with reachable := b }

section

variable (w : World) (b : Bool)

theorem awaitUpload_withSource (provider location image : String) (limit : Option Duration) :
    (w.withSource b).awaitUpload provider location image limit =
      (w.awaitUpload provider location image limit).map id (·.withSource b) := by
  have htime : (w.withSource b).uploadTime? provider = w.uploadTime? provider := rfl
  have hline : (w.withSource b).timeline = w.timeline := rfl
  unfold awaitUpload
  rw [htime, hline]
  cases w.uploadTime? provider with
  | none => rfl
  | some d => cases w.timeline.interrupted <;> rfl

theorem mapCatalog_withSource (provider : String) (f : Catalog → Catalog) :
    (w.withSource b).mapCatalog provider f = (w.mapCatalog provider f).withSource b := by
  have hproviders : (w.withSource b).providers = w.providers := rfl
  unfold mapCatalog
  rw [hproviders]
  cases w.providers.get? provider <;> rfl

theorem upload_withSource (provider location image : String) (limit : Option Duration) :
    (w.withSource b).upload provider location image limit =
      (w.upload provider location image limit).map id (·.withSource b) := by
  have hcall : ((w.withSource b).onProvider provider () fun c => c.receive .upload location image) =
      (w.onProvider provider () fun c => c.receive .upload location image).map id
        (·.withSource b) := rfl
  unfold upload
  rw [hcall]
  rcases w.onProvider provider () fun c => c.receive .upload location image with ⟨e | _, w'⟩
  · rfl
  · simp only [Prod.map, id]
    rw [awaitUpload_withSource]
    rcases w'.awaitUpload provider location image limit with ⟨a, w''⟩
    cases a with
    | finished x =>
      cases x with
      | ok _ => exact congrArg (Prod.mk _) (w''.mapCatalog_withSource b provider _)
      | error e => rfl
    | timedOut => rfl
    | interrupted => rfl

/-- Only a probe asks the source. -/
theorem answer_withSource (r : Request) :
    (w.withSource b).answer r = (w.answerFrom (.ok b) r).map id (·.withSource b) := by
  have hline : (w.withSource b).timeline = w.timeline := rfl
  cases r with
  | probe url =>
    simp only [answer, probe, answerFrom, hline]
    cases w.timeline.interrupted <;> rfl
  | lookUp call | withdraw call =>
    simp only [answer, answerFrom, hline]
    cases w.timeline.interrupted <;> rfl
  | upload call url =>
    simp only [answer, answerFrom, hline]
    cases w.timeline.interrupted with
    | true => rfl
    | false => exact w.upload_withSource b _ _ _ _
  | readRecord | createRecord | replaceRecord | removeRecord | listRecords => rfl
  | now | emit | log | isInterrupted => rfl

theorem run_withSource (p : Program α) :
    (w.withSource b).run p = (w.runFrom (.ok b) p).map id (·.withSource b) := by
  induction p generalizing w with
  | done a => rfl
  | fail e => rfl
  | ask r next ih =>
    rw [run_ask, answer_withSource]
    exact ih _ _

end

theorem runFrom_error {p : Program α} (hp : p.BearsWithProbes) {e : Failure}
    (he : e.isCancelled = false) (w : World) :
    w.runFrom (.error e) p = w.runFrom (.ok false) p := by
  induction p generalizing w with
  | done a => rfl
  | fail e => rfl
  | ask r next ih =>
    by_cases hr : ∃ url, r = .probe url
    · obtain ⟨url, rfl⟩ := hr
      have hnext : ∀ source : Except Failure Bool, w.runFrom source (.ask (.probe url) next) =
          runFrom source (next (w.answerFrom source (.probe url)).1)
            (w.answerFrom source (.probe url)).2 := fun _ => rfl
      rw [hnext, hnext, ih _ (hp.2 _)]
      cases hi : w.timeline.interrupted with
      | true => simp only [answerFrom, hi, if_true]
      | false =>
        simp only [answerFrom, hi, Bool.false_eq_true, if_false]
        exact congrArg (runFrom _ · _) (hp.1 e he)
    · have hsame : w.answerFrom (.error e) r = w.answerFrom (.ok false) r := by
        cases r with
        | probe url => exact absurd ⟨url, rfl⟩ hr
        | _ => rfl
      show runFrom _ (next (w.answerFrom (.error e) r).1) (w.answerFrom (.error e) r).2 = _
      rw [ih _ (hp.2 _), hsame]
      rfl

/-- **Sources come down to two**: one that has got its artifacts, and one that has not. -/
theorem exists_withSource (hsource : ∀ e, source = .error e → e.isCancelled = false) :
    ∃ b, ∀ {p : Program α}, p.BearsWithProbes → ∀ w : World,
      (w.withSource b).run p = (w.runFrom source p).map id (·.withSource b) := by
  cases source with
  | ok b => exact ⟨b, fun _ w => w.run_withSource b _⟩
  | error e =>
    refine ⟨false, fun hp w => ?_⟩
    rw [runFrom_error hp (hsource e rfl)]
    exact w.run_withSource false _

/-! ### Two passes -/

/-- A pass that is not cut short comes to its goal. -/
theorem Calm.run_pass (h : w.Calm k l x) (hname : Name.fault? key = none) :
    (w.run (s.pass key)).1 = (Pass.goal s.setup k key x).1 ∧
      ∃ l', (w.run (s.pass key)).2.Calm k l' (Pass.goal s.setup k key x).2 := by
  have hshows : Rehearsal.Shows false k x ⟨w, []⟩ :=
    ⟨l, h.bears, fun d hd => (List.not_mem_nil hd).elim, fun _ => ⟨rfl, h.quiet⟩⟩
  rcases hshows.yields_run (s := s.setup) hname (fun hcut => by cases hcut) with
    ⟨hresult, l', hb⟩ | ⟨hcut, -⟩
  · rw [Rehearsal.run_calm] at hresult hb
    exact ⟨hresult, l', hb.world, (hb.uncut rfl).2⟩
  · cases hcut

/-- Reading a record leaves a world alone. -/
theorem run_readRecord {α : Type} (w : World) (name : String) (f : Option Record → Program α) :
    w.run (Program.readRecord name >>= f) =
      w.run (Program.ofExcept (w.store.read name).1 >>= f) := by
  have hanswer : (w.answer (.readRecord name)).2 = w := by
    show { w with store := (w.store.read name).2 } = w
    rw [w.store.read_snd name]
  show (w.answer (.readRecord name)).2.run _ = _
  rw [hanswer]
  rfl

/-- A pass over what is no name does nothing. -/
theorem Calm.run_of_fault (h : w.Calm k l x) {fault : Name.Fault}
    (hname : Name.fault? key = some fault) :
    (w.run (s.pass key)).2 = w := by
  have hnone : l.get? key = none := by
    refine Option.eq_none_iff_forall_ne_some.mpr fun r hr => ?_
    rw [(h.bears.named key r hr).2] at hname
    cases hname
  unfold Service.pass Pass.run
  rw [run_readRecord]
  rcases h.bears.store.read_of_fault hnone hname with hread | hread
  · rw [hread]
    rfl
  · rw [hread]
    rfl

/-- Two passes in a world without disturbances. -/
theorem Calm.run_twice (h : w.Calm k l x) (hripe : Name.fault? key = none → Pass.Ripe key x)
    (hfast : ∀ p, k.tooSlow p = false) (hyear : 0 ≤ k.clock.year ∧ k.clock.year ≤ 9999) :
    ((w.run (s.pass key)).2.run (s.pass key)).1 = (w.run (s.pass key)).1 ∧
      (w.run (s.pass key)).2.Alike ((w.run (s.pass key)).2.run (s.pass key)).2 := by
  cases hname : Name.fault? key with
  | none =>
    obtain ⟨hfirst, l₁, h₁⟩ := h.run_pass (s := s) hname
    obtain ⟨hsecond, -⟩ := h₁.run_pass (s := s) hname
    have hgoal := Pass.goal_goal (s := s.setup) (k := k) (hripe hname)
    obtain ⟨a, w₂, hrun, -, halike⟩ :=
      h₁.rests_run (s := s.setup) hname hfast hyear (congrArg Prod.snd hgoal)
    refine ⟨?_, ?_⟩
    · rw [hsecond, hfirst, hgoal]
    · have hw₂ : ((w.run (s.pass key)).2.run (s.pass key)).2 = w₂ := congrArg Prod.snd hrun
      rw [hw₂]
      exact halike
  | some fault =>
    rw [h.run_of_fault hname, h.run_of_fault hname]
    exact ⟨rfl, .refl w⟩

end World

/-- **A pass right after a pass changes nothing**, and comes to the same result. A store holds the
records of a run of a service in which nothing is at work, the providers have no faults in store,
and nothing interrupts the work. The clock stands still in a year of four digits, uploads are fast
enough, and the source gives any answer but that the work was interrupted. The pass may be set up
otherwise than the service that has run before. -/
theorem pass_again (s s' : Service) {σ : Stage} (hσ : Reachable s .interleaved ⟨σ, []⟩)
    (key : String)
    (hsound : Name.fault? key = none → ∀ m ∈ σ.past, m.deed.isOutageAt key = false)
    {w : World} (hw : w.store.Holds σ.ledger) (hfaults : w.Faultless) (hquiet : w.timeline.Quiet)
    (hfast : ∀ p, w.terms.tooSlow p = false) (hyear : 0 ≤ w.clock.year ∧ w.clock.year ≤ 9999)
    (source : Except Failure Bool) (hsource : ∀ e, source = .error e → e.isCancelled = false) :
    let first := w.runFrom source (s'.pass key)
    let second := first.2.runFrom source (s'.pass key)
    second.1 = first.1 ∧ second.2.store = first.2.store ∧ ∀ p,
      (second.2.catalog? p).map Catalog.holdings = (first.2.catalog? p).map Catalog.holdings := by
  intro first second
  obtain ⟨b, hb⟩ := World.exists_withSource (α := Pass.Outcome) hsource
  have hpass : (s'.pass key).BearsWithProbes := Pass.bearsWith_run s'.setup key
  have hvalid := (hσ.sound fun _ _ => Regime.isPass_of_interleaved).1.valid
  have hcalm : (w.withSource b).Calm (w.withSource b).terms σ.ledger (w.sight σ.ledger) :=
    { bears :=
        { store := hw
          named := fun n r hr => ⟨(hvalid n r hr).name_eq, (hvalid n r hr).name_ok⟩
          records := fun n => rfl
          held := rfl
          terms := rfl
          faultless := hfaults }
      quiet := hquiet }
  have hripe : Name.fault? key = none → Pass.Ripe key (w.sight σ.ledger) := by
    rintro hname r hr
    obtain ⟨q, hq, rfl⟩ := Option.map_eq_some_iff.mp hr
    have hphase : q.phase ≠ none :=
      hσ.attended (fun _ _ => Regime.isPass_of_interleaved) (hsound hname) hq
    exact .inr hphase
  have hfirst : (w.withSource b).run (s'.pass key) = first.map id (·.withSource b) := hb hpass w
  have hsecond : (first.2.withSource b).run (s'.pass key) = second.map id (·.withSource b) :=
    hb hpass first.2
  obtain ⟨hresult, halike⟩ := hcalm.run_twice (s := s') hripe hfast hyear
  rw [hfirst] at hresult halike
  simp only [Prod.map, id] at hresult halike
  rw [hsecond] at hresult halike
  exact ⟨hresult, halike.store, halike.catalogs⟩

/-- The first pass brings the image to both locations, and the second one finds it there. -/
theorem pass_again_at_two_locations :
    let s := Performance.smallService .zero
    ∃ w : World,
      let first := w.runFrom (.ok true) (s.pass "flatcar")
      let second := first.2.runFrom (.ok true) (s.pass "flatcar")
      w.held "capv" "dc2" "flatcar" = false ∧ first.2.held "capv" "dc2" "flatcar" ∧
        second.1 = first.1 ∧ second.2.store = first.2.store ∧
        ∀ p, (second.2.catalog? p).map Catalog.holdings =
          (first.2.catalog? p).map Catalog.holdings := by
  intro s
  let world (σ : Stage) : World :=
    { (Performance.opening .epoch).world with store := .ledger σ.ledger }
  let found (c : Scene) : Bool :=
    c.tasks.isEmpty && c.stage.past.all (fun m => !m.deed.isOutageAt "flatcar") &&
      ((world c.stage).runFrom (.ok true) (s.pass "flatcar")).2.held "capv" "dc2" "flatcar"
  obtain ⟨⟨σ, tasks⟩, hc, hfound⟩ := Performance.exists_reachable (s := s)
    (g := .interleaved) (fun _ _ _ => trivial) (t := .epoch) rfl
    [.begin (.consumerAdded "cluster" "flatcar" "capv")] found (by decide +kernel)
  simp only [found, Bool.and_eq_true, List.all_eq_true, Bool.not_eq_true', List.isEmpty_iff]
    at hfound
  obtain ⟨⟨rfl, hstore⟩, hbrought⟩ := hfound
  have hheld : (world σ).store.Holds σ.ledger := rfl
  have hfaults : (world σ).Faultless := by
    intro p c hc
    obtain rfl := Performance.eq_new_of_opening rfl hc
    rfl
  have hfast : ∀ p, (world σ).terms.tooSlow p = false := by
    intro p
    show ((world σ).uploadTime? p).any _ = false
    rw [World.uploadTime?_eq]
    cases hc : (world σ).catalog? p with
    | none => rfl
    | some c =>
      obtain rfl := Performance.eq_new_of_opening rfl hc
      rfl
  have hyear : 0 ≤ Instant.epoch.year ∧ Instant.epoch.year ≤ 9999 := by decide
  refine ⟨world σ, rfl, hbrought, ?_⟩
  exact pass_again s s hc "flatcar" (fun _ => hstore) hheld hfaults ⟨rfl, rfl⟩ hfast hyear
    (.ok true) (by simp)

end ImageCatalog
