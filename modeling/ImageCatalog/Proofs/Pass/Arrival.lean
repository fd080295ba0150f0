import ImageCatalog.Config
import ImageCatalog.Proofs.Consumers.References
import ImageCatalog.Proofs.Consumers.Walk
import ImageCatalog.Proofs.Pass.Goal
import ImageCatalog.Proofs.Pass.Walk
import ImageCatalog.Proofs.Run.Performance

/-!
# Where a placement arrives

A placement that says that the image is everywhere leaves the record available, whatever the source,
the providers and the store have answered, and whoever has landed meanwhile. The phase is written at
each location, and what the placement says is decided behind the last one, so the two agree only
because there is a last one.

## Providers without locations

The settings admit a provider with catalogs at no location. A placement there says that the image is
everywhere, and has not touched the record: it is as pending as it was, or not there at all. A
provider without catalogs is given a location of its own, so that there is always one.

## The loop

The induction is on the locations that are left. It is carried by what holds before each of them: if
none is left, the record is available already. So nothing is asked of the record while there is a
location to come, and visitors may do with it what they like.

## Main definitions

* `Task.placing` — a pass that is left with a placement
* `Regime.attended` — a task by itself, with errands that land while it waits
* `Stage.placedEverywhere`, `Stage.Available` — what a placement has said, and what it has left

## Main results

* `Arrival.triple_place` — what a placement leaves, by induction on its locations
* `placed_everywhere` — what holds when a placement says that the image is everywhere
-/

namespace ImageCatalog

/-! ### A placement by itself -/

/-- Whether a pass that is left with a placement ends in this way. -/
def Pass.Job.Placed.endsIn (placed : Placed) (outcome : Outcome) : Bool :=
  outcome = placed.outcome

/-- A pass that is left with bringing an image to some locations. -/
def Task.placing (job : Pass.Job) (url : String) (locations : List Location) : Task :=
  ⟨.pass job.record, do return (← job.place url locations).outcome, false⟩

/-- **A placement is what a pass comes to** that has a record with a valid address and a provider
that is known. -/
theorem Task.rest_placing {s : Pass.Setup} {key : String} {r : Record} {locations : List Location}
    (hurl : Artifact.addressFault? (s.source.artifact r.spec.image) = none)
    (hplaces : s.providers.get? r.spec.provider = some locations) :
    (Task.placing ⟨key, r.spec.provider, r.spec.image⟩ (s.source.artifact r.spec.image)
      locations).rest = Pass.place s key r := by
  simp only [Pass.place, hurl, hplaces]
  refine congrArg _ (funext fun placed => ?_)
  cases placed <;> rfl

/-- Nothing is begun but the task at work, and whenever it waits, errands other than passes may
land. All answers are admitted. -/
def Regime.attended : Regime :=
  { Regime.interleaved with errands := fun _ => false }

namespace Stage

variable {σ : Stage}

/-- Whether a placement for the record `key` has just said that the image is everywhere. -/
def placedEverywhere (σ : Stage) (key : String) : Bool :=
  match σ.past with
  | ⟨.ended (.pass n) (.ok outcome), _, _⟩ :: _ =>
    n == key && Pass.Job.Placed.everywhere.endsIn outcome
  | _ => false

/-- The record of a name is available. -/
abbrev Available (σ : Stage) (name : String) : Prop :=
  σ.InPhase name .available

/-- Every record is under its name. -/
def Named (σ : Stage) : Prop :=
  ∀ n r, σ.record? n = some r → r.name = n

/-- Whatever is stored is under its name. -/
theorem Named.put (h : σ.Named) (d : Deed) (r : Record) (t : Instant) :
    (σ.after d (σ.ledger.put r) t).Named := by
  intro n q hq
  rcases Ledger.of_get?_put rfl hq with ⟨rfl, rfl⟩ | ⟨-, hq⟩
  · rfl
  · exact h n q hq

end Stage

/-- Every record is under its name, and a placement that says that the image of a record is
everywhere leaves the record available. -/
def arrival (key : String) : Contract where
  idle σ := σ.placedEverywhere key → σ.Available key
  during _ := Stage.Named
  lull := Stage.Named
  may σ σ' := σ.Named → σ'.Named
  may_refl _ := id
  may_trans h h' := h' ∘ h

namespace Arrival

variable {key : String} {g : Regime} {e : Errand} {visitor : Bool} {s : Service}

/-! ### Visitors -/

theorem steady_named : Role.Steady ⟨arrival key, g, e, visitor⟩ Stage.Named where
  during _ h := h
  quiet _ _ _ h _ _ _ := h

theorem account_named : Account ⟨arrival key, g, e, visitor⟩ s Stage.Named Stage.Named where
  steady := steady_named
  steady' := steady_named
  named h hr := h _ _ hr
  create _ _ h _ _ := h.put _ _ _
  added _ h _ _ := h.put _ _ _
  present _ h _ _ := h
  dropped _ h _ _ _ := h.put _ _ _
  missing _ h _ := h

/-- **Visitors keep every record under its name.** -/
theorem named_of_not_isPass (hpass : e.isPass = false) :
    Role.Triple ⟨arrival key, g, e, visitor⟩ Stage.Named (e.program s) (fun _ => Stage.Named)
      Stage.Named :=
  account_named.dealings.triple_of_not_isPass hpass fun _ _ _ _ _ h _ _ => h.put _ _ _

theorem holds (key : String) (s : Service) : (arrival key).Holds .attended s where
  start _ _ h := by cases h
  errand _ _ _ he := by cases he
  visitor q v σ t hv h _ := by
    have hbegan : (σ.after (.began v) σ.ledger t).Named := h
    refine ⟨hbegan, ?_⟩
    refine ((named_of_not_isPass (Regime.isPass_of_interleaved (q := q) hv)) _ hbegan).mono ?_
    intro x σ' hx t' _
    have hleft : (σ'.after (.ended v x) σ'.ledger t').Named := by
      cases x <;> exact hx
    exact ⟨hleft, fun _ => hleft⟩

/-! ### Placements -/

variable {job : Pass.Job}

/-- The pass that a placement is done for. -/
abbrev role (job : Pass.Job) : Role :=
  ⟨arrival job.record, .attended, .pass job.record, false⟩

variable {E : Stage → Prop}

theorem steady_inPhase (phase : Phase) :
    (role job).Steady fun σ => σ.Named ∧ σ.InPhase job.record phase where
  during _ h := h.1
  quiet _ _ _ h _ _ _ := h

theorem triple_request {r : Request} (hr : r.waits) :
    (role job).Triple Stage.Named (Program.request r) (fun _ => Stage.Named) E :=
  Role.triple_wait hr rfl (fun _ _ h _ => h) (fun _ h => h) (fun _ _ h hm => hm h)
    (fun _ _ h => h) fun _ _ _ h _ _ => h

theorem triple_enter (phase : Phase) :
    (role job).Triple Stage.Named (Record.enter job.record phase)
      (fun _ σ => σ.Named ∧ σ.InPhase job.record phase) Stage.Named := by
  refine Role.triple_enter phase steady_named.still (steady_inPhase phase).still
    (fun _ r h hr => h _ r hr) (fun _ h _ => h) (fun σ r h hr hphase => ⟨h, r, hr, hphase⟩) ?_
  intro σ r h hr _ t _
  have hname : { r with phase := some phase }.name = job.record := h _ r hr
  exact (steady_inPhase phase).owes _ ⟨h.put _ _ _, .of_write hname rfl _ _⟩

/-- The image is at a location. -/
theorem triple_arrive (event : Event) (hevent : event.isChange = false) :
    (role job).Triple Stage.Named
      (do Record.enter job.record .available; Program.emit event)
      (fun _ σ => σ.Named ∧ σ.Available job.record) Stage.Named :=
  (triple_enter .available).bind fun _ => (steady_inPhase .available).still.emit event hevent

theorem triple_giveUp {α : Type} {f : Failure} {Q : α → Stage → Prop} :
    (role job).Triple Stage.Named (job.giveUp f) Q Stage.Named :=
  Role.triple_giveUp (fun _ h _ => h)
    ((triple_enter .error).weaken (fun _ h => h) (fun _ _ h => h.1) fun _ h => h)

theorem triple_isReachable {url : String} :
    (role job).Triple Stage.Named (Pass.Job.isReachable url) (fun _ => Stage.Named) Stage.Named :=
  Role.triple_isReachable (triple_request rfl) (fun _ _ h _ => h) fun _ _ h => h

theorem triple_fill {url location : String} :
    (role job).Triple Stage.Named (job.fill url location)
      (fun _ σ => σ.Named ∧ σ.Available job.record) Stage.Named := by
  refine (triple_enter .uploading).bind fun _ => ?_
  refine ((steady_inPhase .uploading).still.emit _ rfl).bind fun _ => ?_
  have hupload : (role job).Triple Stage.Named (job.upload location url) (fun _ => Stage.Named)
      Stage.Named := (triple_request rfl).bind fun _ => Role.Triple.done fun _ h => h
  refine Role.Triple.bind (hupload.weaken (fun _ h => h.1) (fun _ _ h => h) fun _ h => h)
    fun x => ?_
  rcases x with f | _
  · exact triple_giveUp
  · exact triple_arrive _ rfl

theorem triple_placeAt {url location : String} :
    (role job).Triple Stage.Named (job.placeAt url location)
      (fun _ σ => σ.Named ∧ σ.Available job.record) Stage.Named := by
  have hlookUp : (role job).Triple Stage.Named (job.lookUp location) (fun _ => Stage.Named)
      Stage.Named := (triple_request rfl).bind fun _ => Role.Triple.done fun _ h => h
  refine hlookUp.bind fun x => ?_
  rcases x with f | _ | _
  · exact triple_giveUp
  · exact triple_fill
  · exact triple_arrive _ rfl

/-- **A placement that says that the image is everywhere leaves the record available**, if it was so
before in case that there is no location. -/
theorem triple_place (url : String) (locations : List Location) :
    (role job).Triple (fun σ => σ.Named ∧ (locations = [] → σ.Available job.record))
      (job.place url locations)
      (fun placed σ => σ.Named ∧ (placed = .everywhere → σ.Available job.record))
      Stage.Named := by
  induction locations with
  | nil => exact Role.Triple.done fun _ h => ⟨h.1, fun _ => h.2 rfl⟩
  | cons location rest ih =>
    -- There is a location to come, so nothing is asked of the record.
    refine Role.Triple.weaken (O := Stage.Named) ?_ (fun _ h => h.1) (fun _ _ h => h) fun _ h => h
    refine triple_isReachable.bind fun reachable => ?_
    cases reachable with
    | true =>
      refine triple_placeAt.bind fun _ => ?_
      -- The record is available now, which is what the rest may ask for if this was the last one.
      exact ih.weaken (fun _ h => ⟨h.1, fun _ => h.2⟩) (fun _ _ h => h) fun _ h => h
    | false =>
      refine (triple_enter .missing).bind fun _ => ?_
      exact ((steady_inPhase .missing).still.emit _ rfl).bind fun _ =>
        Role.Triple.done fun _ h => ⟨h.1, nofun⟩

end Arrival

/-! ### Runs -/

theorem Pass.Job.Placed.outcome_eq_everywhere {placed : Pass.Job.Placed}
    (h : placed.outcome = everywhere.outcome) : placed = .everywhere := by
  cases placed with
  | everywhere => rfl
  | sourceMissing => exact absurd h (by decide)

theorem Stage.placedEverywhere_ended {σ : Stage} {key : String}
    {x : Except Failure Pass.Outcome} {l : Ledger} {t : Instant}
    (h : (σ.after (.ended (.pass key) x) l t).placedEverywhere key) :
    x = .ok Pass.Job.Placed.everywhere.outcome := by
  cases x with
  | ok outcome =>
    have houtcome : outcome = Pass.Job.Placed.everywhere.outcome := by
      simpa [placedEverywhere, after, Pass.Job.Placed.endsIn] using h
    rw [houtcome]
  | error f => cases h

variable {s : Service} {σ σ' : Stage} {job : Pass.Job} {url : String} {locations : List Location}

/-- A placement at some location. -/
theorem Scene.Runs.available (hne : locations ≠ []) (hnamed : σ.Named)
    (h : Scene.Runs s .attended ⟨σ, [.placing job url locations]⟩ ⟨σ', []⟩)
    (hend : σ'.placedEverywhere job.record) : σ'.Available job.record := by
  have hmeets : (Arrival.role job).Meets (Task.placing job url locations).rest
      ((arrival job.record).AtEnd .attended (.pass job.record)) σ := by
    have hprogram : (Arrival.role job).Triple
        (fun σ => σ.Named ∧ (locations = [] → σ.Available job.record))
        (Task.placing job url locations).rest
        (fun outcome σ => outcome = Pass.Job.Placed.everywhere.outcome → σ.Available job.record)
        Stage.Named :=
      (Arrival.triple_place url locations).bind fun placed =>
        Role.Triple.done fun _ h ho => h.2 (Pass.Job.Placed.outcome_eq_everywhere ho)
    refine (hprogram σ ⟨hnamed, fun hnil => absurd hnil hne⟩).mono ?_
    intro x σ₁ hx t _ hsaid
    obtain rfl := Stage.placedEverywhere_ended hsaid
    exact hx rfl
  have hkept : (arrival job.record).Kept .attended ⟨σ, [.placing job url locations]⟩ :=
    .atWork hnamed hmeets
  cases hkept.runs (Arrival.holds job.record s) h with
  | idle hidle => exact hidle hend

/-- A placement at no location. -/
theorem Scene.Runs.ledger_eq (h : Scene.Runs s .attended ⟨σ, [.placing job url []]⟩ ⟨σ', []⟩) :
    σ'.ledger = σ.ledger := by
  obtain heq | ⟨c, hstep, hrest⟩ := Relation.ReflTransGen.cases_head h
  · cases heq
  cases hstep with
  | finish _ =>
    obtain heq | ⟨c, hstep, -⟩ := Relation.ReflTransGen.cases_head hrest
    · cases heq
      rfl
    · cases hstep with
      | begin he _ => cases he

theorem Provider.Settings.eq_of_locations_eq_nil {p : Provider.Settings} {tag : String}
    (h : (p.provider tag).locations = []) : p = ⟨.catalog, []⟩ := by
  obtain ⟨kind, locations⟩ := p
  cases kind with
  | catalog => exact congrArg _ h
  | idle => cases locations <;> cases h

/-- **What holds when a placement says that the image is everywhere.** The record is available,
unless the provider has catalogs but no location; then the records are as they were. -/
theorem placed_everywhere (s : Service) {σ σ' : Stage} {job : Pass.Job} {url tag : String}
    {p : Provider.Settings} (hnamed : σ.Named)
    (h : Scene.Runs s .attended ⟨σ, [.placing job url (p.provider tag).locations]⟩ ⟨σ', []⟩)
    (hend : σ'.placedEverywhere job.record) :
    σ'.Available job.record ∨ p = ⟨.catalog, []⟩ ∧ σ'.ledger = σ.ledger := by
  by_cases hne : (p.provider tag).locations = []
  · refine .inr ⟨Provider.Settings.eq_of_locations_eq_nil hne, ?_⟩
    rw [hne] at h
    exact h.ledger_eq
  · exact .inl (h.available hne hnamed hend)

/-! ### A small cast -/

/-- The record of an image that a cluster needs. -/
def Record.awaited : Record :=
  ((Record.new "flatcar" ⟨"flatcar", "capv"⟩ .epoch).addConsumer "cluster").revive

/-- A pass over that record has begun. -/
def Stage.awaiting : Stage :=
  (Stage.start .epoch).after (.began (.pass "flatcar")) (Ledger.empty.put .awaited) .epoch

theorem Stage.named_awaiting : Stage.awaiting.Named := by
  have hstart : (Stage.start .epoch).Named := fun _ _ hr => by cases hr
  exact hstart.put _ _ _

/-- The work that the record is waiting for. -/
def Pass.Job.awaited : Pass.Job := ⟨"flatcar", "capv", "flatcar"⟩

/-- Settings with a provider of two locations. -/
def Provider.Settings.ofTwo : Provider.Settings :=
  ⟨.catalog, [.named "dc1", .named "dc2"]⟩

/-- The pass has to bring the image to the locations of a provider with these settings. -/
def Scene.awaiting (p : Provider.Settings) : Scene :=
  ⟨.awaiting, [.placing .awaited "https://images" (p.provider "capv").locations]⟩

/-- Two locations are filled, while the cluster changes its mind twice. -/
theorem Scene.exists_placed_everywhere :
    ∃ σ', (awaiting .ofTwo).Runs (Performance.smallService .zero) .attended ⟨σ', []⟩ ∧
      σ'.placedEverywhere "flatcar" := by
  let found (c : Scene) : Bool := c.tasks.isEmpty && c.stage.placedEverywhere "flatcar"
  let work := Task.placing .awaited "https://images"
    (Provider.Settings.ofTwo.provider "capv").locations
  obtain ⟨⟨σ', tasks⟩, hruns, hfound⟩ := Performance.exists_runs_of_task
    (s := Performance.smallService .zero) (g := .attended) (fun _ _ _ => trivial) (q := work.rest)
    (w := { (Performance.opening .epoch).world with store := .ledger Stage.awaiting.ledger })
    rfl rfl rfl
    [.resume, .visit (.consumerRemoved "cluster" "flatcar"), .resume, .resume, .resume,
      .visit (.consumerAdded "cluster" "flatcar" "capv"), .resume, .resume]
    found (by decide +kernel)
  simp only [found, Bool.and_eq_true, List.isEmpty_iff] at hfound
  obtain ⟨rfl, hend⟩ := hfound
  exact ⟨σ', hruns, hend⟩

/-- The record is available in the end. -/
theorem placed_everywhere_of_two :
    ∃ σ', Stage.awaiting.Named ∧
      (Scene.awaiting .ofTwo).Runs (Performance.smallService .zero) .attended ⟨σ', []⟩ ∧
      σ'.placedEverywhere "flatcar" ∧ σ'.Available "flatcar" := by
  obtain ⟨σ', hruns, hend⟩ := Scene.exists_placed_everywhere
  refine ⟨σ', Stage.named_awaiting, hruns, hend, ?_⟩
  have hplaced := placed_everywhere (Performance.smallService .zero) Stage.named_awaiting hruns hend
  rcases hplaced with havailable | ⟨hbare, -⟩
  · exact havailable
  · cases hbare

/-- Settings with a provider of no location. -/
def Config.bare : Config where
  period := .zero
  storeRoot := none
  channel := defaultChannel
  bucket := "images"
  region := "eu-west-1"
  probeTimeout := .ofSeconds 30
  providers := .ofList [("capv", ⟨.catalog, []⟩)]

/-- So it is not true that a record is available whenever a placement says that its image is
everywhere. -/
theorem not_available_of_placed_nowhere :
    ¬ ∀ (c : Config) (tag : String) (p : Provider.Settings) (σ σ' : Stage) (job : Pass.Job)
      (url : String), c.fault? = none → c.providers.get? tag = some p → σ.Named →
      Scene.Runs c.service .attended ⟨σ, [.placing job url (p.provider tag).locations]⟩ ⟨σ', []⟩ →
      σ'.placedEverywhere job.record → σ'.Available job.record := by
  intro h
  have hruns : (Scene.awaiting ⟨.catalog, []⟩).Runs Config.bare.service .attended
      ⟨Stage.awaiting.after (.ended (.pass "flatcar") (.ok Pass.Job.Placed.everywhere.outcome))
        Stage.awaiting.ledger .epoch, []⟩ :=
    (Scene.Runs.refl _).step (.finish rfl)
  obtain ⟨r, hr, hphase⟩ := h .bare "capv" ⟨.catalog, []⟩ _ _ _ _ (by decide) (by decide)
    Stage.named_awaiting hruns (by decide)
  obtain rfl : Record.awaited = r := Option.some.inj hr
  cases hphase

end ImageCatalog
