import ImageCatalog.Proofs.Rehearsal.Yields

/-!
# A pass comes to its goal

A pass in a rehearsal ends with the result and the sight that `Pass.goal` tells beforehand, or it is
cut short by an interruption; then the sight that it leaves has the same goal. The pass is walked
through once, in the order of the program, for both.

Whatever a pass has done before it is cut short is a step on the way. So the invariants of its parts
are that the removal, or the placement, still comes to the same.

## Main definitions

* `Rehearsal.Placing`, `Rehearsal.Leaving` — the invariants of a placement and of a removal

## Main results

* `Rehearsal.Shows.yields_placeAll`, `Rehearsal.Shows.yields_clear` — the two loops over locations
* `Rehearsal.Shows.yields_run` — a pass comes to its goal
-/

namespace ImageCatalog

namespace Rehearsal

variable {α : Type} {h : Rehearsal} {cut : Bool} {k : Terms} {x : Sight} {key : String} {r : Record}

/-! ### Placements -/

section

open Pass (placesGoal)

variable {I : Sight → Prop} {location url : String} {places : List String}

/-- What a placement keeps, whichever step it takes next. -/
structure Placing (k : Terms) (key : String) (spec : Spec) (places : List String)
    (I : Sight → Prop) : Prop where
  enter : ∀ {x r} (phase : Phase), phase ≠ .awaitingDeletion → I x → x.records key = some r →
    I (x.put key (some { r with phase := some phase }))
  bring : ∀ {x l}, I x → k.reachable → k.tooSlow spec.provider = false → l ∈ places →
    I (x.bring spec [l])

theorem Shows.yields_isReachable (hs : h.Shows cut k x) (hx : I x) (url : String) :
    h.Yields cut k I (Pass.Job.isReachable url) (.ok k.reachable, x) := by
  obtain ⟨l, hb⟩ := hs
  obtain ⟨a, h', ha, hb', hcases⟩ := hb.probe url
  refine .after (run_request ha) ?_
  rcases hcases with rfl | ⟨hcut, e, rfl, he⟩
  · exact .done ⟨l, hb'⟩
  · simp only [he, if_true]
    exact .cutShort hcut hx ⟨l, hb'⟩

/-- A pass gives up after an interruption. -/
theorem Shows.yields_giveUp (hs : h.Shows cut k x) (hcut : cut = true) (hx : I x) {e : Failure}
    (he : e.isCancelled) (job : Pass.Job) {G : Except Failure α × Sight} :
    h.Yields cut k I (job.giveUp e) G := by
  rw [Pass.Job.giveUp, if_pos he]
  exact .cutShort hcut hx hs

/-- A location that lacks the image gets it. -/
theorem Shows.yields_fill (hs : h.Shows cut k x) (hr : x.records key = some r) (hx : I x)
    (hI : Placing k key r.spec places I) (hreach : k.reachable)
    (hlacks : x.held r.spec.provider location r.spec.image = false) :
    h.Yields cut k I (Pass.Job.fill ⟨key, r.spec.provider, r.spec.image⟩ url location)
      ((placesGoal k key r x [location]).map (·.map fun _ => ()) id) := by
  obtain ⟨h₁, henter, hs₁⟩ := hs.enter hr .uploading
  obtain ⟨h₂, hemit, l, hb₂⟩ := hs₁.emit (.uploadStarted key location url)
  obtain ⟨a, h₃, ha, hcases⟩ := hb₂.upload
    (Pass.Job.call ⟨key, r.spec.provider, r.spec.image⟩ location Pass.uploadLimit) url rfl hlacks
  have hupload : h₂.run (Pass.Job.upload ⟨key, r.spec.provider, r.spec.image⟩ location url) =
      (.ok (Program.settle (Pass.Job.describe ⟨key, r.spec.provider, r.spec.image⟩ "create"
        location) Pass.uploadLimit a), h₃) := run_bind_ok (run_request ha) _
  refine .after henter (.after hemit (.after hupload ?_))
  rcases hcases with ⟨hfast, rfl, hb₃⟩ | ⟨hslow, rfl, hb₃⟩ | ⟨hcut, hstop, hb₃⟩
  · have hrecord : ((x.put key (some { r with phase := some .uploading })).bring
        ⟨r.spec.image, r.spec.provider⟩ [location]).records key =
          some { r with phase := some .uploading } := Sight.records_put ..
    obtain ⟨h₄, henter', hs₄⟩ := Shows.enter ⟨l, hb₃⟩ hrecord .available
    obtain ⟨h₅, hemit', hs₅⟩ := hs₄.emit (.uploadCompleted key location)
    rw [Pass.placesGoal_of_reachable key (List.cons_ne_nil _ _) hreach (.inl hfast)]
    rw [Sight.bring_put, Sight.put_put] at hs₅
    exact .after henter' (.of_run hemit' hs₅)
  · obtain ⟨h₄, henter', hs₄⟩ := Shows.enter ⟨l, hb₃⟩ (Sight.records_put ..) .error
    have hfirst : x.lacking? r.spec [location] = some location := by
      simp [Sight.lacking?, hlacks]
    rw [Pass.placesGoal_of_tooSlow key hreach hslow hfirst]
    rw [Sight.put_put] at hs₄
    exact .after henter' (.fail hs₄)
  · obtain ⟨e, he, hcancelled⟩ := hstop.settle (Pass.Job.describe ⟨key, r.spec.provider,
      r.spec.image⟩ "create" location) Pass.uploadLimit
    rw [he]
    exact Shows.yields_giveUp ⟨l, hb₃⟩ hcut (hI.enter _ (by decide) hx hr) hcancelled _

/-- **One location** gets the image, if it lacks it. -/
theorem Shows.yields_placeAt (hs : h.Shows cut k x) (hr : x.records key = some r) (hx : I x)
    (hI : Placing k key r.spec places I) (hreach : k.reachable) (url location : String) :
    h.Yields cut k I (Pass.Job.placeAt ⟨key, r.spec.provider, r.spec.image⟩ url location)
      ((placesGoal k key r x [location]).map (·.map fun _ => ()) id) := by
  obtain ⟨l, hb⟩ := hs
  obtain ⟨a, h₁, ha, hb₁, hcases⟩ := hb.lookUp
    (Pass.Job.call ⟨key, r.spec.provider, r.spec.image⟩ location Pass.callLimit)
  have hlookUp : h.run (Pass.Job.lookUp ⟨key, r.spec.provider, r.spec.image⟩ location) =
      (.ok (Program.settle (Pass.Job.describe ⟨key, r.spec.provider, r.spec.image⟩ "exists"
        location) Pass.callLimit a), h₁) := run_bind_ok (run_request ha) _
  refine .after hlookUp ?_
  rcases hcases with rfl | ⟨hcut, hstop⟩
  · cases hheld : x.held r.spec.provider location r.spec.image with
    | false =>
      simp only [Program.settle, Pass.Job.call, hheld]
      exact Shows.yields_fill ⟨l, hb₁⟩ hr hx hI hreach hheld
    | true =>
      have hevery : ∀ p ∈ [location], x.held r.spec.provider p r.spec.image := by
        simpa using hheld
      obtain ⟨h₂, henter, hs₂⟩ := Shows.enter ⟨l, hb₁⟩ hr .available
      obtain ⟨h₃, hemit, hs₃⟩ := hs₂.emit (.alreadyPresent key location)
      simp only [Program.settle, Pass.Job.call, hheld]
      rw [Pass.placesGoal_of_reachable key (List.cons_ne_nil _ _) hreach
        (.inr (Sight.lacking?_eq_none.mpr hevery)), Sight.bring_put, Sight.bring_of_held hevery]
      exact .after henter (.of_run hemit hs₃)
  · obtain ⟨e, he, hcancelled⟩ := hstop.settle (Pass.Job.describe ⟨key, r.spec.provider,
      r.spec.image⟩ "exists" location) Pass.callLimit
    rw [he]
    exact Shows.yields_giveUp ⟨l, hb₁⟩ hcut hx hcancelled _

/-- **All locations** get the image, one after the other. -/
theorem Shows.yields_placeAll (hs : h.Shows cut k x) (hr : x.records key = some r) (hx : I x)
    (hI : Placing k key r.spec places I) (url : String) {locations : List Location}
    (hsub : ∀ l ∈ locations, l.name ∈ places) :
    h.Yields cut k I (Pass.Job.place ⟨key, r.spec.provider, r.spec.image⟩ url locations)
      (placesGoal k key r x (locations.map Location.name)) := by
  induction locations generalizing h x r with
  | nil =>
    rw [Pass.Job.place, List.map_nil]
    have hself : placesGoal k key r x [] = (.ok .everywhere, x) := by
      rw [placesGoal, List.isEmpty_nil, if_pos rfl, Sight.put_self hr]
    rw [hself]
    exact .done hs
  | cons location rest ih =>
    rw [Pass.Job.place, List.map_cons]
    refine (hs.yields_isReachable hx url).bind fun h₁ hs₁ => ?_
    cases hreach : k.reachable with
    | false =>
      obtain ⟨h₂, henter, hs₂⟩ := hs₁.enter hr .missing
      obtain ⟨h₃, hemit, hs₃⟩ := hs₂.emit (.sourceMissing key url)
      rw [Pass.placesGoal_of_not_reachable key r x (List.cons_ne_nil _ _) hreach]
      exact .after henter (.after hemit (.done hs₃))
    | true =>
      have hat := hs₁.yields_placeAt hr hx hI hreach url location.name
      have hentered := hI.enter .available (by decide) hx hr
      rw [Pass.placesGoal_cons hreach]
      by_cases hfast : k.tooSlow r.spec.provider = false ∨
          x.lacking? r.spec [location.name] = none
      · have hnext : I ((x.put key (some { r with phase := some .available })).bring r.spec
            [location.name]) := by
          rcases hfast with hfast | hheld
          · exact hI.bring hentered hreach hfast (hsub location List.mem_cons_self)
          · rw [Sight.bring_put, Sight.bring_of_held (Sight.lacking?_eq_none.mp hheld)]
            exact hentered
        rw [Pass.placesGoal_of_reachable key (List.cons_ne_nil _ _) hreach hfast] at hat ⊢
        refine hat.bind fun h₂ hs₂ => ?_
        exact ih hs₂ (Sight.records_put ..) hnext hI fun m hm => hsub m (List.mem_cons_of_mem _ hm)
      · obtain ⟨hslow, hlacks⟩ := not_or.mp hfast
        obtain ⟨lacking, hlacks⟩ := Option.ne_none_iff_exists'.mp hlacks
        rw [Pass.placesGoal_of_tooSlow key hreach (by simpa using hslow) hlacks] at hat ⊢
        exact hat.bind_error

variable {s : Pass.Setup}

/-- What is left of a placement at any of its steps is the same placement. -/
theorem placing_placesGoal (cut : Bool) (r : Record) (P : Except Failure Pass.Job.Placed × Sight) :
    Placing k key r.spec places fun x' => cut = true →
      (∃ phase, phase ≠ some .awaitingDeletion ∧
        x'.records key = some { r with phase := phase }) ∧ placesGoal k key r x' places = P where
  enter := by
    intro x r' phase hne hx hr' hcut
    obtain ⟨⟨_, -, hr⟩, hP⟩ := hx hcut
    obtain rfl := Option.some.inj (hr'.symm.trans hr)
    refine ⟨⟨some phase, fun h => hne (Option.some.inj h), Sight.records_put ..⟩, ?_⟩
    rw [Pass.placesGoal_put, hP]
  bring := by
    intro x l hx hreach hfast hl hcut
    obtain ⟨hr, hP⟩ := hx hcut
    exact ⟨hr, by rw [Pass.placesGoal_bring hreach hfast hl, hP]⟩

/-- The locations of a provider get the image, or a pass has the same goal afterwards. -/
theorem Shows.yields_places (hs : h.Shows cut k x) (hr : x.records key = some r)
    (hneeded : cut = true →
      r.deletion = none ∧ r.isReferenced ∧ r.phase ≠ some .awaitingDeletion)
    (hurl : Artifact.addressFault? (s.source.artifact r.spec.image) = none)
    {locations : List Location} (hne : locations ≠ [])
    (hplaces : s.places? r.spec.provider = some (locations.map Location.name)) :
    h.Yields cut k (fun x' => Pass.goal s k key x' = Pass.placingGoal s k key r x)
      (Pass.Job.place ⟨key, r.spec.provider, r.spec.image⟩ (s.source.artifact r.spec.image)
        locations)
      (placesGoal k key r x (locations.map Location.name)) := by
  have hall := hs.yields_placeAll hr (fun hcut => ⟨⟨r.phase, (hneeded hcut).2.2, hr⟩, rfl⟩)
    (placing_placesGoal cut r (placesGoal k key r x (locations.map Location.name)))
    (s.source.artifact r.spec.image) fun l hl => List.mem_map_of_mem hl
  refine hall.mono fun hcut x' hx' => ?_
  obtain ⟨⟨phase, hphase, hr'⟩, hsame⟩ := hx' hcut
  obtain ⟨hdeletion, href, -⟩ := hneeded hcut
  have hsome : s.places? r.spec.provider ≠ some [] := by
    rw [hplaces]
    simpa using hne
  rw [Pass.goal_of_referenced hr' hdeletion href hphase, Pass.placingGoal_enter phase hsome,
    Pass.placingGoal_of_places hurl hplaces, Pass.placingGoal_of_places hurl hplaces, hsame]

/-- **A placement comes to its goal**, for a record that the pass has read before. -/
theorem Shows.yields_place (hs : h.Shows cut k x) (hr : x.records key = some r) {q : Record}
    (hq : q.spec = r.spec)
    (hneeded : cut = true →
      r.deletion = none ∧ r.isReferenced ∧ r.phase ≠ some .awaitingDeletion) :
    h.Yields cut k (fun x' => Pass.goal s k key x' = Pass.placingGoal s k key r x)
      (Pass.place s key q) (Pass.placingGoal s k key r x) := by
  rw [Pass.place, hq]
  cases hurl : Artifact.addressFault? (s.source.artifact r.spec.image) with
  | some fault =>
    obtain ⟨h₁, henter, hs₁⟩ := hs.enter hr .error
    have hgoal : Pass.placingGoal s k key r x =
        (.error (.invalidSourceUrl (s.source.artifact r.spec.image) fault.message),
          x.put key (some { r with phase := some .error })) := by
      simp only [Pass.placingGoal, hurl]
    rw [hgoal]
    exact .after (h.run_log _) (.after henter (.fail hs₁))
  | none =>
    cases hget : s.providers.get? r.spec.provider with
    | none =>
      obtain ⟨h₁, henter, hs₁⟩ := hs.enter hr .error
      obtain ⟨h₂, hemit, hs₂⟩ := hs₁.emit (.providerNotConfigured q.name r.spec.provider)
      have hgoal : Pass.placingGoal s k key r x =
          (.ok (.after Pass.requeueInterval),
            x.put key (some { r with phase := some .error })) := by
        simp only [Pass.placingGoal, Pass.Setup.places?, hurl, hget]
        rfl
      rw [hgoal]
      exact .after henter (.after hemit (.done hs₂))
    | some locations =>
      have hplaces : s.places? r.spec.provider = some (locations.map Location.name) := by
        rw [Pass.Setup.places?, hget]
        rfl
      have hgoal : Pass.placingGoal s k key r x =
          (placesGoal k key r x (locations.map Location.name)).map
            (·.map Pass.Job.Placed.outcome) id :=
        Pass.placingGoal_of_places hurl hplaces
      by_cases hne : locations = []
      · subst hne
        rw [hgoal, List.map_nil, placesGoal, List.isEmpty_nil, if_pos rfl, Sight.put_self hr]
        exact .done hs
      · have hall := hs.yields_places hr hneeded hurl hne hplaces
        rw [hgoal] at hall ⊢
        generalize placesGoal k key r x (locations.map Location.name) = P at hall ⊢
        obtain ⟨result, x'⟩ := P
        cases result with
        | ok placed =>
          refine hall.bind fun h' hs' => ?_
          cases placed <;> exact .done hs'
        | error e => exact hall.bind_error

end

/-! ### Removals -/

section

variable {I : Sight → Prop} {s : Pass.Setup} {spec : Spec} {locations : List Location}

/-- **All locations** lose the image, one after the other. -/
theorem Shows.yields_clear (hs : h.Shows cut k x) (hr : x.records key = some r)
    (hphase : r.phase = some .deleting) (hx : I x)
    (hI : ∀ x, ∀ l ∈ locations, I x → I (x.take k spec [l.name])) :
    h.Yields cut k I (Pass.Job.clear ⟨key, spec.provider, spec.image⟩ locations)
      (.ok [], x.take k spec (locations.map Location.name)) := by
  induction locations generalizing h x with
  | nil =>
    rw [List.map_nil, Sight.take_of_not_held fun l hl => by cases hl]
    exact .done hs
  | cons location rest ih =>
    obtain ⟨h₁, henter, hs₁⟩ := hs.enter hr .deleting
    have hself : ({ r with phase := some .deleting } : Record) = r := by rw [← hphase]
    rw [hself, Sight.put_self hr] at hs₁
    obtain ⟨l, hb₁⟩ := hs₁
    obtain ⟨a, h₂, ha, hcases⟩ := hb₁.withdraw
      (Pass.Job.call ⟨key, spec.provider, spec.image⟩ location.name Pass.callLimit)
    have hwithdraw : h₁.run (Pass.Job.withdraw ⟨key, spec.provider, spec.image⟩ location.name) =
        (.ok (Program.settle (Pass.Job.describe ⟨key, spec.provider, spec.image⟩ "delete"
          location.name) Pass.callLimit a), h₂) := run_bind_ok (run_request ha) _
    rw [Pass.Job.clear, List.map_cons, Sight.take_cons]
    refine .after henter (.after hwithdraw ?_)
    rcases hcases with ⟨rfl, hb₂⟩ | ⟨hcut, hstop, hb₂⟩
    · exact ih ⟨l, hb₂⟩ hr (hI _ location List.mem_cons_self hx)
        fun x m hm => hI x m (List.mem_cons_of_mem _ hm)
    · obtain ⟨e, he, hcancelled⟩ := hstop.settle (Pass.Job.describe ⟨key, spec.provider,
        spec.image⟩ "delete" location.name) Pass.callLimit
      rw [he]
      simp only [hcancelled, if_true]
      exact .cutShort hcut hx ⟨l, hb₂⟩

/-- The catalogs are cleared, unless passes do not know the provider. -/
theorem Shows.yields_clearCatalogs (hs : h.Shows cut k x) (hr : x.records key = some r)
    (hphase : r.phase = some .deleting) {q : Record} (hx : I x)
    (hI : ∀ x places l, s.places? q.spec.provider = some places → l ∈ places → I x →
      I (x.take k q.spec [l])) :
    h.Yields cut k I (Pass.clearCatalogs s key q)
      (.ok (), match s.places? q.spec.provider with
        | some places => x.take k q.spec places
        | none => x) := by
  rw [Pass.clearCatalogs, Pass.Setup.places?]
  cases hget : s.providers.get? q.spec.provider with
  | none =>
    obtain ⟨h₁, hemit, hs₁⟩ := hs.emit (.providerNotConfigured q.name q.spec.provider)
    exact .after (h.run_log _) (.of_run hemit hs₁)
  | some locations =>
    refine (hs.yields_clear hr hphase hx fun x l hl hx' => ?_).bind fun h' hs' => .done hs'
    refine hI x (locations.map Location.name) l.name ?_ (List.mem_map_of_mem hl) hx'
    rw [Pass.Setup.places?, hget]
    rfl

/-- The removal starts. -/
theorem Shows.startRemoval (hs : h.Shows cut k x) (hr : x.records key = some r) :
    ∃ r', ∃ h' : Rehearsal, h.run (Pass.startRemoval key) = (.ok (), h') ∧
      h'.Shows cut k (x.put key (some r')) ∧ r'.phase = some .deleting ∧ r'.spec = r.spec ∧
      r'.deletion = r.deletion ∧ r'.consumers = r.consumers := by
  have hblind : Edit.Blind (fun r => r.hasStamp || r.phase != some .deleting) fun r =>
      { r.clearLastUsed with phase := some .deleting } :=
    ⟨fun _ => rfl, fun _ => rfl, fun _ => rfl, fun _ => rfl⟩
  obtain ⟨v, h₁, hrevise, -, -, -, hs₁⟩ := hs.revise hr hblind
  obtain ⟨h₂, hemit, hs₂⟩ := hs₁.emitIf (v.before.phase != some .deleting)
    (.stateChanged key v.before.phase .deleting)
  refine ⟨_, h₂, (run_bind_ok hrevise _).trans hemit, hs₂, ?_⟩
  split
  · exact ⟨rfl, rfl, rfl, rfl⟩
  · rename_i hn
    have hphase : r.hasStamp = false ∧ r.phase = some .deleting := by simpa using hn
    exact ⟨hphase.2, rfl, rfl, rfl⟩

/-- The record goes, once its image is gone. -/
theorem Shows.yields_takeAway (hs : h.Shows cut k x) (hr : x.records key = some r)
    (hfree : r.isReferenced = false) {q : Record} (hname : q.name = key) :
    h.Yields cut k I (do
      let revision ← Record.revise key
        (.when (fun r => !r.isReferenced && r.phase != some .deleted)
          fun r => { r with phase := some .deleted })
      let consumers := revision.before.consumers.length
      if 0 < consumers then
        Program.emit (.deletionBlocked q.name consumers)
        return .after .zero
      else
        let previous := revision.before.phase
        Program.emitIf (previous != some .deleted) (.stateChanged q.name previous .deleted)
        let _ ← Program.removeRecord q.name (some revision.after.version)
        Program.emit (.removed q.name)
        return Pass.Outcome.finished)
      (.ok .finished, x.put key none) := by
  subst hname
  have hblind : Edit.Blind (fun r => !r.isReferenced && r.phase != some .deleted) fun r =>
      { r with phase := some .deleted } :=
    ⟨fun _ => rfl, fun _ => rfl, fun _ => rfl, fun _ => rfl⟩
  obtain ⟨l, hb⟩ := hs
  rw [hb.world.records] at hr
  obtain ⟨p, hp, rfl⟩ := Option.map_eq_some_iff.mp hr
  have hnil : ¬ 0 < p.consumers.length := by
    have hnil : p.consumers = [] := Record.consumers_eq_nil hfree
    simp [hnil]
  obtain ⟨p', l', h₁, hrevise, hp', -, hb₁⟩ := hb.revise hp hblind
  obtain ⟨h₂, hemit, hb₂⟩ := hb₁.run_emitIf (p.phase != some .deleted)
    (.stateChanged q.name p.phase .deleted)
  obtain ⟨h₃, hremove, hb₃⟩ := hb₂.remove hp'
  obtain ⟨h₄, hemit', hb₄⟩ := hb₃.run_emit (.removed q.name)
  rw [Sight.put_put] at hb₄
  refine .after hrevise ?_
  simp only [hnil, if_false]
  exact .after hemit (.after (run_ask_of_answer hremove) (.after hemit' (.done ⟨_, hb₄⟩)))

/-- What is left of a removal at any of its steps is the same removal. -/
structure Leaving (s : Pass.Setup) (k : Terms) (key : String) (spec : Spec)
    (P : Except Failure Pass.Outcome × Sight) (x : Sight) : Prop where
  due : ∃ r, x.records key = some r ∧ r.spec = spec ∧ r.isDeletionRequested ∧
    r.isReferenced = false
  same : Pass.removalGoal s k key spec x = P

theorem Leaving.goal {P : Except Failure Pass.Outcome × Sight} (hx : Leaving s k key spec P x) :
    Pass.goal s k key x = P := by
  obtain ⟨r, hr, rfl, hreq, hfree⟩ := hx.due
  rw [Pass.goal_of_due hr hreq hfree, hx.same]

theorem Leaving.take {P : Except Failure Pass.Outcome × Sight} (hx : Leaving s k key spec P x)
    {places : List String} (hs : s.places? spec.provider = some places) {location : String}
    (hl : location ∈ places) : Leaving s k key spec P (x.take k spec [location]) :=
  ⟨hx.due, by rw [Pass.removalGoal_take hs hl, hx.same]⟩

/-- **A removal comes to its goal**, for a record that the pass has read before. -/
theorem Shows.yields_remove (hs : h.Shows cut k x) (hr : x.records key = some r)
    (hreq : r.isDeletionRequested) (hfree : r.isReferenced = false) {q : Record}
    (hq : q.spec = r.spec) (hname : q.name = key) :
    h.Yields cut k (fun x' => Pass.goal s k key x' = Pass.removalGoal s k key r.spec x)
      (Pass.remove s key q) (Pass.removalGoal s k key r.spec x) := by
  obtain ⟨r₁, h₁, hstart, hs₁, hphase, hspec, hdeletion, hconsumers⟩ := hs.startRemoval hr
  have hfree₁ : r₁.isReferenced = false := by
    rw [Record.isReferenced, hconsumers]
    exact hfree
  have hleaving : Leaving s k key q.spec (Pass.removalGoal s k key r.spec x)
      (x.put key (some r₁)) := by
    refine ⟨⟨r₁, Sight.records_put .., hspec.trans hq.symm, ?_, hfree₁⟩, ?_⟩
    · rw [Record.isDeletionRequested, hdeletion]
      exact hreq
    · rw [Pass.removalGoal_put, hq]
  have hclear := (hs₁.yields_clearCatalogs (Sight.records_put ..) hphase hleaving
    fun x' places l hplaces hl hx' => hx'.take hplaces hl).mono fun _ x' hx' => hx'.goal
  rw [Pass.remove]
  refine .after hstart (hclear.bind fun h₂ hs₂ => ?_)
  have hgoal : Pass.removalGoal s k key r.spec x = (.ok .finished,
      (match s.places? q.spec.provider with
        | some places => (x.put key (some r₁)).take k q.spec places
        | none => x.put key (some r₁)).put key none) := by
    rw [← hleaving.same]
    rfl
  have hr₂ : (match s.places? q.spec.provider with
      | some places => (x.put key (some r₁)).take k q.spec places
      | none => x.put key (some r₁)).records key = some r₁ := by
    split <;> exact Sight.records_put ..
  rw [hgoal]
  generalize (match s.places? q.spec.provider with
      | some places => (x.put key (some r₁)).take k q.spec places
      | none => x.put key (some r₁)) = x₂ at hs₂ hr₂
  exact hs₂.yields_takeAway hr₂ hfree₁ hname

end

/-! ### Passes -/

section

variable {s : Pass.Setup} {q : Record}

/-- A deletion request that stands in the way is dropped. -/
theorem Shows.dropDeletionRequest (hs : h.Shows cut k x) (hr : x.records key = some q.unversioned) :
    ∃ q', ∃ h' : Rehearsal, h.run (Pass.dropDeletionRequest key q) = (.ok q', h') ∧
      q'.unversioned = { q.unversioned with deletion := none } ∧
      h'.Shows cut k (x.put key (some q'.unversioned)) := by
  rw [Pass.dropDeletionRequest]
  by_cases hreq : q.isDeletionRequested
  · have hblind : Edit.Blind (fun r => r.isDeletionRequested) fun r =>
        { r with deletion := none } :=
      ⟨fun _ => rfl, fun _ => rfl, fun _ => rfl, fun _ => rfl⟩
    have hreq' : q.unversioned.isDeletionRequested = true := hreq
    obtain ⟨v, h₁, hrevise, -, hafter, -, hs₁⟩ := hs.revise hr hblind
    rw [if_pos hreq'] at hafter hs₁
    obtain ⟨h₂, hemit, hs₂⟩ := hs₁.emit (.deletionBlocked key v.after.consumers.length)
    rw [← hafter] at hs₂
    refine ⟨v.after, h₂, ?_, hafter, hs₂⟩
    rw [if_pos hreq]
    exact (run_bind_ok hrevise _).trans (run_bind_ok hemit _)
  · have hnone : q.deletion = none := by simpa [Record.isDeletionRequested] using hreq
    refine ⟨q, h, by rw [if_neg hreq]; rfl, ?_, ?_⟩
    · rw [← hnone]
      rfl
    · rw [Sight.put_self hr]
      exact hs

/-- A wait for deletion ends. -/
theorem Shows.endWait (hs : h.Shows cut k x) (hr : x.records key = some q.unversioned) :
    ∃ q', ∃ h' : Rehearsal, h.run (Pass.endWait key q) = (.ok q', h') ∧
      q'.unversioned = (if q.unversioned.isReferenced &&
        q.unversioned.phase == some .awaitingDeletion then q.unversioned.revive
          else q.unversioned) ∧
      h'.Shows cut k (x.put key (some q'.unversioned)) := by
  rw [Pass.endWait]
  by_cases hends : (q.isReferenced && q.phase == some .awaitingDeletion) = true
  · have hblind : Edit.Blind Record.isRevivable Record.revive :=
      ⟨fun _ => rfl, fun _ => rfl, fun _ => rfl, fun _ => rfl⟩
    have hrevivable : q.unversioned.isRevivable = true := by
      have hphase : q.unversioned.phase = some .awaitingDeletion := by
        rw [Bool.and_eq_true] at hends
        exact beq_iff_eq.mp hends.2
      simp [Record.isRevivable, hphase]
    obtain ⟨v, h₁, hrevise, -, hafter, -, hs₁⟩ := hs.revise hr hblind
    rw [if_pos hrevivable] at hafter hs₁
    obtain ⟨h₂, hemit, hs₂⟩ := hs₁.emit (.retentionCancelled key)
    rw [← hafter] at hs₂
    refine ⟨v.after, h₂, ?_, hafter.trans (if_pos hends).symm, hs₂⟩
    rw [if_pos hends]
    exact (run_bind_ok hrevise _).trans (run_bind_ok hemit _)
  · refine ⟨q, h, by rw [if_neg hends]; rfl, (if_neg hends).symm, ?_⟩
    rw [Sight.put_self hr]
    exact hs

/-- A deletion is requested because the period is over. -/
theorem Shows.markForDeletion (hs : h.Shows cut k x) (hr : x.records key = some r)
    (hfree : r.isReferenced = false) (hdeletion : r.deletion = none) (now : Instant) :
    ∃ q', ∃ h' : Rehearsal, h.run (Pass.markForDeletion key now) = (.ok (some q'), h') ∧
      q'.unversioned = { r with deletion := some now } ∧
      h'.Shows cut k (x.put key (some { r with deletion := some now })) := by
  have hblind : Edit.Blind (fun r => !r.isReferenced && !r.isDeletionRequested) fun r =>
      { r with deletion := some now } :=
    ⟨fun _ => rfl, fun _ => rfl, fun _ => rfl, fun _ => rfl⟩
  have hneeded : (!r.isReferenced && !r.isDeletionRequested) = true := by
    simp [hfree, Record.isDeletionRequested, hdeletion]
  obtain ⟨v, h₁, hrevise, hbefore, hafter, -, hs₁⟩ := hs.revise hr hblind
  rw [if_pos hneeded] at hafter hs₁
  have hfree' : v.before.isReferenced = false := by
    rw [← hfree, ← hbefore]
    rfl
  refine ⟨v.after, h₁, ?_, hafter, hs₁⟩
  refine (run_bind_ok hrevise _).trans ?_
  simp only [hfree', Bool.false_eq_true, if_false]
  rfl

/-- The period starts. -/
theorem Shows.startGracePeriod (hs : h.Shows cut k x) (hr : x.records key = some r)
    (hfree : r.isReferenced = false) (period : Duration) (now : Instant) :
    ∃ h' : Rehearsal, h.run (Pass.startGracePeriod key period now) = (.ok true, h') ∧
      h'.Shows cut k
        (x.put key (some ({ r with phase := some .awaitingDeletion }.stampLastUsed now))) := by
  have hblind : Edit.Blind (fun r => !r.isReferenced) fun r =>
      { r with phase := some .awaitingDeletion }.stampLastUsed now :=
    ⟨fun _ => rfl, fun _ => rfl, fun _ => rfl, fun _ => rfl⟩
  have hneeded : (!r.isReferenced) = true := by simp [hfree]
  obtain ⟨v, h₁, hrevise, hbefore, -, -, hs₁⟩ := hs.revise hr hblind
  rw [if_pos hneeded] at hs₁
  have hfree' : v.before.isReferenced = false := by
    rw [← hfree, ← hbefore]
    rfl
  obtain ⟨h₂, hemit, hs₂⟩ := hs₁.emitIf (v.before.phase != some .awaitingDeletion)
    (.stateChanged key v.before.phase .awaitingDeletion)
  obtain ⟨h₃, hemit', hs₃⟩ := hs₂.emit (.retentionStarted key period)
  refine ⟨h₃, ?_, hs₃⟩
  refine (run_bind_ok hrevise _).trans ?_
  simp only [hfree', Bool.false_eq_true, if_false]
  exact (run_bind_ok hemit _).trans (run_bind_ok hemit' _)

theorem Shows.now (hs : h.Shows cut k x) : h.run Program.now = (.ok k.clock, h) := by
  obtain ⟨l, hb⟩ := hs
  exact run_request hb.now

/-- What retention has in store is done. -/
theorem Shows.yields_retainOrPlace (hs : h.Shows cut k x)
    (hr : x.records key = some q.unversioned) (hname : q.name = key) (hdeletion : q.deletion = none)
    (hripe : cut = true → q.isReferenced ∨ q.phase ≠ none) :
    h.Yields cut k (fun x' => Pass.goal s k key x' = Pass.goal s k key x)
      (Pass.retainOrPlace s key q) (Pass.goal s k key x) := by
  have hdecide : Retention.decide s.period q k.clock =
      Retention.decide s.period q.unversioned k.clock := rfl
  rw [Pass.goal_of_decide hr hdeletion]
  refine .after hs.now ?_
  rw [hdecide]
  cases hd : Retention.decide s.period q.unversioned k.clock with
  | notEligible =>
    obtain ⟨q', h₁, hend, hq', hs₁⟩ := hs.endWait hr
    have hneeded : cut = true → q'.unversioned.deletion = none ∧ q'.unversioned.isReferenced ∧
        q'.unversioned.phase ≠ some .awaitingDeletion := by
      intro hcut
      have href : q.isReferenced := by
        rcases hripe hcut with href | hphase
        · exact href
        · exact (Retention.of_notEligible hd).resolve_right hphase
      rw [hq']
      split
      · exact ⟨rfl, href, Record.phase_revive_ne _⟩
      · rename_i hends
        have href' : q.unversioned.isReferenced = true := href
        exact ⟨hdeletion, href, by simpa [href'] using hends⟩
    have hplace := hs₁.yields_place (s := s) (Sight.records_put ..) (q := q') rfl hneeded
    rw [Pass.placingGoal_put, hq'] at hplace
    exact .after hend hplace
  | deleteNow =>
    have hfree := Retention.isReferenced_of_deleteNow hd
    obtain ⟨q', h₁, hmark, hq', hs₁⟩ := hs.markForDeletion hr hfree hdeletion k.clock
    have hname' : q'.name = key := (congrArg Record.name hq').trans hname
    have hspec : q'.unversioned.spec = q.unversioned.spec := by rw [hq']
    have hremove := hs₁.yields_remove (s := s) (Sight.records_put ..) rfl hfree hspec hname'
    rw [Pass.removalGoal_put] at hremove
    exact .after hmark (.after (run_log ..) hremove)
  | startGracePeriod requeue =>
    have hfree := Retention.isReferenced_of_startGracePeriod hd
    obtain ⟨h₁, hstart, hs₁⟩ := hs.startGracePeriod hr hfree s.period k.clock
    exact .after hstart (.done hs₁)
  | wait remaining =>
    obtain ⟨h₁, hemit, hs₁⟩ := hs.emit (.retentionWaiting key remaining)
    exact .after hemit (.done hs₁)

/-- **A pass comes to its goal**, or it is cut short and leaves a sight with the same goal. -/
theorem Shows.yields_run (hs : h.Shows cut k x) (hname : Name.fault? key = none)
    (hripe : cut = true → Pass.Ripe key x) :
    h.Yields cut k (fun x' => Pass.goal s k key x' = Pass.goal s k key x) (Pass.run s key)
      (Pass.goal s k key x) := by
  obtain ⟨l, hb⟩ := hs
  obtain ⟨h₁, hread, hb₁⟩ := hb.read hname
  have hread' : h.run (Program.readRecord key) = (.ok (l.get? key), h₁) :=
    run_ask_of_answer hread
  rw [Pass.run]
  refine .after hread' ?_
  have hx := hb.world.records key
  cases hget : l.get? key with
  | none =>
    rw [hget, Option.map_none] at hx
    have hgoal : Pass.goal s k key x = (.ok .finished, x) := by
      simp only [Pass.goal, hx]
    rw [hgoal]
    exact .done ⟨l, hb₁⟩
  | some q =>
    rw [hget, Option.map_some] at hx
    have hkey : q.name = key := (hb.world.named key q hget).1
    dsimp only
    by_cases hdue : (q.isDeletionRequested && !q.isReferenced) = true
    · obtain ⟨hreq, hfree⟩ : q.isDeletionRequested = true ∧ q.isReferenced = false := by
        simpa using hdue
      rw [if_pos hdue, Pass.goal_of_due hx hreq hfree]
      exact Shows.yields_remove ⟨l, hb₁⟩ hx hreq hfree rfl hkey
    · rw [if_neg hdue]
      obtain ⟨q', h₂, hdrop, hq', hs₂⟩ := Shows.dropDeletionRequest ⟨l, hb₁⟩ hx
      have hsame : Pass.goal s k key (x.put key (some q'.unversioned)) = Pass.goal s k key x := by
        have hkept : (q.isDeletionRequested && !q.isReferenced) = false := by
          rw [← Bool.not_eq_true]
          exact hdue
        rw [hq']
        exact Pass.goal_dropDeletion hx hkept
      rw [← hsame]
      refine .after hdrop (hs₂.yields_retainOrPlace (Sight.records_put ..) ?_ ?_ ?_)
      · exact (congrArg Record.name hq').trans hkey
      · exact congrArg Record.deletion hq'
      · intro hcut
        have hkept : q'.unversioned.isReferenced ∨ q'.unversioned.phase ≠ none := by
          rw [hq']
          exact hripe hcut q.unversioned hx
        exact hkept

/-- A pass over what is no name ends at once. -/
theorem Shows.run_of_fault (hs : h.Shows cut k x) {fault : Name.Fault}
    (hname : Name.fault? key = some fault) : (h.run (Pass.run s key)).2.Shows cut k x := by
  obtain ⟨l, hb⟩ := hs
  obtain ⟨h', hb', hread | hread⟩ := hb.read_of_fault hname
  · have hread' : h.run (Program.readRecord key) = (.ok none, h') := run_ask_of_answer hread
    rw [Pass.run, run_bind_ok hread']
    exact ⟨l, hb'⟩
  · have hread' : h.run (Program.readRecord key) = (.error (.ofImageName key fault), h') :=
      run_ask_of_answer hread
    rw [Pass.run, run_bind_error hread']
    exact ⟨l, hb'⟩

end

end Rehearsal

end ImageCatalog
