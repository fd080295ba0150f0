import ImageCatalog.Proofs.Record.Shape
import ImageCatalog.Proofs.Rehearsal.Steps
import ImageCatalog.Proofs.Run.Performance

/-!
# One pass repairs a record

Whatever was left behind, by failures, by interruptions or by others who took images out of the
catalogs, one pass without failures sets it right for a record with consumers: the image is at every
location of its provider, and the record is available without a deletion request.

The pass does no more than that. It uploads to the locations that lack the image, once each, takes
nothing from any catalog, and leaves other images and other records alone. Locations need not have
different names: at the second of two locations with one name the image is there already.

## Main definitions

* `Catalog.Healthy` — no faults in store, and uploads that end in time
* `Catalog.Filled` — the catalogs of a provider after an image was brought to some locations
* `World.Worked` — what else is left alone between two moments

## Main results

* `World.run_place` — a placement, whatever the locations hold
* `repair` — the whole pass
-/

namespace ImageCatalog

variable {w w' w'' : World} {l l' l'' : Ledger} {key provider location image : String} {r : Record}
  {c c' c'' : Catalog} {places places' : List String}

/-! ### The catalogs of one provider -/

namespace Catalog

/-- There are no faults in store, and uploads end within their limit. -/
structure Healthy (c : Catalog) : Prop where
  faults_eq : c.faults = []
  uploads_end : ∀ d ∈ c.uploadTime, d.nanos ≤ Pass.uploadLimit.nanos

/-- The catalogs of a provider after an image was brought to some locations. -/
structure Filled (c : Catalog) (image : String) (places : List String) (c' : Catalog) : Prop where
  healthy : c.Healthy → c'.Healthy
  holds_iff : ∀ m i, c'.holds m i ↔ c.holds m i ∨ (i = image ∧ m ∈ places)
  /-- There is one upload to each location that lacks the image, and no withdrawal. -/
  calls : ∃ new, c'.calls = c.calls ++ new ∧ (∀ call ∈ new, call.verb ≠ .withdraw) ∧
    ∀ m i, new.count ⟨.upload, i, m⟩ = if i = image ∧ m ∈ places ∧ ¬ c.holds m image then 1 else 0

theorem Filled.nil (c : Catalog) (image : String) : c.Filled image [] c where
  healthy := id
  holds_iff m i := by simp
  calls := ⟨[], by simp, by simp, by simp⟩

/-- A location where the image is gets a look-up. -/
theorem filled_of_holds (h : c.holds location image) :
    c.Filled image [location] (c.noted .lookUp location image) where
  healthy hc := ⟨hc.faults_eq, hc.uploads_end⟩
  holds_iff m i := by
    have hnoted : (c.noted .lookUp location image).holds m i = c.holds m i := rfl
    rw [hnoted, List.mem_singleton]
    refine ⟨.inl, ?_⟩
    rintro (hm | ⟨rfl, rfl⟩)
    · exact hm
    · exact h
  calls := by
    refine ⟨[⟨.lookUp, image, location⟩], rfl, by simp, fun m i => ?_⟩
    have hnone : ¬ (i = image ∧ m ∈ [location] ∧ ¬ c.holds m image) := by
      rintro ⟨-, hm, hlacks⟩
      rw [List.mem_singleton.mp hm] at hlacks
      exact hlacks h
    rw [if_neg hnone]
    simp

/-- A location that lacks the image gets a look-up and an upload. -/
theorem filled_of_lacks (h : c.holds location image = false) :
    c.Filled image [location]
      (((c.noted .lookUp location image).noted .upload location image).insert location image) where
  healthy hc := by
    refine ⟨?_, ?_⟩
    · rw [faults_insert]
      exact hc.faults_eq
    · rw [uploadTime_insert]
      exact hc.uploads_end
  holds_iff m i := by
    rw [holds_insert, Bool.or_eq_true, Bool.and_eq_true, beq_iff_eq, beq_iff_eq,
      List.mem_singleton]
    rfl
  calls := by
    refine ⟨[⟨.lookUp, image, location⟩, ⟨.upload, image, location⟩], ?_, by simp, fun m i => ?_⟩
    · rw [calls_insert, noted, noted, List.append_assoc]
      rfl
    · by_cases hm : i = image ∧ m = location
      · obtain ⟨rfl, rfl⟩ := hm
        simp [h]
      · have hnone : ¬ (i = image ∧ m ∈ [location] ∧ ¬ c.holds m image) := by
          rintro ⟨hi, hm', -⟩
          exact hm ⟨hi, List.mem_singleton.mp hm'⟩
        have hother : (⟨.upload, image, location⟩ : Call) ≠ ⟨.upload, i, m⟩ := by
          intro heq
          obtain ⟨-, hi, hm'⟩ := Call.mk.inj heq
          exact hm ⟨hi.symm, hm'.symm⟩
        rw [if_neg hnone]
        simp [hother]

/-- What is brought first is not brought again. -/
theorem Filled.append (h : c.Filled image places c') (h' : c'.Filled image places' c'') :
    c.Filled image (places ++ places') c'' where
  healthy hc := h'.healthy (h.healthy hc)
  holds_iff m i := by
    rw [h'.holds_iff, h.holds_iff, List.mem_append]
    tauto
  calls := by
    obtain ⟨new, hnew, hverb, hcount⟩ := h.calls
    obtain ⟨new', hnew', hverb', hcount'⟩ := h'.calls
    refine ⟨new ++ new', by rw [hnew', hnew, List.append_assoc], fun call hcall => ?_,
      fun m i => ?_⟩
    · exact (List.mem_append.mp hcall).elim (hverb call) (hverb' call)
    · have hheld := h.holds_iff m image
      rw [List.count_append, hcount, hcount']
      by_cases hi : i = image
      · by_cases hlacks : c.holds m image
        · simp [hi, hlacks, hheld]
        · by_cases hm : m ∈ places <;> simp [hi, hlacks, hm, hheld]
      · simp [hi]

end Catalog

/-! ### What else is left alone -/

namespace World

/-- Between two moments the records become those of a ledger, and the catalogs of one provider
become other ones. Nobody interrupts the work in the meantime. -/
structure Worked (provider : String) (l' : Ledger) (c' : Catalog) (w w' : World) : Prop where
  store : w'.store.Holds l'
  catalog : w'.catalog? provider = some c'
  others : ∀ p, p ≠ provider → w'.providers.get? p = w.providers.get? p
  reachable : w'.reachable = w.reachable
  quiet : w'.timeline.Quiet

theorem Worked.refl (hw : w.store.Holds l) (hc : w.catalog? provider = some c)
    (hquiet : w.timeline.Quiet) : Worked provider l c w w :=
  ⟨hw, hc, fun _ _ => rfl, rfl, hquiet⟩

theorem Worked.trans (h : Worked provider l' c' w w') (h' : Worked provider l'' c'' w' w'') :
    Worked provider l'' c'' w w'' where
  store := h'.store
  catalog := h'.catalog
  others p hp := (h'.others p hp).trans (h.others p hp)
  reachable := h'.reachable.trans h.reachable
  quiet := h'.quiet

/-- Between two moments nothing is written but records. -/
theorem Worked.wrote (h : Worked provider l' c' w w') (h' : Wrote l'' w' w'') :
    Worked provider l'' c' w w'' where
  store := h'.store
  catalog := (h'.catalog? provider).trans h.catalog
  others p hp := by rw [h'.providers, h.others p hp]
  reachable := h'.reachable.trans h.reachable
  quiet := by
    rw [h'.timeline]
    exact h.quiet

theorem Worked.setCatalog (h : Worked provider l' c' w w') (c'' : Catalog) :
    Worked provider l' c'' w (w'.setCatalog provider c'') where
  store := h.store
  catalog := by rw [catalog?_setCatalog, if_pos rfl]
  others p hp := by
    show (w'.providers.insert provider (.catalog c'')).get? p = _
    rw [Dictionary.get?_insert, if_neg hp, h.others p hp]
  reachable := h.reachable
  quiet := h.quiet

/-! ### A placement -/

/-- A look-up tells whether the image is there. -/
theorem run_lookUp (hc : w.catalog? provider = some c) (hhealthy : c.Healthy)
    (hquiet : w.timeline.Quiet) (key location image : String) :
    w.run (Pass.Job.lookUp ⟨key, provider, image⟩ location) =
      (.ok (.ok (c.holds location image)),
        w.setCatalog provider (c.noted .lookUp location image)) := by
  have hanswer : w.answer
      (.lookUp (Pass.Job.call ⟨key, provider, image⟩ location Pass.callLimit)) =
      (.finished (.ok (c.holds location image)),
        w.setCatalog provider (c.noted .lookUp location image)) := by
    have hgo : ¬ w.timeline.interrupted := by simp [hquiet.1]
    refine (if_neg hgo).trans ?_
    show finish (w.lookUp provider location image) = _
    have hcall : c.lookUp location image =
        (.ok (c.holds location image), c.noted .lookUp location image) := by
      rw [Catalog.lookUp, Catalog.receive_of_faultless hhealthy.faults_eq]
      rfl
    rw [World.lookUp, onProvider_of_catalog hc, hcall]
    rfl
  exact run_bind_ok (run_request hanswer) _

/-- An upload brings the image. -/
theorem run_upload (hw : w.store.Holds l) (hc : w.catalog? provider = some c)
    (hhealthy : c.Healthy) (hquiet : w.timeline.Quiet) (key location image url : String) :
    ∃ w', w.run (Pass.Job.upload ⟨key, provider, image⟩ location url) = (.ok (.ok ()), w') ∧
      Worked provider l ((c.noted .upload location image).insert location image) w w' := by
  have hnoted := (Worked.refl hw hc hquiet).setCatalog (c.noted .upload location image)
  obtain ⟨a, t, hwait, hquiet', hcases⟩ :=
    (w.setCatalog provider (c.noted .upload location image)).awaitUpload_cases provider location
      image
  have htime : (w.setCatalog provider (c.noted .upload location image)).terms.tooSlow provider =
      false := by
    show Option.any _ ((w.setCatalog provider (c.noted .upload location image)).uploadTime?
      provider) = false
    rw [uploadTime?_eq, hnoted.catalog, Option.bind_some, Option.any_eq_false]
    intro d hd
    simpa using hhealthy.uploads_end d hd
  have ha : a = .finished (.ok ()) := by
    rcases hcases with ⟨ha, -⟩ | ⟨-, hslow⟩ | ⟨hcut, -⟩
    · exact ha
    · rw [htime] at hslow
      cases hslow
    · exact absurd hquiet hcut
  subst ha
  have hanswer : w.answer
      (.upload (Pass.Job.call ⟨key, provider, image⟩ location Pass.uploadLimit) url) =
      (.finished (.ok ()), ({ w.setCatalog provider (c.noted .upload location image) with
        timeline := t }).mapCatalog provider fun c => c.insert location image) := by
    have hgo : ¬ w.timeline.interrupted := by simp [hquiet.1]
    exact (if_neg hgo).trans (upload_of_finished hc hhealthy.faults_eq hwait)
  have hwaited : Worked provider l (c.noted .upload location image) w
      { w.setCatalog provider (c.noted .upload location image) with timeline := t } :=
    ⟨hnoted.store, hnoted.catalog, hnoted.others, hnoted.reachable, hquiet' hquiet⟩
  refine ⟨_, run_bind_ok (run_request hanswer) _, ?_⟩
  rw [mapCatalog_of_catalog hwaited.catalog]
  exact hwaited.setCatalog _

/-- An upload to a location, with the phases and the events around it. -/
theorem run_fill (hw : w.store.Holds l) (hr : l.get? key = some r) (hname : r.name = key)
    (hc : w.catalog? provider = some c) (hhealthy : c.Healthy) (hquiet : w.timeline.Quiet)
    (location image url : String) :
    ∃ r' w', w.run (Pass.Job.fill ⟨key, provider, image⟩ url location) = (.ok (), w') ∧
      r'.unversioned = { r.unversioned with phase := some .available } ∧
      Worked provider (l.put r') ((c.noted .upload location image).insert location image) w w' := by
  obtain ⟨r₁, w₁, henter, hr₁, hwrote⟩ := run_enter hw hr hname .uploading
  have hname₁ : r₁.name = key := (congrArg Record.name hr₁ :).trans hname
  obtain ⟨w₂, hemit, hwrote'⟩ := run_emit hwrote.store (.uploadStarted key location url)
  have hworked := ((Worked.refl hw hc hquiet).wrote hwrote).wrote hwrote'
  obtain ⟨w₃, hupload, hfilled⟩ :=
    run_upload hworked.store hworked.catalog hhealthy hworked.quiet key location image url
  obtain ⟨r₂, w₄, henter', hr₂, hwrote₄⟩ :=
    run_enter hfilled.store (Ledger.get?_put_of_eq hname₁) hname₁ .available
  have hname₂ : r₂.name = r₁.name := (congrArg Record.name hr₂ :)
  obtain ⟨w₅, hemit', hwrote₅⟩ := run_emit hwrote₄.store (.uploadCompleted key location)
  rw [Ledger.put_put hname₂] at hwrote₅
  refine ⟨r₂, w₅, ?_, by rw [hr₂, hr₁], ((hworked.trans hfilled).wrote hwrote₄).wrote hwrote₅⟩
  rw [Pass.Job.fill, run_bind_ok henter, run_bind_ok hemit, run_bind_ok hupload]
  exact (run_bind_ok henter' _).trans hemit'

/-- One location is seen to. -/
theorem run_placeAt (hw : w.store.Holds l) (hr : l.get? key = some r) (hname : r.name = key)
    (hc : w.catalog? provider = some c) (hhealthy : c.Healthy) (hquiet : w.timeline.Quiet)
    (location image url : String) :
    ∃ r' c' w', w.run (Pass.Job.placeAt ⟨key, provider, image⟩ url location) = (.ok (), w') ∧
      r'.unversioned = { r.unversioned with phase := some .available } ∧
      c.Filled image [location] c' ∧ Worked provider (l.put r') c' w w' := by
  have hlook := run_lookUp hc hhealthy hquiet key location image
  have hworked := (Worked.refl hw hc hquiet).setCatalog (c.noted .lookUp location image)
  cases hholds : c.holds location image with
  | true =>
    obtain ⟨r', w₂, henter, hr', hwrote⟩ := run_enter hworked.store hr hname .available
    obtain ⟨w₃, hemit, hwrote'⟩ := run_emit hwrote.store (.alreadyPresent key location)
    refine ⟨r', _, w₃, ?_, hr', Catalog.filled_of_holds hholds,
      (hworked.wrote hwrote).wrote hwrote'⟩
    rw [Pass.Job.placeAt, run_bind_ok hlook, hholds]
    exact (run_bind_ok henter _).trans hemit
  | false =>
    obtain ⟨r', w₂, hfill, hr', hfilled⟩ := run_fill hworked.store hr hname hworked.catalog
      ⟨hhealthy.faults_eq, hhealthy.uploads_end⟩ hworked.quiet location image url
    refine ⟨r', _, w₂, ?_, hr', Catalog.filled_of_lacks hholds, hworked.trans hfilled⟩
    rw [Pass.Job.placeAt, run_bind_ok hlook, hholds]
    exact hfill

theorem run_isReachable (hreachable : w.reachable) (hquiet : w.timeline.Quiet) (url : String) :
    w.run (Pass.Job.isReachable url) = (.ok true, { w with probes := w.probes + 1 }) := by
  have hanswer : w.answer (.probe url) = (.ok true, { w with probes := w.probes + 1 }) := by
    have hgo : ¬ w.timeline.interrupted := by simp [hquiet.1]
    exact (if_neg hgo).trans (congrArg (fun b => (Except.ok b, _)) hreachable)
  exact run_bind_ok (run_request hanswer) _

/-- **The image is brought to every location**, whatever they hold. Without locations the record
stays as it is. -/
theorem run_place (hw : w.store.Holds l) (hr : l.get? key = some r) (hname : r.name = key)
    (hc : w.catalog? provider = some c) (hhealthy : c.Healthy) (hreachable : w.reachable)
    (hquiet : w.timeline.Quiet) (image url : String) (locations : List Location) :
    ∃ r' c' w', w.run (Pass.Job.place ⟨key, provider, image⟩ url locations) =
        (.ok .everywhere, w') ∧
      r'.unversioned =
        (if locations = [] then r.unversioned
          else { r.unversioned with phase := some .available }) ∧
      c.Filled image (locations.map Location.name) c' ∧ Worked provider (l.put r') c' w w' := by
  induction locations generalizing w l r c with
  | nil =>
    refine ⟨r, c, w, rfl, (if_pos rfl).symm, .nil c image, ?_⟩
    rw [Ledger.put_self (hname ▸ hr)]
    exact .refl hw hc hquiet
  | cons location rest ih =>
    have hprobe := run_isReachable hreachable hquiet url
    have hprobed : Worked provider l c w { w with probes := w.probes + 1 } :=
      ⟨hw, hc, fun _ _ => rfl, rfl, hquiet⟩
    obtain ⟨r₁, c₁, w₁, hat, hr₁, hfilled, hworked⟩ := run_placeAt hprobed.store hr hname
      hprobed.catalog hhealthy hprobed.quiet location.name image url
    have hworked := hprobed.trans hworked
    have hname₁ : r₁.name = key := (congrArg Record.name hr₁ :).trans hname
    have hreachable₁ : w₁.reachable := by
      rw [hworked.reachable]
      exact hreachable
    obtain ⟨r', c', w', hrest, hr', hfilled', hworked'⟩ := ih hworked.store
      (Ledger.get?_put_of_eq hname₁) hname₁ hworked.catalog (hfilled.healthy hhealthy)
      hreachable₁ hworked.quiet
    have hname' : r'.name = r₁.name := by
      have hname' := congrArg Record.name hr'
      split at hname' <;> exact hname'
    rw [Ledger.put_put hname'] at hworked'
    refine ⟨r', c', w', ?_, ?_, hfilled.append hfilled', hworked.trans hworked'⟩
    · rw [Pass.Job.place, run_bind_ok hprobe]
      exact (run_bind_ok hat _).trans hrest
    · rw [if_neg (List.cons_ne_nil location rest), hr', hr₁]
      split <;> rfl

/-! ### The pass -/

section

variable {s : Pass.Setup} (hw : w.store.Holds l) (hr : l.get? r.name = some r)
  (hneeded : r.isReferenced)

include hw hr hneeded

/-- A pass over a record with consumers goes on to the placement, once deletion is no concern. -/
theorem run_to_place :
    ∃ r' w', w.run (Pass.run s r.name) = w'.run (Pass.place s r.name r') ∧
      r'.unversioned = { (if r.phase = some .awaitingDeletion then r.clearLastUsed
          else r).unversioned with phase := r'.phase, deletion := none } ∧
      Wrote (l.put r') w w' := by
  obtain ⟨r₁, w₁, hdrop, hr₁, hwrote₁⟩ := run_dropDeletionRequest hw hr rfl
  have hname₁ : r₁.name = r.name := (congrArg Record.name hr₁ :)
  have hphase₁ : r₁.phase = r.phase := (congrArg Record.phase hr₁ :)
  have hneeded₁ : r₁.isReferenced := (congrArg Record.isReferenced hr₁ :).trans hneeded
  obtain ⟨r₂, w₂, hend, hr₂, hwrote₂⟩ :=
    run_endWait hwrote₁.store (Ledger.get?_put_of_eq hname₁) hname₁ hneeded₁
  have hname₂ : r₂.name = r₁.name := by
    have hname₂ := congrArg Record.name hr₂
    split at hname₂ <;> exact hname₂
  rw [Ledger.put_put hname₂] at hwrote₂
  refine ⟨r₂, w₂, ?_, ?_, hwrote₁.trans hwrote₂⟩
  · have hgo : ¬ (r.isDeletionRequested && !r.isReferenced) = true := by simp [hneeded]
    rw [run_look hw hr, if_neg hgo, run_bind_ok hdrop, Pass.retainOrPlace,
      run_bind_ok (run_now w₁), Pass.decide_of_referenced hneeded₁]
    exact run_bind_ok hend _
  · rw [hphase₁] at hr₂
    by_cases hphase : r.phase = some .awaitingDeletion
    · rw [if_pos hphase] at hr₂ ⊢
      have hrevived : r₂.unversioned = { r.unversioned with deletion := none }.revive :=
        hr₂.trans (congrArg Record.revive hr₁)
      show r₂.unversioned =
        { r.clearLastUsed.unversioned with phase := r₂.unversioned.phase, deletion := none }
      rw [hrevived]
      rfl
    · rw [if_neg hphase] at hr₂ ⊢
      have hphase₂ : r₂.phase = r.phase := (congrArg Record.phase hr₂ :).trans hphase₁
      rw [hr₂, hr₁, hphase₂]
      rfl

end

end World

/-- **One pass repairs a record with consumers**, whatever its phase, with or without a deletion
request, and whatever the catalogs of its provider hold. Afterwards the record is available and no
deletion is requested; its consumers and its image are the same, and only a stamp goes that belongs
to a wait for deletion. The image is at every location. It was uploaded once to each location that
had lacked it, to no other one, and was taken from nowhere. Other images, other providers and other
records are as they were. -/
theorem repair (s : Service) {w : World} {l : Ledger} {r : Record} {c : Catalog}
    (hstore : w.store.Holds l) (hr : l.get? r.name = some r) (hneeded : r.isReferenced)
    (hc : w.catalog? r.spec.provider = some c)
    (hplaces : s.setup.providers.get? r.spec.provider = some c.locations)
    (hsome : c.locations ≠ [])
    (hurl : Artifact.addressFault? (s.setup.source.artifact r.spec.image) = none)
    (hreachable : w.reachable) (hhealthy : c.Healthy) (hquiet : w.timeline.Quiet) :
    let places := c.locations.map Location.name
    let after := w.run (s.pass r.name)
    after.1 = .ok (.after Pass.requeueInterval) ∧
    (∃ l' r', after.2.store.Holds l' ∧ l'.get? r.name = some r' ∧
      r'.unversioned = { (if r.phase = some .awaitingDeletion then r.clearLastUsed
          else r).unversioned with phase := some .available, deletion := none } ∧
      ∀ n, n ≠ r.name → l'.get? n = l.get? n) ∧
    (∃ c' new, after.2.catalog? r.spec.provider = some c' ∧
      (∀ m i, c'.holds m i ↔ c.holds m i ∨ (i = r.spec.image ∧ m ∈ places)) ∧
      c'.calls = c.calls ++ new ∧ (∀ call ∈ new, call.verb ≠ .withdraw) ∧
      ∀ m i, new.count ⟨.upload, i, m⟩ =
        if i = r.spec.image ∧ m ∈ places ∧ ¬ c.holds m r.spec.image then 1 else 0) ∧
    ∀ p, p ≠ r.spec.provider → after.2.providers.get? p = w.providers.get? p := by
  intro places after
  obtain ⟨r₁, w₁, hrun, hr₁, hwrote⟩ := World.run_to_place (s := s.setup) hstore hr hneeded
  have hname₁ : r₁.name = r.name := by
    have hname₁ := congrArg Record.name hr₁
    split at hname₁ <;> exact hname₁
  have hspec₁ : r₁.spec = r.spec := by
    have hspec₁ := congrArg Record.spec hr₁
    split at hspec₁ <;> exact hspec₁
  have hworked := (World.Worked.refl hstore hc hquiet).wrote hwrote
  obtain ⟨r', c', w', hplace, hr', hfilled, hworked'⟩ := World.run_place hworked.store
    (Ledger.get?_put_of_eq hname₁) hname₁ hworked.catalog hhealthy
    (hworked.reachable.trans hreachable) hworked.quiet r.spec.image
    (s.setup.source.artifact r.spec.image) c.locations
  have hworked' := hworked.trans hworked'
  have hafter : after = (.ok (.after Pass.requeueInterval), w') := by
    refine hrun.trans ?_
    rw [Pass.place, hspec₁]
    simp only [hurl, hplaces]
    exact World.run_bind_ok hplace _
  rw [if_neg hsome] at hr'
  have hname' : r'.name = r₁.name := (congrArg Record.name hr' :)
  rw [hafter]
  obtain ⟨new, hnew, hverb, hcount⟩ := hfilled.calls
  refine ⟨rfl, ⟨_, r', hworked'.store, Ledger.get?_put_of_eq (hname'.trans hname₁), ?_, ?_⟩,
    ⟨c', new, hworked'.catalog, hfilled.holds_iff, hnew, hverb, hcount⟩, hworked'.others⟩
  · rw [hr', hr₁]
  · intro n hn
    rw [Ledger.put_put hname', Ledger.get?_put_of_ne ((hname'.trans hname₁).symm ▸ hn)]

/-- A consumer has come back to a record that waits for its deletion, with the image left at the
second location only. -/
theorem repair_half_removed :
    let s := Performance.smallService (.ofSeconds 60)
    let r : Record :=
      { Record.new "flatcar" ⟨"flatcar", "capv"⟩ .epoch with
        consumers := ["cluster"], phase := some .awaitingDeletion,
        deletion := some .epoch }.stampLastUsed .epoch
    let c : Catalog :=
      { Catalog.new "capv" [.named "dc1", .named "dc2"] with
        holdings := [⟨"dc2", "flatcar"⟩], uploadTime := some (.ofSeconds 60) }
    let w : World :=
      { (Performance.opening .epoch).world with
        store := .ledger (Ledger.empty.put r), providers := .ofList [("capv", .catalog c)] }
    let after := w.run (s.pass "flatcar")
    after.1 = .ok (.after Pass.requeueInterval) ∧
      (∃ l' r', after.2.store.Holds l' ∧ l'.get? "flatcar" = some r' ∧ r'.phase = some .available ∧
        r'.deletion = none ∧ r'.hasStamp = false ∧ r'.consumers = ["cluster"]) ∧
      ∃ c', after.2.catalog? "capv" = some c' ∧ c'.holds "dc1" "flatcar" ∧
        c'.holds "dc2" "flatcar" ∧ c'.calls.count ⟨.upload, "flatcar", "dc1"⟩ = 1 ∧
        c'.calls.count ⟨.upload, "flatcar", "dc2"⟩ = 0 := by
  intro s r c w after
  have hhealthy : c.Healthy := by
    refine ⟨rfl, fun d hd => ?_⟩
    obtain rfl := Option.some.inj hd
    decide
  obtain ⟨hresult, ⟨l', r', hstore', hr', hfields, -⟩, ⟨c', new, hc', hholds, hcalls, -, hcount⟩,
    -⟩ := repair s (w := w) (c := c) (r := r) rfl (Ledger.get?_put_of_eq rfl) rfl rfl rfl
      (List.cons_ne_nil _ _) (by decide +kernel) rfl hhealthy ⟨rfl, rfl⟩
  have hnew : c'.calls = new := hcalls
  refine ⟨hresult, ⟨l', r', hstore', hr', (congrArg Record.phase hfields :),
    (congrArg Record.deletion hfields :), ?_, (congrArg Record.consumers hfields :)⟩,
    c', hc', ?_, ?_, ?_, ?_⟩
  · exact (congrArg Record.hasStamp hfields :).trans (Record.hasStamp_clearLastUsed _)
  · exact (hholds "dc1" "flatcar").mpr (.inr ⟨rfl, by decide⟩)
  · exact (hholds "dc2" "flatcar").mpr (.inl (by decide))
  · rw [hnew, hcount]
    decide
  · rw [hnew, hcount]
    decide

end ImageCatalog
