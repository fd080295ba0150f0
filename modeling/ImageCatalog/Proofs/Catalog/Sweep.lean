import ImageCatalog.Proofs.Record.Shape
import ImageCatalog.Proofs.Rehearsal.Moments
import ImageCatalog.Proofs.Rehearsal.Steps
import ImageCatalog.Proofs.Run.Performance

/-!
# A deletion sweep from end to end

A record without consumers that is to be deleted is dealt with in one pass: a deletion is tried once
at every location, in the order of the locations, whatever fails. The locations where it fails are
told in the same order, the image stays there and nowhere else, and the record stays with its
deletion request; or nothing fails, and the record goes.

Here providers may have any faults in store. Each location is called once, so which calls fail is
settled beforehand: those at locations with a fault in store, provided that no two locations have
the same name.

## Main definitions

* `Catalog.failing` — the locations where the next deletion fails
* `Catalog.Swept` — the catalogs of a provider after a sweep

## Main results

* `World.run_clear` — the sweep over the locations
* `World.run_due` — the whole pass
* `deletion_sweep` — the pass, all moments on the way, and the pass after it
-/

namespace ImageCatalog

variable {w w' : World} {l l' : Ledger} {key provider location image : String} {r : Record}
  {c c' c'' : Catalog} {places : List String}

/-! ### The catalogs of one provider -/

namespace Catalog

/-- The locations where the next deletion fails, in the order of the locations. -/
def failing (c : Catalog) (places : List String) : List String :=
  places.filter fun location => c.faults.contains (.withdraw, location)

theorem mem_failing : location ∈ c.failing places ↔
    location ∈ places ∧ (.withdraw, location) ∈ c.faults := by
  rw [failing, List.mem_filter, List.contains_iff_mem]

/-- A deletion fails if a fault is in store for it, and is on record all the same. -/
theorem withdraw_of_fault (h : (.withdraw, location) ∈ c.faults) :
    c.withdraw location image =
      (.error (.providerFailed c.tag "delete" image location "injected fault"),
        { c.noted .withdraw location image with faults := c.faults.erase (.withdraw, location) }) := by
  have hfault : c.faults.contains (.withdraw, location) = true := by simpa using h
  simp only [withdraw, receive, hfault, if_true]
  rfl

theorem withdraw_of_sound (h : (.withdraw, location) ∉ c.faults) :
    c.withdraw location image =
      (.ok (), (c.noted .withdraw location image).erase location image) := by
  have hfault : c.faults.contains (.withdraw, location) = false := by simpa using h
  simp only [withdraw, receive, hfault, Bool.false_eq_true, if_false]
  rfl

/-- The catalogs of a provider after a sweep over some locations. -/
structure Swept (c : Catalog) (image : String) (places : List String) (c' : Catalog) : Prop where
  calls_eq : c'.calls = c.calls ++ places.map fun location => ⟨.withdraw, image, location⟩
  holds_iff : ∀ m i, c'.holds m i ↔
    c.holds m i ∧ ¬ (i = image ∧ m ∈ places ∧ (.withdraw, m) ∉ c.faults)
  mem_faults : ∀ e, (∀ m ∈ places, e ≠ (.withdraw, m)) → (e ∈ c'.faults ↔ e ∈ c.faults)

theorem Swept.nil (c : Catalog) (image : String) : c.Swept image [] c where
  calls_eq := by simp
  holds_iff m i := by simp
  mem_faults _ _ := .rfl

/-- One deletion. -/
theorem swept_withdraw (c : Catalog) (location image : String) :
    c.Swept image [location] (c.withdraw location image).2 := by
  by_cases hfault : (.withdraw, location) ∈ c.faults
  · rw [withdraw_of_fault hfault]
    refine ⟨rfl, fun m i => ?_, fun e he => ?_⟩
    · have hstays : ¬ (i = image ∧ m ∈ [location] ∧ (.withdraw, m) ∉ c.faults) := by
        rintro ⟨-, hm, hsound⟩
        rw [List.mem_singleton.mp hm] at hsound
        exact hsound hfault
      exact (and_iff_left hstays).symm
    · exact List.mem_erase_of_ne (he location List.mem_cons_self)
  · rw [withdraw_of_sound hfault]
    refine ⟨rfl, fun m i => ?_, fun _ _ => .rfl⟩
    rw [holds_erase]
    have hnoted : (c.noted .withdraw location image).holds m i = c.holds m i := rfl
    rw [hnoted, List.mem_singleton]
    by_cases hm : i = image ∧ m = location
    · obtain ⟨rfl, rfl⟩ := hm
      simp [hfault]
    · simp only [Bool.and_eq_true, Bool.not_eq_true', Bool.and_eq_false_iff, beq_eq_false_iff_ne]
      tauto

/-- A sweep begins with the first location. -/
theorem Swept.cons (hnew : location ∉ places)
    (h : (c.withdraw location image).2.Swept image places c') :
    c.Swept image (location :: places) c' := by
  have hone := c.swept_withdraw location image
  refine ⟨?_, fun m i => ?_, fun e he => ?_⟩
  · rw [h.calls_eq, hone.calls_eq, List.append_assoc]
    rfl
  · -- What is in store for the other locations is not touched by the first call.
    have hfaults : m ∈ places →
        ((.withdraw, m) ∈ (c.withdraw location image).2.faults ↔ (.withdraw, m) ∈ c.faults) := by
      intro hm
      refine hone.mem_faults _ fun m' hm' heq => hnew ?_
      rw [← List.mem_singleton.mp hm', ← (Prod.mk.inj heq).2]
      exact hm
    rw [h.holds_iff, hone.holds_iff, List.mem_singleton, List.mem_cons]
    by_cases hm : m ∈ places
    · rw [hfaults hm]
      have hne : m ≠ location := fun heq => hnew (heq ▸ hm)
      tauto
    · tauto
  · have hrest := h.mem_faults e fun m hm => he m (List.mem_cons_of_mem _ hm)
    exact hrest.trans (hone.mem_faults e fun m hm => he m (by simp [List.mem_singleton.mp hm]))

theorem failing_withdraw (hnew : location ∉ places) :
    (c.withdraw location image).2.failing places = c.failing places := by
  refine List.filter_congr fun m hm => ?_
  have hmem := (c.swept_withdraw location image).mem_faults (.withdraw, m) fun m' hm' heq => hnew (by
    rw [← List.mem_singleton.mp hm', ← (Prod.mk.inj heq).2]
    exact hm)
  rw [Bool.eq_iff_iff, List.contains_iff_mem, List.contains_iff_mem]
  exact hmem

end Catalog

/-! ### The sweep -/

namespace World

/-- A withdrawal is tried as the provider has it. -/
theorem run_withdraw (hc : w.catalog? provider = some c) (hcut : w.timeline.interrupted = false)
    (key location image : String) :
    w.run (Pass.Job.withdraw ⟨key, provider, image⟩ location) =
      (.ok (c.withdraw location image).1, w.setCatalog provider (c.withdraw location image).2) := by
  have hanswer : w.answer
      (.withdraw (Pass.Job.call ⟨key, provider, image⟩ location Pass.callLimit)) =
      (.finished (c.withdraw location image).1,
        w.setCatalog provider (c.withdraw location image).2) := by
    have hgo : ¬ w.timeline.interrupted := by simp [hcut]
    refine (if_neg hgo).trans ?_
    show finish (w.withdraw provider location image) = _
    rw [World.withdraw, onProvider_of_catalog hc]
    rfl
  exact run_bind_ok (run_request hanswer) _

/-- **The sweep over the locations.** It tries each of them once, writes no record, and tells where
it has failed. -/
theorem run_clear (hw : w.store.Holds l) (hr : l.get? key = some r)
    (hphase : r.phase = some .deleting) (hc : w.catalog? provider = some c)
    (hcut : w.timeline.interrupted = false) {locations : List Location}
    (hdistinct : (locations.map Location.name).Nodup) (image : String) :
    ∃ c' w', w.run (Pass.Job.clear ⟨key, provider, image⟩ locations) =
        (.ok (c.failing (locations.map Location.name)), w') ∧
      w'.store.Holds l ∧ w'.catalog? provider = some c' ∧
      c.Swept image (locations.map Location.name) c' := by
  induction locations generalizing w c with
  | nil => exact ⟨c, w, rfl, hw, hc, .nil c image⟩
  | cons location rest ih =>
    obtain ⟨hnew, hdistinct'⟩ := List.nodup_cons.mp hdistinct
    have henter := run_enter_self hw hr hphase
    have hwithdraw := run_withdraw hc hcut key location.name image
    have hw₁ : (w.setCatalog provider (c.withdraw location.name image).2).store.Holds l := hw
    have hc₁ : (w.setCatalog provider (c.withdraw location.name image).2).catalog? provider =
        some (c.withdraw location.name image).2 := by
      rw [catalog?_setCatalog, if_pos rfl]
    rw [Pass.Job.clear, run_bind_ok henter, run_bind_ok hwithdraw]
    by_cases hfault : (.withdraw, location.name) ∈ c.faults
    · have hfailing : c.failing (location.name :: rest.map Location.name) =
          location.name :: c.failing (rest.map Location.name) :=
        List.filter_cons_of_pos (by simpa using hfault)
      rw [congrArg Prod.fst (Catalog.withdraw_of_fault hfault)]
      obtain ⟨w₂, hemit, hwrote⟩ := run_emit hw₁ (.locationDeleteFailed key location.name
        (Failure.providerFailed c.tag "delete" image location.name "injected fault").message)
      obtain ⟨c', w', hrun, hw', hc', hswept⟩ := ih hwrote.store ((hwrote.catalog? _).trans hc₁)
        ((congrArg Timeline.interrupted hwrote.timeline).trans hcut) hdistinct'
      refine ⟨c', w', ?_, hw', hc', hswept.cons hnew⟩
      rw [List.map_cons, hfailing, ← Catalog.failing_withdraw hnew]
      exact (run_bind_ok hemit _).trans (run_bind_ok hrun _)
    · have hfailing : c.failing (location.name :: rest.map Location.name) =
          c.failing (rest.map Location.name) :=
        List.filter_cons_of_neg (by simpa using hfault)
      rw [congrArg Prod.fst (Catalog.withdraw_of_sound hfault)]
      obtain ⟨c', w', hrun, hw', hc', hswept⟩ := ih hw₁ hc₁ hcut hdistinct'
      refine ⟨c', w', ?_, hw', hc', hswept.cons hnew⟩
      rw [List.map_cons, hfailing, ← Catalog.failing_withdraw hnew]
      exact hrun

/-! ### The pass -/

/-- A record is gone, and so is its image from some locations of its provider. -/
def Cleared (r : Record) (places : List String) (w : World) : Prop :=
  (∃ l, w.store.Holds l ∧ l.get? r.name = none) ∧
    ∀ m ∈ places, w.held r.spec.provider m r.spec.image = false

section

variable {s : Pass.Setup} {locations : List Location} (hw : w.store.Holds l)
  (hr : l.get? r.name = some r) (hfree : r.isReferenced = false) (hdue : r.isDeletionRequested)
  (hc : w.catalog? r.spec.provider = some c)
  (hplaces : s.providers.get? r.spec.provider = some locations)
  (hdistinct : (locations.map Location.name).Nodup) (hcut : w.timeline.interrupted = false)

include hw hr hfree hdue hc hplaces hdistinct hcut

/-- **The whole pass** over a record without consumers that is to be deleted. -/
theorem run_due :
    ∃ c' w' l', w.run (Pass.run s r.name) =
        (if c.failing (locations.map Location.name) = [] then .ok .finished
          else .error (.deletionIncomplete r.name (c.failing (locations.map Location.name))), w') ∧
      w'.catalog? r.spec.provider = some c' ∧
      c.Swept r.spec.image (locations.map Location.name) c' ∧ w'.store.Holds l' ∧
      (c.failing (locations.map Location.name) = [] → l'.get? r.name = none) ∧
      (c.failing (locations.map Location.name) ≠ [] → ∃ r', l'.get? r.name = some r' ∧
        r'.unversioned = { r.unversioned.clearLastUsed with phase := some .error }) := by
  obtain ⟨r₁, w₁, hstart, hr₁, hwrote₁⟩ := run_startRemoval hw hr rfl
  have hname₁ : r₁.name = r.name := (congrArg Record.name hr₁ :)
  have hphase₁ : r₁.phase = some .deleting := (congrArg Record.phase hr₁ :)
  have hfree₁ : r₁.isReferenced = false := (congrArg Record.isReferenced hr₁ :).trans hfree
  have hget₁ : (l.put r₁).get? r.name = some r₁ := Ledger.get?_put_of_eq hname₁
  obtain ⟨c', w₂, hclear, hw₂, hc₂, hswept⟩ := run_clear hwrote₁.store hget₁ hphase₁
    ((hwrote₁.catalog? _).trans hc) ((congrArg Timeline.interrupted hwrote₁.timeline).trans hcut)
    hdistinct r.spec.image
  have hpass : w.run (Pass.run s r.name) =
      w₁.run (Pass.clearCatalogs s r.name r >>= fun _ => Pass.takeAway r.name r) := by
    have hgo : (r.isDeletionRequested && !r.isReferenced) = true := by simp [hdue, hfree]
    rw [run_look hw hr, if_pos hgo, Pass.remove_eq, run_bind_ok hstart]
  rw [hpass, Pass.clearCatalogs, hplaces]
  cases hfailing : c.failing (locations.map Location.name) with
  | nil =>
    rw [hfailing] at hclear
    obtain ⟨w₃, htake, hwrote₃⟩ :=
      run_takeAway hw₂ (r := r₁) (hname₁ ▸ hget₁) hfree₁ (q := r) hname₁.symm
    rw [hname₁] at htake
    refine ⟨c', w₃, _, ?_, (hwrote₃.catalog? _).trans hc₂, hswept, hwrote₃.store, fun _ => ?_,
      fun hne => absurd rfl hne⟩
    · exact (run_bind_ok (run_bind_ok hclear _) _).trans htake
    · rw [Ledger.get?_erase, if_pos hname₁.symm]
  | cons location others =>
    rw [hfailing] at hclear
    obtain ⟨r', w₃, henter, hr', hwrote₃⟩ := run_enter hw₂ hget₁ hname₁ .error
    have hname' : r'.name = r.name := (congrArg Record.name hr' :).trans hname₁
    refine ⟨c', w₃, _, ?_, (hwrote₃.catalog? _).trans hc₂, hswept, hwrote₃.store,
      (fun hnil => by cases hnil), fun _ => ⟨r', Ledger.get?_put_of_eq hname', ?_⟩⟩
    · refine (run_bind_error (run_bind_ok hclear _ |>.trans ?_) _)
      exact run_bind_ok henter _
    · rw [hr', hr₁]

/-- Where no call fails, the record goes with its image. -/
theorem run_due_of_sound (hsound : c.failing (locations.map Location.name) = []) :
    (w.run (Pass.run s r.name)).1 = .ok .finished ∧
      (w.run (Pass.run s r.name)).2.Cleared r (locations.map Location.name) := by
  obtain ⟨c', w', l', hrun, hc', hswept, hw', hgone, -⟩ :=
    run_due hw hr hfree hdue hc hplaces hdistinct hcut
  rw [if_pos hsound] at hrun
  rw [hrun]
  refine ⟨rfl, ⟨l', hw', hgone hsound⟩, fun m hm => ?_⟩
  rw [held, hc', ← Bool.not_eq_true]
  intro hheld
  refine ((hswept.holds_iff m r.spec.image).mp hheld).2 ⟨rfl, hm, fun hfault => ?_⟩
  have hmem := Catalog.mem_failing.mpr ⟨hm, hfault⟩
  rw [hsound] at hmem
  cases hmem

end

end World

/-- **A deletion sweep, from end to end.** A pass over a record without consumers that is to be
deleted calls the provider once for each location, in their order. If none of these calls fails, the
record goes, and its image is at none of the locations. Otherwise the failure names the locations
where a call has failed, the image stays at these, and the record stays with its deletion request
until a pass in which no call fails. No other record and no other image changes at any moment. -/
theorem deletion_sweep (s : Service) {w : World} {l : Ledger} {r : Record} {c : Catalog}
    (hstore : w.store.Holds l) (hr : l.get? r.name = some r) (hfree : r.isReferenced = false)
    (hdue : r.isDeletionRequested) (hc : w.catalog? r.spec.provider = some c)
    (hplaces : s.setup.providers.get? r.spec.provider = some c.locations)
    (hdistinct : (c.locations.map Location.name).Nodup) (hcut : w.timeline.interrupted = false) :
    let places := c.locations.map Location.name
    let failing := c.failing places
    let after := w.run (s.pass r.name)
    (∃ c', after.2.catalog? r.spec.provider = some c' ∧
      c'.calls = c.calls ++ places.map (fun m => ⟨.withdraw, r.spec.image, m⟩) ∧
      ∀ m ∈ places, c'.holds m r.spec.image ↔ c.holds m r.spec.image ∧ m ∈ failing) ∧
    (failing = [] → after.1 = .ok .finished ∧ after.2.Cleared r places) ∧
    (failing ≠ [] → after.1 = .error (.deletionIncomplete r.name failing) ∧
      ∃ l' r', after.2.store.Holds l' ∧ l'.get? r.name = some r' ∧ r'.hasStamp = false ∧
        r'.unversioned = { r.unversioned.clearLastUsed with phase := some .error } ∧
        ∀ (w₂ : World) (c₂ : Catalog), w₂.store.Holds l' →
          w₂.catalog? r.spec.provider = some c₂ → c₂.failing places = [] →
          w₂.timeline.interrupted = false →
          (w₂.run (s.pass r.name)).1 = .ok .finished ∧
            (w₂.run (s.pass r.name)).2.Cleared r places) ∧
    ∀ p h, Rehearsal.Comes (s.pass r.name, ⟨w, []⟩) (p, h) →
      ∃ l', h.world.store.Holds l' ∧ (∀ n, n ≠ r.name → l'.get? n = l.get? n) ∧
        ∀ p m i, ¬ (p = r.spec.provider ∧ m ∈ places ∧ i = r.spec.image) →
          h.world.shelves.at? p m i = w.shelves.at? p m i := by
  intro places failing after
  obtain ⟨c', w', l', hrun, hc', hswept, hstore', -, hstays⟩ :=
    World.run_due hstore hr hfree hdue hc hplaces hdistinct hcut
  have hafter : after = (_, w') := hrun
  refine ⟨⟨c', ?_, hswept.calls_eq, fun m hm => ?_⟩, ?_, fun hfailing => ?_, fun p h hcomes => ?_⟩
  · rw [hafter]
    exact hc'
  · rw [hswept.holds_iff, Catalog.mem_failing]
    tauto
  · exact World.run_due_of_sound hstore hr hfree hdue hc hplaces hdistinct hcut
  · obtain ⟨r', hr', hsame⟩ := hstays hfailing
    have hname : r'.name = r.name := (congrArg Record.name hsame :)
    have hspec : r'.spec = r.spec := (congrArg Record.spec hsame :)
    refine ⟨?_, l', r', ?_, hr', ?_, hsame, fun w₂ c₂ hstore₂ hc₂ hsound hcut₂ => ?_⟩
    · rw [hafter]
      exact if_neg hfailing
    · rw [hafter]
      exact hstore'
    · exact (congrArg Record.hasStamp hsame :).trans (Record.hasStamp_clearLastUsed _)
    · have hfree' : r'.isReferenced = false := (congrArg Record.isReferenced hsame :).trans hfree
      have hdue' : r'.isDeletionRequested :=
        (congrArg Record.isDeletionRequested hsame :).trans hdue
      have hagain := World.run_due_of_sound (s := s.setup) (r := r') hstore₂ (hname.symm ▸ hr')
        hfree' hdue' (hspec.symm ▸ hc₂) (hspec.symm ▸ hplaces) hdistinct hcut₂ hsound
      simp only [World.Cleared, hname, hspec] at hagain
      exact hagain
  · have hfits : (s.setup.footprint r).Fits l w := Pass.fits_footprint s.setup hstore hr
    obtain ⟨l₁, hfits₁, hspares⟩ := (Pass.within_run s.setup r).comes hfits hcomes
    refine ⟨l₁, hfits₁.store, hspares.records, fun q m i hother => hspares.images q m i ?_⟩
    rintro ⟨hq, hm, hi⟩
    have hnames : (s.setup.footprint r).places = places := by
      show (s.setup.places? r.spec.provider).getD [] = places
      rw [Pass.Setup.places?, hplaces]
      rfl
    exact hother ⟨hq, hnames ▸ hm, hi⟩

/-- Of two locations the first one fails, and the pass goes on to the second one. The next pass, in
which no call fails, takes the record away. -/
theorem deletion_sweep_past_failure :
    let s := Performance.smallService .zero
    let r : Record :=
      { Record.new "flatcar" ⟨"flatcar", "capv"⟩ .epoch with
        phase := some .available, deletion := some .epoch }
    let c : Catalog :=
      { Catalog.new "capv" [.named "dc1", .named "dc2"] with
        holdings := [⟨"dc1", "flatcar"⟩, ⟨"dc2", "flatcar"⟩], faults := [(.withdraw, "dc1")] }
    let w : World :=
      { (Performance.opening .epoch).world with
        store := .ledger (Ledger.empty.put r), providers := .ofList [("capv", .catalog c)] }
    let after := w.run (s.pass "flatcar")
    let again := after.2.run (s.pass "flatcar")
    after.1 = .error (.deletionIncomplete "flatcar" ["dc1"]) ∧
      after.2.held "capv" "dc1" "flatcar" ∧ after.2.held "capv" "dc2" "flatcar" = false ∧
      again.1 = .ok .finished ∧ again.2.Cleared r ["dc1", "dc2"] := by
  intro s r c w after again
  have hc : w.catalog? "capv" = some c := rfl
  obtain ⟨⟨c', hc₁, -, hholds⟩, -, hfails, -⟩ := deletion_sweep s (w := w) (c := c) (r := r) rfl
    (Ledger.get?_put_of_eq rfl) rfl rfl hc rfl (by decide) rfl
  obtain ⟨hresult, l', -, hstore, -, -, -, hagain⟩ := hfails (by decide)
  have hafter : w.run (s.pass r.name) = after := rfl
  rw [hafter] at hresult hstore hc₁
  have hc' : after.2.catalog? "capv" = some c' := hc₁
  have hheld : ∀ m, after.2.held "capv" m "flatcar" = c'.holds m "flatcar" := by
    intro m
    rw [World.held, hc']
  -- The fault that was in store is used up.
  have hsound : c'.failing ["dc1", "dc2"] = [] := by
    have hfaults : (after.2.catalog? "capv").map Catalog.faults = some [] := by decide +kernel
    rw [hc'] at hfaults
    rw [Catalog.failing, Option.some.inj hfaults]
    rfl
  obtain ⟨hfinished, hcleared⟩ := hagain after.2 c' hstore hc' hsound (by decide +kernel)
  refine ⟨hresult, ?_, ?_, hfinished, hcleared⟩
  · rw [hheld]
    exact (hholds "dc1" (by decide)).mpr (by decide)
  · rw [hheld, Bool.eq_false_iff]
    exact fun hheld => absurd ((hholds "dc2" (by decide)).mp hheld).2 (by decide)

end ImageCatalog
