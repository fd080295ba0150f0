import ImageCatalog.Proofs.Pass.Goal
import ImageCatalog.Proofs.Store.Alike
import ImageCatalog.World

/-!
# What can be seen of a world

What a world tells a program depends on its records, on its catalogs and on the terms, which is the
sight of it. The store may be of either kind, and providers have no faults in store here.

## Interruptions

An upload takes its time and may be interrupted meanwhile; then the image does not come. If no
interruption is due, nothing keeps an upload from its end but its limit.

## Main definitions

* `Store.Holds` — a store of either kind holds the records of a ledger
* `World.held`, `World.terms` — the rest of what can be seen of a world
* `World.Bears` — a world with given records and catalogs

## Main results

* `Store.Holds.read`, `Store.Holds.replace`, `Store.Holds.remove` — stores of either kind
* `World.Bears.lookUp`, `World.Bears.upload`, `World.Bears.withdraw` — providers
-/

namespace ImageCatalog

/-! ### Stores of either kind -/

namespace Store

/-- A store holds the records of a ledger: in memory, or in the files of a folder. -/
def Holds (st : Store) (l : Ledger) : Prop :=
  match st with
  | ledger l' => l' = l
  | folder f t => ∃ place, Mirrors l f place t

variable {st : Store} {l : Ledger} {n : String} {r : Record}

theorem Holds.call (h : st.Holds l) {c : Call} (hc : c.IsValid) :
    ∃ a l' st', (ledger l).call c = (a, ledger l') ∧ st.call c = (a, st') ∧ st'.Holds l' := by
  cases st with
  | ledger l' =>
    obtain rfl : l' = l := h
    cases c <;> exact ⟨_, _, _, rfl, rfl, rfl⟩
  | folder f t =>
    obtain ⟨place, hmirrors⟩ := h
    obtain ⟨a, l', t', hledger, hfolder, hmirrors'⟩ := hmirrors.call hc
    exact ⟨a, l', _, hledger, hfolder, place, hmirrors'⟩

theorem Holds.read (h : st.Holds l) (hn : Name.fault? n = none) :
    ∃ st', st.read n = (.ok (l.get? n), st') ∧ st'.Holds l := by
  obtain ⟨a, l', st', hledger, hst, h'⟩ := h.call (c := .read n) hn
  obtain ⟨rfl, hl⟩ := Prod.mk.inj hledger
  obtain rfl := Store.ledger.inj hl
  obtain ⟨ha, rfl⟩ := Prod.mk.inj hst
  exact ⟨_, Prod.ext (Answer.read.inj ha) rfl, h'⟩

/-- What is no name is not read, or found to have no record. -/
theorem Holds.read_of_fault (h : st.Holds l) (hnone : l.get? n = none) {fault : Name.Fault}
    (hn : Name.fault? n = some fault) :
    st.read n = (.ok none, st) ∨ st.read n = (.error (.ofImageName n fault), st) := by
  cases st with
  | ledger l' =>
    obtain rfl : l' = l := h
    left
    rw [Store.read, hnone]
  | folder f t =>
    right
    rw [Store.read, Store.onFolder_eq, Folder.perform_read, Folder.path, hn]
    rfl

theorem Holds.replace (h : st.Holds l) (hn : Name.fault? r.name = none) :
    ∃ st', st.replace r = ((l.replace r).1, st') ∧ st'.Holds (l.replace r).2 := by
  obtain ⟨a, l', st', hledger, hst, h'⟩ := h.call (c := .replace r) hn
  obtain ⟨rfl, hl⟩ := Prod.mk.inj hledger
  obtain rfl := Store.ledger.inj hl
  obtain ⟨ha, rfl⟩ := Prod.mk.inj hst
  exact ⟨_, Prod.ext (Answer.stored.inj ha) rfl, h'⟩

theorem Holds.remove (h : st.Holds l) (hn : Name.fault? n = none) (version : Option UInt64) :
    ∃ st', st.remove n version = ((l.remove n version).1, st') ∧
      st'.Holds (l.remove n version).2 := by
  obtain ⟨a, l', st', hledger, hst, h'⟩ := h.call (c := .remove n version) hn
  obtain ⟨rfl, hl⟩ := Prod.mk.inj hledger
  obtain rfl := Store.ledger.inj hl
  obtain ⟨ha, rfl⟩ := Prod.mk.inj hst
  exact ⟨_, Prod.ext (Answer.removed.inj ha) rfl, h'⟩

end Store

/-! ### Time -/

namespace Timeline

/-- The work is not interrupted, and will not be. -/
def Quiet (t : Timeline) : Prop :=
  t.interrupted = false ∧ t.interruption = none

theorem Quiet.advance {t : Timeline} (h : t.Quiet) (d : Duration) : (t.advance d).Quiet := by
  obtain ⟨hnow, hlater⟩ := h
  simp [Quiet, Timeline.advance, hnow, hlater]

/-- A sleep ends by itself or at its limit, unless it is interrupted. -/
theorem sleep_cases (t : Timeline) (d limit : Duration) :
    ((t.sleep d (some limit)).1 = (if limit.nanos < (t.after d).nanos then .timedOut else .rested) ∧
        (t.Quiet → (t.sleep d (some limit)).2.Quiet)) ∨
      ((t.sleep d (some limit)).1 = .interrupted ∧ ¬ t.Quiet) := by
  by_cases hquiet : t.Quiet
  · have hsleep := hquiet.advance
    obtain ⟨hnow, hlater⟩ := hquiet
    left
    simp only [sleep, hnow, hlater, Bool.false_eq_true, if_false, Option.any_some, Option.getD_some,
      decide_eq_true_eq, true_and]
    exact fun _ => hsleep _
  · by_cases hcut : (t.sleep d (some limit)).1 = .interrupted
    · exact .inr ⟨hcut, hquiet⟩
    · refine .inl ⟨?_, fun h => absurd h hquiet⟩
      revert hcut
      simp only [sleep, Option.any_some, Option.getD_some, decide_eq_true_eq]
      repeat' split
      all_goals simp

end Timeline

/-! ### Worlds -/

/-- A call was not made, or given up, because the work was interrupted. -/
def Attempt.IsCut {α : Type} : Attempt α → Prop
  | .interrupted => True
  | .finished (.error e) => e.isCancelled
  | _ => False

theorem Attempt.IsCut.settle {α : Type} {a : Attempt α} (h : a.IsCut) (operation : String)
    (limit : Duration) : ∃ e, Program.settle operation limit a = .error e ∧ e.isCancelled := by
  cases a with
  | interrupted => exact ⟨_, rfl, rfl⟩
  | timedOut => cases h
  | finished x =>
    cases x with
    | error e => exact ⟨e, rfl, h⟩
    | ok _ => cases h

namespace World

/-- The catalogs of a provider, if it has any. -/
def catalog? (w : World) (provider : String) : Option Catalog :=
  (w.providers.get? provider).bind Provider.catalog?

/-- Whether a provider holds an image at a location. -/
def held (w : World) (provider location image : String) : Bool :=
  match w.catalog? provider with
  | some c => c.holds location image
  | none => true

/-- What passes have no influence on. -/
def terms (w : World) : Terms where
  clock := w.clock
  reachable := w.reachable
  uploadTime? := w.uploadTime?
  hasCatalog p := (w.catalog? p).isSome

/-- No provider has a fault in store. -/
def Faultless (w : World) : Prop :=
  ∀ p c, w.catalog? p = some c → c.faults = []

/-- Other catalogs come in the place of those of a provider. -/
def setCatalog (w : World) (provider : String) (c : Catalog) : World :=
  { w with providers := w.providers.insert provider (.catalog c) }

variable {w : World} {provider location image p : String} {c c' : Catalog}

theorem catalog?_setCatalog (w : World) (provider p : String) (c : Catalog) :
    (w.setCatalog provider c).catalog? p = if p = provider then some c else w.catalog? p := by
  simp only [catalog?, setCatalog, Dictionary.get?_insert]
  split <;> rfl

theorem uploadTime?_eq (w : World) (p : String) :
    w.uploadTime? p = (w.catalog? p).bind Catalog.uploadTime := rfl

/-- The terms and the faults do not depend on which image is where. -/
theorem terms_setCatalog (hc : w.catalog? provider = some c)
    (htime : c'.uploadTime = c.uploadTime) : (w.setCatalog provider c').terms = w.terms := by
  have htime' : (w.setCatalog provider c').uploadTime? = w.uploadTime? := by
    funext p
    rw [uploadTime?_eq, uploadTime?_eq, catalog?_setCatalog]
    split
    · rename_i hp
      rw [hp, hc, Option.bind_some, Option.bind_some, htime]
    · rfl
  have hcatalog : ∀ p, ((w.setCatalog provider c').catalog? p).isSome =
      (w.catalog? p).isSome := by
    intro p
    rw [catalog?_setCatalog]
    split
    · rename_i hp
      rw [hp, hc]
      rfl
    · rfl
  simp only [terms, htime', hcatalog]
  rfl

theorem Faultless.setCatalog (h : w.Faultless) (hfaults : c.faults = []) :
    (w.setCatalog provider c).Faultless := by
  intro p c' hc'
  rw [catalog?_setCatalog] at hc'
  split at hc'
  · rw [← Option.some.inj hc', hfaults]
  · exact h p c' hc'

theorem held_setCatalog (w : World) (provider : String) (c : Catalog) (p location image : String) :
    (w.setCatalog provider c).held p location image =
      if p = provider then c.holds location image else w.held p location image := by
  simp only [held, catalog?_setCatalog]
  by_cases hp : p = provider
  · simp [hp]
  · simp [hp]

theorem timeline_mapCatalog (w : World) (provider : String) (f : Catalog → Catalog) :
    (w.mapCatalog provider f).timeline = w.timeline := by
  unfold mapCatalog
  split <;> rfl

theorem mapCatalog_of_catalog (hc : w.catalog? provider = some c) (f : Catalog → Catalog) :
    w.mapCatalog provider f = w.setCatalog provider (f c) := by
  obtain ⟨p, hp, hpc⟩ := Option.bind_eq_some_iff.mp hc
  cases p with
  | idle => cases hpc
  | catalog c' =>
    obtain rfl := Option.some.inj hpc
    simp only [mapCatalog, hp]
    rfl

/-- An upload ends by itself or at its limit, unless it is interrupted. -/
theorem awaitUpload_cases (w : World) (provider location image : String) :
    ∃ a t, w.awaitUpload provider location image (some (w.timeline.after Pass.uploadLimit)) =
        (a, { w with timeline := t }) ∧ (w.timeline.Quiet → t.Quiet) ∧
      ((a = .finished (.ok ()) ∧ w.terms.tooSlow provider = false) ∨
        (a = .timedOut ∧ w.terms.tooSlow provider) ∨ (¬ w.timeline.Quiet ∧ a.IsCut)) := by
  have hslow : w.terms.tooSlow provider =
      (w.uploadTime? provider).any fun d => Pass.uploadLimit.nanos < d.nanos := rfl
  rw [awaitUpload, hslow]
  cases w.uploadTime? provider with
  | none => exact ⟨_, w.timeline, rfl, id, .inl ⟨rfl, rfl⟩⟩
  | some d =>
    dsimp only
    by_cases hnow : w.timeline.interrupted
    · rw [if_pos hnow]
      refine ⟨_, w.timeline, rfl, id, .inr (.inr ⟨fun hquiet => ?_, rfl⟩)⟩
      rw [hquiet.1] at hnow
      cases hnow
    · rw [if_neg hnow]
      have hlimit : (w.timeline.after Pass.uploadLimit).nanos < (w.timeline.after d).nanos ↔
          Pass.uploadLimit.nanos < d.nanos := Nat.add_lt_add_iff_left
      rcases w.timeline.sleep_cases d (w.timeline.after Pass.uploadLimit) with
        ⟨hawake, hquiet⟩ | ⟨hawake, hcut⟩
      · refine ⟨_, _, rfl, hquiet, ?_⟩
        rw [hawake]
        by_cases hslow : Pass.uploadLimit.nanos < d.nanos
        · rw [if_pos (hlimit.mpr hslow)]
          exact .inr (.inl ⟨rfl, by simpa using hslow⟩)
        · rw [if_neg fun h => hslow (hlimit.mp h)]
          exact .inl ⟨rfl, by simpa using hslow⟩
      · refine ⟨_, _, rfl, fun hquiet => absurd hquiet hcut, .inr (.inr ⟨hcut, ?_⟩)⟩
        rw [hawake]
        trivial

/-- A call on the catalogs of a provider. -/
theorem onProvider_of_catalog {α : Type} (hc : w.catalog? provider = some c) (idle : α)
    (call : Catalog → Except Failure α × Catalog) :
    w.onProvider provider idle call = ((call c).1, w.setCatalog provider (call c).2) := by
  have hget : (w.providers.get? provider).bind Provider.catalog? = some c := hc
  simp only [onProvider, Provider.Registry.call, hget, setCatalog]

theorem onProvider_of_none {α : Type} (hc : w.catalog? provider = none) (idle : α)
    (call : Catalog → Except Failure α × Catalog) :
    w.onProvider provider idle call = (.ok idle, w) := by
  have hget : (w.providers.get? provider).bind Provider.catalog? = none := hc
  simp only [onProvider, Provider.Registry.call, hget]

end World

/-- The catalogs with a call on record. -/
def Catalog.noted (c : Catalog) (verb : Verb) (location image : String) : Catalog :=
  { c with calls := c.calls ++ [⟨verb, image, location⟩] }

theorem Catalog.receive_of_faultless {c : Catalog} (h : c.faults = []) (verb : Verb)
    (location image : String) :
    c.receive verb location image = (.ok (), c.noted verb location image) := by
  simp [receive, noted, h]

theorem Catalog.holds_insert (c : Catalog) (location image l i : String) :
    (c.insert location image).holds l i =
      (c.holds l i || (i == image && l == location)) := by
  unfold insert
  split
  · rename_i hheld
    by_cases h : i = image ∧ l = location
    · obtain ⟨rfl, rfl⟩ := h
      simp [hheld]
    · have hfalse : (i == image && l == location) = false := by simpa using h
      rw [hfalse, Bool.or_false]
  · rw [Bool.eq_iff_iff]
    simp [holds]
    tauto

theorem Catalog.calls_insert (c : Catalog) (location image : String) :
    (c.insert location image).calls = c.calls := by
  unfold insert
  split <;> rfl

theorem Catalog.faults_insert (c : Catalog) (location image : String) :
    (c.insert location image).faults = c.faults := by
  unfold insert
  split <;> rfl

theorem Catalog.uploadTime_insert (c : Catalog) (location image : String) :
    (c.insert location image).uploadTime = c.uploadTime := by
  unfold insert
  split <;> rfl

theorem Catalog.holds_erase (c : Catalog) (location image l i : String) :
    (c.erase location image).holds l i =
      (c.holds l i && !(i == image && l == location)) := by
  rw [Bool.eq_iff_iff]
  simp [holds, erase]
  tauto

namespace World

section

variable {w w' : World} {provider location image : String} {c : Catalog} {limit : Option Duration}
  (hc : w.catalog? provider = some c) (hfaults : c.faults = [])

include hc hfaults

/-- An upload is on record as soon as it starts. -/
theorem receive_upload :
    (w.onProvider provider () fun c => c.receive .upload location image) =
      (.ok (), w.setCatalog provider (c.noted .upload location image)) := by
  rw [onProvider_of_catalog hc, Catalog.receive_of_faultless hfaults]

/-- An upload whose wait is over brings the image. -/
theorem upload_of_finished
    (hwait : (w.setCatalog provider (c.noted .upload location image)).awaitUpload provider location
      image limit = (.finished (.ok ()), w')) :
    w.upload provider location image limit =
      (.finished (.ok ()), w'.mapCatalog provider fun c => c.insert location image) := by
  simp only [upload, receive_upload hc hfaults, hwait]

/-- An upload whose wait is broken off brings nothing. -/
theorem upload_of_stopped {a : Attempt Unit}
    (hwait : (w.setCatalog provider (c.noted .upload location image)).awaitUpload provider location
      image limit = (a, w')) (ha : a ≠ .finished (.ok ())) :
    w.upload provider location image limit = (a, w') := by
  cases a with
  | finished x =>
    cases x with
    | ok _ => exact absurd rfl ha
    | error e => simp only [upload, receive_upload hc hfaults, hwait]
  | timedOut | interrupted => simp only [upload, receive_upload hc hfaults, hwait]

end

/-- A world with the records of a ledger, and with the sight that goes with it. -/
structure Bears (k : Terms) (l : Ledger) (x : Sight) (w : World) : Prop where
  store : w.store.Holds l
  named : ∀ n r, l.get? n = some r → r.name = n ∧ Name.fault? n = none
  records : ∀ n, x.records n = (l.get? n).map Record.unversioned
  held : w.held = x.held
  terms : w.terms = k
  faultless : w.Faultless

namespace Bears

variable {w : World} {k : Terms} {l : Ledger} {x x' : Sight} {provider : String} {c c' : Catalog}
  (h : w.Bears k l x)

include h

/-- Other catalogs come in the place of those of a provider. -/
theorem setCatalog (hc : w.catalog? provider = some c) (hfaults : c'.faults = c.faults)
    (htime : c'.uploadTime = c.uploadTime) (hrecords : x'.records = x.records)
    (hheld : ∀ p location image, x'.held p location image =
      if p = provider then c'.holds location image else x.held p location image) :
    (w.setCatalog provider c').Bears k l x' where
  store := h.store
  named := h.named
  records := by
    rw [hrecords]
    exact h.records
  held := by
    funext p location image
    rw [held_setCatalog, hheld, h.held]
  terms := by rw [terms_setCatalog hc htime, h.terms]
  faultless := h.faultless.setCatalog (hfaults.trans (h.faultless provider c hc))

theorem held_of_catalog (hc : w.catalog? provider = some c) (location image : String) :
    x.held provider location image = c.holds location image := by
  rw [← h.held, World.held, hc]

theorem held_of_none (hc : w.catalog? provider = none) (location image : String) :
    x.held provider location image = true := by
  rw [← h.held, World.held, hc]

theorem hasCatalog (provider : String) :
    k.hasCatalog provider = (w.catalog? provider).isSome := by
  rw [← h.terms]
  rfl

/-- A call is on record, and nothing else has changed. -/
theorem noted (hc : w.catalog? provider = some c) (verb : Verb) (location image : String) :
    (w.setCatalog provider (c.noted verb location image)).Bears k l x := by
  refine h.setCatalog hc rfl rfl rfl fun p m i => ?_
  split
  · rename_i hp
    rw [hp, h.held_of_catalog hc]
    rfl
  · rfl

/-- A look-up tells whether the image is there. -/
theorem lookUp (provider location image : String) :
    ∃ w', w.lookUp provider location image = (.ok (x.held provider location image), w') ∧
      w'.Bears k l x ∧ w'.timeline = w.timeline := by
  cases hc : w.catalog? provider with
  | none =>
    refine ⟨w, ?_, h, rfl⟩
    rw [World.lookUp, onProvider_of_none hc, h.held_of_none hc]
  | some c =>
    refine ⟨_, ?_, h.noted hc .lookUp location image, rfl⟩
    have hcall : c.lookUp location image =
        (.ok (c.holds location image), c.noted .lookUp location image) := by
      rw [Catalog.lookUp, Catalog.receive_of_faultless (h.faultless provider c hc)]
      rfl
    rw [World.lookUp, onProvider_of_catalog hc, hcall, h.held_of_catalog hc]

/-- A withdrawal takes the image out. -/
theorem withdraw (spec : Spec) (location : String) :
    ∃ w', w.withdraw spec.provider location spec.image = (.ok (), w') ∧
      w'.Bears k l (x.take k spec [location]) ∧ w'.timeline = w.timeline := by
  cases hc : w.catalog? spec.provider with
  | none =>
    have hnone : k.hasCatalog spec.provider = false := by
      rw [h.hasCatalog, hc]
      rfl
    refine ⟨w, ?_, ?_, rfl⟩
    · rw [World.withdraw, onProvider_of_none hc]
    · rw [Sight.take_of_not_held fun _ _ hsome => by simp [hnone] at hsome]
      exact h
  | some c =>
    have hsome : k.hasCatalog spec.provider = true := by
      rw [h.hasCatalog, hc]
      rfl
    have hcall : c.withdraw location spec.image =
        (.ok (), (c.noted .withdraw location spec.image).erase location spec.image) := by
      rw [Catalog.withdraw, Catalog.receive_of_faultless (h.faultless _ c hc)]
    refine ⟨w.setCatalog spec.provider
      ((c.noted .withdraw location spec.image).erase location spec.image), ?_, ?_, rfl⟩
    · rw [World.withdraw, onProvider_of_catalog hc, hcall]
    · refine h.setCatalog hc rfl rfl rfl fun p m i => ?_
      rw [Catalog.holds_erase]
      split
      · rename_i hp
        subst hp
        rw [Bool.eq_iff_iff]
        simp [Sight.take, hsome, h.held_of_catalog hc, Catalog.noted, Catalog.holds]
      · rename_i hp
        simp [Sight.take, hp]

/-- The time that passes, and whether the work is interrupted, are out of sight. -/
theorem withTimeline (t : Timeline) : World.Bears k l x { w with timeline := t } :=
  ⟨h.store, h.named, h.records, h.held, h.terms, h.faultless⟩

/-- An image is there once its upload has ended. -/
theorem insert (spec : Spec) (hc : w.catalog? spec.provider = some c) (location : String) :
    (w.mapCatalog spec.provider fun c => c.insert location spec.image).Bears k l
      (x.bring spec [location]) := by
  rw [mapCatalog_of_catalog hc]
  refine h.setCatalog hc (c.faults_insert ..) (c.uploadTime_insert ..) rfl fun p m i => ?_
  rw [Catalog.holds_insert]
  split
  · rename_i hp
    subst hp
    rw [Bool.eq_iff_iff]
    simp [Sight.bring, h.held_of_catalog hc]
  · rename_i hp
    simp [Sight.bring, hp]

/-- **An upload of an image that is not there**: it is there afterwards, unless the upload runs out
of time or is interrupted. -/
theorem upload (spec : Spec) (location : String)
    (hlacks : x.held spec.provider location spec.image = false) :
    ∃ a w', w.upload spec.provider location spec.image (some (w.timeline.after Pass.uploadLimit)) =
        (a, w') ∧ (w.timeline.Quiet → w'.timeline.Quiet) ∧
      ((k.tooSlow spec.provider = false ∧ a = .finished (.ok ()) ∧
          w'.Bears k l (x.bring spec [location])) ∨
        (k.tooSlow spec.provider ∧ a = .timedOut ∧ w'.Bears k l x) ∨
        (¬ w.timeline.Quiet ∧ a.IsCut ∧ w'.Bears k l x)) := by
  cases hc : w.catalog? spec.provider with
  | none =>
    rw [h.held_of_none hc] at hlacks
    cases hlacks
  | some c =>
    have hfaults := h.faultless _ c hc
    have hnoted := h.noted hc .upload location spec.image
    have hc' : (w.setCatalog spec.provider (c.noted .upload location spec.image)).catalog?
        spec.provider = some (c.noted .upload location spec.image) := by
      rw [catalog?_setCatalog, if_pos rfl]
    obtain ⟨a, t, hwait, hquiet, hcases⟩ :=
      (w.setCatalog spec.provider (c.noted .upload location spec.image)).awaitUpload_cases
        spec.provider location spec.image
    rw [hnoted.terms] at hcases
    have hnoted' := hnoted.withTimeline t
    rcases hcases with ⟨rfl, hfast⟩ | ⟨rfl, hslow⟩ | ⟨hcut, ha⟩
    · refine ⟨_, _, upload_of_finished hc hfaults hwait, ?_,
        .inl ⟨hfast, rfl, hnoted'.insert spec hc' location⟩⟩
      rw [timeline_mapCatalog]
      exact hquiet
    · exact ⟨_, _, upload_of_stopped hc hfaults hwait (by simp), hquiet,
        .inr (.inl ⟨hslow, rfl, hnoted'⟩)⟩
    · have hstopped : a ≠ .finished (.ok ()) := by
        rintro rfl
        cases ha
      exact ⟨_, _, upload_of_stopped hc hfaults hwait hstopped, hquiet,
        .inr (.inr ⟨hcut, ha, hnoted'⟩)⟩

end Bears

end World

end ImageCatalog
