import ImageCatalog.Pass
import ImageCatalog.Proofs.Dictionary
import ImageCatalog.Proofs.Pass.Walk
import ImageCatalog.Proofs.Retention.Grace

/-!
# What a pass comes to

As long as no provider fails and nobody lands, a pass comes to an end that can be told beforehand,
from the records, from which image is where, and from a few terms that it has no influence on. The
end is told here without any of the steps that lead to it: either the record goes, with its image,
or it waits, or the image is at all locations, unless something stands in the way.

What counts in all of this is the *sight* of a world. It leaves out how often a record was written
and in which order a catalog was filled.

## Steps on the way

Most steps of a pass change the sight but not the goal: an upload to one of the locations, a
withdrawal from one of them, a phase that is entered on the way. So a pass that is cut short can be
taken up by another one. The lemmas on `removalGoal` and `placingGoal` say so for each step, and
`Pass.goal_goal` says that there is nothing left to do for a pass after a pass.

## Main definitions

* `Sight` — records and catalogs, as far as they matter
* `Terms` — what a pass has no influence on
* `Pass.goal` — the result of a pass, and the sight after it

## Main results

* `Pass.placesGoal_cons` — one location after the other
* `Pass.placesGoal_bring`, `Pass.removalGoal_take` — an upload or a withdrawal is a step on the way
* `Pass.goal_goal` — a pass after a pass changes nothing
-/

namespace ImageCatalog

/-- A record, however often it was written. -/
def Record.unversioned (r : Record) : Record :=
  { r with version := 0 }

/-- What a pass has no influence on. -/
structure Terms where
  clock : Instant
  /-- Whether artifacts are reachable. -/
  reachable : Bool
  /-- How long an upload to a provider takes. -/
  uploadTime? : String → Option Duration
  /-- Whether a provider has catalogs. One that has none is said to hold every image. -/
  hasCatalog : String → Bool

/-- Whether uploads to a provider run out of time. -/
def Terms.tooSlow (k : Terms) (provider : String) : Bool :=
  (k.uploadTime? provider).any fun d => Pass.uploadLimit.nanos < d.nanos

/-- What can be seen of a world: its records, and which provider holds which image where. -/
@[ext]
structure Sight where
  records : String → Option Record
  held : (provider location image : String) → Bool

namespace Sight

/-- The record of a name becomes another one, or goes. -/
def put (x : Sight) (name : String) (r : Option Record) : Sight :=
  { x with records := fun n => if n = name then r else x.records n }

/-- An image comes to some locations. -/
def bring (x : Sight) (spec : Spec) (places : List String) : Sight :=
  { x with
    held := fun p l i =>
      x.held p l i || (p == spec.provider && i == spec.image && places.contains l) }

/-- An image goes from some locations. It stays with a provider that has no catalogs. -/
def take (x : Sight) (k : Terms) (spec : Spec) (places : List String) : Sight :=
  { x with
    held := fun p l i =>
      x.held p l i &&
        !(k.hasCatalog p && p == spec.provider && i == spec.image && places.contains l) }

/-- The first location that lacks an image. -/
def lacking? (x : Sight) (spec : Spec) (places : List String) : Option String :=
  places.find? fun l => !x.held spec.provider l spec.image

variable {x : Sight} {k : Terms} {spec : Spec} {name : String} {r r' : Option Record}
  {places : List String}

@[simp] theorem records_put (x : Sight) (name : String) (r : Option Record) :
    (x.put name r).records name = r :=
  if_pos rfl

@[simp] theorem put_put (x : Sight) (name : String) (r r' : Option Record) :
    (x.put name r).put name r' = x.put name r' := by
  ext n : 2
  · simp only [put]
    split <;> rfl
  · rfl

theorem put_self (h : x.records name = r) : x.put name r = x := by
  ext n : 2
  · simp only [put]
    split
    · rename_i hn
      rw [hn, h]
    · rfl
  · rfl

@[simp] theorem bring_put : (x.put name r).bring spec places = (x.bring spec places).put name r :=
  rfl

@[simp] theorem take_put : (x.put name r).take k spec places = (x.take k spec places).put name r :=
  rfl

@[simp] theorem lacking?_put : (x.put name r).lacking? spec places = x.lacking? spec places := rfl

theorem bring_bring {l : String} (h : l ∈ places) :
    (x.bring spec [l]).bring spec places = x.bring spec places := by
  have hmem : ∀ m, ([l].contains m || places.contains m) = places.contains m := by
    intro m
    by_cases hm : m = l
    · simp [hm, h]
    · simp [hm]
  ext p m i : 4
  · rfl
  · simp only [bring, Bool.or_assoc]
    rw [← Bool.and_or_distrib_left, hmem]

theorem bring_cons (l : String) :
    x.bring spec (l :: places) = (x.bring spec [l]).bring spec places := by
  ext p m i : 4
  · rfl
  · simp only [bring, Bool.or_assoc]
    rw [← Bool.and_or_distrib_left]
    simp

theorem take_cons (l : String) :
    x.take k spec (l :: places) = (x.take k spec [l]).take k spec places := by
  ext p m i : 4
  · rfl
  · rw [Bool.eq_iff_iff]
    simp [take]
    grind

theorem take_take {l : String} (h : l ∈ places) :
    (x.take k spec [l]).take k spec places = x.take k spec places := by
  ext p m i : 4
  · rfl
  · simp only [take, Bool.and_assoc]
    by_cases hm : m = l
    · simp [hm, h]
    · simp [hm]

/-- An image that is everywhere need not be brought anywhere. -/
theorem bring_of_held (h : ∀ l ∈ places, x.held spec.provider l spec.image) :
    x.bring spec places = x := by
  ext p m i : 4
  · rfl
  · simp only [bring]
    by_cases hm : p = spec.provider ∧ i = spec.image ∧ m ∈ places
    · obtain ⟨rfl, rfl, hmem⟩ := hm
      simp [h m hmem]
    · have hfalse : (p == spec.provider && i == spec.image && places.contains m) = false := by
        simpa [and_assoc] using hm
      rw [hfalse, Bool.or_false]

/-- An image that is nowhere need not be taken from anywhere. -/
theorem take_of_not_held
    (h : ∀ l ∈ places, k.hasCatalog spec.provider → x.held spec.provider l spec.image = false) :
    x.take k spec places = x := by
  ext p m i : 4
  · rfl
  · simp only [take]
    by_cases hm : k.hasCatalog p ∧ p = spec.provider ∧ i = spec.image ∧ m ∈ places
    · obtain ⟨hc, rfl, rfl, hmem⟩ := hm
      simp [h m hmem hc]
    · have hfalse : (k.hasCatalog p && p == spec.provider && i == spec.image &&
          places.contains m) = false := by
        simpa [and_assoc] using hm
      rw [hfalse, Bool.not_false, Bool.and_true]

theorem lacking?_eq_none :
    x.lacking? spec places = none ↔ ∀ l ∈ places, x.held spec.provider l spec.image := by
  simp [lacking?, List.find?_eq_none]

end Sight

namespace Pass

/-- The names of the locations of a provider, if passes know it. -/
def Setup.places? (s : Setup) (provider : String) : Option (List String) :=
  (s.providers.get? provider).map fun locations => locations.map Location.name

/-- The failure of an upload that runs out of time. -/
def tooLong (key : String) (spec : Spec) (location : String) : Failure :=
  .timeout (Job.describe ⟨key, spec.provider, spec.image⟩ "create" location) uploadLimit

/-- What it comes to when an image is brought to some locations. The record stays as it is if there
are none. -/
def placesGoal (k : Terms) (key : String) (r : Record) (x : Sight) (places : List String) :
    Except Failure Job.Placed × Sight :=
  let enter (phase : Phase) : Sight := x.put key (some { r with phase := some phase })
  if places.isEmpty then (.ok .everywhere, x.put key (some r))
  else if !k.reachable then (.ok .sourceMissing, enter .missing)
  else
    match if k.tooSlow r.spec.provider then x.lacking? r.spec places else none with
    | some location => (.error (tooLong key r.spec location), enter .error)
    | none => (.ok .everywhere, (enter .available).bring r.spec places)

/-- When to look again after an image was brought to its locations. -/
def Job.Placed.outcome : Job.Placed → Outcome
  | everywhere => .after requeueInterval
  | sourceMissing => .after missingInterval

/-- What it comes to when the image of a record is brought to the locations of its provider. -/
def placingGoal (s : Setup) (k : Terms) (key : String) (r : Record) (x : Sight) :
    Except Failure Outcome × Sight :=
  let url := s.source.artifact r.spec.image
  let failed : Sight := x.put key (some { r with phase := some .error })
  match Artifact.addressFault? url, s.places? r.spec.provider with
  | some fault, _ => (.error (.invalidSourceUrl url fault.message), failed)
  | none, none => (.ok (.after requeueInterval), failed)
  | none, some places => (placesGoal k key r x places).map (·.map Job.Placed.outcome) id

/-- What it comes to when a record is removed. -/
def removalGoal (s : Setup) (k : Terms) (key : String) (spec : Spec) (x : Sight) :
    Except Failure Outcome × Sight :=
  let cleared :=
    match s.places? spec.provider with
    | some places => x.take k spec places
    | none => x
  (.ok .finished, cleared.put key none)

/-- What a pass comes to: its result, and the sight after it. -/
def goal (s : Setup) (k : Terms) (key : String) (x : Sight) : Except Failure Outcome × Sight :=
  match x.records key with
  | none => (.ok .finished, x)
  | some r =>
    if r.isDeletionRequested && !r.isReferenced then removalGoal s k key r.spec x
    else
      let r := { r with deletion := none }
      match Retention.decide s.period r k.clock with
      | .notEligible =>
        placingGoal s k key
          (if r.isReferenced && r.phase == some .awaitingDeletion then r.revive else r) x
      | .deleteNow => removalGoal s k key r.spec x
      | .startGracePeriod requeue =>
        (.ok (.after requeue),
          x.put key (some ({ r with phase := some .awaitingDeletion }.stampLastUsed k.clock)))
      | .wait remaining => (.ok (.after remaining), x)

/-- Somebody needs the record of a name, or a pass has looked at it. -/
def Ripe (key : String) (x : Sight) : Prop :=
  ∀ r, x.records key = some r → r.isReferenced ∨ r.phase ≠ none

variable {s : Setup} {k : Terms} {key : String} {r : Record} {x : Sight} {spec : Spec}

/-! ### Removals -/

@[simp] theorem removalGoal_put (q : Option Record) :
    removalGoal s k key spec (x.put key q) = removalGoal s k key spec x := by
  unfold removalGoal
  split <;> simp

/-- A withdrawal is a step on the way. -/
theorem removalGoal_take {places : List String} (hs : s.places? spec.provider = some places)
    {l : String} (hl : l ∈ places) :
    removalGoal s k key spec (x.take k spec [l]) = removalGoal s k key spec x := by
  simp only [removalGoal, hs, Sight.take_take hl]

theorem goal_of_due (hr : x.records key = some r) (hreq : r.isDeletionRequested)
    (hfree : r.isReferenced = false) : goal s k key x = removalGoal s k key r.spec x := by
  simp [goal, hr, hreq, hfree]

/-! ### Placements -/

@[simp] theorem placesGoal_put (q : Option Record) (places : List String) :
    placesGoal k key r (x.put key q) places = placesGoal k key r x places := by
  unfold placesGoal
  simp

@[simp] theorem placingGoal_put (q : Option Record) :
    placingGoal s k key r (x.put key q) = placingGoal s k key r x := by
  unfold placingGoal
  simp

/-- The phase that a record is in does not matter if there is a location. -/
theorem placesGoal_enter (phase : Option Phase) {places : List String} (hne : places ≠ []) :
    placesGoal k key { r with phase := phase } x places = placesGoal k key r x places := by
  have hempty : places.isEmpty = false := by simpa using hne
  simp only [placesGoal, hempty]
  rfl

theorem placingGoal_enter (phase : Option Phase) (hne : s.places? r.spec.provider ≠ some []) :
    placingGoal s k key { r with phase := phase } x = placingGoal s k key r x := by
  unfold placingGoal
  dsimp only
  split
  · rfl
  · rfl
  · rename_i places _ hs
    rw [placesGoal_enter phase (by rintro rfl; exact hne hs)]

/-- What it comes to if nothing stands in the way. -/
theorem placesGoal_of_reachable (key : String) {places : List String} (hne : places ≠ [])
    (hreach : k.reachable)
    (hfast : k.tooSlow r.spec.provider = false ∨ x.lacking? r.spec places = none) :
    placesGoal k key r x places =
      (.ok .everywhere,
        (x.put key (some { r with phase := some .available })).bring r.spec places) := by
  have hempty : places.isEmpty = false := by simpa using hne
  have hnone : (if k.tooSlow r.spec.provider then x.lacking? r.spec places else none) = none := by
    rcases hfast with hfast | hfast
    · simp [hfast]
    · simp [hfast]
  simp only [placesGoal, hempty, hreach, hnone]
  rfl

/-- What it comes to if the artifact is not reachable. -/
theorem placesGoal_of_not_reachable (key : String) (r : Record) (x : Sight) {places : List String}
    (hne : places ≠ []) (hreach : k.reachable = false) :
    placesGoal k key r x places =
      (.ok .sourceMissing, x.put key (some { r with phase := some .missing })) := by
  have hempty : places.isEmpty = false := by simpa using hne
  simp only [placesGoal, hempty, hreach]
  rfl

/-- What it comes to if uploads run out of time. -/
theorem placesGoal_of_tooSlow (key : String) {places : List String} (hreach : k.reachable)
    (hslow : k.tooSlow r.spec.provider) {location : String}
    (hlacks : x.lacking? r.spec places = some location) :
    placesGoal k key r x places =
      (.error (tooLong key r.spec location),
        x.put key (some { r with phase := some .error })) := by
  have hempty : places.isEmpty = false := by
    cases places with
    | nil => cases hlacks
    | cons => rfl
  simp only [placesGoal, hempty, hreach, hslow, hlacks]
  rfl

/-- **One location after the other.** -/
theorem placesGoal_cons (hreach : k.reachable) (l : String) (places : List String) :
    placesGoal k key r x (l :: places) =
      match placesGoal k key r x [l] with
      | (.ok _, x') => placesGoal k key { r with phase := some .available } x' places
      | (.error e, x') => (.error e, x') := by
  by_cases hfast : k.tooSlow r.spec.provider = false ∨ x.held r.spec.provider l r.spec.image
  case neg =>
    obtain ⟨hslow, hlacks⟩ := not_or.mp hfast
    have hlacks' : ∀ rest, x.lacking? r.spec (l :: rest) = some l := by
      intro rest
      simp [Sight.lacking?, hlacks]
    rw [placesGoal_of_tooSlow key hreach (by simpa using hslow) (hlacks' places),
      placesGoal_of_tooSlow key hreach (by simpa using hslow) (hlacks' [])]
  case pos =>
    have hone : k.tooSlow r.spec.provider = false ∨ x.lacking? r.spec [l] = none :=
      hfast.imp_right fun hheld => Sight.lacking?_eq_none.mpr (by simpa using hheld)
    rw [placesGoal_of_reachable key (List.cons_ne_nil l []) hreach hone]
    dsimp only
    by_cases hne : places = []
    · subst hne
      rw [placesGoal_of_reachable key (List.cons_ne_nil l []) hreach hone]
      simp [placesGoal]
    rw [Sight.bring_put, placesGoal_put, placesGoal_enter _ hne]
    rcases hfast with hfast | hheld
    · rw [placesGoal_of_reachable key (List.cons_ne_nil l places) hreach (.inl hfast),
        placesGoal_of_reachable key hne hreach (.inl hfast), Sight.bring_put, Sight.bring_put,
        Sight.bring_cons]
    · have hbring : x.bring r.spec [l] = x := Sight.bring_of_held (by simpa using hheld)
      have hcons : x.bring r.spec (l :: places) = x.bring r.spec places := by
        rw [Sight.bring_cons, hbring]
      have hlacking : x.lacking? r.spec (l :: places) = x.lacking? r.spec places := by
        simp [Sight.lacking?, hheld]
      have hempty : places.isEmpty = false := by simpa using hne
      simp only [placesGoal, hlacking, hempty, List.isEmpty_cons, Sight.bring_put, hbring, hcons]

/-- An upload is a step on the way. -/
theorem placesGoal_bring {places : List String} (hreach : k.reachable)
    (hslow : k.tooSlow r.spec.provider = false) {l : String} (hl : l ∈ places) :
    placesGoal k key r (x.bring r.spec [l]) places = placesGoal k key r x places := by
  have hne := List.ne_nil_of_mem hl
  rw [placesGoal_of_reachable key hne hreach (.inl hslow),
    placesGoal_of_reachable key hne hreach (.inl hslow), ← Sight.bring_put, Sight.bring_bring hl]

/-- What it comes to at the locations of a provider. -/
theorem placingGoal_of_places {places : List String}
    (hurl : Artifact.addressFault? (s.source.artifact r.spec.image) = none)
    (hs : s.places? r.spec.provider = some places) :
    placingGoal s k key r x = (placesGoal k key r x places).map (·.map Job.Placed.outcome) id := by
  simp only [placingGoal, hurl, hs]

/-- **A placement after a placement changes nothing.** The record at its end is the one at its
beginning but for the phase. -/
theorem placesGoal_again (k : Terms) (key : String) (r : Record) (x : Sight)
    (places : List String) :
    ∃ phase, (phase = r.phase ∨ ∃ p, phase = some p ∧ p ≠ .awaitingDeletion) ∧
      (placesGoal k key r x places).2.records key = some { r with phase := phase } ∧
      placesGoal k key { r with phase := phase } (placesGoal k key r x places).2 places =
        placesGoal k key r x places := by
  by_cases hne : places = []
  · subst hne
    refine ⟨r.phase, .inl rfl, Sight.records_put .., ?_⟩
    simp [placesGoal]
  by_cases hreach : k.reachable
  · by_cases hfast : k.tooSlow r.spec.provider = false ∨ x.lacking? r.spec places = none
    · have hheld : ∀ l ∈ places,
          (x.bring r.spec places).held r.spec.provider l r.spec.image := by
        intro l hl
        simp [Sight.bring, hl]
      have hagain : placesGoal k key r (x.bring r.spec places) places =
          placesGoal k key r x places := by
        rw [placesGoal_of_reachable key hne hreach hfast,
          placesGoal_of_reachable key hne hreach (.inr (Sight.lacking?_eq_none.mpr hheld)),
          Sight.bring_put, Sight.bring_put, Sight.bring_of_held hheld]
      have hgoal := placesGoal_of_reachable key hne hreach hfast
      rw [Sight.bring_put] at hgoal
      refine ⟨some .available, .inr ⟨_, rfl, by decide⟩, ?_, ?_⟩
      · rw [hgoal]
        exact Sight.records_put ..
      · rw [placesGoal_enter _ hne, hgoal, placesGoal_put, hagain, hgoal]
    · obtain ⟨hslow, hlacks⟩ := not_or.mp hfast
      obtain ⟨location, hlacks⟩ := Option.ne_none_iff_exists'.mp hlacks
      have hgoal := placesGoal_of_tooSlow key hreach (by simpa using hslow) hlacks
      refine ⟨some .error, .inr ⟨_, rfl, by decide⟩, ?_, ?_⟩
      · rw [hgoal]
        exact Sight.records_put ..
      · rw [placesGoal_enter _ hne, hgoal, placesGoal_put, hgoal]
  · have hgoal := placesGoal_of_not_reachable key r x hne (by simpa using hreach)
    refine ⟨some .missing, .inr ⟨_, rfl, by decide⟩, ?_, ?_⟩
    · rw [hgoal]
      exact Sight.records_put ..
    · rw [placesGoal_enter _ hne, hgoal, placesGoal_put, hgoal]

theorem placingGoal_again (s : Setup) (k : Terms) (key : String) (r : Record) (x : Sight) :
    ∃ phase, (phase = r.phase ∨ ∃ p, phase = some p ∧ p ≠ .awaitingDeletion) ∧
      (placingGoal s k key r x).2.records key = some { r with phase := phase } ∧
      placingGoal s k key { r with phase := phase } (placingGoal s k key r x).2 =
        placingGoal s k key r x := by
  cases hurl : Artifact.addressFault? (s.source.artifact r.spec.image) with
  | some fault =>
    refine ⟨some .error, .inr ⟨_, rfl, by decide⟩, ?_, ?_⟩ <;> simp [placingGoal, hurl]
  | none =>
    cases hs : s.places? r.spec.provider with
    | none =>
      refine ⟨some .error, .inr ⟨_, rfl, by decide⟩, ?_, ?_⟩ <;> simp [placingGoal, hurl, hs]
    | some places =>
      obtain ⟨phase, hphase, hrecord, hagain⟩ := placesGoal_again k key r x places
      have hgoal : ∀ (phase : Option Phase) (x : Sight),
          placingGoal s k key { r with phase := phase } x =
            (placesGoal k key { r with phase := phase } x places).map
              (·.map Job.Placed.outcome) id :=
        fun phase x => placingGoal_of_places hurl hs
      refine ⟨phase, hphase, ?_, ?_⟩
      · rw [hgoal r.phase]
        exact hrecord
      · rw [hgoal r.phase, hgoal phase]
        exact congrArg _ hagain

/-! ### Goals -/

/-- What retention has in store for a record without a deletion request. -/
theorem goal_of_decide (hr : x.records key = some r) (hdeletion : r.deletion = none) :
    goal s k key x =
      match Retention.decide s.period r k.clock with
      | .notEligible =>
        placingGoal s k key
          (if r.isReferenced && r.phase == some .awaitingDeletion then r.revive else r) x
      | .deleteNow => removalGoal s k key r.spec x
      | .startGracePeriod requeue =>
        (.ok (.after requeue),
          x.put key (some ({ r with phase := some .awaitingDeletion }.stampLastUsed k.clock)))
      | .wait remaining => (.ok (.after remaining), x) := by
  have hself : { r with deletion := none } = r := by
    rw [← hdeletion]
  simp only [goal, hr, Record.isDeletionRequested, hdeletion, Option.isSome_none, Bool.false_and,
    Bool.false_eq_true, if_false, hself]

/-- Retention leaves alone what somebody needs. -/
theorem decide_of_referenced (href : r.isReferenced) (period : Duration) (t : Instant) :
    Retention.decide period r t = .notEligible := by
  simp [Retention.decide, href]

/-- The period that starts is the one that passes are set up with. -/
theorem eq_of_startGracePeriod {period d : Duration} {t : Instant}
    (h : Retention.decide period r t = .startGracePeriod d) : d = period := by
  unfold Retention.decide at h
  repeat' split at h
  all_goals first | (cases h; done) | exact (Retention.Decision.startGracePeriod.inj h).symm

/-- What a record comes to that somebody needs. -/
theorem goal_of_referenced (hr : x.records key = some r) (hdeletion : r.deletion = none)
    (href : r.isReferenced) (hphase : r.phase ≠ some .awaitingDeletion) :
    goal s k key x = placingGoal s k key r x := by
  have hkept : (r.isReferenced && r.phase == some .awaitingDeletion) = false := by
    simpa [href] using hphase
  rw [goal_of_decide hr hdeletion, decide_of_referenced href]
  simp only [hkept, Bool.false_eq_true, if_false]

/-- The end of a wait for deletion is a step on the way. -/
theorem goal_endWait (hr : x.records key = some r) (hdeletion : r.deletion = none)
    (href : r.isReferenced) (hphase : r.phase = some .awaitingDeletion) :
    goal s k key x = placingGoal s k key r.revive x := by
  have hends : (r.isReferenced && r.phase == some .awaitingDeletion) = true := by
    simp [href, hphase]
  rw [goal_of_decide hr hdeletion, decide_of_referenced href]
  simp only [hends, if_true]

/-- A record that is not removed has its deletion request dropped, if there is one. -/
theorem goal_dropDeletion (hr : x.records key = some r)
    (hdue : (r.isDeletionRequested && !r.isReferenced) = false) :
    goal s k key (x.put key (some { r with deletion := none })) = goal s k key x := by
  by_cases hdeletion : r.deletion = none
  · have hself : { r with deletion := none } = r := by
      rw [← hdeletion]
    rw [hself, Sight.put_self hr]
  · have href : ({ r with deletion := none } : Record).isReferenced := by
      have hreq : r.isDeletionRequested := Option.isSome_iff_ne_none.mpr hdeletion
      have href : r.isReferenced := by simpa [hreq] using hdue
      exact href
    rw [goal_of_decide (Sight.records_put ..) rfl, decide_of_referenced href]
    simp only [goal, hr, hdue, Bool.false_eq_true, if_false, decide_of_referenced href,
      placingGoal_put]

/-- A wait for deletion that has begun goes on for as long. -/
theorem goal_of_stamped (hfree : r.isReferenced = false) (hdeletion : r.deletion = none)
    (hphase : r.phase = some .awaitingDeletion)
    (hann : r.annotations.get? Record.lastUsedKey = some k.clock.stamp)
    (hagain : { r with phase := some .awaitingDeletion }.stampLastUsed k.clock = r)
    (hperiod : s.period.isZero = false) (hr : x.records key = some r) :
    goal s k key x = (.ok (.after s.period), x) := by
  have hnow : Retention.elapsed k.clock k.clock = .zero := by
    rw [Retention.elapsed, Instant.since_self]
    rfl
  have hpos : ¬ s.period.nanos ≤ 0 := by
    simpa [Duration.isZero] using hperiod
  rw [goal_of_decide hr hdeletion]
  by_cases hyear : 0 ≤ k.clock.year ∧ k.clock.year ≤ 9999
  · have hstamp : r.lastUsed? = some k.clock := by
      rw [Record.lastUsed?_of_stamp hann, if_pos hyear]
    have hd : Retention.decide s.period r k.clock = .wait s.period := by
      simp [Retention.decide, hfree, hphase, hperiod, hstamp, hnow, hpos, Duration.zero]
    rw [hd]
  · -- A stamp that cannot be read is written once more.
    have hstamp : r.lastUsed? = none := by
      rw [Record.lastUsed?_of_stamp hann, if_neg hyear]
    have hd : Retention.decide s.period r k.clock = .startGracePeriod s.period := by
      simp [Retention.decide, hfree, hphase, hperiod, hstamp]
    rw [hd, hagain, Sight.put_self hr]

/-! ### A pass after a pass -/

theorem goal_removalGoal (spec : Spec) :
    goal s k key (removalGoal s k key spec x).2 = removalGoal s k key spec x := by
  simp [goal, removalGoal]

/-- After the image has been placed, it is placed. -/
theorem goal_goal_of_referenced (hr : x.records key = some r) (hdeletion : r.deletion = none)
    (href : r.isReferenced) : goal s k key (goal s k key x).2 = goal s k key x := by
  have hgoal : ∃ q, q.deletion = none ∧ q.isReferenced ∧ q.phase ≠ some .awaitingDeletion ∧
      goal s k key x = placingGoal s k key q x := by
    by_cases hphase : r.phase = some .awaitingDeletion
    · exact ⟨r.revive, rfl, href, r.phase_revive_ne, goal_endWait hr hdeletion href hphase⟩
    · exact ⟨r, hdeletion, href, hphase, goal_of_referenced hr hdeletion href hphase⟩
  obtain ⟨q, hdeletion', href', hphase', hgoal⟩ := hgoal
  obtain ⟨phase, hphase, hrecord, hagain⟩ := placingGoal_again s k key q x
  have hne : phase ≠ some .awaitingDeletion := by
    rcases hphase with rfl | ⟨p, rfl, hp⟩
    · exact hphase'
    · exact fun h => hp (Option.some.inj h)
  rw [hgoal, goal_of_referenced hrecord hdeletion' href' hne, hagain]

/-- After a wait for deletion has begun, it goes on for as long. -/
theorem goal_goal_of_startGracePeriod (hr : x.records key = some r) (hdeletion : r.deletion = none)
    {d : Duration} (hd : Retention.decide s.period r k.clock = .startGracePeriod d) :
    goal s k key (goal s k key x).2 = goal s k key x := by
  obtain rfl := eq_of_startGracePeriod hd
  have hfree := Retention.isReferenced_of_startGracePeriod hd
  have hperiod : s.period.isZero = false := by
    have hpos := Retention.pos_of_startGracePeriod hd
    simp [Duration.isZero, Nat.ne_of_gt hpos]
  have hagain : ({ r with phase := some .awaitingDeletion }.stampLastUsed k.clock).stampLastUsed
      k.clock = { r with phase := some .awaitingDeletion }.stampLastUsed k.clock := by
    simp only [Record.stampLastUsed, Dictionary.insert_insert_self]
  rw [goal_of_decide hr hdeletion, hd]
  exact goal_of_stamped (r := { r with phase := some .awaitingDeletion }.stampLastUsed k.clock)
    hfree hdeletion rfl (Dictionary.get?_insert_self ..) hagain hperiod (Sight.records_put ..)

/-- **A pass after a pass changes nothing**, and comes to the same result. -/
theorem goal_goal (hripe : Ripe key x) :
    goal s k key (goal s k key x).2 = goal s k key x := by
  cases hr : x.records key with
  | none => simp [goal, hr]
  | some r =>
    by_cases hdue : (r.isDeletionRequested && !r.isReferenced) = true
    · obtain ⟨hreq, hfree⟩ : r.isDeletionRequested = true ∧ r.isReferenced = false := by
        simpa using hdue
      rw [goal_of_due hr hreq hfree, goal_removalGoal]
    -- A deletion request that is dropped is dropped for good.
    rw [Bool.not_eq_true] at hdue
    rw [← goal_dropDeletion hr hdue]
    have hr' := Sight.records_put x key (some { r with deletion := none })
    cases hd : Retention.decide s.period { r with deletion := none } k.clock with
    | notEligible =>
      have href : r.isReferenced := by
        rcases Retention.of_notEligible hd with href | hnone
        · exact href
        · exact (hripe r hr).resolve_right fun hphase => hphase hnone
      exact goal_goal_of_referenced hr' rfl href
    | deleteNow =>
      rw [goal_of_decide hr' rfl, hd]
      exact goal_removalGoal _
    | startGracePeriod d => exact goal_goal_of_startGracePeriod hr' rfl hd
    | wait remaining =>
      rw [goal_of_decide hr' rfl, hd]
      exact (goal_of_decide hr' rfl).trans (by rw [hd])

end Pass

end ImageCatalog
