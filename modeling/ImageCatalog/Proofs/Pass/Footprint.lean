import ImageCatalog.Proofs.Pass.Goal
import ImageCatalog.Proofs.Run.Prompt

/-!
# The footprint of a pass

A pass works on one record, and on one image at the locations of one provider. Whatever else is
stored or held it neither asks for nor changes, whatever it is told about its own. This is a
property of the program, and no world is needed to see it.

A pass takes the name and the image from the record that it reads. So the answers count here: a
record that is read under the name of the footprint is supposed to be of its image.

## Main definitions

* `Footprint` — a record, and an image at some locations
* `Program.Within` — a program that keeps to a footprint, and what it leaves at its end

## Main results

* `Program.Within.bind` — programs one after the other
* `Pass.within_run` — a pass keeps to the footprint of its record
-/

namespace ImageCatalog

/-- A record, and an image at some locations of a provider. -/
structure Footprint where
  /-- The name of the record. -/
  key : String
  /-- What the record is about. -/
  spec : Spec
  /-- The names of the locations. -/
  places : List String

namespace Footprint

/-- The record of a footprint, in any condition. -/
def Owns (f : Footprint) (r : Record) : Prop :=
  r.name = f.key ∧ r.spec = f.spec

/-- A call about the image of a footprint at one of its locations. -/
structure Reaches (f : Footprint) (call : CatalogCall) : Prop where
  provider_eq : call.provider = f.spec.provider
  image_eq : call.image = f.spec.image
  location_mem : call.location ∈ f.places

/-- A request that asks for nothing outside a footprint. -/
def Covers (f : Footprint) : Request → Prop
  | .readRecord name => name = f.key
  | .createRecord _ => False
  | .replaceRecord r => f.Owns r
  | .removeRecord name _ => name = f.key
  | .listRecords => False
  | .lookUp call => f.Reaches call
  | .upload call _ => f.Reaches call ∧ call.limit = Pass.uploadLimit
  | .withdraw call => f.Reaches call
  | .now | .emit _ | .log _ | .probe _ | .isInterrupted => True

/-- An answer with no other record than that of a footprint. -/
def Admits (f : Footprint) : (r : Request) → r.Answer → Prop
  | .readRecord _, x => ∀ r, x = .ok (some r) → f.Owns r
  | .replaceRecord _, x => ∀ r, x = .ok r → f.Owns r
  | _, _ => True

end Footprint

namespace Program

variable {α β : Type} {f : Footprint} {Q : α → Prop} {Q' : β → Prop}

/-- A program keeps to a footprint, and its result has `Q`. -/
def Within (f : Footprint) (Q : α → Prop) : Program α → Prop
  | done a => Q a
  | fail _ => True
  | ask r k => f.Covers r ∧ ∀ x, f.Admits r x → (k x).Within f Q

/-- **Programs one after the other.** -/
theorem Within.bind {p : Program α} {k : α → Program β} (hp : p.Within f Q)
    (hk : ∀ a, Q a → (k a).Within f Q') : (p >>= k).Within f Q' := by
  induction p with
  | done a => exact hk a hp
  | fail e => trivial
  | ask r next ih => exact ⟨hp.1, fun x hx => ih x (hp.2 x hx)⟩

theorem Within.mono {p : Program α} {R : α → Prop} (hp : p.Within f Q) (himp : ∀ a, Q a → R a) :
    p.Within f R := by
  induction p with
  | done a => exact himp a hp
  | fail e => trivial
  | ask r next ih => exact ⟨hp.1, fun x hx => ih x (hp.2 x hx)⟩

/-! ### Single requests -/

theorem within_readRecord (f : Footprint) :
    (readRecord f.key).Within f fun r? => ∀ r, r? = some r → f.Owns r := by
  refine ⟨rfl, fun x hx => ?_⟩
  cases x with
  | error e => trivial
  | ok r? => exact fun r hr => hx r (by rw [hr])

theorem within_removeRecord (f : Footprint) (version : Option UInt64) :
    (removeRecord f.key version).Within f fun _ => True := by
  refine ⟨rfl, fun x _ => ?_⟩
  cases x <;> trivial

theorem within_emit (f : Footprint) (event : Event) : (emit event).Within f fun _ => True :=
  ⟨trivial, fun _ _ => trivial⟩

theorem within_emitIf (f : Footprint) (b : Bool) (event : Event) :
    (emitIf b event).Within f fun _ => True := by
  cases b with
  | false => trivial
  | true => exact within_emit f event

theorem within_log (f : Footprint) (line : LogLine) : (log line).Within f fun _ => True :=
  ⟨trivial, fun _ _ => trivial⟩

theorem within_now (f : Footprint) : now.Within f fun _ => True :=
  ⟨trivial, fun _ _ => trivial⟩

end Program

open Program

variable {f : Footprint}

/-! ### Revisions -/

namespace Record

theorem within_reviseWithin {edit : Edit}
    (hedit : ∀ r r' b, f.Owns r → edit r = .ok (r', b) → f.Owns r') (attempts : Nat) :
    (reviseWithin f.key edit attempts).Within f fun v? =>
      ∀ v, v? = some v → f.Owns v.before ∧ f.Owns v.after := by
  induction attempts with
  | zero => exact (within_log f _).bind fun _ _ => trivial
  | succ attempts ih =>
    refine (within_readRecord f).bind fun r? hr? => ?_
    cases r? with
    | none => exact fun v hv => by cases hv
    | some r =>
      have hr := hr? r rfl
      rcases hresult : edit r with e | ⟨r', written⟩
      · simp only [Edit.editor_apply, hresult]
        trivial
      have hr' := hedit r r' written hr hresult
      cases written with
      | false =>
        simp only [Edit.editor_apply, hresult]
        rintro v ⟨⟩
        exact ⟨hr, hr'⟩
      | true =>
        simp only [Edit.editor_apply, hresult]
        refine Within.bind (Q := fun x : Except Failure Record => ∀ q, x = .ok q → f.Owns q)
          ⟨hr', fun _ hx => hx⟩ fun x hx => ?_
        rcases x with e | stored
        · cases e with
          | conflict => exact ih
          | imageNotFound => exact fun v hv => by cases hv
          | _ => trivial
        · rintro v ⟨⟩
          exact ⟨hr, hx stored rfl⟩

/-- A revision that leaves the name and the image of a record alone. -/
theorem within_revise {needed : Record → Bool} {change : Record → Record}
    (hchange : ∀ r, f.Owns r → f.Owns (change r)) :
    (revise f.key (.when needed change)).Within f fun v => f.Owns v.before ∧ f.Owns v.after := by
  have hedit : ∀ r r' b, f.Owns r → Edit.when needed change r = .ok (r', b) → f.Owns r' := by
    intro r r' b hr hresult
    simp only [Edit.when, Except.ok.injEq] at hresult
    split at hresult
    · obtain ⟨rfl, -⟩ := Prod.mk.inj hresult
      exact hchange r hr
    · obtain ⟨rfl, -⟩ := Prod.mk.inj hresult
      exact hr
  refine (within_reviseWithin hedit maxAttempts).bind fun v? hv? => ?_
  cases v? with
  | none => trivial
  | some v => exact hv? v rfl

theorem within_enter (f : Footprint) (phase : Phase) :
    (enter f.key phase).Within f fun _ => True :=
  Within.bind (within_revise fun _ hr => hr) fun _ _ => within_emitIf f _ _

end Record

namespace Pass

open Record

/-! ### Placements -/

namespace Job

variable {location url : String} {places : List Location}

/-- The work on the image of a footprint. -/
def of (f : Footprint) : Job :=
  ⟨f.key, f.spec.provider, f.spec.image⟩

theorem reaches_call (hlocation : location ∈ f.places) (limit : Duration) :
    f.Reaches ((of f).call location limit) :=
  ⟨rfl, rfl, hlocation⟩

theorem within_giveUp {α : Type} {Q : α → Prop} (f : Footprint) (e : Failure) :
    ((of f).giveUp e : Program α).Within f Q := by
  unfold giveUp
  split
  · trivial
  · exact (within_enter f _).bind fun _ _ => trivial

theorem within_isReachable (f : Footprint) (url : String) :
    (isReachable url).Within f fun _ => True := by
  refine ⟨trivial, fun x _ => ?_⟩
  rcases x with e | reachable
  · show Within f _ (if e.isCancelled then Program.fail e else Program.done false)
    split <;> trivial
  · trivial

theorem within_fill (hlocation : location ∈ f.places) (url : String) :
    ((of f).fill url location).Within f fun _ => True := by
  refine (within_enter f .uploading).bind fun _ _ => (within_emit f _).bind fun _ _ => ?_
  refine Within.bind (Q := fun _ => True) ⟨⟨reaches_call hlocation _, rfl⟩, fun _ _ => trivial⟩ ?_
  intro x _
  cases x with
  | error e => exact within_giveUp f e
  | ok _ => exact (within_enter f .available).bind fun _ _ => within_emit f _

theorem within_placeAt (hlocation : location ∈ f.places) (url : String) :
    ((of f).placeAt url location).Within f fun _ => True := by
  refine Within.bind (Q := fun _ => True) ⟨reaches_call hlocation _, fun _ _ => trivial⟩ ?_
  intro x _
  rcases x with e | present
  · exact within_giveUp f e
  · cases present with
    | true => exact (within_enter f .available).bind fun _ _ => within_emit f _
    | false => exact within_fill hlocation url

theorem within_place (hplaces : ∀ l ∈ places, l.name ∈ f.places) (url : String) :
    ((of f).place url places).Within f fun _ => True := by
  induction places with
  | nil => trivial
  | cons location rest ih =>
    refine (within_isReachable f url).bind fun reachable _ => ?_
    cases reachable with
    | true =>
      refine (within_placeAt (hplaces location List.mem_cons_self) url).bind fun _ _ => ?_
      exact ih fun l hl => hplaces l (List.mem_cons_of_mem _ hl)
    | false =>
      exact (within_enter f .missing).bind fun _ _ => (within_emit f _).bind fun _ _ => trivial

theorem within_clear (hplaces : ∀ l ∈ places, l.name ∈ f.places) :
    ((of f).clear places).Within f fun _ => True := by
  induction places with
  | nil => trivial
  | cons location rest ih =>
    have hrest := ih fun l hl => hplaces l (List.mem_cons_of_mem _ hl)
    refine (within_enter f .deleting).bind fun _ _ => ?_
    refine Within.bind (Q := fun _ => True)
      ⟨reaches_call (hplaces location List.mem_cons_self) _, fun _ _ => trivial⟩ fun x _ => ?_
    cases x with
    | ok _ => exact hrest
    | error e =>
      dsimp only
      split
      · trivial
      · exact (within_emit f _).bind fun _ _ => hrest.bind fun _ _ => trivial

end Job

/-! ### Passes -/

/-- The footprint of a pass over a record. -/
def Setup.footprint (s : Setup) (r : Record) : Footprint :=
  ⟨r.name, r.spec, (s.places? r.spec.provider).getD []⟩

section

variable {s : Setup} {r : Record}
  (hf : ∀ locations, s.providers.get? f.spec.provider = some locations →
    ∀ l ∈ locations, l.name ∈ f.places)

include hf

theorem within_place (hr : f.Owns r) : (place s f.key r).Within f fun _ => True := by
  obtain ⟨-, hspec⟩ := hr
  simp only [place, hspec]
  split
  · exact (within_log f _).bind fun _ _ => (within_enter f .error).bind fun _ _ => trivial
  · split
    · exact (within_enter f .error).bind fun _ _ => (within_emit f _).bind fun _ _ => trivial
    · refine (Job.within_place (hf _ ‹_›) _).bind fun placed _ => ?_
      cases placed <;> trivial

theorem within_clearCatalogs (hr : f.Owns r) :
    (clearCatalogs s f.key r).Within f fun _ => True := by
  obtain ⟨-, hspec⟩ := hr
  simp only [clearCatalogs, hspec]
  split
  · refine (Job.within_clear (hf _ ‹_›)).bind fun failed _ => ?_
    cases failed with
    | nil => trivial
    | cons => exact (within_enter f .error).bind fun _ _ => trivial
  · exact (within_log f _).bind fun _ _ => within_emit f _

omit hf in
theorem within_takeAway (hr : f.Owns r) : (takeAway f.key r).Within f fun _ => True := by
  rw [takeAway, hr.1]
  refine Within.bind (within_revise fun _ hq => hq) fun v _ => ?_
  dsimp only
  split
  · exact (within_emit f _).bind fun _ _ => trivial
  · exact (within_emitIf f _ _).bind fun _ _ => (within_removeRecord f _).bind fun _ _ =>
      (within_emit f _).bind fun _ _ => trivial

theorem within_remove (hr : f.Owns r) : (remove s f.key r).Within f fun _ => True := by
  have hstart : (startRemoval f.key).Within f fun _ => True :=
    Within.bind (within_revise fun _ hq => hq) fun _ _ => within_emitIf f _ _
  rw [remove_eq]
  exact hstart.bind fun _ _ => (within_clearCatalogs hf hr).bind fun _ _ => within_takeAway hr

theorem within_retainOrPlace (hr : f.Owns r) :
    (retainOrPlace s f.key r).Within f fun _ => True := by
  refine (within_now f).bind fun now _ => ?_
  split
  · have hend : (endWait f.key r).Within f fun q => f.Owns q := by
      unfold endWait
      split
      · exact Within.bind (within_revise fun _ hq => hq) fun v hv => (within_emit f _).bind fun _ _ => hv.2
      · exact hr
    exact hend.bind fun q hq => within_place hf hq
  · have hmark : (markForDeletion f.key now).Within f fun q? => ∀ q, q? = some q → f.Owns q := by
      refine Within.bind (within_revise fun _ hq => hq) fun v hv => ?_
      split
      · exact fun q hq => by cases hq
      · rintro q ⟨⟩
        exact hv.2
    refine hmark.bind fun marked hmarked => ?_
    cases marked with
    | none => exact within_place hf hr
    | some q => exact (within_log f _).bind fun _ _ => within_remove hf (hmarked q rfl)
  · have hstart : (startGracePeriod f.key s.period now).Within f fun _ => True := by
      refine Within.bind (within_revise fun _ hq => hq) fun v _ => ?_
      split
      · trivial
      · exact (within_emitIf f _ _).bind fun _ _ => (within_emit f _).bind fun _ _ => trivial
    refine hstart.bind fun started _ => ?_
    cases started with
    | true => trivial
    | false => exact within_place hf hr
  · exact (within_emit f _).bind fun _ _ => trivial

/-- A pass over the record of a footprint keeps to the footprint. -/
theorem within_run_key : (run s f.key).Within f fun _ => True := by
  refine (within_readRecord f).bind fun r? hr? => ?_
  cases r? with
  | none => trivial
  | some r =>
    have hr := hr? r rfl
    dsimp only
    split
    · exact within_remove hf hr
    · have hdrop : (dropDeletionRequest f.key r).Within f fun q => f.Owns q := by
        unfold dropDeletionRequest
        split
        · exact Within.bind (within_revise fun _ hq => hq) fun v hv =>
            (within_emit f _).bind fun _ _ => hv.2
        · exact hr
      exact hdrop.bind fun q hq => within_retainOrPlace hf hq

end

/-- **A pass keeps to the footprint of its record.** -/
theorem within_run (s : Setup) (r : Record) :
    (run s r.name).Within (s.footprint r) fun _ => True := by
  have hplaces : ∀ locations, s.providers.get? (s.footprint r).spec.provider = some locations →
      ∀ l ∈ locations, l.name ∈ (s.footprint r).places := by
    intro locations hget l hl
    have hsome : s.places? r.spec.provider = some (locations.map Location.name) := by
      rw [Setup.places?, show s.providers.get? r.spec.provider = some locations from hget]
      rfl
    show l.name ∈ (s.places? r.spec.provider).getD []
    rw [hsome]
    exact List.mem_map_of_mem hl
  exact within_run_key (f := s.footprint r) hplaces

end Pass

end ImageCatalog
