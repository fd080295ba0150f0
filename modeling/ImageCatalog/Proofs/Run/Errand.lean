import ImageCatalog.Service

/-!
# Errands

What a control loop can send the service on, as data. A run of the service is a sequence of
errands, so statements about runs are statements about what each errand asks for and brings back.

Four of the errands say who needs an image. What such an errand does to the consumers of its record
is a `Demand`, and `Errand.demand?` is the only place where the two feeds, consumers and releases,
are told apart.

## Main definitions

* `Errand` — the calls of the service, with `Errand.program` for what each of them runs
* `Demand.apply` — what an errand about a consumer makes of a list of consumers
* `Errand.demand?` — the record that an errand is about, and its demand
* `Errand.wants?` — the record that an errand has created
* `Spec.Named` — the names that the two feeds give to a record
-/

namespace ImageCatalog

/-- What the service can be sent on. -/
inductive Errand where
  | consumerAdded (consumer image provider : String)
  | consumerRemoved (consumer image : String)
  | releaseAdded (release : Release)
  | releaseRemoved (release : Release)
  | requestDeletion (name : String)
  | pass (name : String)
  | passAll
deriving DecidableEq

/-- What a list of consumers is to become. -/
inductive Demand where
  | add (consumer : String)
  | drop (consumer : String)
deriving DecidableEq

/-- A new consumer comes last, and only once. -/
def Demand.apply : Demand → List String → List String
  | add consumer, l => if l.contains consumer then l else l ++ [consumer]
  | drop consumer, l => l.filter (· != consumer)

namespace Errand

/-- What an errand brings back. -/
def Result : Errand → Type
  | consumerAdded .. => Record
  | consumerRemoved .. => Option Record
  | releaseAdded _ => Record
  | releaseRemoved _ => Option Record
  | requestDeletion _ => Unit
  | pass _ => Pass.Outcome
  | passAll => Pass.Report

/-- The program of an errand. -/
def program (s : Service) : (e : Errand) → Program e.Result
  | consumerAdded consumer image provider => Service.consumerAdded consumer image provider
  | consumerRemoved consumer image => Service.consumerRemoved consumer image
  | releaseAdded release => s.releaseAdded release
  | releaseRemoved release => s.releaseRemoved release
  | requestDeletion name => Service.requestDeletion name
  | pass name => s.pass name
  | passAll => s.passAll

/-- Whether an errand is a pass, over one record or over each. -/
def isPass : Errand → Bool
  | pass _ | passAll => true
  | _ => false

/-- Whether an errand says who needs an image. -/
def isDemand : Errand → Bool
  | consumerAdded .. | consumerRemoved .. | releaseAdded _ | releaseRemoved _ => true
  | _ => false

/-- The record that an errand is about, and what it demands of its consumers. A release that needs
no image is about no record. -/
def demand? (s : Service) : Errand → Option (String × Demand)
  | consumerAdded consumer image _ => some (image, .add consumer)
  | consumerRemoved consumer image => some (image, .drop consumer)
  | releaseAdded release =>
    (release.request s.channel).toOption.map fun q => (q.record, .add release.name)
  | releaseRemoved release =>
    (release.request s.channel).toOption.map fun q => (q.record, .drop release.name)
  | _ => none

/-- The record that an errand has created if there is none, and what it is to be about. -/
def wants? (s : Service) : Errand → Option (String × Spec)
  | consumerAdded _ image provider => some (image, ⟨image, provider⟩)
  | releaseAdded release =>
    (release.request s.channel).toOption.map fun q => (q.record, ⟨q.image, q.provider⟩)
  | _ => none

theorem isPass_of_demand {s : Service} {e : Errand} {q : String × Demand}
    (h : e.demand? s = some q) : e.isPass = false := by
  cases e <;> first | rfl | cases h

theorem demand?_eq_none_of_isPass {s : Service} {e : Errand} (h : e.isPass) :
    e.demand? s = none := by
  cases e <;> first | rfl | cases h

end Errand

/-! ### Names of records -/

/-- Whether a feed may keep the record of a spec under a name: consumers name the image, and
releases put the provider in front. -/
def Spec.Named (spec : Spec) (name : String) : Prop :=
  name = spec.image ∨ name = spec.provider ++ "-" ++ spec.image

theorem Release.record_of_request {release : Release} {channel : String} {q : Release.Request}
    (h : release.request channel = .ok q) : q.record = q.provider ++ "-" ++ q.image := by
  simp only [Release.request, bind, Except.bind] at h
  -- Either something is missing, and there is no request, or nothing is.
  repeat' split at h
  all_goals first | (cases h; rfl) | cases h

/-- The two feeds. -/
theorem Errand.wants?_eq_some {s : Service} {e : Errand} {name : String} {spec : Spec}
    (h : e.wants? s = some (name, spec)) :
    (∃ c, e = .consumerAdded c spec.image spec.provider ∧ name = spec.image) ∨
      ∃ release, e = .releaseAdded release ∧ name = spec.provider ++ "-" ++ spec.image ∧
        release.request s.channel = .ok ⟨name, spec.image, spec.provider⟩ := by
  cases e with
  | consumerAdded c image provider =>
    obtain ⟨rfl, rfl⟩ := Prod.mk.inj (Option.some.inj h)
    exact .inl ⟨c, rfl, rfl⟩
  | releaseAdded release =>
    cases hr : release.request s.channel with
    | error e => simp [wants?, hr, Except.toOption] at h
    | ok q =>
      simp only [wants?, hr, Except.toOption, Option.map_some, Option.some.injEq,
        Prod.mk.injEq] at h
      obtain ⟨rfl, rfl⟩ := h
      exact .inr ⟨release, rfl, Release.record_of_request hr, hr⟩
  | consumerRemoved | releaseRemoved | requestDeletion | pass | passAll => cases h

theorem Errand.named_of_wants {s : Service} {e : Errand} {name : String} {spec : Spec}
    (h : e.wants? s = some (name, spec)) : spec.Named name := by
  obtain ⟨_, _, hname⟩ | ⟨_, _, hname, _⟩ := wants?_eq_some h
  · exact .inl hname
  · exact .inr hname

/-! ### Demands and records -/

theorem Record.addConsumer_eq (r : Record) (consumer : String) :
    r.addConsumer consumer = { r with consumers := (Demand.add consumer).apply r.consumers } := by
  by_cases h : r.consumers.contains consumer <;>
    simp only [addConsumer, hasConsumer, Demand.apply, h, if_true, if_false, Bool.false_eq_true]

theorem Record.removeConsumer_eq (r : Record) (consumer : String) :
    r.removeConsumer consumer =
      { r with consumers := (Demand.drop consumer).apply r.consumers } := rfl

/-- A demand that is met already changes nothing. -/
theorem Demand.apply_drop_of_not_mem {consumer : String} {l : List String} (h : consumer ∉ l) :
    (drop consumer).apply l = l := by
  refine List.filter_eq_self.mpr fun a ha => ?_
  have hne : a ≠ consumer := by
    rintro rfl
    exact h ha
  simpa using hne

theorem Demand.apply_add_of_mem {consumer : String} {l : List String} (h : consumer ∈ l) :
    (add consumer).apply l = l := by
  simp [apply, h]

theorem Demand.mem_apply {d : Demand} {l : List String} {a : String} (h : a ∈ d.apply l) :
    a ∈ l ∨ d = add a := by
  cases d with
  | add consumer =>
    rw [apply] at h
    split at h
    · exact .inl h
    · rcases List.mem_append.mp h with h | h
      · exact .inl h
      · rw [List.mem_singleton.mp h]
        exact .inr rfl
  | drop consumer => exact .inl (List.mem_filter.mp h).1

/-- **A demand puts nobody on a list twice.** -/
theorem Demand.nodup_apply (d : Demand) {l : List String} (h : l.Nodup) : (d.apply l).Nodup := by
  cases d with
  | add consumer =>
    rw [apply]
    split
    · exact h
    · rename_i hmem
      have hnew : consumer ∉ l := by simpa using hmem
      refine List.nodup_append.mpr ⟨h, by simp, ?_⟩
      rintro a ha b hb rfl
      rw [List.mem_singleton.mp hb] at ha
      exact hnew ha
  | drop consumer => exact h.filter _

end ImageCatalog
