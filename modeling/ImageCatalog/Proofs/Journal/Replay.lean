import ImageCatalog.Proofs.Run.Triple

/-!
# Replaying the journal

What is reported in a run, in its order, is the journal of the records. From the journal alone one
can draw a sketch of each record: its provider, its consumers and its phase. A report of a phase
names the phase that was left as well, so that a journal can also be at odds with itself.

The sketch of a name is made of the events that are about the name. So the journal is replayed name
by name, and what is reported of other names does not matter.

## Main definitions

* `Sketch`, `Event.apply` — what a journal tells of a record, and what one event adds to that
* `replay` — the sketch of a name after some events
* `Event.Follows`, `Chained` — a journal that is not at odds with itself
* `journal` — what was reported in a run
* `Leads` — reports about one name that lead from one sketch to another

## Main results

* `chained_append` — a journal goes on
* `replay_journal_of_not_reports`, `replay_journal_told` — what a deed adds to the replay
-/

namespace ImageCatalog

/-! ### Sketches -/

/-- What a journal tells of a record. -/
structure Sketch where
  provider : String
  consumers : List String
  phase : Option Phase
deriving DecidableEq

/-- What there is in a record that a journal tells. -/
def Record.sketch (r : Record) : Sketch :=
  ⟨r.spec.provider, r.consumers, r.phase⟩

namespace Event

/-- What becomes of a sketch by an event about its record. A record that is not there stays away,
whatever is reported of it, until it is created. -/
def apply : Event → Option Sketch → Option Sketch
  | recordCreated _ provider, _ => some ⟨provider, [], none⟩
  | referenceAdded _ consumer, k =>
    k.map fun k => { k with consumers := k.consumers ++ [consumer] }
  | referenceRemoved _ consumer, k =>
    k.map fun k => { k with consumers := k.consumers.filter (· != consumer) }
  | stateChanged _ _ target, k => k.map fun k => { k with phase := some target }
  | removed _, _ => none
  | _, k => k

/-- Whether an event agrees with the sketch that it is added to: a change of phase is one, and it
starts from the phase in the sketch. -/
def Follows (k : Option Sketch) : Event → Prop
  | stateChanged _ source target =>
    (∃ sketch, k = some sketch ∧ sketch.phase = source) ∧ source ≠ some target
  | _ => True

variable {event : Event} {k : Option Sketch}

theorem apply_of_not_isChange (h : event.isChange = false) : event.apply k = k := by
  cases event <;> first | rfl | cases h

theorem follows_of_not_isChange (h : event.isChange = false) : event.Follows k := by
  cases event <;> trivial

end Event

/-! ### Journals -/

/-- The sketch of a name after some events, the earliest first. -/
def replay (name : String) (events : List Event) : Option Sketch :=
  events.foldl (fun k event => if event.image = name then event.apply k else k) none

/-- Every event agrees with what was reported before. -/
def Chained (events : List Event) : Prop :=
  ∀ before event after, events = before ++ event :: after →
    event.Follows (replay event.image before)

variable {name key : String} {events : List Event} {event : Event} {k k' : Option Sketch}

theorem replay_append (name : String) (events : List Event) (event : Event) :
    replay name (events ++ [event]) =
      if event.image = name then event.apply (replay name events) else replay name events := by
  rw [replay, List.foldl_append]
  rfl

theorem chained_nil : Chained [] := by
  intro before event after h
  simp at h

/-- **A journal goes on** with an event that agrees with it. -/
theorem chained_append (h : Chained events) (hevent : event.Follows (replay event.image events)) :
    Chained (events ++ [event]) := by
  intro before event' after heq
  rcases List.eq_nil_or_concat after with rfl | ⟨after', last, rfl⟩
  · obtain ⟨rfl, hlast⟩ := List.append_inj' heq rfl
    obtain rfl := List.singleton_inj.mp hlast
    exact hevent
  · have heq' : events ++ [event] = (before ++ event' :: after') ++ [last] := by
      rw [heq, List.concat_eq_append, List.append_assoc, List.cons_append]
    obtain ⟨hevents, _⟩ := List.append_inj' heq' rfl
    exact h before event' after' hevents

/-! ### Journals of runs -/

/-- What is reported by a deed. -/
def Deed.event? : Deed → Option Event
  | answered _ (.emit event) _ => some event
  | _ => none

/-- What was reported in a run, the earliest first. -/
def journal : List Entry → List Event
  | [] => []
  | m :: past => journal past ++ m.deed.event?.toList

theorem journal_cons_of_none {m : Entry} {past : List Entry} (h : m.deed.event? = none) :
    journal (m :: past) = journal past := by
  rw [journal, h, Option.toList_none, List.append_nil]

theorem journal_cons_of_some {m : Entry} {past : List Entry} (h : m.deed.event? = some event) :
    journal (m :: past) = journal past ++ [event] := by
  rw [journal, h, Option.toList_some]

theorem Deed.isChange_of_not_reports {d : Deed} (h : ¬ d.Reports) (he : d.event? = some event) :
    event.isChange = false := by
  cases d with
  | answered e r x =>
    cases r with
    | emit event' =>
      obtain rfl := Option.some.inj he
      simpa [Deed.Reports] using h
    | _ => cases he
  | began | issued | ended => cases he

variable {m : Entry} {past : List Entry}

/-- What reports no change adds nothing to the replay. -/
theorem replay_journal_of_not_reports (h : ¬ m.deed.Reports) :
    replay name (journal (m :: past)) = replay name (journal past) := by
  cases he : m.deed.event? with
  | none => rw [journal_cons_of_none he]
  | some event =>
    rw [journal_cons_of_some he, replay_append,
      Event.apply_of_not_isChange (Deed.isChange_of_not_reports h he), ite_self]

theorem Chained.of_not_reports (hc : Chained (journal past)) (h : ¬ m.deed.Reports) :
    Chained (journal (m :: past)) := by
  cases he : m.deed.event? with
  | none =>
    rw [journal_cons_of_none he]
    exact hc
  | some event =>
    rw [journal_cons_of_some he]
    exact chained_append hc (Event.follows_of_not_isChange (Deed.isChange_of_not_reports h he))

theorem journal_told (R : Role) (σ : Stage) (event : Event) (t : Instant) :
    journal (R.told σ event t).past = journal σ.past ++ [event] :=
  journal_cons_of_some rfl

theorem replay_journal_told (R : Role) (σ : Stage) (event : Event) (t : Instant) (name : String) :
    replay name (journal (R.told σ event t).past) =
      if event.image = name then event.apply (replay name (journal σ.past))
      else replay name (journal σ.past) := by
  rw [journal_told, replay_append]

/-! ### Reports about one name -/

/-- Events about a name that lead from one sketch to another, each in agreement with those
before. -/
def Leads (key : String) : Option Sketch → List Event → Option Sketch → Prop
  | k, [], k' => k = k'
  | k, event :: rest, k' => event.image = key ∧ event.Follows k ∧ Leads key (event.apply k) rest k'

theorem Leads.append {before after : List Event} {k₁ k₂ k₃ : Option Sketch}
    (h : Leads key k₁ before k₂) (h' : Leads key k₂ after k₃) :
    Leads key k₁ (before ++ after) k₃ := by
  induction before generalizing k₁ with
  | nil =>
    obtain rfl : k₁ = k₂ := h
    exact h'
  | cons event rest ih =>
    obtain ⟨himage, hfollows, hrest⟩ := h
    exact ⟨himage, hfollows, ih hrest⟩

/-- A change of phase. -/
theorem leads_stateChanged {k : Sketch} {target : Phase} (h : k.phase ≠ some target) :
    Leads key (some k) [.stateChanged key k.phase target] (some { k with phase := some target }) :=
  ⟨rfl, ⟨⟨k, rfl, rfl⟩, h⟩, rfl⟩

end ImageCatalog
