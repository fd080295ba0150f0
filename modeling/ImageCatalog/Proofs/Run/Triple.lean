import ImageCatalog.Proofs.Run.Contract
import ImageCatalog.Proofs.Store.Ledger

/-!
# Triples

From every stage with `P` a program keeps the contract, and it ends in `Q` with its result or in `E`
with a failure. There is one rule for each request and one for each way to put programs together.

## Quiet deeds

Most answers change no record, and neither does a write that fails. An assertion is *steady* if it
is kept by those that the errand gets which runs the program, *even* if it is kept by those among
them that come at once, and *still* if it is kept by those of these that report no change of a
record. The rules for messages, readings and stores that are out of order hold for every still
assertion; what a call on a provider or a probe leads to is up to the assertion. The question for an
interruption is left out, since it parts one pass of a round from the next.

## Reports

A change of a record is written first and reported afterwards. What holds between the two is that
the events are *owed*: once they are out, in their order, the assertion holds that the change is to
lead to. An even assertion takes no notice of events, so that it holds all along.

## Revisions without conflicts

The attempts of `Record.revise?` are for stores that others write to between a reading and a write.
In a run nothing lands there, so that the first attempt settles the matter. `triple_revise?` is the
only place where this is used.

## Main definitions

* `Role.Triple` — what a program does between two assertions
* `Role.Steady`, `Role.Even`, `Role.Still` — assertions that quiet deeds keep
* `Regime.Reliable` — runs in which the store is never out of order
* `Role.Owes` — what holds while events are still to be reported
* `Stage.write`, `Stage.InPhase` — the stage after a record is written back, and what it may be like

## Main results

* `Role.Triple.bind`, `Role.Triple.attempt` — programs taken part by part
* `Role.Still.owes`, `Role.triple_emit` — events are owed, and reported
* `Role.triple_wait` — a request that visitors may land in
* `Role.triple_revise?`, `Role.triple_revise` — a record is read, edited and written
-/

namespace ImageCatalog

/-! ### Quiet deeds -/

/-- Whether an answer to a request leaves the records alone, apart from the question for an
interruption. -/
def Request.isQuiet : Request → Bool
  | createRecord _ | replaceRecord _ | removeRecord .. | isInterrupted => false
  | _ => true

/-- Whether the answer is that a write has failed. -/
def Request.Fails : (r : Request) → r.Answer → Prop
  | createRecord _, .error _ | replaceRecord _, .error _ | removeRecord .., .error _ => True
  | _, _ => False

/-- Whether a deed is of no account to most assertions. -/
def Deed.Quiet : Deed → Prop
  | answered _ r x => r.isQuiet ∨ r.Fails x
  | _ => False

/-- Whether a deed is anything but an answer that took its time. -/
def Deed.Prompt : Deed → Prop
  | answered _ r _ => r.waits = false
  | _ => True

/-- Whether the answer is that the store is out of order. -/
def Request.Refused : (r : Request) → r.Answer → Prop
  | readRecord _, .error e | createRecord _, .error e | replaceRecord _, .error e
  | removeRecord .., .error e | listRecords, .error e => e.isOutage
  | _, _ => False

/-- The store is never out of order. -/
def Regime.Reliable (g : Regime) : Prop :=
  ∀ past r x, g.answers past r x → ¬ r.Refused x

theorem Deed.answered_ne_issued {e : Errand} {r : Request} {x : r.Answer} (e' : Errand)
    (r' : Request) : answered e r x ≠ issued e' r' := by
  intro h
  cases h

theorem Deed.Quiet.ne_issued {d : Deed} (h : d.Quiet) (e : Errand) (r : Request) :
    d ≠ .issued e r := by
  rintro rfl
  exact h

/-- Whether an event reports a change of what a record holds: that there is one, who needs its
image, or its phase. -/
def Event.isChange : Event → Bool
  | recordCreated .. | referenceAdded .. | referenceRemoved .. | stateChanged .. | removed _ => true
  | _ => false

/-- Whether a deed reports a change of a record. -/
def Deed.Reports : Deed → Prop
  | answered _ (.emit event) _ => event.isChange
  | _ => False

theorem Ledger.Settles.ledger_eq {α : Type} {l l' : Ledger} {x y : Except Failure α}
    (h : l.Settles (y, l) x l') : l' = l := by
  rcases h with h | ⟨_, h⟩
  · exact (Prod.mk.inj h).2
  · exact h

theorem Ledger.Answers.ledger_eq {l l' : Ledger} {t : Instant} {r : Request} {x : r.Answer}
    (h : l.Answers t r x l') (hr : r.isQuiet) : l' = l := by
  cases r <;> first | exact Settles.ledger_eq h | exact h | exact h.2 | cases hr

theorem Deed.not_reports_of_waits {e : Errand} {r : Request} {x : r.Answer} (h : r.waits) :
    ¬ (answered e r x).Reports := by
  cases r <;> first | exact not_false | cases h

theorem Request.Fails.not_waits {r : Request} {x : r.Answer} (h : r.Fails x) : r.waits = false := by
  cases r <;> first | rfl | exact h.elim

theorem Request.isQuiet_of_waits {r : Request} (h : r.waits) : r.isQuiet := by
  cases r <;> first | rfl | cases h

/-! ### Writes -/

/-- A record is written back. -/
def Stage.write (σ : Stage) (e : Errand) (r : Record) (t : Instant) : Stage :=
  σ.after (.answered e (.replaceRecord r) (.ok r.bumped)) (σ.ledger.put r.bumped) t

theorem Stage.record?_write (σ : Stage) (e : Errand) (r : Record) (t : Instant) (name : String) :
    (σ.write e r t).record? name = if name = r.name then some r.bumped else σ.record? name :=
  Ledger.get?_put ..

/-- The record of a name is in a phase. -/
def Stage.InPhase (σ : Stage) (n : String) (phase : Phase) : Prop :=
  ∃ r, σ.record? n = some r ∧ r.phase = some phase

namespace Stage.InPhase

variable {σ : Stage} {n : String} {r : Record} {phase : Phase}

theorem phase_eq (h : σ.InPhase n phase) (hr : σ.record? n = some r) : r.phase = some phase := by
  obtain ⟨q, hq, hphase⟩ := h
  obtain rfl := Option.some.inj (hq.symm.trans hr)
  exact hphase

theorem of_write (hname : r.name = n) (hphase : r.phase = some phase) (e : Errand) (t : Instant) :
    (σ.write e r t).InPhase n phase := by
  refine ⟨r.bumped, ?_, hphase⟩
  rw [Stage.record?_write, if_pos hname.symm]

end Stage.InPhase

namespace Role

variable {α β : Type} {R : Role}

/-- What holds at the end of a program, with a result or without. -/
def ends (Q : α → Stage → Prop) (E : Stage → Prop) : Except Failure α → Stage → Prop
  | .ok a => Q a
  | .error _ => E

/-- From every stage with `P` the program keeps the contract, and ends in `Q` or fails in `E`. -/
def Triple (R : Role) (P : Stage → Prop) (p : Program α) (Q : α → Stage → Prop)
    (E : Stage → Prop) : Prop :=
  ∀ σ, P σ → R.Meets p (ends Q E) σ

/-- Quiet deeds of the errand keep `P`, and `P` is enough for the contract. -/
structure Steady (R : Role) (P : Stage → Prop) : Prop where
  during : ∀ σ, P σ → R.contract.during R.errand σ
  quiet : ∀ σ d t, P σ → d.errand = R.errand → d.Quiet → R.regime.tick σ.clock t →
    P (σ.after d σ.ledger t)

/-- Quiet deeds of the errand keep `P` unless they took their time, and `P` is enough for the
contract. -/
structure Even (R : Role) (P : Stage → Prop) : Prop where
  during : ∀ σ, P σ → R.contract.during R.errand σ
  quiet : ∀ σ d t, P σ → d.errand = R.errand → d.Quiet → d.Prompt → R.regime.tick σ.clock t →
    P (σ.after d σ.ledger t)

/-- Quiet deeds of the errand keep `P` unless they report a change or took their time, and `P` is
enough for the contract. -/
structure Still (R : Role) (P : Stage → Prop) : Prop where
  during : ∀ σ, P σ → R.contract.during R.errand σ
  quiet : ∀ σ d t, P σ → d.errand = R.errand → d.Quiet → d.Prompt → ¬ d.Reports →
    R.regime.tick σ.clock t → P (σ.after d σ.ledger t)

theorem Steady.even {P : Stage → Prop} (hP : R.Steady P) : R.Even P where
  during := hP.during
  quiet σ d t h he hd _ ht := hP.quiet σ d t h he hd ht

theorem Even.still {P : Stage → Prop} (hP : R.Even P) : R.Still P where
  during := hP.during
  quiet σ d t h he hd hp _ ht := hP.quiet σ d t h he hd hp ht

theorem Steady.still {P : Stage → Prop} (hP : R.Steady P) : R.Still P :=
  hP.even.still

/-- A steady assertion takes no notice of what a call leads to. -/
theorem Steady.answered {P : Stage → Prop} (hP : R.Steady P) {σ : Stage} {r : Request} {t : Instant}
    (h : P σ) (hr : r.waits) (x : r.Answer) (ht : R.regime.tick σ.clock t) :
    P (σ.after (.answered R.errand r x) σ.ledger t) :=
  hP.quiet σ _ t h rfl (.inl (Request.isQuiet_of_waits hr)) ht

theorem Still.and_record? {P : Stage → Prop} (hP : R.Still P) (name : String)
    (x : Option Record) : R.Still fun σ => P σ ∧ σ.record? name = x where
  during σ h := hP.during σ h.1
  quiet σ d t h he hd hp hr ht := ⟨hP.quiet σ d t h.1 he hd hp hr ht, h.2⟩

theorem Still.and_fact {P : Stage → Prop} (hP : R.Still P) (a : Prop) :
    R.Still fun σ => P σ ∧ a where
  during σ h := hP.during σ h.1
  quiet σ d t h he hd hp hr ht := ⟨hP.quiet σ d t h.1 he hd hp hr ht, h.2⟩

/-- An event is out. -/
def told (R : Role) (σ : Stage) (event : Event) (t : Instant) : Stage :=
  σ.after (.answered R.errand (.emit event) ()) σ.ledger t

/-- Once some events are reported, `Q` holds. Nothing is said of how long that takes. -/
def Owes (R : Role) (Q : Stage → Prop) : List Event → Stage → Prop
  | [], σ => Q σ
  | event :: rest, σ => ∃ P, R.Still P ∧ P σ ∧
    ∀ σ' t, P σ' → R.regime.tick σ'.clock t → R.Owes Q rest (R.told σ' event t)

/-- A change of a record is written, and leads to `Q` once some events are reported. -/
def Writes (R : Role) (Q : Stage → Prop) (r : Record) (events : List Event) (σ : Stage) : Prop :=
  ∀ t, R.regime.tick σ.clock t → R.Owes Q events (σ.write R.errand r t)

/-- While events are owed, quiet deeds are of no account. -/
theorem Still.owes {Q : Stage → Prop} (hQ : R.Still Q) (events : List Event) :
    R.Still (R.Owes Q events) := by
  cases events with
  | nil => exact hQ
  | cons event rest =>
    refine ⟨?_, ?_⟩
    · rintro σ ⟨P, hP, hσ, _⟩
      exact hP.during σ hσ
    · rintro σ d t ⟨P, hP, hσ, hrest⟩ he hd hp hr ht
      exact ⟨P, hP, hP.quiet σ d t hσ he hd hp hr ht, hrest⟩

/-- An even assertion does not wait for events. -/
theorem Even.owes {Q : Stage → Prop} (hQ : R.Even Q) (events : List Event) {σ : Stage}
    (hσ : Q σ) : R.Owes Q events σ := by
  induction events generalizing σ with
  | nil => exact hσ
  | cons event rest ih =>
    refine ⟨Q, hQ.still, hσ, ?_⟩
    intro σ' t hσ' ht
    exact ih (hQ.quiet σ' _ t hσ' rfl (.inl rfl) rfl ht)

theorem Steady.owes {Q : Stage → Prop} (hQ : R.Steady Q) (events : List Event) {σ : Stage}
    (hσ : Q σ) : R.Owes Q events σ :=
  hQ.even.owes events hσ

theorem Owes.mono {Q Q' : Stage → Prop} {events : List Event} {σ : Stage} (h : R.Owes Q events σ)
    (himp : ∀ σ, Q σ → Q' σ) : R.Owes Q' events σ := by
  induction events generalizing σ with
  | nil => exact himp σ h
  | cons event rest ih =>
    obtain ⟨P, hP, hσ, hrest⟩ := h
    exact ⟨P, hP, hσ, fun σ' t hσ' ht => ih (hrest σ' t hσ' ht)⟩

/-- Events change no record. -/
theorem Owes.and_record? {Q : Stage → Prop} {events : List Event} {σ : Stage} {name : String}
    {x : Option Record} (h : R.Owes Q events σ) (hx : σ.record? name = x) :
    R.Owes (fun σ => Q σ ∧ σ.record? name = x) events σ := by
  induction events generalizing σ with
  | nil => exact ⟨h, hx⟩
  | cons event rest ih =>
    obtain ⟨P, hP, hσ, hrest⟩ := h
    refine ⟨fun σ => P σ ∧ σ.record? name = x, hP.and_record? name x, ⟨hσ, hx⟩, ?_⟩
    intro σ' t hσ' ht
    exact ih (hrest σ' t hσ'.1 ht) hσ'.2

variable {P P' E E' : Stage → Prop} {Q : α → Stage → Prop} {T : β → Stage → Prop}

/-! ### Composition -/

theorem Triple.done {a : α} (h : ∀ σ, P σ → Q a σ) : R.Triple P (.done a) Q E :=
  fun σ hσ => h σ hσ

theorem Triple.fail {e : Failure} (h : ∀ σ, P σ → E σ) : R.Triple P (.fail e) Q E :=
  fun σ hσ => h σ hσ

theorem Triple.weaken {p : Program α} {O : Stage → Prop} {Q₀ : α → Stage → Prop} {E₀ : Stage → Prop}
    (h : R.Triple O p Q₀ E₀) (hP : ∀ σ, P σ → O σ) (hQ : ∀ a σ, Q₀ a σ → Q a σ)
    (hE : ∀ σ, E₀ σ → E σ) : R.Triple P p Q E := by
  intro σ hσ
  refine (h σ (hP σ hσ)).mono fun x σ' hx => ?_
  cases x with
  | ok a => exact hQ a σ' hx
  | error _ => exact hE σ' hx

/-- **Programs are taken part by part.** -/
theorem Triple.bind {p : Program α} {f : α → Program β} (hp : R.Triple P p Q E)
    (hf : ∀ a, R.Triple (Q a) (f a) T E) : R.Triple P (p >>= f) T E := by
  intro σ hσ
  refine meets_bind ((hp σ hσ).mono fun x σ' hx => ?_)
  cases x with
  | ok a => exact hf a σ' hx
  | error _ => exact hx

/-- A failure becomes a result. -/
theorem Triple.attempt {p : Program α} (hp : R.Triple P p Q E) :
    R.Triple P p.attempt (ends Q E) E' := by
  intro σ hσ
  refine meets_attempt ((hp σ hσ).mono fun x σ' hx => ?_)
  cases x with
  | ok a => exact hx
  | error _ => exact hx

theorem Triple.ofExcept {x : Except Failure α} (h : ∀ σ, P σ → ends Q E x σ) :
    R.Triple P (Program.ofExcept x) Q E := by
  intro σ hσ
  cases x with
  | ok a => exact h σ hσ
  | error _ => exact h σ hσ

/-! ### Requests -/

/-- A request that is answered at once, with an answer that the regime admits. -/
theorem Triple.ask_admitted {r : Request} {k : r.Answer → Program α} (hr : r.waits = false)
    (h : ∀ σ t x l, P σ → R.regime.tick σ.clock t → σ.ledger.Answers t r x l →
      R.regime.answers σ.past r x →
      R.contract.during R.errand (σ.after (.answered R.errand r x) l t) ∧
        R.Meets (k x) (ends Q E) (σ.after (.answered R.errand r x) l t)) :
    R.Triple P (.ask r k) Q E := by
  intro σ hσ
  simp only [Meets, hr, Bool.false_eq_true, if_false]
  exact fun t x l ht ha hg => h σ t x l hσ ht ha hg

/-- A request that is answered at once. -/
theorem Triple.ask {r : Request} {k : r.Answer → Program α} (hr : r.waits = false)
    (h : ∀ σ t x l, P σ → R.regime.tick σ.clock t → σ.ledger.Answers t r x l →
      R.contract.during R.errand (σ.after (.answered R.errand r x) l t) ∧
        R.Meets (k x) (ends Q E) (σ.after (.answered R.errand r x) l t)) :
    R.Triple P (.ask r k) Q E :=
  Triple.ask_admitted hr fun σ t x l hσ ht ha _ => h σ t x l hσ ht ha

/-- A request that changes nothing. -/
theorem Still.ask (hP : R.Still P) {r : Request} {k : r.Answer → Program α}
    (hr : r.waits = false) (hq : r.isQuiet) (hreports : ∀ x, ¬ (Deed.answered R.errand r x).Reports)
    (h : ∀ σ t x, P σ → σ.ledger.Answers t r x σ.ledger → σ.clock = t →
      R.Meets (k x) (ends Q E) σ) :
    R.Triple P (.ask r k) Q E := by
  refine Triple.ask hr fun σ t x l hσ ht ha => ?_
  obtain rfl := ha.ledger_eq hq
  have hnext := hP.quiet σ (.answered R.errand r x) t hσ rfl (.inl hq) hr (hreports x) ht
  exact ⟨hP.during _ hnext, h _ t x hnext ha rfl⟩

/-- A write that fails. -/
theorem Still.fails (hP : R.Still P) {r : Request} {x : r.Answer} {σ : Stage} {t : Instant}
    (hσ : P σ) (hx : r.Fails x) (ht : R.regime.tick σ.clock t) :
    R.contract.during R.errand (σ.after (.answered R.errand r x) σ.ledger t) ∧
      P (σ.after (.answered R.errand r x) σ.ledger t) := by
  have hreports : ¬ (Deed.answered R.errand r x).Reports := by
    cases r <;> first | exact hx.elim | exact not_false
  have hnext := hP.quiet σ (.answered R.errand r x) t hσ rfl (.inr hx) hx.not_waits hreports ht
  exact ⟨hP.during _ hnext, hnext⟩

/-- An event that reports no change. -/
theorem Still.emit (hP : R.Still P) (event : Event) (he : event.isChange = false) :
    R.Triple P (Program.emit event) (fun _ => P) E := by
  refine hP.ask rfl rfl (fun _ h => ?_) fun _ _ _ hσ _ _ => hσ
  rw [Deed.Reports, he] at h
  cases h

theorem Still.emitIf (hP : R.Still P) (b : Bool) (event : Event) (he : event.isChange = false) :
    R.Triple P (Program.emitIf b event) (fun _ => P) E := by
  cases b with
  | false => exact Triple.done fun _ hσ => hσ
  | true => exact hP.emit event he

/-- **An event that is owed is reported.** -/
theorem triple_emit {Q : Stage → Prop} (hQ : R.Still Q) (event : Event) (rest : List Event) :
    R.Triple (R.Owes Q (event :: rest)) (Program.emit event) (fun _ => R.Owes Q rest) E := by
  refine Triple.ask rfl fun σ t x l hσ ht ha => ?_
  obtain rfl : l = σ.ledger := ha
  obtain ⟨P, hP, hPσ, hrest⟩ := hσ
  have hnext : R.Owes Q rest (R.told σ event t) := hrest σ t hPσ ht
  exact ⟨(hQ.owes rest).during _ hnext, hnext⟩

theorem triple_emitIf {Q : Stage → Prop} (hQ : R.Still Q) (b : Bool) (event : Event)
    (rest : List Event) :
    R.Triple (R.Owes Q ((if b then [event] else []) ++ rest)) (Program.emitIf b event)
      (fun _ => R.Owes Q rest) E := by
  cases b with
  | false => exact Triple.done fun _ hσ => hσ
  | true => exact triple_emit hQ event rest

/-- The last event that is owed, if one is. -/
theorem triple_emitIf_last {Q : Stage → Prop} (hQ : R.Still Q) (b : Bool) (event : Event) :
    R.Triple (R.Owes Q (if b then [event] else [])) (Program.emitIf b event) (fun _ => Q) E := by
  have h : R.Triple (R.Owes Q ((if b then [event] else []) ++ [])) (Program.emitIf b event)
      (fun _ => Q) E := triple_emitIf hQ b event []
  rw [List.append_nil] at h
  exact h

theorem Still.log (hP : R.Still P) (line : LogLine) :
    R.Triple P (Program.log line) (fun _ => P) E :=
  hP.ask rfl rfl (fun _ => not_false) fun _ _ _ hσ _ _ => hσ

/-- A record is read, unless the store is out of order. -/
theorem Still.readRecord_or (hP : R.Still P) (name : String)
    (hE : ∀ σ, P σ → ¬ R.regime.Reliable → E σ) :
    R.Triple P (Program.readRecord name) (fun x σ => P σ ∧ σ.record? name = x) E := by
  refine Triple.ask_admitted rfl fun σ t x l hσ ht ha hg => ?_
  obtain rfl := ha.ledger_eq rfl
  have hnext := hP.quiet σ (.answered R.errand (.readRecord name) x) t hσ rfl (.inl rfl) rfl
    not_false ht
  refine ⟨hP.during _ hnext, ?_⟩
  rcases ha with ha | ⟨⟨e, rfl, hout⟩, -⟩
  · obtain ⟨rfl, -⟩ := Prod.mk.inj ha
    exact ⟨hnext, rfl⟩
  · exact hE _ hnext fun hreliable => hreliable _ _ _ hg hout

theorem Still.readRecord (hP : R.Still P) (name : String) (hE : ∀ σ, P σ → E σ) :
    R.Triple P (Program.readRecord name) (fun x σ => P σ ∧ σ.record? name = x) E :=
  hP.readRecord_or name fun σ hσ _ => hE σ hσ

theorem Still.listRecords (hP : R.Still P) (hE : ∀ σ, P σ → E σ) :
    R.Triple P Program.listRecords (fun _ => P) E :=
  hP.ask rfl rfl (fun _ => not_false) fun σ t x hσ _ _ => by
    cases x with
    | ok _ => exact hσ
    | error _ => exact hE σ hσ

/-- The time that is read is on the clock. -/
theorem triple_now {Q : Instant → Stage → Prop} (hQ : ∀ t σ, Q t σ → R.contract.during R.errand σ)
    (h : ∀ σ t, P σ → R.regime.tick σ.clock t →
      Q t (σ.after (.answered R.errand .now t) σ.ledger t)) :
    R.Triple P Program.now Q E :=
  Triple.ask rfl fun σ t x l hσ ht ha => by
    obtain ⟨rfl, rfl⟩ := ha
    have hnext := h σ x hσ ht
    exact ⟨hQ _ _ hnext, hnext⟩

/-- **A request that visitors may land in.** What holds while it waits is kept by them. -/
theorem triple_wait {W : Stage → Prop} {r : Request} {T : r.Answer → Stage → Prop} (hr : r.waits)
    (hv : R.isVisitor = false)
    (hissue : ∀ σ t, P σ → R.regime.tick σ.clock t →
      W (σ.after (.issued R.errand r) σ.ledger t))
    (hlull : ∀ σ, W σ → R.contract.lull σ) (hmay : ∀ σ σ', W σ → R.contract.may σ σ' → W σ')
    (hT : ∀ x σ, T x σ → R.contract.during R.errand σ)
    (hanswer : ∀ σ t x, W σ → R.regime.tick σ.clock t → R.regime.answers σ.past r x →
      T x (σ.after (.answered R.errand r x) σ.ledger t)) :
    R.Triple P (Program.request r) T E := by
  intro σ hσ
  simp only [Program.request, Meets, hr, if_true, ends]
  refine ⟨hv, fun t ht => ?_⟩
  have hwait := hissue σ t hσ ht
  refine ⟨hlull _ hwait, fun σ' t' x l hm ht' ha hg => ?_⟩
  obtain rfl := ha.ledger_eq (Request.isQuiet_of_waits hr)
  have hnext := hanswer σ' t' x (hmay _ _ hwait hm) ht' hg
  exact ⟨hT x _ hnext, hnext⟩

/-! ### Revisions -/

section Revise

variable {name : String} {edit : Edit}

/-- **A record is read, edited and written**, at the first attempt. -/
theorem triple_revise? {Q : Option Revision → Stage → Prop} (hP : R.Still P)
    (hcopy : ∀ σ r r', P σ → σ.record? name = some r → edit r = .ok (r', true) →
      r'.name = name ∧ r'.version = r.version)
    (habsent : ∀ σ, P σ → σ.record? name = none → Q none σ)
    (hrefused : ∀ σ, P σ → ¬ R.regime.Reliable → E σ)
    (hrejected : ∀ σ r reason, P σ → σ.record? name = some r → edit r = .error reason → E σ)
    (hkept : ∀ σ r r', P σ → σ.record? name = some r → edit r = .ok (r', false) →
      Q (some ⟨r, r', false⟩) σ)
    (hwritten : ∀ σ r r' t, P σ → σ.record? name = some r → edit r = .ok (r', true) →
      R.regime.tick σ.clock t → R.contract.during R.errand (σ.write R.errand r' t) ∧
        Q (some ⟨r, r'.bumped, true⟩) (σ.write R.errand r' t)) :
    R.Triple P (Record.revise? name edit) Q E := by
  refine Triple.bind (hP.readRecord_or name hrefused) fun x => ?_
  cases x with
  | none => exact Triple.done fun σ hσ => habsent σ hσ.1 hσ.2
  | some r =>
    rcases hedit : edit r with e | ⟨r', written⟩
    · simp only [Edit.editor_apply, hedit]
      exact Triple.fail fun σ hσ => hrejected σ r e hσ.1 hσ.2 hedit
    cases written with
    | false =>
      simp only [Edit.editor_apply, hedit]
      exact Triple.done fun σ hσ => hkept σ r r' hσ.1 hσ.2 hedit
    | true =>
      simp only [Edit.editor_apply, hedit]
      refine Triple.ask_admitted rfl fun σ t x l hσ ht ha hg => ?_
      obtain ⟨hname, hversion⟩ := hcopy σ r r' hσ.1 hσ.2 hedit
      have hstored : σ.ledger.get? r'.name = some r := by
        rw [hname]
        exact hσ.2
      rcases ha with ha | ⟨⟨reason, rfl, hout⟩, rfl⟩
      · obtain ⟨rfl, rfl⟩ := Prod.mk.inj (ha.trans (Ledger.replace_of_version hstored hversion))
        exact hwritten σ r r' t hσ.1 hσ.2 hedit ht
      · obtain ⟨hduring, hnext⟩ := hP.fails (r := .replaceRecord r') (x := .error reason) hσ.1
          trivial ht
        refine ⟨hduring, ?_⟩
        have hrefused' := hrefused _ hnext fun hreliable => hreliable _ _ _ hg hout
        -- No failure of the store's own starts another attempt.
        cases reason <;> first | exact hrefused' | cases hout

/-- What holds after a revision, if there was a record to revise. -/
def revised (Q : Revision → Stage → Prop) (E : Stage → Prop) : Option Revision → Stage → Prop
  | some v => Q v
  | none => E

theorem triple_revise {Q : Revision → Stage → Prop} (hP : R.Still P)
    (hcopy : ∀ σ r r', P σ → σ.record? name = some r → edit r = .ok (r', true) →
      r'.name = name ∧ r'.version = r.version)
    (hrefused : ∀ σ, P σ → σ.record? name = none ∨ ¬ R.regime.Reliable → E σ)
    (hrejected : ∀ σ r reason, P σ → σ.record? name = some r → edit r = .error reason → E σ)
    (hkept : ∀ σ r r', P σ → σ.record? name = some r → edit r = .ok (r', false) →
      Q ⟨r, r', false⟩ σ)
    (hwritten : ∀ σ r r' t, P σ → σ.record? name = some r → edit r = .ok (r', true) →
      R.regime.tick σ.clock t → R.contract.during R.errand (σ.write R.errand r' t) ∧
        Q ⟨r, r'.bumped, true⟩ (σ.write R.errand r' t)) :
    R.Triple P (Record.revise name edit) Q E := by
  refine Triple.bind (Q := revised Q E)
    (triple_revise? hP hcopy (fun σ hσ hr => hrefused σ hσ (.inl hr))
      (fun σ hσ hr => hrefused σ hσ (.inr hr)) hrejected hkept hwritten) fun x => ?_
  cases x with
  | none => exact Triple.fail fun _ hσ => hσ
  | some v => exact Triple.done fun _ hσ => hσ

end Revise

end Role

end ImageCatalog
