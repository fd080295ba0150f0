import ImageCatalog.Proofs.Consumers.Walk
import ImageCatalog.Proofs.Contention.Crowd

/-!
# What a call may rely on

Between two operations of a call others may have written. The call may rely on this: a record that
has the version it had is the record that it was. In return no operation of the call changes who
needs the image, but the last one of a call that succeeds, and that one does to the list what the
call demands.

`Contends` says so of a program: from what its last operation did, whatever others have done since,
up to its end.

## Main definitions

* `Request.Accesses` — the requests that calls about a record make
* `Ledger.Named`, `Ledger.consumers` — the record of a name, and who needs its image
* `Ledger.Since`, `Move` — what others leave in place, and what an operation does
* `Contends` — what a program relies on and keeps to
* `Lands` — how a call may end

## Main results

* `Contends.bind`, `Contends.comesTo` — programs taken part by part
* `contends_reviseWithin` — an edit takes effect at its last operation, or not at all
* `ConsumerCall.contends` — so do the two calls
-/

namespace ImageCatalog

/-! ### One record in a ledger -/

/-- Whether a request reads the record `name`, creates it or replaces it. -/
def Request.Accesses (name : String) : Request → Prop
  | readRecord n => n = name
  | createRecord r | replaceRecord r => r.name = name
  | _ => False

namespace Ledger

/-- The record under a name bears that name. -/
def Named (name : String) (l : Ledger) : Prop :=
  ∀ r, l.get? name = some r → r.name = name

/-- Who needs the image of a record. If there is none, nobody does. -/
def consumers (l : Ledger) (name : String) : List String :=
  match l.get? name with
  | some r => r.consumers
  | none => []

theorem consumers_of_get? {l : Ledger} {name : String} {r : Record} (h : l.get? name = some r) :
    l.consumers name = r.consumers := by
  rw [consumers, h]

theorem consumers_of_absent {l : Ledger} {name : String} (h : l.get? name = none) :
    l.consumers name = [] := by
  rw [consumers, h]

theorem consumers_put {l : Ledger} {name : String} {r : Record} (h : r.name = name) :
    (l.put r).consumers name = r.consumers :=
  consumers_of_get? (get?_put_of_eq h)

theorem Named.put {l : Ledger} {name : String} {r : Record} (h : r.name = name) :
    (l.put r).Named name := by
  intro q hq
  rw [get?_put_of_eq h, Option.some.injEq] at hq
  rw [← hq]
  exact h

/-- What others leave in place from `l` to `m`: a record that is to be replaced and has the version
that it had is the same. -/
def Since (name : String) (r : Request) (l m : Ledger) : Prop :=
  r.isReplacement → ∀ q q', l.get? name = some q → m.get? name = some q' →
    q'.version = q.version → q' = q

end Ledger

/-! ### Programs among others -/

/-- What an operation does. -/
structure Move where
  before : Ledger
  after : Ledger

/-- Nobody has come or gone with the last operation, if there was one. -/
def Silent (name : String) : Option Move → Prop
  | some v => v.after.consumers name = v.before.consumers name
  | none => True

theorem silent_none {name : String} : Silent name none :=
  trivial

theorem silent_same {name : String} (l : Ledger) : Silent name (some ⟨l, l⟩) :=
  rfl

variable {α β : Type} {name : String}

/-- After its last operation the program accesses the record `name` only, it changes no list of
consumers before its last operation, and it ends in `Q` with its result and that operation. -/
def Contends (name : String) :
    Program α → (Except Failure α → Option Move → Prop) → Option Move → Prop
  | .done a, Q, last => Q (.ok a) last
  | .fail e, Q, last => Q (.error e) last
  | .ask r k, Q, last =>
    if r.isStore then
      r.Accesses name ∧ Silent name last ∧
        ∀ l t x l', l.Named name → (∀ v ∈ last, Ledger.Since name r v.after l) →
          l.Answers t r x l' → Contends name (k x) Q (some ⟨l, l'⟩)
    else ∀ x, Contends name (k x) Q last

namespace Contends

variable {Q Q' : Except Failure α → Option Move → Prop} {last : Option Move}

theorem mono {p : Program α} (h : Contends name p Q last) (himp : ∀ x last, Q x last → Q' x last) :
    Contends name p Q' last := by
  induction p generalizing last with
  | done a => exact himp _ _ h
  | fail e => exact himp _ _ h
  | ask r k ih =>
    unfold Contends at h ⊢
    split at h
    · rename_i hr
      rw [if_pos hr]
      exact ⟨h.1, h.2.1, fun l t x l' hn hs ha => ih x (h.2.2 l t x l' hn hs ha)⟩
    · rename_i hr
      rw [if_neg hr]
      exact fun x => ih x (h x)

/-- What is left to show after the first of two programs. -/
def Then (name : String) (f : α → Program β) (Q : Except Failure β → Option Move → Prop) :
    Except Failure α → Option Move → Prop
  | .ok a, last => Contends name (f a) Q last
  | .error e, last => Q (.error e) last

/-- **A program is taken part by part.** -/
theorem bind {p : Program α} {f : α → Program β} {Q : Except Failure β → Option Move → Prop}
    (h : Contends name p (Then name f Q) last) : Contends name (p >>= f) Q last := by
  induction p generalizing last with
  | done a => exact h
  | fail e => exact h
  | ask r k ih =>
    rw [Program.ask_bind]
    unfold Contends at h ⊢
    split at h
    · rename_i hr
      rw [if_pos hr]
      exact ⟨h.1, h.2.1, fun l t x l' hn hs ha => ih x (h.2.2 l t x l' hn hs ha)⟩
    · rename_i hr
      rw [if_neg hr]
      exact fun x => ih x (h x)

/-- What a program does by itself does not matter to the others. -/
theorem comesTo {p q : Program α} (h : Contends name p Q last) (hp : p.ComesTo q) :
    Contends name q Q last := by
  induction hp with
  | done a => exact h
  | fail e => exact h
  | store hr => exact h
  | next x hr _ ih =>
    simp only [Contends, hr, Bool.false_eq_true, if_false] at h
    exact ih (h x)

/-- A request for the store. -/
theorem access {r : Request} {k : r.Answer → Program α} (hr : r.isStore) (ha : r.Accesses name)
    (hlast : Silent name last)
    (h : ∀ l t x l', l.Named name → (∀ v ∈ last, Ledger.Since name r v.after l) →
      l.Answers t r x l' → Contends name (k x) Q (some ⟨l, l'⟩)) :
    Contends name (.ask r k) Q last := by
  rw [Contends, if_pos hr]
  exact ⟨ha, hlast, h⟩

theorem readRecord {Q : Except Failure (Option Record) → Option Move → Prop}
    (hlast : Silent name last) (hfail : ∀ e l, Q (.error e) (some ⟨l, l⟩))
    (h : ∀ l : Ledger, l.Named name → Q (.ok (l.get? name)) (some ⟨l, l⟩)) :
    Contends name (Program.readRecord name) Q last := by
  refine access rfl rfl hlast fun l t x l' hn _ ha => ?_
  rcases ha with ha | ⟨⟨e, rfl, _⟩, rfl⟩
  · obtain ⟨rfl, rfl⟩ := Prod.mk.inj ha
    exact h l' hn
  · exact hfail e l'

/-- **A copy is written back.** It is stored only in place of the record that it was made from,
since the versions are the same. -/
theorem replace {l : Ledger} {r r' : Record} {k : Except Failure Record → Program α}
    (hr : l.get? name = some r) (hname : r'.name = name) (hversion : r'.version = r.version)
    (hstored : ∀ m : Ledger, m.get? name = some r →
      Contends name (k (.ok r'.bumped)) Q (some ⟨m, m.put r'.bumped⟩))
    (hstale : ∀ m actual,
      Contends name (k (.error (.conflict r'.name r'.version actual))) Q (some ⟨m, m⟩))
    (habsent : ∀ m : Ledger, m.get? name = none →
      Contends name (k (.error (.imageNotFound r'.name))) Q (some ⟨m, m⟩))
    (hout : ∀ m e, Failure.isOutage e → Contends name (k (.error e)) Q (some ⟨m, m⟩)) :
    Contends name (.ask (.replaceRecord r') k) Q (some ⟨l, l⟩) := by
  refine access rfl hname rfl fun m t x m' _ hsince ha => ?_
  rcases ha with ha | ⟨⟨e, rfl, he⟩, rfl⟩
  case inr => exact hout m' e he
  cases hq : m.get? r'.name with
  | none =>
    obtain ⟨rfl, rfl⟩ := Prod.mk.inj (ha.trans (Ledger.replace_of_absent hq))
    rw [hname] at hq
    exact habsent m' hq
  | some q =>
    by_cases hv : q.version = r'.version
    · obtain ⟨rfl, rfl⟩ := Prod.mk.inj (ha.trans (Ledger.replace_of_version hq hv.symm))
      rw [hname] at hq
      have hsame : q = r := hsince _ rfl rfl r q hr hq (hv.trans hversion)
      rw [hsame] at hq
      exact hstored m hq
    · obtain ⟨rfl, rfl⟩ := Prod.mk.inj (ha.trans (Ledger.replace_of_stale hq hv))
      exact hstale m' q.version

theorem emitIf {b : Bool} {event : Event} {Q : Except Failure Unit → Option Move → Prop}
    (h : Q (.ok ()) last) : Contends name (Program.emitIf b event) Q last := by
  cases b with
  | false => exact h
  | true => exact fun _ => h

theorem reportAddition {c : String} {v : Revision} {Q : Except Failure Unit → Option Move → Prop}
    (h : Q (.ok ()) last) : Contends name (Consumers.reportAddition name c v) Q last := by
  unfold Consumers.reportAddition
  refine Contends.bind (Contends.emitIf ?_)
  refine Contends.bind (Contends.emitIf ?_)
  cases v.after.phase with
  | some phase => exact Contends.emitIf h
  | none => exact h

end Contends

/-! ### The two calls -/

/-- The last operation has done to the list of consumers what is demanded. -/
def Met (name : String) (d : Demand) : Option Move → Prop
  | some v => v.after.consumers name = d.apply (v.before.consumers name)
  | none => False

/-- How a call may end: its last operation meets the demand if it succeeds, and changes no list of
consumers if it fails. -/
def Lands (name : String) (d : Demand) : Except Failure α → Option Move → Prop
  | .ok _, last => Met name d last
  | .error _, last => Silent name last

/-- How an edit may end: as a call, unless there was no record. -/
def LandsIfAny (name : String) (d : Demand) : Except Failure (Option Revision) → Option Move → Prop
  | .ok none, last => ∃ l : Ledger, l.get? name = none ∧ last = some ⟨l, l⟩
  | x, last => Lands name d x last

section Revise

variable {edit : Edit} {d : Demand} {last : Option Move}

/-- **An edit takes effect at its last operation, or not at all.** -/
theorem contends_reviseWithin
    (hcopy : ∀ r r', r.name = name → edit r = .ok (r', true) →
      r'.name = name ∧ r'.version = r.version ∧ r'.consumers = d.apply r.consumers)
    (hkept : ∀ r r', edit r = .ok (r', false) → d.apply r.consumers = r.consumers)
    (attempts : Nat) (hlast : Silent name last) :
    Contends name (Record.reviseWithin name edit attempts) (LandsIfAny name d) last := by
  induction attempts generalizing last with
  | zero =>
    intro _
    exact hlast
  | succ attempts ih =>
    refine Contends.bind (Contends.readRecord hlast (fun _ => silent_same) fun l hnamed => ?_)
    cases hr : l.get? name with
    | none => exact ⟨l, hr, rfl⟩
    | some r =>
      rcases hedit : edit r with e | ⟨r', written⟩
      · simp only [Contends.Then, Edit.editor_apply, hedit]
        exact silent_same l
      cases written with
      | false =>
        simp only [Contends.Then, Edit.editor_apply, hedit]
        show l.consumers name = d.apply (l.consumers name)
        rw [Ledger.consumers_of_get? hr, hkept r r' hedit]
      | true =>
        simp only [Contends.Then, Edit.editor_apply, hedit]
        obtain ⟨hname, hversion, hconsumers⟩ := hcopy r r' (hnamed r hr) hedit
        refine Contends.replace hr hname hversion ?_ (fun m _ => ih (silent_same m))
          (fun m hm => ⟨m, hm, rfl⟩) ?_
        · intro m hm
          show (m.put r'.bumped).consumers name = d.apply (m.consumers name)
          rw [Ledger.consumers_put (r := r'.bumped) hname, Ledger.consumers_of_get? hm]
          exact hconsumers
        · intro m e hout
          -- No failure of the store's own starts another attempt.
          cases e <;> first | exact silent_same m | cases hout

end Revise

/-- A record is there or created, and nobody needs it more or less than before. -/
theorem contends_ensureRecord {spec : Spec} {last : Option Move} (hlast : Silent name last) :
    Contends name (Consumers.ensureRecord name spec) (fun _ => Silent name) last := by
  refine Contends.bind (Contends.readRecord hlast (fun _ => silent_same) fun l _ => ?_)
  cases l.get? name with
  | some r => exact silent_same l
  | none =>
    intro (now : Instant)
    refine Contends.access (r := .createRecord (.new name spec now)) rfl rfl rfl
      fun m t x m' _ _ ha => ?_
    rcases ha with ha | ⟨⟨e, rfl, _⟩, rfl⟩
    case inr => cases e <;> exact silent_same m'
    cases hq : m.get? name with
    | some q =>
      obtain ⟨rfl, rfl⟩ := Prod.mk.inj
        (ha.trans (Ledger.create_of_present (r := .new name spec now) hq))
      exact silent_same m'
    | none =>
      obtain ⟨rfl, rfl⟩ := Prod.mk.inj
        (ha.trans (Ledger.create_of_absent (r := .new name spec now) hq))
      intro _
      show (m.put (Record.new name spec now).atFirst).consumers name = m.consumers name
      have hname : (Record.new name spec now).atFirst.name = name := rfl
      rw [Ledger.consumers_put hname, Ledger.consumers_of_absent hq]
      rfl

/-- An addition of a consumer demands that it be on the list. -/
theorem contends_addWithin {spec : Spec} {c : String} {last : Option Move} (attempts : Nat)
    (hlast : Silent name last) :
    Contends name (Consumers.addWithin name spec c attempts) (Lands name (.add c)) last := by
  induction attempts generalizing last with
  | zero => exact hlast
  | succ attempts ih =>
    refine Contends.bind ((contends_ensureRecord hlast).mono fun x last hlast => ?_)
    cases x with
    | error e => exact hlast
    | ok _ =>
      refine Contends.bind ((contends_reviseWithin (d := .add c) ?_ ?_ _ hlast).mono ?_)
      · intro r r' hname he
        obtain ⟨_, rfl, _⟩ | ⟨hw, _⟩ := Consumers.addition_ok he
        · rw [r.addConsumer_eq c]
          exact ⟨hname, rfl, rfl⟩
        · cases hw
      · intro r r' he
        obtain ⟨hw, _⟩ | ⟨_, _, hmem, _⟩ := Consumers.addition_ok he
        · cases hw
        · exact Demand.apply_add_of_mem (by simpa [Record.hasConsumer] using hmem)
      · intro x last h
        rcases x with e | _ | v
        · exact h
        · obtain ⟨l, _, rfl⟩ := h
          exact ih (silent_same l)
        · exact Contends.bind (Contends.reportAddition h)

theorem contends_check {x : Option Name.Fault} {f : Name.Fault → Failure} {d : Demand}
    {p : Program α} {last : Option Move} (hlast : Silent name last)
    (h : Contends name p (Lands name d) last) :
    Contends name ((match x with | none => pure () | some fault => .fail (f fault)) >>= fun _ => p)
      (Lands name d) last := by
  cases x with
  | none => exact h
  | some _ => exact hlast

/-- **What a call demands is done to the list by the last operation of the call if it succeeds, and
not at all if it fails.** -/
theorem ConsumerCall.contends (call : ConsumerCall) :
    Contends name (call.program name) (Lands name call.demand) none := by
  cases call with
  | add spec c =>
    refine Contends.bind ((?_ : Contends name _ (Lands name (.add c)) none).mono fun x last h => ?_)
    · exact contends_check silent_none
        (contends_check silent_none (contends_addWithin _ silent_none))
    · cases x with
      | ok r => exact h
      | error e => exact h
  | remove c =>
    refine contends_check silent_none (Contends.bind ?_)
    refine (contends_reviseWithin (d := .drop c) ?_ ?_ _ silent_none).mono ?_
    · intro r r' hname he
      obtain ⟨_, rfl⟩ := Edit.when_eq_true he
      exact ⟨hname, rfl, rfl⟩
    · intro r r' he
      obtain ⟨hc, _⟩ := Edit.when_eq_false he
      exact Demand.apply_drop_of_not_mem (by simpa [Record.hasConsumer] using hc)
    · intro x last h
      rcases x with e | _ | v
      · exact h
      · obtain ⟨l, hl, rfl⟩ := h
        show l.consumers name = (Demand.drop c).apply (l.consumers name)
        rw [Ledger.consumers_of_absent hl]
        rfl
      · exact Contends.bind (Contends.emitIf h)

end ImageCatalog
