import ImageCatalog.Proofs.Run.Performance

/-!
# Calls at the same time

Any number of calls about the consumers of one record are under way at once, on one store. A call
does its own work without a break from one operation of the store to the next. In which order the
operations of different calls come is left open, and new calls may come at any time. The store may
fail as in any run, but nothing takes records away.

What has been done is kept in a chronicle of the operations, the latest first. An operation after
which the call is at its end tells what the call returns.

## Versions come round

A version has 64 bits, so it comes back after `2 ^ 64` writes, and a copy that was kept for exactly
so long, or a multiple of it, passes for a fresh one. `Timely` excludes such copies and nothing
else: there is no bound on the number of calls, on the length of a run or on the number of writes
in it.

## Main definitions

* `ConsumerCall`, `ConsumerCall.program` — a consumer is added or removed
* `Access`, `Crowd`, `Crowd.Step`, `Crowd.Runs` — calls that are under way, and the orders in which
  their operations may come
* `Request.InTime`, `Timely` — no copy is kept until its version comes round again
* `Crowd.play` — a run that can be computed

## Main results

* `Crowd.exists_runs` — what is computed is a run
* `Timely.of_length` — short runs are timely
-/

namespace ImageCatalog

/-! ### Programs between two operations of the store -/

/-- Whether a request is one of the store. -/
def Request.isStore : Request → Bool
  | readRecord _ | createRecord _ | replaceRecord _ | removeRecord .. | listRecords => true
  | _ => false

/-- Whether a request is to replace a record. -/
def Request.isReplacement : Request → Bool
  | replaceRecord _ => true
  | _ => false

/-- Whether the answer is that a record was replaced. -/
def Request.Replaces : (r : Request) → r.Answer → Bool
  | replaceRecord _, .ok _ => true
  | _, _ => false

namespace Program

variable {α : Type}

/-- How a program has ended, if it is at its end. -/
def outcome? : Program α → Option (Except Failure α)
  | done a => some (.ok a)
  | fail e => some (.error e)
  | ask .. => none

/-- A program goes on until it is at its end or has a request for the store. Whatever it asks for on
the way may be answered in any way. -/
inductive ComesTo : Program α → Program α → Prop where
  | done (a : α) : ComesTo (done a) (done a)
  | fail (e : Failure) : ComesTo (fail e) (fail e)
  | store {r : Request} {k : r.Answer → Program α} : r.isStore → ComesTo (ask r k) (ask r k)
  | next {r : Request} {k : r.Answer → Program α} {q : Program α} (x : r.Answer) :
    r.isStore = false → ComesTo (k x) q → ComesTo (ask r k) q

end Program

/-! ### Calls and crowds -/

/-- A call about one consumer. -/
inductive ConsumerCall where
  | add (spec : Spec) (consumer : String)
  | remove (consumer : String)
deriving DecidableEq

/-- What a call is to make of a list of consumers. -/
def ConsumerCall.demand : ConsumerCall → Demand
  | add _ consumer => .add consumer
  | remove consumer => .drop consumer

/-- The program of a call about the record `name`. -/
def ConsumerCall.program (name : String) : ConsumerCall → Program (Option Record)
  | add spec consumer => do return some (← Consumers.add name spec consumer)
  | remove consumer => Consumers.remove name consumer

/-- A call that was made, with what is left of it. -/
structure Caller where
  call : ConsumerCall
  rest : Program (Option Record)

/-- Whether the call has returned, and not with a failure. -/
def Caller.succeeded (c : Caller) : Bool :=
  c.rest.outcome?.any Except.isOk

/-- An operation of the store in a call. -/
structure Access where
  caller : Nat
  call : ConsumerCall
  request : Request
  answer : request.Answer
  /-- The records after it. -/
  ledger : Ledger
  /-- What the call returns, if this was its last operation. -/
  returns : Option (Except Failure (Option Record))

/-- Whether the call returns after this operation, and not with a failure. -/
def Access.succeeds (v : Access) : Bool :=
  v.returns.any Except.isOk

/-- The records after some operations on `start`. -/
def Ledger.afterAll (start : Ledger) : List Access → Ledger
  | [] => start
  | v :: _ => v.ledger

/-- Calls about one record. -/
structure Crowd where
  /-- The records before the first operation. -/
  start : Ledger
  /-- In the order in which they came. -/
  callers : List Caller
  /-- What was done in the store, the latest first. -/
  past : List Access

namespace Crowd

/-- The records that were left. -/
def ledger (s : Crowd) : Ledger :=
  s.start.afterAll s.past

/-- Nobody has come yet. -/
def before (start : Ledger) : Crowd := ⟨start, [], []⟩

/-- One more call is made. -/
def join (s : Crowd) (c : Caller) : Crowd :=
  { s with callers := s.callers ++ [c] }

/-- A call has its turn: its request is answered, with the records after it, and it goes on to
`rest`. -/
def turn (s : Crowd) (i : Nat) (call : ConsumerCall) (r : Request) (x : r.Answer) (l : Ledger)
    (rest : Program (Option Record)) : Crowd where
  start := s.start
  callers := s.callers.set i ⟨call, rest⟩
  past := ⟨i, call, r, x, l, rest.outcome?⟩ :: s.past

/-- One step of a crowd: someone comes, or anyone who has a request for the store has their turn. -/
inductive Step (name : String) : Crowd → Crowd → Prop where
  | join {s : Crowd} {call : ConsumerCall} {rest : Program (Option Record)} :
    (call.program name).ComesTo rest → Step name s (s.join ⟨call, rest⟩)
  | turn {s : Crowd} {i : Nat} {call : ConsumerCall} {r : Request}
      {k : r.Answer → Program (Option Record)} {t : Instant} {x : r.Answer} {l : Ledger}
      {rest : Program (Option Record)} :
    s.callers[i]? = some ⟨call, .ask r k⟩ → r.isStore → s.ledger.Answers t r x l →
    (k x).ComesTo rest → Step name s (s.turn i call r x l rest)

/-- The runs of crowds with calls about the record `name`. -/
def Runs (name : String) : Crowd → Crowd → Prop :=
  Relation.ReflTransGen (Step name)

end Crowd

/-! ### Copies that are kept for too long -/

/-- How many records were replaced since the last operation of a caller. -/
def writesSince (i : Nat) : List Access → Nat
  | [] => 0
  | v :: past =>
    if v.caller = i then 0 else writesSince i past + (v.request.Replaces v.answer).toNat

/-- A copy that is written back after `n` writes is not one that the version has come round to. -/
def Request.InTime (r : Request) (n : Nat) : Prop :=
  r.isReplacement → UInt64.size ∣ n → n = 0

/-- Every copy is written back in time. -/
def Timely : List Access → Prop
  | [] => True
  | v :: past => v.request.InTime (writesSince v.caller past) ∧ Timely past

theorem writesSince_le (i : Nat) (past : List Access) : writesSince i past ≤ past.length := by
  induction past with
  | nil => exact Nat.le_refl 0
  | cons v past ih =>
    rw [writesSince, List.length_cons]
    have hone := Bool.toNat_le (v.request.Replaces v.answer)
    split <;> omega

/-- A run with fewer operations than there are versions is timely. -/
theorem Timely.of_length {past : List Access} (h : past.length < UInt64.size) : Timely past := by
  induction past with
  | nil => exact trivial
  | cons v past ih =>
    rw [List.length_cons] at h
    have hle := writesSince_le v.caller past
    exact ⟨fun _ hround => Nat.eq_zero_of_dvd_of_lt hround (by omega), ih (by omega)⟩

/-! ### Runs that are computed -/

/-- Goes on to the next request for the store, with the answers of a world on the way. -/
def Program.advance {α : Type} (w : World) : Program α → Program α
  | .done a => .done a
  | .fail e => .fail e
  | .ask r k => if r.isStore then .ask r k else (k (w.answer r).1).advance w

theorem Program.comesTo_advance {α : Type} (w : World) (p : Program α) :
    p.ComesTo (p.advance w) := by
  induction p with
  | done a => exact .done a
  | fail e => exact .fail e
  | ask r k ih =>
    rw [advance]
    split
    · rename_i hr
      exact .store hr
    · rename_i hr
      exact .next _ (by simpa using hr) (ih _)

namespace Crowd

/-- What is to happen next in a crowd. -/
inductive Cue where
  | join (call : ConsumerCall)
  | turn (caller : Nat)

/-- The next step, if it is one. The world answers for the store. -/
def next (name : String) (w : World) (s : Crowd) : Cue → Option Crowd
  | .join call => some (s.join ⟨call, (call.program name).advance w⟩)
  | .turn i =>
    match s.callers[i]? with
    | some ⟨call, .ask r k⟩ =>
      if r.isStore then
        let (x, w') := { w with store := .ledger s.ledger }.answer r
        some (s.turn i call r x w'.ledger ((k x).advance w))
      else none
    | _ => none

/-- A run under some cues. -/
def play (name : String) (w : World) : List Cue → Crowd → Option Crowd
  | [], s => some s
  | cue :: cues, s => (s.next name w cue).bind (play name w cues)

theorem step_of_next {name : String} {w : World} {s s' : Crowd} {cue : Cue}
    (h : s.next name w cue = some s') : s.Step name s' := by
  cases cue with
  | join call =>
    obtain rfl := Option.some.inj h
    exact .join (Program.comesTo_advance w _)
  | turn i =>
    unfold next at h
    split at h
    · rename_i hcue
      cases hcue
    · rename_i hcue
      obtain rfl := Cue.turn.inj hcue
      split at h
      · rename_i call r k hi
        split at h
        · rename_i hr
          obtain rfl := Option.some.inj h
          have hans := (World.answers_of_ledger (w := { w with store := .ledger s.ledger }) rfl r).2
          exact .turn hi hr hans (Program.comesTo_advance w _)
        · cases h
      · cases h

/-- **A run can be computed**: what is found at the end of it is found in a run. -/
theorem exists_runs (name : String) (s : Crowd) (w : World) (cues : List Cue)
    (found : Crowd → Bool) (h : (s.play name w cues).any found = true) :
    ∃ s', s.Runs name s' ∧ found s' = true := by
  obtain ⟨s', hplay, hfound⟩ := (Option.any_eq_true _ _).mp h
  refine ⟨s', ?_, hfound⟩
  clear h hfound
  induction cues generalizing s with
  | nil =>
    obtain rfl := Option.some.inj hplay
    exact Relation.ReflTransGen.refl
  | cons cue cues ih =>
    obtain ⟨s₁, hnext, hrest⟩ := Option.bind_eq_some_iff.mp hplay
    exact Relation.ReflTransGen.head (step_of_next hnext) (ih s₁ hrest)

end Crowd

end ImageCatalog
