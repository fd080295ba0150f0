import ImageCatalog.Proofs.Contention.Rely

/-!
# Calls take effect at once

However the operations of calls about one record come, the lists of consumers that are stored are
those that the successful calls make, one after the other, each at one of its own operations: the
last one. A call that fails has no part in it, and no list ever names a consumer twice.

The invariant says of each call that it may go on in reliance on the others, and of the record that
it has changed since a call's last operation if and only if its version has.

## Main definitions

* `applied` — what the successful calls make of a list
* `Crowd.Sound` — the invariant of a run
* `Crowd.Atomic` — what the calls of a crowd have done

## Main results

* `Ledger.Later.since` — a version that has not come round tells whether there was a write
* `Crowd.Sound.step`, `Crowd.Atomic.step` — what a step keeps
* `calls_take_effect_once` — the result on runs
-/

namespace ImageCatalog

variable {name : String}

/-! ### What becomes of a record -/

namespace Ledger

/-- After `n` writes a record is still there, and it is the same if there was none. -/
def Later (name : String) (n : Nat) (l m : Ledger) : Prop :=
  ∀ q, l.get? name = some q →
    ∃ q', m.get? name = some q' ∧ q'.version = q.version + UInt64.ofNat n ∧ (n = 0 → q' = q)

theorem Later.refl (l : Ledger) : Later name 0 l l := by
  intro q hq
  exact ⟨q, hq, by simp, fun _ => rfl⟩

theorem Later.trans {n n' : Nat} {l m o : Ledger} (h : Later name n l m) (h' : Later name n' m o) :
    Later name (n + n') l o := by
  intro q hq
  obtain ⟨q₁, hq₁, hv₁, hsame₁⟩ := h q hq
  obtain ⟨q₂, hq₂, hv₂, hsame₂⟩ := h' q₁ hq₁
  refine ⟨q₂, hq₂, ?_, ?_⟩
  · rw [hv₂, hv₁, UInt64.ofNat_add, UInt64.add_assoc]
  · intro hn
    rw [hsame₂ (by omega), hsame₁ (by omega)]

/-- **A version tells whether there was a write**, unless it has come round. -/
theorem Later.since {n : Nat} {l m : Ledger} {r : Request} (h : Later name n l m)
    (hn : r.InTime n) : Since name r l m := by
  intro hr q q' hq hq' hversion
  obtain ⟨q₁, hq₁, hv, hsame⟩ := h q hq
  obtain rfl : q' = q₁ := Option.some.inj (hq'.symm.trans hq₁)
  have hadd : q.version + UInt64.ofNat n = q.version + 0 := by
    rw [← hv, hversion, UInt64.add_zero]
  have hzero : UInt64.ofNat n = 0 := (UInt64.add_right_inj q.version).mp hadd
  have hround : n % UInt64.size = 0 := by
    rw [← UInt64.toNat_ofNat', hzero]
    rfl
  exact hsame (hn hr (Nat.dvd_of_mod_eq_zero hround))

/-- A record that is put in place of another one under its name is its next version. -/
theorem later_put {l : Ledger} {r stored : Record} (hr : r.name = name)
    (hstored : l.get? name = some stored) (hv : stored.version = r.version) :
    Later name 1 l (l.put r.bumped) := by
  intro q hq
  obtain rfl : stored = q := Option.some.inj (hstored.symm.trans hq)
  refine ⟨r.bumped, get?_put_of_eq hr, ?_, fun h => by omega⟩
  rw [hv]
  rfl

/-- What an operation on a record leaves of it. -/
theorem Answers.later {l l' : Ledger} {t : Instant} {r : Request} {x : r.Answer}
    (ha : l.Answers t r x l') (hr : r.Accesses name) (hnamed : l.Named name) :
    Later name (r.Replaces x).toNat l l' ∧ l'.Named name := by
  cases r with
  | readRecord n =>
    obtain rfl := Settles.ledger_eq ha
    exact ⟨Later.refl l', hnamed⟩
  | createRecord r =>
    rcases ha with ha | ⟨_, rfl⟩
    case inr => exact ⟨Later.refl l', hnamed⟩
    cases hq : l.get? r.name with
    | some q =>
      obtain ⟨_, rfl⟩ := Prod.mk.inj (ha.trans (create_of_present hq))
      exact ⟨Later.refl l', hnamed⟩
    | none =>
      obtain ⟨_, rfl⟩ := Prod.mk.inj (ha.trans (create_of_absent hq))
      refine ⟨?_, Named.put hr⟩
      intro q hq'
      rw [show r.name = name from hr, hq'] at hq
      cases hq
  | replaceRecord r =>
    rcases ha with ha | ⟨⟨e, rfl, _⟩, rfl⟩
    case inr => exact ⟨Later.refl l', hnamed⟩
    cases hq : l.get? r.name with
    | none =>
      obtain ⟨rfl, rfl⟩ := Prod.mk.inj (ha.trans (replace_of_absent hq))
      exact ⟨Later.refl l', hnamed⟩
    | some q =>
      by_cases hv : q.version = r.version
      · obtain ⟨rfl, rfl⟩ := Prod.mk.inj (ha.trans (replace_of_version hq hv.symm))
        rw [show r.name = name from hr] at hq
        exact ⟨later_put hr hq hv, Named.put hr⟩
      · obtain ⟨rfl, rfl⟩ := Prod.mk.inj (ha.trans (replace_of_stale hq hv))
        exact ⟨Later.refl l', hnamed⟩
  | _ => exact hr.elim

end Ledger

/-! ### What a call has done -/

/-- The last operation of a caller. -/
def lastMove (start : Ledger) (i : Nat) : List Access → Option Move
  | [] => none
  | v :: past =>
    if v.caller = i then some ⟨start.afterAll past, v.ledger⟩ else lastMove start i past

theorem lastMove_eq_none {start : Ledger} {i : Nat} {past : List Access}
    (h : ∀ v ∈ past, v.caller ≠ i) : lastMove start i past = none := by
  induction past with
  | nil => rfl
  | cons v past ih =>
    rw [lastMove, if_neg (h v List.mem_cons_self)]
    exact ih fun v hv => h v (List.mem_cons_of_mem _ hv)

/-- Nothing succeeds without an operation. -/
theorem Contends.outcome?_of_none {p : Program (Option Record)} {d : Demand}
    (h : Contends name p (Lands name d) none) : p.outcome?.any Except.isOk = false := by
  cases p with
  | done a => exact h.elim
  | fail e => rfl
  | ask r k => rfl

/-- What an operation does to the list of consumers is a matter of how its call goes on. -/
theorem Contends.consumers_after {p q : Program (Option Record)} {d : Demand} {v : Move}
    (h : Contends name p (Lands name d) (some v)) (hp : p.ComesTo q) :
    v.after.consumers name =
      if q.outcome?.any Except.isOk then d.apply (v.before.consumers name)
      else v.before.consumers name := by
  induction hp with
  | done a => exact h
  | fail e => exact h
  | store hr =>
    rw [Contends, if_pos hr] at h
    exact h.2.1
  | next x hr _ ih =>
    rw [Contends, if_neg (by simp [hr])] at h
    exact ih (h x)

/-- What the calls make of a list that succeed, each at its last operation. -/
def applied (l : List String) : List Access → List String
  | [] => l
  | v :: past => if v.succeeds then v.call.demand.apply (applied l past) else applied l past

theorem nodup_applied {l : List String} (h : l.Nodup) (past : List Access) :
    (applied l past).Nodup := by
  induction past with
  | nil => exact h
  | cons v past ih =>
    rw [applied]
    split
    · exact Demand.nodup_apply _ ih
    · exact ih

namespace Crowd

variable {s s' : Crowd}

/-! ### Callers -/

/-- The call that a caller has made. -/
def call? (s : Crowd) (i : Nat) : Option ConsumerCall :=
  s.callers[i]?.map Caller.call

theorem call?_eq_some {i : Nat} {c : Caller} (h : s.callers[i]? = some c) :
    s.call? i = some c.call := by
  rw [call?, h]
  rfl

theorem lt_of_call? {i : Nat} {call : ConsumerCall} (h : s.call? i = some call) :
    i < s.callers.length := by
  obtain ⟨c, hc, _⟩ := Option.map_eq_some_iff.mp h
  exact (List.getElem?_eq_some_iff.mp hc).1

/-- Whoever was there is still there when somebody comes. -/
theorem call?_join {i : Nat} {call : ConsumerCall} (c : Caller) (h : s.call? i = some call) :
    (s.join c).call? i = some call := by
  rw [call?, join, List.getElem?_append_left (lt_of_call? h)]
  exact h

theorem of_getElem?_join {i : Nat} {c c' : Caller} (h : (s.join c).callers[i]? = some c') :
    s.callers[i]? = some c' ∨ i = s.callers.length ∧ c' = c := by
  rw [join, List.getElem?_append] at h
  split at h
  · exact .inl h
  · obtain ⟨hlt, hc⟩ := List.getElem?_eq_some_iff.mp h
    rw [List.length_singleton] at hlt
    refine .inr ⟨by omega, ?_⟩
    rw [← hc]
    exact List.getElem_singleton _

section

variable {i : Nat} {call : ConsumerCall} {p rest : Program (Option Record)} {r : Request}
  {x : r.Answer} {l : Ledger}

/-- Nobody changes their call. -/
theorem call?_turn (hi : s.callers[i]? = some ⟨call, p⟩) (j : Nat) :
    (s.turn i call r x l rest).call? j = s.call? j := by
  have hlt := lt_of_call? (call?_eq_some hi)
  by_cases hj : i = j
  · rw [call?, turn, ← hj, List.getElem?_set_self hlt, call?_eq_some hi]
    rfl
  · rw [call?, turn, List.getElem?_set_ne hj]
    rfl

theorem of_getElem?_turn {j : Nat} {c : Caller}
    (h : (s.turn i call r x l rest).callers[j]? = some c) :
    i = j ∧ c = ⟨call, rest⟩ ∨ i ≠ j ∧ s.callers[j]? = some c := by
  by_cases hj : i = j
  · rw [turn, ← hj, List.getElem?_set_self'] at h
    obtain ⟨_, _, hc⟩ := Option.map_eq_some_iff.mp h
    exact .inl ⟨hj, hc.symm⟩
  · rw [turn, List.getElem?_set_ne hj] at h
    exact .inr ⟨hj, h⟩

end

/-! ### The invariant -/

/-- What holds at every moment of a run. -/
structure Sound (name : String) (s : Crowd) : Prop where
  named : s.ledger.Named name
  /-- Every operation is one of a caller's on the record. -/
  own : ∀ v ∈ s.past, v.request.Accesses name ∧ s.call? v.caller = some v.call
  /-- Every call may go on. -/
  contends : ∀ i c, s.callers[i]? = some c →
    Contends name c.rest (Lands name c.call.demand) (lastMove s.start i s.past)
  /-- What has become of the record since the last operation of a caller. -/
  later : ∀ i v, lastMove s.start i s.past = some v →
    Ledger.Later name (writesSince i s.past) v.after s.ledger

namespace Sound

theorem before {start : Ledger} (h : start.Named name) : (Crowd.before start).Sound name where
  named := h
  own _ hv := by cases hv
  contends _ _ hi := by cases hi
  later _ _ hv := by cases hv

/-- A caller who has just come has done nothing. -/
theorem caller_ne (h : s.Sound name) : ∀ v ∈ s.past, v.caller ≠ s.callers.length := by
  intro v hv
  have hlt := lt_of_call? (h.own v hv).2
  omega

theorem join (h : s.Sound name) {call : ConsumerCall} {rest : Program (Option Record)}
    (hrest : (call.program name).ComesTo rest) : (s.join ⟨call, rest⟩).Sound name where
  named := h.named
  own v hv := ⟨(h.own v hv).1, call?_join _ (h.own v hv).2⟩
  contends i c hi := by
    obtain hi | ⟨rfl, rfl⟩ := of_getElem?_join hi
    · exact h.contends i c hi
    · show Contends name rest _ (lastMove s.start _ s.past)
      rw [lastMove_eq_none h.caller_ne]
      exact (call.contends).comesTo hrest
  later := h.later

section

variable {i : Nat} {call : ConsumerCall} {r : Request} {k : r.Answer → Program (Option Record)}
  {t : Instant} {x : r.Answer} {l : Ledger} {rest : Program (Option Record)}

/-- A call whose turn it is may go on with any answer. -/
theorem contends_answer (h : s.Sound name) (hi : s.callers[i]? = some ⟨call, .ask r k⟩)
    (hr : r.isStore) (ha : s.ledger.Answers t r x l)
    (htimely : r.InTime (writesSince i s.past)) :
    r.Accesses name ∧ Contends name (k x) (Lands name call.demand) (some ⟨s.ledger, l⟩) := by
  have hask := h.contends i _ hi
  rw [Contends, if_pos hr] at hask
  obtain ⟨haccess, _, hnext⟩ := hask
  refine ⟨haccess, hnext s.ledger t x l h.named (fun v hv => ?_) ha⟩
  exact (h.later i v hv).since htimely

theorem turn (h : s.Sound name) (hi : s.callers[i]? = some ⟨call, .ask r k⟩) (hr : r.isStore)
    (ha : s.ledger.Answers t r x l) (hrest : (k x).ComesTo rest)
    (htimely : r.InTime (writesSince i s.past)) :
    (s.turn i call r x l rest).Sound name := by
  obtain ⟨haccess, hnext⟩ := h.contends_answer hi hr ha htimely
  obtain ⟨hlater, hnamed⟩ := ha.later haccess h.named
  refine ⟨hnamed, ?_, ?_, ?_⟩
  · intro v hv
    rw [call?_turn hi]
    rcases List.mem_cons.mp hv with rfl | hv
    · exact ⟨haccess, call?_eq_some hi⟩
    · exact h.own v hv
  · intro j c hj
    show Contends name c.rest _ (lastMove s.start j (_ :: s.past))
    rw [lastMove]
    obtain ⟨rfl, rfl⟩ | ⟨hne, hj⟩ := of_getElem?_turn hj
    · rw [if_pos rfl]
      exact hnext.comesTo hrest
    · rw [if_neg hne]
      exact h.contends j c hj
  · intro j v hv
    change lastMove s.start j (_ :: s.past) = some v at hv
    show Ledger.Later name (writesSince j (_ :: s.past)) v.after l
    rw [lastMove] at hv
    rw [writesSince]
    by_cases hj : i = j
    · rw [if_pos hj] at hv ⊢
      rw [← Option.some.inj hv]
      exact Ledger.Later.refl l
    · rw [if_neg hj] at hv ⊢
      exact (h.later j v hv).trans hlater

end

/-- **A step keeps the invariant.** -/
theorem step (h : s.Sound name) (hs : s.Step name s') (htimely : Timely s'.past) :
    s'.Sound name := by
  cases hs with
  | join hrest => exact h.join hrest
  | turn hi hr ha hrest => exact h.turn hi hr ha hrest htimely.1

end Sound

/-! ### Effects -/

/-- What the calls of a crowd have done so far. -/
structure Atomic (name : String) (s : Crowd) : Prop where
  /-- Every list that was stored is what the successful calls have made of the first one. -/
  consumers : ∀ past, past <:+ s.past →
    (s.start.afterAll past).consumers name = applied (s.start.consumers name) past
  /-- A call that has succeeded has done so at one operation, and no other call has. -/
  once : ∀ i c, s.callers[i]? = some c →
    s.past.countP (fun v => v.caller == i && v.succeeds) = c.succeeded.toNat

namespace Atomic

theorem before (name : String) (start : Ledger) : (Crowd.before start).Atomic name where
  consumers past hpast := by
    rw [List.suffix_nil.mp hpast]
    rfl
  once _ _ hi := by cases hi

theorem join (h : s.Atomic name) (hsound : s.Sound name) {call : ConsumerCall}
    {rest : Program (Option Record)} (hrest : (call.program name).ComesTo rest) :
    (s.join ⟨call, rest⟩).Atomic name where
  consumers := h.consumers
  once i c hi := by
    obtain hi | ⟨rfl, rfl⟩ := of_getElem?_join hi
    · exact h.once i c hi
    · have hnone : (⟨call, rest⟩ : Caller).succeeded = false :=
        (call.contends.comesTo hrest).outcome?_of_none
      rw [hnone]
      refine List.countP_eq_zero.mpr fun v hv => ?_
      simp [hsound.caller_ne v hv]

theorem turn (h : s.Atomic name) {i : Nat} {call : ConsumerCall} {r : Request}
    {k : r.Answer → Program (Option Record)} {x : r.Answer} {l : Ledger}
    {rest : Program (Option Record)} (hi : s.callers[i]? = some ⟨call, .ask r k⟩)
    (hrest : (k x).ComesTo rest)
    (hnext : Contends name (k x) (Lands name call.demand) (some ⟨s.ledger, l⟩)) :
    (s.turn i call r x l rest).Atomic name where
  consumers past hpast := by
    rcases List.suffix_cons_iff.mp hpast with rfl | hpast
    · have hbefore : s.ledger.consumers name = applied (s.start.consumers name) s.past :=
        h.consumers s.past (List.suffix_refl _)
      have hafter := hnext.consumers_after hrest
      rw [hbefore] at hafter
      exact hafter
    · exact h.consumers past hpast
  once j c hj := by
    show (_ :: s.past).countP _ = _
    rw [List.countP_cons]
    obtain ⟨rfl, rfl⟩ | ⟨hne, hj⟩ := of_getElem?_turn hj
    · have hnone : s.past.countP (fun v => v.caller == i && v.succeeds) = 0 := h.once i _ hi
      rw [hnone, Nat.zero_add]
      show (if (i == i && rest.outcome?.any Except.isOk) = true then 1 else 0) =
        (rest.outcome?.any Except.isOk).toNat
      rw [beq_self_eq_true, Bool.true_and]
      cases rest.outcome?.any Except.isOk <;> rfl
    · rw [h.once j c hj]
      simp [hne]

/-- **A step has one effect at most.** -/
theorem step (h : s.Atomic name) (hsound : s.Sound name) (hs : s.Step name s')
    (htimely : Timely s'.past) : s'.Atomic name := by
  cases hs with
  | join hrest => exact h.join hsound hrest
  | turn hi hr ha hrest =>
    obtain ⟨_, hnext⟩ := hsound.contends_answer hi hr ha htimely.1
    exact h.turn hi hrest hnext

end Atomic

theorem Step.timely (hs : s.Step name s') (h : Timely s'.past) : Timely s.past := by
  cases hs with
  | join => exact h
  | turn => exact h.2

theorem Step.start_eq (hs : s.Step name s') : s'.start = s.start := by
  cases hs <;> rfl

/-- **A run keeps the invariant**, and its steps have the effects that they should. -/
theorem Runs.sound {start : Ledger} (hnamed : start.Named name)
    (hs : (Crowd.before start).Runs name s) (htimely : Timely s.past) :
    s.start = start ∧ s.Sound name ∧ s.Atomic name := by
  induction hs with
  | refl => exact ⟨rfl, .before hnamed, .before name start⟩
  | tail _ hstep ih =>
    obtain ⟨hstart, hsound, hatomic⟩ := ih (hstep.timely htimely)
    exact ⟨hstep.start_eq.trans hstart, hsound.step hstep htimely,
      hatomic.step hsound hstep htimely⟩

end Crowd

/-! ### Runs -/

/-- **Calls about the consumers of a record take effect at once.** Any number of calls may be under
way, and their operations may come in any order. Then every list of consumers that was stored is
what the successful calls have made of the first one, each at one operation of its own; a call that
has not succeeded has made nothing of it, and no list names a consumer twice. -/
theorem calls_take_effect_once {start : Ledger} {s : Crowd} (hnamed : start.Named name)
    (hnodup : (start.consumers name).Nodup) (hs : (Crowd.before start).Runs name s)
    (htimely : Timely s.past) :
    (∀ past, past <:+ s.past →
      (start.afterAll past).consumers name = applied (start.consumers name) past ∧
        ((start.afterAll past).consumers name).Nodup) ∧
    (∀ v ∈ s.past, v.request.Accesses name ∧ s.call? v.caller = some v.call) ∧
    ∀ i c, s.callers[i]? = some c →
      s.past.countP (fun v => v.caller == i && v.succeeds) = c.succeeded.toNat := by
  obtain ⟨rfl, hsound, hatomic⟩ := hs.sound hnamed htimely
  refine ⟨fun past hpast => ?_, hsound.own, hatomic.once⟩
  have hlist := hatomic.consumers past hpast
  refine ⟨hlist, ?_⟩
  rw [hlist]
  exact nodup_applied hnodup past

/-- Two calls find no record and both try to create it; the slower one meets a conflict when it adds
its consumer, and so does a third call that takes the first consumer away. A fourth one asks for
another provider. -/
theorem calls_take_effect_once_of_race :
    ∃ s, (Crowd.before .empty).Runs "flatcar" s ∧ Timely s.past ∧ s.past.length = 16 ∧
      s.callers.map Caller.succeeded = [true, true, false, true] ∧
      s.ledger.consumers "flatcar" = ["v2"] ∧ applied [] s.past = ["v2"] ∧
      ∀ i c, s.callers[i]? = some c →
        s.past.countP (fun v => v.caller == i && v.succeeds) = c.succeeded.toNat := by
  let found (s : Crowd) : Bool :=
    s.past.length == 16 && s.callers.map Caller.succeeded == [true, true, false, true] &&
      s.ledger.consumers "flatcar" == ["v2"]
  obtain ⟨s, hs, hfound⟩ := Crowd.exists_runs "flatcar" (.before .empty)
    (Performance.opening .epoch).world
    [.join (.add ⟨"flatcar", "capv"⟩ "v1"), .join (.add ⟨"flatcar", "capv"⟩ "v2"),
      .join (.add ⟨"flatcar", "nutanix"⟩ "v3"), .turn 0, .turn 1, .turn 0, .turn 1, .turn 0,
      .turn 1, .turn 0, .turn 1, .join (.remove "v1"), .turn 1, .turn 3, .turn 1, .turn 3, .turn 3,
      .turn 3, .turn 2, .turn 2]
    found (by decide +kernel)
  simp only [found, Bool.and_eq_true, beq_iff_eq] at hfound
  obtain ⟨⟨hlength, hsucceeded⟩, hlist⟩ := hfound
  have htimely : Timely s.past := Timely.of_length (by rw [hlength]; decide)
  have hnamed : Ledger.empty.Named "flatcar" := by
    intro r hr
    cases hr
  obtain ⟨happlied, _, honce⟩ := calls_take_effect_once hnamed List.nodup_nil hs htimely
  refine ⟨s, hs, htimely, hlength, hsucceeded, hlist, ?_, honce⟩
  have hlast := (happlied s.past (List.suffix_refl _)).1
  obtain ⟨hstart, _, _⟩ := hs.sound hnamed htimely
  rw [Crowd.ledger, hstart] at hlist
  exact hlast.symm.trans hlist

end ImageCatalog
