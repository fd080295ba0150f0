import ImageCatalog.Proofs.Run.Prompt

/-!
# Traces of programs

The calls that a program makes, one after the other, with what it is told. Only requests that take
their time are kept: probes and calls on a provider. What the store answers, which visitors have
changed it and what time it is does not show in a trace, so a statement about all traces of a
program is one about all of that.

A trace may be looked at before the program is at its end. Then its last call may have no answer
yet, and there is no outcome.

## Main definitions

* `Exchange` — a call, with its answer
* `Program.Trace` — the traces of a program
* `Program.Comes` — from a program to what is left of it after some calls

## Main results

* `Program.Trace.of_bind`, `Program.Trace.of_ask` — traces are taken apart along the program
* `Program.Comes.trace` — what has been called so far is a trace
-/

namespace ImageCatalog

/-- A request that takes its time, with the answer if there is one yet. -/
structure Exchange where
  request : Request
  answer? : Option request.Answer

namespace Program

variable {α β : Type}

/-- The program makes these calls, and has come to an outcome if there is one. -/
inductive Trace : Program α → List Exchange → Option (Except Failure α) → Prop where
  /-- The program is not looked at any further. -/
  | stop {p : Program α} : Trace p [] none
  | atDone (a : α) : Trace (done a) [] (some (.ok a))
  | atFail (e : Failure) : Trace (fail e) [] (some (.error e))
  /-- A call is under way. -/
  | issue {r : Request} {k : r.Answer → Program α} : r.waits → Trace (ask r k) [⟨r, none⟩] none
  | answer {r : Request} {k : r.Answer → Program α} {x : r.Answer} {t : List Exchange}
      {o : Option (Except Failure α)} :
    r.waits → Trace (k x) t o → Trace (ask r k) (⟨r, some x⟩ :: t) o
  /-- What is answered at once is not kept. -/
  | skip {r : Request} {k : r.Answer → Program α} {t : List Exchange}
      {o : Option (Except Failure α)} (x : r.Answer) :
    r.waits = false → Trace (k x) t o → Trace (ask r k) t o

variable {p : Program α} {f : α → Program β} {t : List Exchange}
  {r : Request} {k : r.Answer → Program α}

theorem Trace.of_done {a : α} {o : Option (Except Failure α)} (h : (done a).Trace t o) :
    t = [] ∧ ∀ x, o = some x → x = .ok a := by
  cases h with
  | stop => exact ⟨rfl, nofun⟩
  | atDone => exact ⟨rfl, fun _ ho => (Option.some.inj ho).symm⟩

theorem Trace.of_fail {e : Failure} {o : Option (Except Failure α)}
    (h : (fail e : Program α).Trace t o) : t = [] ∧ ∀ x, o = some x → x = .error e := by
  cases h with
  | stop => exact ⟨rfl, nofun⟩
  | atFail => exact ⟨rfl, fun _ ho => (Option.some.inj ho).symm⟩

/-- The calls of a program that begins with one. -/
theorem Trace.of_ask {o : Option (Except Failure α)} (hr : r.waits) (h : (ask r k).Trace t o) :
    (t = [] ∧ o = none) ∨ (t = [⟨r, none⟩] ∧ o = none) ∨
      ∃ x t', t = ⟨r, some x⟩ :: t' ∧ (k x).Trace t' o := by
  cases h with
  | stop => exact .inl ⟨rfl, rfl⟩
  | issue => exact .inr (.inl ⟨rfl, rfl⟩)
  | answer _ h => exact .inr (.inr ⟨_, _, rfl, h⟩)
  | skip x hr' => rw [hr] at hr'; cases hr'

theorem Trace.of_request {f : r.Answer → Program α} {o : Option (Except Failure α)} (hr : r.waits)
    (h : (request r >>= f).Trace t o) :
    (t = [] ∧ o = none) ∨ (t = [⟨r, none⟩] ∧ o = none) ∨
      ∃ x t', t = ⟨r, some x⟩ :: t' ∧ (f x).Trace t' o :=
  of_ask hr h

/-- **Programs one after the other.** Either the first one is not over, or has failed, or its calls
come before those of the second one. -/
theorem Trace.of_bind {o : Option (Except Failure β)} (h : (p >>= f).Trace t o) :
    (p.Trace t none ∧ o = none) ∨ (∃ e, p.Trace t (some (.error e)) ∧ o = some (.error e)) ∨
      ∃ a t₁ t₂, t = t₁ ++ t₂ ∧ p.Trace t₁ (some (.ok a)) ∧ (f a).Trace t₂ o := by
  induction p generalizing t with
  | done a => exact .inr (.inr ⟨a, [], t, rfl, .atDone a, h⟩)
  | fail e =>
    cases h with
    | stop => exact .inl ⟨.stop, rfl⟩
    | atFail => exact .inr (.inl ⟨e, .atFail e, rfl⟩)
  | ask r k ih =>
    cases h with
    | stop => exact .inl ⟨.stop, rfl⟩
    | issue hr => exact .inl ⟨.issue hr, rfl⟩
    | answer hr h =>
      rcases ih _ h with ⟨hp, rfl⟩ | ⟨e, hp, rfl⟩ | ⟨a, t₁, t₂, rfl, hp, hf⟩
      · exact .inl ⟨.answer hr hp, rfl⟩
      · exact .inr (.inl ⟨e, .answer hr hp, rfl⟩)
      · exact .inr (.inr ⟨a, _ :: t₁, t₂, rfl, .answer hr hp, hf⟩)
    | skip x hr h =>
      rcases ih x h with ⟨hp, rfl⟩ | ⟨e, hp, rfl⟩ | ⟨a, t₁, t₂, rfl, hp, hf⟩
      · exact .inl ⟨.skip x hr hp, rfl⟩
      · exact .inr (.inl ⟨e, .skip x hr hp, rfl⟩)
      · exact .inr (.inr ⟨a, t₁, t₂, rfl, .skip x hr hp, hf⟩)

/-- A failure as a result makes no difference to the calls. -/
theorem Trace.of_attempt {o : Option (Except Failure (Except Failure α))}
    (h : p.attempt.Trace t o) : ∃ o', p.Trace t o' := by
  induction p generalizing t with
  | done a | fail e =>
    obtain ⟨rfl, -⟩ := Trace.of_done h
    exact ⟨none, .stop⟩
  | ask r k ih =>
    cases h with
    | stop => exact ⟨none, .stop⟩
    | issue hr => exact ⟨none, .issue hr⟩
    | answer hr h =>
      obtain ⟨o', hp⟩ := ih _ h
      exact ⟨o', .answer hr hp⟩
    | skip x hr h =>
      obtain ⟨o', hp⟩ := ih x h
      exact ⟨o', .skip x hr hp⟩

/-! ### Prompt programs -/

/-- A prompt program makes no calls. -/
theorem Prompt.trace_eq_nil {o : Option (Except Failure α)} (hp : p.Prompt) (h : p.Trace t o) :
    t = [] := by
  induction h with
  | stop | atDone | atFail => rfl
  | issue hr | answer hr => rw [hp.1] at hr; cases hr
  | skip x _ _ ih => exact ih (hp.2 x)

/-- After a prompt program the calls are those of the next one. -/
theorem Prompt.trace_bind {o : Option (Except Failure β)} (hp : p.Prompt)
    (h : (p >>= f).Trace t o) :
    (t = [] ∧ ∀ b, o ≠ some (.ok b)) ∨ ∃ a, (f a).Trace t o := by
  rcases h.of_bind with ⟨ht, rfl⟩ | ⟨e, ht, rfl⟩ | ⟨a, t₁, t₂, rfl, ht, hf⟩
  · exact .inl ⟨hp.trace_eq_nil ht, nofun⟩
  · exact .inl ⟨hp.trace_eq_nil ht, nofun⟩
  · rw [hp.trace_eq_nil ht]
    exact .inr ⟨a, hf⟩

/-- Before a prompt program the calls are those of the one before. -/
theorem Trace.of_bind_prompt {o : Option (Except Failure β)} (h : (p >>= f).Trace t o)
    (hf : ∀ a, (f a).Prompt) : ∃ o', p.Trace t o' := by
  rcases h.of_bind with ⟨ht, -⟩ | ⟨e, ht, -⟩ | ⟨a, t₁, t₂, rfl, ht, hf'⟩
  · exact ⟨_, ht⟩
  · exact ⟨_, ht⟩
  · rw [(hf a).trace_eq_nil hf', List.append_nil]
    exact ⟨_, ht⟩

/-! ### What is left of a program -/

/-- From a program to what is left of it, after some calls that were answered. -/
inductive Comes : Program α → List Exchange → Program α → Prop where
  | refl (p : Program α) : Comes p [] p
  | answer {r : Request} {k : r.Answer → Program α} {x : r.Answer} {t : List Exchange}
      {q : Program α} : r.waits → Comes (k x) t q → Comes (ask r k) (⟨r, some x⟩ :: t) q
  | skip {r : Request} {k : r.Answer → Program α} {t : List Exchange} {q : Program α}
      (x : r.Answer) : r.waits = false → Comes (k x) t q → Comes (ask r k) t q

/-- One more call is answered. -/
theorem Comes.answered (h : p.Comes t (ask r k)) (hr : r.waits) (x : r.Answer) :
    p.Comes (t ++ [⟨r, some x⟩]) (k x) := by
  generalize hq : ask r k = q at h
  induction h with
  | refl => subst hq; exact .answer hr (.refl _)
  | answer hw _ ih => exact .answer hw (ih hq)
  | skip y hw _ ih => exact .skip y hw (ih hq)

/-- One more request is answered at once. -/
theorem Comes.skipped (h : p.Comes t (ask r k)) (hr : r.waits = false) (x : r.Answer) :
    p.Comes t (k x) := by
  generalize hq : ask r k = q at h
  induction h with
  | refl => subst hq; exact .skip x hr (.refl _)
  | answer hw _ ih => exact .answer hw (ih hq)
  | skip y hw _ ih => exact .skip y hw (ih hq)

/-- **What has been called so far is a trace**, with the call that is under way. -/
theorem Comes.trace (h : p.Comes t (ask r k)) (hr : r.waits) : p.Trace (t ++ [⟨r, none⟩]) none := by
  generalize hq : ask r k = q at h
  induction h with
  | refl => subst hq; exact .issue hr
  | answer hw _ ih => exact .answer hw (ih hq)
  | skip y hw _ ih => exact .skip y hw (ih hq)

end Program

end ImageCatalog
