import ImageCatalog.Proofs.Run.Scene
import ImageCatalog.Rehearsal

/-!
# The moments of a rehearsal

A program in a rehearsal comes by one moment after each answer. Once the work is interrupted it
stays so, and no provider is called any more: a call is answered before anything is done for it,
even before the disturbances are looked at. This holds of all programs.

## Main definitions

* `Rehearsal.Step`, `Rehearsal.Comes` — from one moment to a later one
* `Request.IsCut` — the answer to a call that was kept from starting

## Main results

* `Rehearsal.Comes.of_interrupted` — what comes after an interruption
* `Rehearsal.Comes.run_eq`, `Rehearsal.comes_end` — the moments are those of the run
* `Rehearsal.run_calm` — a world is a rehearsal without disturbances
* `Rehearsal.run_bind` — programs one after the other
-/

namespace ImageCatalog

/-- A call on a provider was kept from starting. -/
def Request.IsCut : (r : Request) → r.Answer → Prop
  | lookUp _, x => x = .interrupted
  | upload .., x => x = .interrupted
  | withdraw _, x => x = .interrupted
  | _, _ => False

namespace Rehearsal

variable {α β : Type} {h h' : Rehearsal}

/-- Whether the work is interrupted. -/
def interrupted (h : Rehearsal) : Bool :=
  h.world.timeline.interrupted

/-! ### Answers -/

section

variable (h : Rehearsal)

theorem answer_readRecord (name : String) :
    h.answer (.readRecord name) =
      h.plain .readRecord name (fun _ => some none) fun w => w.answer (.readRecord name) := rfl

theorem answer_createRecord (r : Record) :
    h.answer (.createRecord r) =
      h.plain .createRecord r.name (fun _ => none) fun w => w.answer (.createRecord r) := rfl

theorem answer_replaceRecord (r : Record) :
    h.answer (.replaceRecord r) =
      h.plain .replaceRecord r.name (fun _ => none) fun w => w.answer (.replaceRecord r) := rfl

theorem answer_removeRecord (name : String) (version : Option UInt64) :
    h.answer (.removeRecord name version) =
      h.plain .removeRecord name some fun w => w.answer (.removeRecord name version) := rfl

theorem answer_listRecords :
    h.answer .listRecords =
      h.plain .listRecords "" (fun _ => none) fun w => w.answer .listRecords := rfl

theorem answer_probe (url : String) : h.answer (.probe url) = h.probe url := rfl

theorem answer_lookUp (call : CatalogCall) :
    h.answer (.lookUp call) =
      h.bounded .lookUp call id fun _ w =>
        World.finish (w.lookUp call.provider call.location call.image) := rfl

theorem answer_upload (call : CatalogCall) (url : String) :
    h.answer (.upload call url) =
      h.bounded .upload call (fun _ => ()) fun limit w =>
        w.upload call.provider call.location call.image limit := rfl

theorem answer_withdraw (call : CatalogCall) :
    h.answer (.withdraw call) =
      h.bounded .withdraw call (fun _ => ()) fun _ w =>
        World.finish (w.withdraw call.provider call.location call.image) := rfl

end

/-! ### Runs -/

theorem run_ask (h : Rehearsal) (r : Request) (k : r.Answer → Program α) :
    h.run (.ask r k) = (h.answer r).2.run (k (h.answer r).1) := rfl

/-- **Programs one after the other.** -/
theorem run_bind (p : Program α) (f : α → Program β) (h : Rehearsal) :
    h.run (p >>= f) =
      match h.run p with
      | (.ok a, h') => h'.run (f a)
      | (.error e, h') => (.error e, h') := by
  induction p generalizing h with
  | done a => rfl
  | fail e => rfl
  | ask r k ih =>
    rw [Program.ask_bind, run_ask, run_ask]
    exact ih _ _

theorem plain_calm (w : World) (moment : Moment) (key : String) (reply? : Bool → Option α)
    (answer : World → Except Failure α × World) :
    plain ⟨w, []⟩ moment key reply? answer = ((answer w).1, ⟨(answer w).2, []⟩) := rfl

theorem bounded_calm (w : World) (moment : Moment) (call : CatalogCall) (reply : Bool → α)
    (answer : (limit : Option Duration) → World → Attempt α × World) :
    bounded ⟨w, []⟩ moment call reply answer =
      if w.timeline.interrupted then (.interrupted, ⟨w, []⟩)
      else ((answer (w.limitOf call) w).1, ⟨(answer (w.limitOf call) w).2, []⟩) := by
  unfold bounded
  split <;> rfl

theorem probe_calm (w : World) (url : String) :
    probe ⟨w, []⟩ url = ((w.probe url).1, ⟨(w.probe url).2, []⟩) := by
  by_cases hi : w.timeline.interrupted
  · simp only [probe, ofWorld, World.probe, hi, if_true]
  · simp only [probe, ofWorld, World.probe, hi, Bool.false_eq_true, if_false, plain_calm]

theorem answer_calm (w : World) (r : Request) :
    answer ⟨w, []⟩ r = ((w.answer r).1, ⟨(w.answer r).2, []⟩) := by
  cases r with
  | probe url => exact probe_calm w url
  | lookUp call | upload call url | withdraw call =>
    simp only [answer_lookUp, answer_upload, answer_withdraw, bounded_calm, World.answer]
    cases w.timeline.interrupted <;> rfl
  | readRecord | createRecord | replaceRecord | removeRecord | listRecords =>
    simp only [answer_readRecord, answer_createRecord, answer_replaceRecord, answer_removeRecord,
      answer_listRecords]
    exact plain_calm w _ _ _ _
  | now | emit | log | isInterrupted => rfl

/-- **A world is a rehearsal without disturbances.** -/
theorem run_calm (p : Program α) (w : World) :
    run p ⟨w, []⟩ = ((w.run p).1, ⟨(w.run p).2, []⟩) := by
  induction p generalizing w with
  | done a => rfl
  | fail e => rfl
  | ask r k ih =>
    rw [run_ask, answer_calm]
    exact ih _ _

/-! ### Interruptions -/

theorem interrupted_advance {t : Timeline} (h : t.interrupted) (d : Duration) :
    (t.advance d).interrupted := by
  simp only [Timeline.advance]
  split
  · rfl
  · exact h

/-- An effect leaves the providers alone, and no interruption is taken back. -/
theorem perform_of_interrupted (w : World) (hw : w.timeline.interrupted) (limit : Option Duration)
    (effect : Effect) :
    (perform w limit effect).2.timeline.interrupted ∧
      (perform w limit effect).2.providers = w.providers := by
  cases effect with
  | fail | reply | interrupt | advance =>
    exact ⟨by simp_all [perform, forward, Timeline.interrupt], rfl⟩
  | sleep d =>
    cases limit with
    | none => exact ⟨interrupted_advance hw _, rfl⟩
    | some limit =>
      refine ⟨?_, rfl⟩
      simp [perform, sleepIn, Timeline.sleep, hw]
  | meddle name change =>
    cases change with
    | remove => exact ⟨hw, rfl⟩
    | addConsumer | removeConsumer | setPhase | requestDeletion =>
      simp only [perform, Meddling.perform]
      split <;> exact ⟨hw, rfl⟩

theorem disturb_of_interrupted (hi : h.interrupted) (moment : Moment) (key : String)
    (limit : Option Duration) :
    (h.disturb moment key limit).2.interrupted ∧
      (h.disturb moment key limit).2.world.providers = h.world.providers := by
  unfold disturb
  split
  · exact ⟨hi, rfl⟩
  · exact perform_of_interrupted h.world hi limit _

/-- The store answers without a look at the time or at a provider. -/
theorem plain_of_interrupted (hi : h.interrupted) (moment : Moment) (key : String)
    {reply? : Bool → Option α} {answer : World → Except Failure α × World}
    (ha : ∀ w, (answer w).2.timeline = w.timeline ∧ (answer w).2.providers = w.providers) :
    (h.plain moment key reply? answer).2.interrupted ∧
      (h.plain moment key reply? answer).2.world.providers = h.world.providers := by
  obtain ⟨hi', hp⟩ := disturb_of_interrupted hi moment key none
  have hworld : ∀ h' : Rehearsal, h'.interrupted → h'.world.providers = h.world.providers →
      (h'.ofWorld answer).2.interrupted ∧
        (h'.ofWorld answer).2.world.providers = h.world.providers := by
    intro h' hi' hp'
    obtain ⟨htime, hproviders⟩ := ha h'.world
    refine ⟨?_, hproviders.trans hp'⟩
    unfold interrupted
    rw [ofWorld, htime]
    exact hi'
  unfold plain
  split
  · rename_i heq
    rw [heq] at hi' hp
    exact ⟨hi', hp⟩
  · rename_i heq
    rw [heq] at hi' hp
    split
    · exact ⟨hi', hp⟩
    · exact hworld _ hi' hp
  · rename_i heq
    rw [heq] at hi' hp
    exact hworld _ hi' hp

/-- No call is started once the work is interrupted. -/
theorem bounded_of_interrupted (hi : h.interrupted) (moment : Moment) (call : CatalogCall)
    (reply : Bool → α) (answer : (limit : Option Duration) → World → Attempt α × World) :
    h.bounded moment call reply answer = (.interrupted, h) :=
  if_pos hi

/-- **Once the work is interrupted it stays so, and the providers are left alone.** -/
theorem answer_of_interrupted (hi : h.interrupted) (r : Request) :
    (h.answer r).2.interrupted ∧ (h.answer r).2.world.providers = h.world.providers ∧
      (r.isProviderCall → r.IsCut (h.answer r).1 ∧ (h.answer r).2 = h) := by
  cases r with
  | readRecord | createRecord | replaceRecord | removeRecord | listRecords =>
    simp only [answer_readRecord, answer_createRecord, answer_replaceRecord, answer_removeRecord,
      answer_listRecords]
    refine and_assoc.mp ⟨plain_of_interrupted hi _ _ fun w => ?_, fun hr => by cases hr⟩
    exact ⟨rfl, rfl⟩
  | probe url =>
    have hcut : (h.world.probe url).1 = .error (.cancelled ("probe " ++ url)) ∧
        (h.world.probe url).2 = h.world := by
      unfold World.probe
      rw [if_pos (show h.world.timeline.interrupted from hi)]
      exact ⟨rfl, rfl⟩
    have hanswer : (h.probe url).2 = h := by
      simp only [probe, ofWorld, hcut.1, hcut.2]
    refine ⟨?_, ?_, fun hr => by cases hr⟩
    · rw [answer_probe, hanswer]
      exact hi
    · rw [answer_probe, hanswer]
  | lookUp call | upload call url | withdraw call =>
    first
    | rw [answer_lookUp, bounded_of_interrupted hi]
    | rw [answer_upload, bounded_of_interrupted hi]
    | rw [answer_withdraw, bounded_of_interrupted hi]
    exact ⟨hi, rfl, fun _ => ⟨rfl, rfl⟩⟩
  | now | emit | log | isInterrupted => exact ⟨hi, rfl, fun hr => by cases hr⟩

/-! ### Moments -/

/-- One request of a program, with its answer. -/
inductive Step : Program α × Rehearsal → Program α × Rehearsal → Prop where
  | answer {r : Request} {k : r.Answer → Program α} {h : Rehearsal} :
    Step (.ask r k, h) (k (h.answer r).1, (h.answer r).2)

/-- From one moment of a run to a later one. -/
def Comes : Program α × Rehearsal → Program α × Rehearsal → Prop :=
  Relation.ReflTransGen Step

variable {p p' p'' : Program α} {h'' : Rehearsal}

/-- A run goes on from each of its moments. -/
theorem Comes.run_eq (hc : Comes (p, h) (p', h')) : h.run p = h'.run p' := by
  refine Relation.ReflTransGen.rec (motive := fun m _ => h.run p = m.2.run m.1) rfl ?_ hc
  rintro _ _ _ ⟨⟩ hrun
  exact hrun

/-- Every run comes to its end. -/
theorem comes_end (p : Program α) (h : Rehearsal) : ∃ p', Comes (p, h) (p', (h.run p).2) := by
  induction p generalizing h with
  | done a => exact ⟨.done a, .refl⟩
  | fail e => exact ⟨.fail e, .refl⟩
  | ask r k ih =>
    obtain ⟨p', hp'⟩ := ih (h.answer r).1 (h.answer r).2
    exact ⟨p', .head .answer hp'⟩

/-- **What comes after an interruption.** The work stays interrupted, the providers are left alone,
and the call of a provider that comes next is not started. -/
theorem Comes.of_interrupted (hc : Comes (p, h) (p', h')) (hi : h.interrupted) :
    h'.interrupted ∧ h'.world.providers = h.world.providers ∧
      ∀ (r : Request) (k : r.Answer → Program α), p' = .ask r k → r.isProviderCall →
        r.IsCut (h'.answer r).1 ∧ (h'.answer r).2 = h' := by
  have hkept : h'.interrupted ∧ h'.world.providers = h.world.providers := by
    refine Relation.ReflTransGen.rec (motive := fun m _ =>
      m.2.interrupted ∧ m.2.world.providers = h.world.providers) ⟨hi, rfl⟩ ?_ hc
    rintro _ _ _ ⟨⟩ ⟨hi', hp⟩
    obtain ⟨hi'', hp', -⟩ := answer_of_interrupted hi' _
    exact ⟨hi'', hp'.trans hp⟩
  exact ⟨hkept.1, hkept.2, fun r _ _ hr => (answer_of_interrupted hkept.1 r).2.2 hr⟩

end Rehearsal

end ImageCatalog
