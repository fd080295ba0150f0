import ImageCatalog.Proofs.Contention.Rely

/-!
# Errands at the same time

Any number of errands of all kinds are under way at once, on one store. Each request of an errand is
a turn of its own, and whose turn comes next is left open, so that passes, calls about consumers and
deletion requests may meet between any two operations of the store. New errands may come at any
time.

The store answers as in any run. Providers and the source answer in any way, except that they do not
fail with a conflict, which is a matter of the store alone.

## Main definitions

* `Operation`, `Turn` — an operation of the store, and whose it was
* `Throng`, `Throng.Step`, `Throng.Runs` — errands that are under way, and the orders in which their
  requests may come
* `Request.Plausible` — an answer of a provider or the source that is no conflict
* `lastOperation` — what a member of a throng has done last in the store
* `Throng.play` — a run that can be computed

## Main results

* `Ledger.Answers.effect` — what an answer of the store does to the records
* `Throng.Runs.chronicle` — every turn of a run is one that the store has answered
* `exists_turn_of_changed` — a record that has changed was changed by one of the turns
* `World.plausible_answer` — the providers and the source of a world in memory answer plausibly
* `Throng.exists_runs` — what is computed is a run
-/

namespace ImageCatalog

/-! ### Outcomes -/

section

variable {α β : Type}

/-- An outcome that is no conflict. -/
def Plain (x : Except Failure α) : Prop :=
  ∀ e, x = .error e → e.kind ≠ .conflict

theorem plain_ok (a : α) : Plain (.ok a : Except Failure α) :=
  nofun

theorem plain_error {e : Failure} (h : e.kind ≠ .conflict) :
    Plain (.error e : Except Failure α) := by
  intro e' he
  cases he
  exact h

theorem Plain.bind {x : Except Failure α} {f : α → Except Failure β} (hx : Plain x)
    (hf : ∀ a, Plain (f a)) : Plain (x >>= f) := by
  cases x with
  | ok a => exact hf a
  | error e => exact plain_error (hx e rfl)

end

/-! ### Operations -/

/-- An operation of the store, with the records after it. -/
structure Operation where
  request : Request
  answer : request.Answer
  ledger : Ledger

/-- The answer is that a write meets a conflict: the record is there already, or has another
version. -/
def Request.Clashes : (r : Request) → r.Answer → Prop
  | createRecord _, .error e | replaceRecord _, .error e | removeRecord .., .error e =>
    e.kind = .conflict
  | _, _ => False

def Operation.Clashes (o : Operation) : Prop :=
  o.request.Clashes o.answer

/-- Providers and the source do not fail with a conflict. -/
def Request.Plausible : (r : Request) → r.Answer → Prop
  | probe _, x => Plain x
  | lookUp _, .finished x => Plain x
  | upload .., .finished x => Plain x
  | withdraw _, .finished x => Plain x
  | _, _ => True

/-- Every record is under its name. -/
abbrev Ledger.AllNamed (l : Ledger) : Prop :=
  ∀ n, l.Named n

namespace Ledger.Answers

variable {l l' : Ledger} {t : Instant} {r : Request} {x : r.Answer}

/-- Only requests of the store change records. -/
theorem eq_of_not_isStore (h : l.Answers t r x l') (hr : r.isStore = false) : l' = l := by
  cases r <;> first | exact h | exact h.2 | cases hr

/-- **What an answer does**: nothing, or it meets no conflict, and a record was stored or taken
away. -/
theorem effect (h : l.Answers t r x l') :
    l' = l ∨ ¬ r.Clashes x ∧ ((∃ q, l' = l.put q) ∨ ∃ key, l' = ⟨l.records.erase key⟩) := by
  cases r with
  | createRecord r =>
    rcases h with h | ⟨-, rfl⟩
    · cases hr : l.get? r.name with
      | none =>
        obtain ⟨rfl, rfl⟩ := Prod.mk.inj (h.trans (create_of_absent hr))
        exact .inr ⟨id, .inl ⟨_, rfl⟩⟩
      | some stored => exact .inl (Prod.mk.inj (h.trans (create_of_present hr))).2
    · exact .inl rfl
  | replaceRecord r =>
    rcases h with h | ⟨-, rfl⟩
    · cases hr : l.get? r.name with
      | none => exact .inl (Prod.mk.inj (h.trans (replace_of_absent hr))).2
      | some stored =>
        by_cases hv : stored.version = r.version
        · obtain ⟨rfl, rfl⟩ := Prod.mk.inj (h.trans (replace_of_version hr hv.symm))
          exact .inr ⟨id, .inl ⟨_, rfl⟩⟩
        · exact .inl (Prod.mk.inj (h.trans (replace_of_stale hr hv))).2
    · exact .inl rfl
  | removeRecord name version =>
    rcases h with h | ⟨-, rfl⟩
    · rw [remove] at h
      split at h
      · exact .inl (Prod.mk.inj h).2
      · split at h
        · exact .inl (Prod.mk.inj h).2
        · obtain ⟨rfl, rfl⟩ := Prod.mk.inj h
          exact .inr ⟨id, .inr ⟨name, rfl⟩⟩
    · exact .inl rfl
  | readRecord | listRecords => exact .inl (h.ledger_eq rfl)
  | now | emit | log | probe | lookUp | upload | withdraw | isInterrupted =>
    exact .inl (h.eq_of_not_isStore rfl)

/-- A conflict changes nothing. -/
theorem eq_of_clashes (h : l.Answers t r x l') (hx : r.Clashes x) : l' = l := by
  rcases h.effect with h | ⟨hnot, _⟩
  · exact h
  · exact absurd hx hnot

/-- What the store answers leaves every record under its name. -/
theorem allNamed (h : l.Answers t r x l') (hl : l.AllNamed) : l'.AllNamed := by
  intro n q hq
  rcases h.effect with rfl | ⟨-, ⟨p, rfl⟩ | ⟨key, rfl⟩⟩
  · exact hl n q hq
  · rcases of_get?_put rfl hq with ⟨rfl, rfl⟩ | ⟨-, hq⟩
    · rfl
    · exact hl n q hq
  · exact hl n q (of_get?_erase hq).2

end Ledger.Answers

/-! ### Throngs -/

/-- An errand that is under way, with what is left of it. -/
structure Member where
  errand : Errand
  rest : Program errand.Result

/-- A request of an errand was answered. -/
structure Turn extends Operation where
  member : Nat
  errand : Errand

/-- The records after some turns from `start` on. -/
def Ledger.afterTurns (start : Ledger) : List Turn → Ledger
  | [] => start
  | m :: _ => m.ledger

/-- What a member has done last in the store. -/
def lastOperation (i : Nat) : List Turn → Option Operation
  | [] => none
  | m :: past =>
    if m.member = i ∧ m.request.isStore then some m.toOperation else lastOperation i past

/-- Errands on one store. -/
structure Throng where
  /-- The records before the first turn. -/
  start : Ledger
  /-- In the order in which they came. -/
  members : List Member
  /-- The turns, the latest first. -/
  past : List Turn

namespace Throng

/-- The records that were left. -/
def ledger (c : Throng) : Ledger :=
  c.start.afterTurns c.past

/-- Nobody has come yet. -/
def before (start : Ledger) : Throng := ⟨start, [], []⟩

/-- An errand begins. -/
def join (s : Service) (c : Throng) (e : Errand) : Throng :=
  { c with members := c.members ++ [⟨e, e.program s⟩] }

/-- A member has its turn. -/
def turn (c : Throng) (i : Nat) (e : Errand) (o : Operation) (rest : Program e.Result) :
    Throng where
  start := c.start
  members := c.members.set i ⟨e, rest⟩
  past := ⟨o, i, e⟩ :: c.past

/-- One step of a throng: someone comes, or anyone who is not at its end has a turn. -/
inductive Step (s : Service) : Throng → Throng → Prop where
  | join (c : Throng) (e : Errand) : Step s c (c.join s e)
  | turn {c : Throng} {i : Nat} {e : Errand} {r : Request} {k : r.Answer → Program e.Result}
      {t : Instant} {x : r.Answer} {l : Ledger} :
    c.members[i]? = some ⟨e, .ask r k⟩ → c.ledger.Answers t r x l → r.Plausible x →
    Step s c (c.turn i e ⟨r, x, l⟩ (k x))

/-- The runs of throngs. -/
def Runs (s : Service) : Throng → Throng → Prop :=
  Relation.ReflTransGen (Step s)

end Throng

/-! ### Looking back -/

variable {i : Nat} {past newer : List Turn} {m : Turn} {o : Operation} {start : Ledger}

/-- What a member has done last, and what came before and after it. -/
theorem of_lastOperation (h : lastOperation i past = some o) :
    ∃ newer m older, past = newer ++ m :: older ∧ m.member = i ∧ m.toOperation = o ∧
      ∀ m' ∈ newer, m'.member = i → m'.request.isStore = false := by
  induction past with
  | nil => cases h
  | cons m past ih =>
    rw [lastOperation] at h
    split at h
    · rename_i hm
      exact ⟨[], m, past, rfl, hm.1, Option.some.inj h, fun _ hm' => absurd hm' List.not_mem_nil⟩
    · rename_i hm
      obtain ⟨newer, m', older, rfl, hi, ho, hnewer⟩ := ih h
      refine ⟨m :: newer, m', older, rfl, hi, ho, fun m₁ hm₁ hi₁ => ?_⟩
      rcases List.mem_cons.mp hm₁ with rfl | hm₁
      · simpa using fun hstore => hm ⟨hi₁, hstore⟩
      · exact hnewer m₁ hm₁ hi₁

theorem lastOperation_cons_self {r : Request} {x : r.Answer} {l : Ledger} (e : Errand) :
    lastOperation i (⟨⟨r, x, l⟩, i, e⟩ :: past) =
      if r.isStore then some ⟨r, x, l⟩ else lastOperation i past := by
  rw [lastOperation]
  by_cases hr : r.isStore <;> simp [hr]

theorem lastOperation_cons_of_ne {j : Nat} (h : j ≠ i) (o : Operation) (e : Errand) :
    lastOperation i (⟨o, j, e⟩ :: past) = lastOperation i past := by
  rw [lastOperation, if_neg fun hm => h hm.1]

/-- A record that has changed was changed by one of the turns. -/
theorem exists_turn_of_changed {key : String} (newer : List Turn) (older : List Turn)
    (h : (start.afterTurns (newer ++ older)).get? key ≠ (start.afterTurns older).get? key) :
    ∃ since w before, newer = since ++ w :: before ∧
      w.ledger.get? key ≠ (start.afterTurns (before ++ older)).get? key := by
  induction newer with
  | nil => exact absurd rfl h
  | cons m newer ih =>
    by_cases hm : m.ledger.get? key = (start.afterTurns (newer ++ older)).get? key
    · have hrest : (start.afterTurns (newer ++ older)).get? key ≠
          (start.afterTurns older).get? key := by
        rw [← hm]
        exact h
      obtain ⟨since, w, before, rfl, hw⟩ := ih hrest
      exact ⟨m :: since, w, before, rfl, hw⟩
    · exact ⟨[], m, newer, rfl, hm⟩

/-- Every turn was answered by the store as it was then. -/
def Chronicle (start : Ledger) (past : List Turn) : Prop :=
  ∀ newer m older, past = newer ++ m :: older →
    ∃ t, (start.afterTurns older).Answers t m.request m.answer m.ledger

theorem Throng.Step.start_eq {s : Service} {c c' : Throng} (h : c.Step s c') :
    c'.start = c.start := by
  cases h <;> rfl

theorem Throng.Step.chronicle {s : Service} {c c' : Throng} (h : Chronicle c.start c.past)
    (hs : c.Step s c') : Chronicle c'.start c'.past := by
  cases hs with
  | join => exact h
  | @turn i e r k t x l _ ha _ =>
    intro newer m older hpast
    cases newer with
    | nil =>
      obtain ⟨rfl, rfl⟩ := List.cons.inj hpast
      exact ⟨t, ha⟩
    | cons _ newer => exact h newer m older (List.cons.inj hpast).2

/-- **Every turn of a run is one that the store has answered.** -/
theorem Throng.Runs.chronicle {s : Service} {start : Ledger} {c : Throng}
    (h : (before start).Runs s c) : c.start = start ∧ Chronicle start c.past := by
  induction h with
  | refl => exact ⟨rfl, fun newer m older hpast => by cases newer <;> cases hpast⟩
  | tail _ hs ih =>
    obtain ⟨rfl, hchronicle⟩ := ih
    refine ⟨hs.start_eq, ?_⟩
    rw [← hs.start_eq]
    exact hs.chronicle hchronicle

/-! ### Runs that are computed -/

namespace World

theorem plain_receive (c : Catalog) (verb : Verb) (location image : String) :
    Plain (c.receive verb location image).1 := by
  unfold Catalog.receive
  dsimp only
  split
  · exact plain_error nofun
  · exact plain_ok ()

/-- A call on a provider comes to what its catalogs answer. -/
theorem plain_onProvider {α : Type} (w : World) (provider : String) (idle : α)
    {call : Catalog → Except Failure α × Catalog} (h : ∀ c, Plain (call c).1) :
    Plain (w.onProvider provider idle call).1 := by
  unfold onProvider Provider.Registry.call
  dsimp only
  split
  · exact h _
  · exact plain_ok idle

theorem plain_lookUp (w : World) (provider location image : String) :
    Plain (w.lookUp provider location image).1 :=
  w.plain_onProvider provider true fun c => by
    have hreceive := plain_receive c .lookUp location image
    unfold Catalog.lookUp
    split
    · rename_i h
      rw [h] at hreceive
      exact plain_error (hreceive _ rfl)
    · exact plain_ok _

theorem plain_withdraw (w : World) (provider location image : String) :
    Plain (w.withdraw provider location image).1 :=
  w.plain_onProvider provider () fun c => by
    have hreceive := plain_receive c .withdraw location image
    unfold Catalog.withdraw
    split
    · rename_i h
      rw [h] at hreceive
      exact hreceive
    · exact plain_ok ()

theorem plain_awaitUpload (w : World) (provider location image : String) (limit : Option Duration)
    {x : Except Failure Unit} (h : (w.awaitUpload provider location image limit).1 = .finished x) :
    Plain x := by
  unfold awaitUpload at h
  dsimp only at h
  split at h
  · cases h
    exact plain_ok ()
  · split at h
    · cases h
      exact plain_error nofun
    · split at h
      · cases h
        exact plain_ok ()
      · cases h
      · cases h

theorem plain_upload (w : World) (provider location image : String) (limit : Option Duration)
    {x : Except Failure Unit} (h : (w.upload provider location image limit).1 = .finished x) :
    Plain x := by
  have hreceive := w.plain_onProvider provider ()
    fun c => plain_receive c .upload location image
  unfold upload at h
  split at h
  · rename_i e w' hcall
    rw [hcall] at hreceive
    cases h
    exact hreceive
  · rename_i w' hcall
    split at h
    · cases h
      exact plain_ok ()
    · exact w'.plain_awaitUpload provider location image limit h

/-- **The providers and the source of a world in memory answer plausibly.** -/
theorem plausible_answer (w : World) (r : Request) : r.Plausible (w.answer r).1 := by
  cases r with
  | probe url =>
    show Plain (w.probe url).1
    unfold probe
    split
    · exact plain_error nofun
    · exact plain_ok _
  | lookUp call =>
    cases hi : w.timeline.interrupted with
    | true =>
      rw [answer, hi]
      trivial
    | false =>
      rw [answer, hi]
      exact w.plain_lookUp call.provider call.location call.image
  | withdraw call =>
    cases hi : w.timeline.interrupted with
    | true =>
      rw [answer, hi]
      trivial
    | false =>
      rw [answer, hi]
      exact w.plain_withdraw call.provider call.location call.image
  | upload call url =>
    cases hi : w.timeline.interrupted with
    | true =>
      rw [answer, hi]
      trivial
    | false =>
      rw [answer, hi]
      show Request.Plausible (.upload call url)
        (w.upload call.provider call.location call.image (w.limitOf call)).1
      cases h : (w.upload call.provider call.location call.image (w.limitOf call)).1 with
      | finished x => exact w.plain_upload _ _ _ _ h
      | timedOut => trivial
      | interrupted => trivial
  | readRecord | createRecord | replaceRecord | removeRecord | listRecords | now | emit | log
  | isInterrupted => trivial

end World

namespace Throng

/-- What is to happen next in a throng. -/
inductive Cue where
  | join (errand : Errand)
  /-- So many turns of a member. -/
  | turns (member count : Nat)

/-- So many turns of a member, if it has them. The world answers, with the records of the throng. -/
def advance (w : World) (i : Nat) : Nat → Throng → Option Throng
  | 0, c => some c
  | n + 1, c =>
    match c.members[i]? with
    | some ⟨e, .ask r k⟩ =>
      let (x, w') := { w with store := .ledger c.ledger }.answer r
      advance w i n (c.turn i e ⟨r, x, w'.ledger⟩ (k x))
    | _ => none

/-- A run under some cues. -/
def play (s : Service) (w : World) : List Cue → Throng → Option Throng
  | [], c => some c
  | .join e :: cues, c => play s w cues (c.join s e)
  | .turns i n :: cues, c => (c.advance w i n).bind (play s w cues)

theorem runs_of_advance {s : Service} {w : World} {i n : Nat} {c c' : Throng}
    (h : c.advance w i n = some c') : c.Runs s c' := by
  induction n generalizing c with
  | zero =>
    obtain rfl := Option.some.inj h
    exact .refl
  | succ n ih =>
    rw [advance] at h
    split at h
    · rename_i e r k hi
      have hans := (World.answers_of_ledger (w := { w with store := .ledger c.ledger }) rfl r).2
      exact .head (.turn hi hans (World.plausible_answer _ r)) (ih h)
    · cases h

theorem runs_of_play {s : Service} {w : World} {cues : List Cue} {c c' : Throng}
    (h : c.play s w cues = some c') : c.Runs s c' := by
  induction cues generalizing c with
  | nil =>
    obtain rfl := Option.some.inj h
    exact .refl
  | cons cue cues ih =>
    cases cue with
    | join e => exact .head (.join c e) (ih h)
    | turns i n =>
      obtain ⟨c₁, hturns, hrest⟩ := Option.bind_eq_some_iff.mp h
      exact (runs_of_advance hturns).trans (ih hrest)

/-- **A run can be computed**: what is found at the end of it is found in a run. -/
theorem exists_runs (s : Service) (c : Throng) (w : World) (cues : List Cue)
    (found : Throng → Bool) (h : (c.play s w cues).any found = true) :
    ∃ c', c.Runs s c' ∧ found c' = true := by
  obtain ⟨c', hplay, hfound⟩ := (Option.any_eq_true _ _).mp h
  exact ⟨c', runs_of_play hplay, hfound⟩

end Throng

end ImageCatalog
