import ImageCatalog.Proofs.Catalog.Shelves

/-!
# The call protocol of a pass

What a pass calls, in which order, whatever it is told. A pass either takes an image out of the
catalogs or brings it there, never both, and it does so for one image of one provider.

An image is brought to the locations in their order. Each location has a probe of its own; the image
is looked up once the artifact is known to be reachable, and uploaded once the look-up has said that
it is not there. Anything else than such an answer is the end of all calls.

## Main definitions

* `Pass.Job.Stand`, `Pass.Job.Moves` — where a placement has come to, and what is called next
* `Pass.Job.Places` — the calls of a placement
* `Pass.Job.Withdraws` — the calls of a withdrawal from all locations
* `Pass.Calls` — the calls of a pass

* `Heralded` — every upload comes right after a look-up that has not found the image

## Main results

* `Pass.trace_run`, `Errand.trace_program` — the calls of a pass, and of every errand
* `Errand.Calls.heralded` — uploads and look-ups
* `call_protocol_of_pass` — the calls in a run, and what an upload finds
-/

namespace ImageCatalog

open Program

/-- Only a call that has ended by itself brings back a result. -/
theorem Program.settle_eq_ok {α : Type} {operation : String} {limit : Duration} {x : Attempt α}
    {a : α} : settle operation limit x = .ok a ↔ x = .finished (.ok a) := by
  rcases x with (e | b) | _ | _ <;> simp [settle]

theorem Program.ne_of_settle_eq_error {α : Type} {operation : String} {limit : Duration}
    {x : Attempt α} {e : Failure} (h : settle operation limit x = .error e) (a : α) :
    x ≠ .finished (.ok a) := by
  rintro rfl
  cases h

variable {t t' : List Exchange} {url : String}

namespace Pass

namespace Job

/-- Where a placement has come to. -/
inductive Stand where
  /-- The next call is the probe for the first of some locations, if there is one. -/
  | ahead (locations : List Location)
  /-- The artifact is reachable, and the next call is to look the image up. -/
  | reachable (location : Location) (rest : List Location)
  /-- The image is not at the location, and the next call is the upload. -/
  | lacking (location : Location) (rest : List Location)
  /-- Nothing more is called. -/
  | over

/-- The next call of a placement, and where it leads to. A call without an answer is the last
one. -/
inductive Moves (job : Job) (url : String) : Stand → Exchange → Stand → Prop where
  | reachable {l : Location} {rest : List Location} :
    Moves job url (.ahead (l :: rest)) ⟨.probe url, some (.ok true)⟩ (.reachable l rest)
  | missing {l : Location} {rest : List Location} {x : Option (Except Failure Bool)} :
    x ≠ some (.ok true) → Moves job url (.ahead (l :: rest)) ⟨.probe url, x⟩ .over
  | present {l : Location} {rest : List Location} :
    Moves job url (.reachable l rest)
      ⟨.lookUp (job.call l.name callLimit), some (.finished (.ok true))⟩ (.ahead rest)
  | lacking {l : Location} {rest : List Location} :
    Moves job url (.reachable l rest)
      ⟨.lookUp (job.call l.name callLimit), some (.finished (.ok false))⟩ (.lacking l rest)
  | unknown {l : Location} {rest : List Location} {x : Option (Attempt Bool)} :
    (∀ b, x ≠ some (.finished (.ok b))) →
    Moves job url (.reachable l rest) ⟨.lookUp (job.call l.name callLimit), x⟩ .over
  | filled {l : Location} {rest : List Location} :
    Moves job url (.lacking l rest)
      ⟨.upload (job.call l.name uploadLimit) url, some (.finished (.ok ()))⟩ (.ahead rest)
  | unfilled {l : Location} {rest : List Location} {x : Option (Attempt Unit)} :
    x ≠ some (.finished (.ok ())) →
    Moves job url (.lacking l rest) ⟨.upload (job.call l.name uploadLimit) url, x⟩ .over

/-- Some calls of a placement, and where they lead to. -/
inductive Goes (job : Job) (url : String) : Stand → List Exchange → Stand → Prop where
  | nil (st : Stand) : Goes job url st [] st
  | cons {st st' st'' : Stand} {e : Exchange} {t : List Exchange} :
    job.Moves url st e st' → Goes job url st' t st'' → Goes job url st (e :: t) st''

/-- The calls of a placement at some locations. It may be looked at before it is over. -/
def Places (job : Job) (url : String) (locations : List Location) (t : List Exchange) : Prop :=
  ∃ st, job.Goes url (.ahead locations) t st

/-- The calls of a withdrawal from some locations, in their order. It may be looked at before it is
over. -/
inductive Withdraws (job : Job) : List Location → List Exchange → Prop where
  | nil (locations : List Location) : Withdraws job locations []
  | issued {l : Location} {rest : List Location} :
    Withdraws job (l :: rest) [⟨.withdraw (job.call l.name callLimit), none⟩]
  | cons {l : Location} {rest : List Location} {x : Attempt Unit} {t : List Exchange} :
    Withdraws job rest t →
    Withdraws job (l :: rest) (⟨.withdraw (job.call l.name callLimit), some x⟩ :: t)

variable {job : Job} {st st' st'' : Stand}

theorem Goes.append (h : job.Goes url st t st') (h' : job.Goes url st' t' st'') :
    job.Goes url st (t ++ t') st'' := by
  induction h with
  | nil => exact h'
  | cons hm _ ih => exact .cons hm (ih h')

theorem Moves.goes {e : Exchange} (h : job.Moves url st e st') : job.Goes url st [e] st' :=
  .cons h (.nil st')

/-! ### Placements -/

section

variable {l : Location} {rest : List Location}

theorem trace_giveUp {α : Type} {e : Failure} {o : Option (Except Failure α)}
    (h : (job.giveUp e : Program α).Trace t o) : t = [] ∧ ∀ a, o ≠ some (.ok a) := by
  unfold giveUp at h
  split at h
  · obtain ⟨rfl, ho⟩ := h.of_fail
    exact ⟨rfl, fun a ha => nomatch ho _ ha⟩
  · rcases (Record.prompt_enter _ _).trace_bind h with h | ⟨_, h⟩
    · exact h
    · obtain ⟨rfl, ho⟩ := h.of_fail
      exact ⟨rfl, fun a ha => nomatch ho _ ha⟩

theorem trace_isReachable (job : Job) (l : Location) (rest : List Location)
    {o : Option (Except Failure Bool)} (h : (isReachable url).Trace t o) :
    ∃ st, job.Goes url (.ahead (l :: rest)) t st ∧
      (o = some (.ok true) → st = .reachable l rest) := by
  rcases Trace.of_request rfl h with ⟨rfl, rfl⟩ | ⟨rfl, rfl⟩ | ⟨x, t', rfl, h'⟩
  · exact ⟨_, .nil _, nofun⟩
  · exact ⟨_, Moves.goes (.missing nofun), nofun⟩
  · rcases x with e | reached
    · -- A failed probe is never taken for a reachable artifact.
      have hend : t' = [] ∧ o ≠ some (.ok true) := by
        dsimp only at h'
        split at h'
        · obtain ⟨rfl, ho⟩ := h'.of_fail
          exact ⟨rfl, fun h => nomatch ho _ h⟩
        · obtain ⟨rfl, ho⟩ := h'.of_done
          exact ⟨rfl, fun h => nomatch ho _ h⟩
      obtain ⟨rfl, ho⟩ := hend
      exact ⟨_, Moves.goes (.missing nofun), fun h => absurd h ho⟩
    · obtain ⟨rfl, ho⟩ := h'.of_done
      cases reached with
      | true => exact ⟨_, Moves.goes .reachable, fun _ => rfl⟩
      | false => exact ⟨_, Moves.goes (.missing nofun), fun h => nomatch ho _ h⟩

theorem upload_bind {α : Type} (location : String) (f : Except Failure Unit → Program α) :
    job.upload location url >>= f =
      (request (.upload (job.call location uploadLimit) url) >>= fun x =>
        f (settle (job.describe "create" location) uploadLimit x)) := rfl

theorem lookUp_bind {α : Type} (location : String) (f : Except Failure Bool → Program α) :
    job.lookUp location >>= f =
      (request (.lookUp (job.call location callLimit)) >>= fun x =>
        f (settle (job.describe "exists" location) callLimit x)) := rfl

theorem withdraw_bind {α : Type} (location : String) (f : Except Failure Unit → Program α) :
    job.withdraw location >>= f =
      (request (.withdraw (job.call location callLimit)) >>= fun x =>
        f (settle (job.describe "delete" location) callLimit x)) := rfl

theorem trace_fill {o : Option (Except Failure Unit)} (h : (job.fill url l.name).Trace t o) :
    ∃ st, job.Goes url (.lacking l rest) t st ∧ (o = some (.ok ()) → st = .ahead rest) := by
  rcases (Record.prompt_enter _ _).trace_bind h with ⟨rfl, ho⟩ | ⟨_, h⟩
  · exact ⟨_, .nil _, fun h => absurd h (ho ())⟩
  rcases (prompt_emit _).trace_bind h with ⟨rfl, ho⟩ | ⟨_, h⟩
  · exact ⟨_, .nil _, fun h => absurd h (ho ())⟩
  rw [upload_bind] at h
  rcases Trace.of_request rfl h with ⟨rfl, rfl⟩ | ⟨rfl, rfl⟩ | ⟨x, t', rfl, h'⟩
  · exact ⟨_, .nil _, nofun⟩
  · exact ⟨_, Moves.goes (.unfilled nofun), nofun⟩
  rcases hx : settle (job.describe "create" l.name) uploadLimit x with e | ⟨⟨⟩⟩ <;> rw [hx] at h'
  · obtain ⟨rfl, ho⟩ := trace_giveUp h'
    exact ⟨_, Moves.goes (.unfilled fun hs => ne_of_settle_eq_error hx _ (Option.some.inj hs)),
      fun h => absurd h (ho ())⟩
  · obtain rfl := settle_eq_ok.mp hx
    have hend : t' = [] :=
      ((Record.prompt_enter _ _).bind fun _ => prompt_emit _).trace_eq_nil h'
    rw [hend]
    exact ⟨_, Moves.goes .filled, fun _ => rfl⟩

theorem trace_placeAt (rest : List Location) {o : Option (Except Failure Unit)}
    (h : (job.placeAt url l.name).Trace t o) :
    ∃ st, job.Goes url (.reachable l rest) t st ∧ (o = some (.ok ()) → st = .ahead rest) := by
  rw [placeAt, lookUp_bind] at h
  rcases Trace.of_request rfl h with ⟨rfl, rfl⟩ | ⟨rfl, rfl⟩ | ⟨x, t', rfl, h'⟩
  · exact ⟨_, .nil _, nofun⟩
  · exact ⟨_, Moves.goes (.unknown nofun), nofun⟩
  rcases hx : settle (job.describe "exists" l.name) callLimit x with e | present <;> rw [hx] at h'
  · obtain ⟨rfl, ho⟩ := trace_giveUp h'
    exact ⟨_, Moves.goes (.unknown fun _ hs => ne_of_settle_eq_error hx _ (Option.some.inj hs)),
      fun h => absurd h (ho ())⟩
  obtain rfl := settle_eq_ok.mp hx
  cases present with
  | true =>
    have hend : t' = [] :=
      ((Record.prompt_enter _ _).bind fun _ => prompt_emit _).trace_eq_nil h'
    rw [hend]
    exact ⟨_, Moves.goes .present, fun _ => rfl⟩
  | false =>
    obtain ⟨st, hgoes, ho⟩ := trace_fill h'
    exact ⟨st, .cons .lacking hgoes, ho⟩

/-- **The calls of a placement**, whatever it is told. -/
theorem trace_place {locations : List Location} {o : Option (Except Failure Placed)}
    (h : (job.place url locations).Trace t o) : job.Places url locations t := by
  induction locations generalizing t with
  | nil =>
    obtain ⟨rfl, -⟩ := h.of_done
    exact ⟨_, .nil _⟩
  | cons l rest ih =>
    rw [place] at h
    rcases h.of_bind with ⟨h, -⟩ | ⟨e, h, -⟩ | ⟨reachable, t₁, t₂, rfl, h, h'⟩
    · exact (trace_isReachable job l rest h).imp fun _ h => h.1
    · exact (trace_isReachable job l rest h).imp fun _ h => h.1
    obtain ⟨st, hprobe, ho⟩ := trace_isReachable job l rest h
    cases reachable with
    | false =>
      have hend : t₂ = [] := by
        refine Prompt.trace_eq_nil ?_ h'
        exact (Record.prompt_enter _ _).bind fun _ => (prompt_emit _).bind fun _ => trivial
      rw [hend, List.append_nil]
      exact ⟨st, hprobe⟩
    | true =>
      obtain rfl := ho rfl
      rcases Trace.of_bind h' with ⟨h, -⟩ | ⟨e, h, -⟩ | ⟨_, t₃, t₄, rfl, h, h'⟩
      · exact (trace_placeAt rest h).imp fun _ h => hprobe.append h.1
      · exact (trace_placeAt rest h).imp fun _ h => hprobe.append h.1
      · obtain ⟨st, hplace, ho⟩ := trace_placeAt rest h
        obtain rfl := ho rfl
        exact (ih h').imp fun _ h => hprobe.append (hplace.append h)

/-- **The calls of a withdrawal**, whatever it is told. -/
theorem trace_clear {locations : List Location} {o : Option (Except Failure (List String))}
    (h : (job.clear locations).Trace t o) : job.Withdraws locations t := by
  induction locations generalizing t o with
  | nil =>
    obtain ⟨rfl, -⟩ := h.of_done
    exact .nil _
  | cons l rest ih =>
    rcases (Record.prompt_enter _ _).trace_bind h with ⟨rfl, -⟩ | ⟨_, h⟩
    · exact .nil _
    rw [withdraw_bind] at h
    rcases Trace.of_request rfl h with ⟨rfl, -⟩ | ⟨rfl, -⟩ | ⟨x, t', rfl, h'⟩
    · exact .nil _
    · exact .issued
    refine .cons ?_
    rcases hx : settle (job.describe "delete" l.name) callLimit x with e | ⟨⟨⟩⟩ <;> rw [hx] at h'
    · dsimp only at h'
      split at h'
      · rw [h'.of_fail.1]
        exact .nil _
      · rcases (prompt_emit _).trace_bind h' with ⟨rfl, -⟩ | ⟨_, h''⟩
        · exact .nil _
        · exact (h''.of_bind_prompt fun _ => trivial).elim fun _ h => ih h
    · exact ih h'

end

end Job

/-! ### Passes -/

/-- The calls of a pass over a record: it makes none, or takes one image out of the catalogs of one
provider, or brings it there. -/
def Calls (s : Setup) (key : String) (t : List Exchange) : Prop :=
  t = [] ∨ ∃ (job : Job) (locations : List Location), job.record = key ∧
    s.providers.get? job.provider = some locations ∧
    (job.Withdraws locations t ∨ job.Places (s.source.artifact job.image) locations t)

section

variable {s : Setup} {key : String} {r : Record} {o : Option (Except Failure Outcome)}

/-- What is prompt comes without calls. -/
theorem Calls.of_prompt_bind {α : Type} {p : Program α} {f : α → Program Outcome} (hp : p.Prompt)
    (hf : ∀ a, (f a).Trace t o → Calls s key t) (h : (p >>= f).Trace t o) : Calls s key t := by
  rcases hp.trace_bind h with ⟨ht, -⟩ | ⟨a, h⟩
  · exact .inl ht
  · exact hf a h

theorem trace_clearCatalogs {o : Option (Except Failure Unit)}
    (h : (clearCatalogs s key r).Trace t o) : Calls s key t := by
  unfold clearCatalogs at h
  split at h
  · rename_i locations hlocations
    obtain ⟨o', h⟩ :
        ∃ o', (Job.clear ⟨key, r.spec.provider, r.spec.image⟩ locations).Trace t o' := by
      refine Trace.of_bind_prompt h fun failed => ?_
      cases failed with
      | nil => trivial
      | cons => exact (Record.prompt_enter _ _).bind fun _ => trivial
    exact .inr ⟨_, locations, rfl, hlocations, .inl (Job.trace_clear h)⟩
  · refine .inl (Prompt.trace_eq_nil ?_ h)
    exact (prompt_log _).bind fun _ => prompt_emit _

theorem trace_remove (h : (remove s key r).Trace t o) : Calls s key t := by
  rw [remove_eq] at h
  refine .of_prompt_bind (prompt_startRemoval key) (fun _ h => ?_) h
  exact (h.of_bind_prompt fun _ => prompt_takeAway key r).elim fun _ => trace_clearCatalogs

theorem trace_place (h : (place s key r).Trace t o) : Calls s key t := by
  unfold place at h
  dsimp only at h
  split at h
  · refine .inl (Prompt.trace_eq_nil ?_ h)
    exact (prompt_log _).bind fun _ => (Record.prompt_enter _ _).bind fun _ => trivial
  split at h
  · refine .inl (Prompt.trace_eq_nil ?_ h)
    exact (Record.prompt_enter _ _).bind fun _ => (prompt_emit _).bind fun _ => trivial
  · rename_i locations hlocations
    obtain ⟨o', h⟩ : ∃ o', (Job.place ⟨key, r.spec.provider, r.spec.image⟩
        (s.source.artifact r.spec.image) locations).Trace t o' :=
      Trace.of_bind_prompt h fun placed => by cases placed <;> trivial
    exact .inr ⟨_, locations, rfl, hlocations, .inr (Job.trace_place h)⟩

theorem trace_retainOrPlace (h : (retainOrPlace s key r).Trace t o) : Calls s key t := by
  refine .of_prompt_bind prompt_now (fun now h => ?_) h
  split at h
  · exact .of_prompt_bind (prompt_endWait key r) (fun _ => trace_place) h
  · refine .of_prompt_bind (prompt_markForDeletion key now) (fun marked h => ?_) h
    cases marked with
    | none => exact trace_place h
    | some marked => exact .of_prompt_bind (prompt_log _) (fun _ => trace_remove) h
  · refine .of_prompt_bind (prompt_startGracePeriod key _ now) (fun started h => ?_) h
    cases started with
    | false => exact trace_place h
    | true => exact .inl h.of_done.1
  · refine .inl (Prompt.trace_eq_nil ?_ h)
    exact (prompt_emit _).bind fun _ => trivial

/-- **The calls of a pass**, whatever it is told: what the store holds and what visitors make of it,
what providers and the source answer, and when the work is interrupted. -/
theorem trace_run (h : (run s key).Trace t o) : Calls s key t := by
  refine .of_prompt_bind (prompt_readRecord key) (fun r? h => ?_) h
  cases r? with
  | none => exact .inl h.of_done.1
  | some r =>
    dsimp only at h
    split at h
    · exact trace_remove h
    · exact .of_prompt_bind (prompt_dropDeletionRequest key r) (fun _ => trace_retainOrPlace) h

end

/-- The calls of passes over some records, one after the other. -/
def CallsOfEach (s : Setup) (t : List Exchange) : Prop :=
  ∃ rounds : List (String × List Exchange), t = (rounds.map Prod.snd).flatten ∧
    ∀ q ∈ rounds, Calls s q.1 q.2

theorem CallsOfEach.nil (s : Setup) : CallsOfEach s [] :=
  ⟨[], rfl, nofun⟩

theorem CallsOfEach.cons {s : Setup} {key : String} (h : Calls s key t) (h' : CallsOfEach s t') :
    CallsOfEach s (t ++ t') := by
  obtain ⟨rounds, rfl, hrounds⟩ := h'
  refine ⟨(key, t) :: rounds, rfl, ?_⟩
  intro q hq
  rcases List.mem_cons.mp hq with rfl | hq
  · exact h
  · exact hrounds q hq

theorem trace_runEach {s : Setup} {report : Report} {l : List Record}
    {o : Option (Except Failure Report)} (h : (runEach s report l).Trace t o) :
    CallsOfEach s t := by
  induction l generalizing report t with
  | nil =>
    rw [h.of_done.1]
    exact .nil s
  | cons r rest ih =>
    rcases (prompt_request rfl : isInterrupted.Prompt).trace_bind h with ⟨rfl, -⟩ | ⟨stop, h⟩
    · exact .nil s
    cases stop with
    | true =>
      rw [h.of_done.1]
      exact .nil s
    | false =>
      have hround : ∀ {t o}, (run s r.name).attempt.Trace t o → Calls s r.name t :=
        fun h => h.of_attempt.elim fun _ => trace_run
      rcases Trace.of_bind h with ⟨h, -⟩ | ⟨e, h, -⟩ | ⟨result, t₁, t₂, rfl, h, h'⟩
      · rw [← List.append_nil t]
        exact .cons (hround h) (.nil s)
      · rw [← List.append_nil t]
        exact .cons (hround h) (.nil s)
      refine .cons (hround h) ?_
      cases result with
      | ok outcome => exact ih h'
      | error e =>
        rcases (prompt_log _).trace_bind h' with ⟨rfl, -⟩ | ⟨_, h'⟩
        · exact .nil s
        · exact ih h'

end Pass

/-- The calls of an errand: those of its passes, and none if it is no pass. -/
def Errand.Calls (s : Service) : Errand → List Exchange → Prop
  | .pass key, t => Pass.Calls s.setup key t
  | .passAll, t => Pass.CallsOfEach s.setup t
  | _, t => t = []

/-- **The calls of an errand**, whatever it is told. -/
theorem Errand.trace_program {s : Service} {e : Errand} {o : Option (Except Failure e.Result)}
    (h : (e.program s).Trace t o) : e.Calls s t := by
  cases e with
  | pass key => exact Pass.trace_run h
  | passAll =>
    rcases prompt_listRecords.trace_bind h with ⟨rfl, -⟩ | ⟨l, h⟩
    · exact .nil _
    · exact Pass.trace_runEach h
  | consumerAdded | consumerRemoved | releaseAdded | releaseRemoved | requestDeletion =>
    exact (Errand.prompt_program s rfl).trace_eq_nil h

/-! ### Uploads -/

/-- The look-up that an upload comes after. -/
def CatalogCall.herald (call : CatalogCall) : Exchange :=
  ⟨.lookUp { call with limit := Pass.callLimit }, some (.finished (.ok false))⟩

/-- Every upload comes right after a look-up at the same location that has not found the image. -/
def Heralded (t : List Exchange) : Prop :=
  ∀ before call url x after, t = before ++ ⟨.upload call url, x⟩ :: after →
    ∃ before', before = before' ++ [call.herald]

theorem Heralded.of_no_upload (h : ∀ e ∈ t, ∀ call url, e.request ≠ .upload call url) :
    Heralded t := by
  rintro before call url x after rfl
  exact absurd rfl (h _ (List.mem_append_right _ List.mem_cons_self) call url)

theorem Heralded.nil : Heralded [] :=
  .of_no_upload fun _ he => absurd he List.not_mem_nil

theorem Heralded.append (h : Heralded t) (h' : Heralded t') : Heralded (t ++ t') := by
  intro before call url x after heq
  rcases List.append_eq_append_iff.mp heq with ⟨between, rfl, hafter⟩ | ⟨between, rfl, hafter⟩
  · obtain ⟨before', rfl⟩ := h' _ _ _ _ _ hafter
    exact ⟨t ++ before', by simp⟩
  · cases between with
    | nil =>
      obtain ⟨before', hnil⟩ := h' [] call url x after hafter.symm
      cases before' <;> cases hnil
    | cons e between =>
      obtain ⟨rfl, rfl⟩ := List.cons.inj hafter
      exact h _ _ _ _ _ rfl

theorem Heralded.flatten {l : List (List Exchange)} (h : ∀ t ∈ l, Heralded t) :
    Heralded l.flatten := by
  induction l with
  | nil => exact .nil
  | cons t l ih =>
    rw [List.flatten_cons]
    exact (h t List.mem_cons_self).append (ih fun t ht => h t (List.mem_cons_of_mem _ ht))

namespace Pass

open Job (Stand)

variable {job : Job} {locations : List Location}

/-- An upload is the next call only once the image has been looked up. -/
theorem Job.Goes.lacking_or_heralded {st st' : Stand} (h : job.Goes url st t st')
    {before after : List Exchange} {call : CatalogCall} {url' : String}
    {x : Option (Attempt Unit)} (heq : t = before ++ ⟨.upload call url', x⟩ :: after) :
    (before = [] ∧ ∃ l rest, st = .lacking l rest ∧ call = job.call l.name uploadLimit) ∨
      ∃ before', before = before' ++ [call.herald] := by
  induction h generalizing before with
  | nil => simp at heq
  | cons hm _ ih =>
    cases before with
    | nil =>
      obtain ⟨rfl, -⟩ := List.cons.inj heq
      cases hm <;> exact .inl ⟨rfl, _, _, rfl, rfl⟩
    | cons e before =>
      obtain ⟨rfl, hrest⟩ := List.cons.inj heq
      rcases ih hrest with ⟨rfl, l, rest, rfl, rfl⟩ | ⟨before', rfl⟩
      · cases hm
        exact .inr ⟨[], rfl⟩
      · exact .inr ⟨_ :: before', rfl⟩

theorem Job.Places.heralded (h : job.Places url locations t) : Heralded t := by
  intro before call url' x after heq
  obtain ⟨st, h⟩ := h
  rcases h.lacking_or_heralded heq with ⟨-, l, rest, hst, -⟩ | h
  · cases hst
  · exact h

theorem Job.Withdraws.heralded (h : job.Withdraws locations t) : Heralded t := by
  refine .of_no_upload ?_
  induction h with
  | nil => exact fun _ he => absurd he List.not_mem_nil
  | issued =>
    intro e he call url
    rw [List.mem_singleton.mp he]
    exact Request.noConfusion
  | cons _ ih =>
    intro e he call url
    rcases List.mem_cons.mp he with rfl | he
    · exact Request.noConfusion
    · exact ih e he call url

theorem Calls.heralded {s : Setup} {key : String} (h : Calls s key t) : Heralded t := by
  rcases h with rfl | ⟨job, locations, -, -, h | h⟩
  · exact .nil
  · exact h.heralded
  · exact h.heralded

theorem CallsOfEach.heralded {s : Setup} (h : CallsOfEach s t) : Heralded t := by
  obtain ⟨rounds, rfl, h⟩ := h
  refine .flatten fun t ht => ?_
  obtain ⟨q, hq, rfl⟩ := List.mem_map.mp ht
  exact (h q hq).heralded

end Pass

/-- **Every upload comes right after a look-up that has not found the image.** -/
theorem Errand.Calls.heralded {s : Service} {e : Errand} (h : e.Calls s t) : Heralded t := by
  cases e with
  | pass => exact Pass.Calls.heralded h
  | passAll => exact Pass.CallsOfEach.heralded h
  | consumerAdded | consumerRemoved | releaseAdded | releaseRemoved | requestDeletion =>
    obtain rfl := h
    exact .nil

/-! ### In a run -/

/-- An upload finds the image lacking, since the look-up was truthful and nothing has changed the
catalogs in between. -/
theorem Reachable.lacking_of_heralded {P : Provider.Registry} {s : Service} {c : Scene}
    (h : Reachable s (.truthful P) c) {past newer older : List Entry} {m : Entry}
    {call : CatalogCall} {url : String} {top : Entry} (hpast : c.stage.past = top :: past)
    (happend : past = newer ++ m :: older)
    (hheralded : Heralded (exchanges newer ++ [⟨.upload call url, none⟩])) :
    (shelvesAfter P past).holds call.provider call.location call.image = false := by
  obtain ⟨before, hbefore⟩ := hheralded _ call url none [] rfl
  obtain ⟨since, ⟨d, l, t⟩, earlier, rfl, hsince, hd, -⟩ := exchanges_eq_append hbefore
  obtain ⟨e, rfl⟩ := Deed.exchange?_eq_some hd
  rw [List.append_assoc, List.cons_append] at happend
  rw [happend, ← List.cons_append] at hpast
  -- The look-up is the last call, and it was answered truthfully.
  have htruthful := h.of_answered hpast
  have hshelves : shelvesAfter P past = shelvesAfter P (earlier ++ m :: older) := by
    rw [happend, shelvesAfter_append_of_exchanges hsince]
    rfl
  rw [hshelves, Shelves.holds]
  cases hheld : shelvesAfter P (earlier ++ m :: older) call.provider with
  | none => rfl
  | some held => exact (htruthful held hheld).symm

/-- **The call protocol of a pass.** Whenever a call is started, what was called since the errand
has begun follows the protocol with this call as the next one: a pass over one record either only
withdraws an image, or only probes for it, looks it up and uploads it, location by location and to
the first call that does not go well. An upload comes right after the look-up that it needs, and
with truthful look-ups it finds the image lacking. -/
theorem call_protocol_of_pass (s : Service) (P : Provider.Registry) {c : Scene}
    (h : Reachable s (.truthful P) c) {e : Errand} {r : Request} {l : Ledger} {t : Instant}
    {past : List Entry} (hpast : c.stage.past = ⟨.issued e r, l, t⟩ :: past) :
    ∃ newer m older, past = newer ++ m :: older ∧ m.deed = .began e ∧
      (∀ m' ∈ newer, ∀ e', m'.deed = .began e' → e'.isPass = false) ∧
      e.Calls s (exchanges newer ++ [⟨r, none⟩]) ∧
      Heralded (exchanges newer ++ [⟨r, none⟩]) ∧
      ∀ call url, r = .upload call url →
        (shelvesAfter P past).holds call.provider call.location call.image = false := by
  obtain ⟨newer, m, older, happend, hm, hnewer, htrace⟩ :=
    h.of_issued (fun _ v hv => by simpa [Regime.truthful] using hv) hpast
  have hcalls := Errand.trace_program htrace
  refine ⟨newer, m, older, happend, hm, hnewer, hcalls, hcalls.heralded, ?_⟩
  rintro call url rfl
  exact h.lacking_of_heralded hpast happend hcalls.heralded

/-- The upload that was started last, if nothing has happened since. -/
def Scene.upload? (c : Scene) : Option CatalogCall :=
  match c.stage.past with
  | ⟨.issued _ (.upload call _), _, _⟩ :: _ => some call
  | _ => none

theorem Scene.of_upload? {c : Scene} {call : CatalogCall} (h : c.upload? = some call) :
    ∃ e url l t past, c.stage.past = ⟨.issued e (.upload call url), l, t⟩ :: past := by
  unfold upload? at h
  split at h
  · rename_i e call' url l t past hpast
    obtain rfl := Option.some.inj h
    exact ⟨e, url, l, t, past, hpast⟩
  · cases h

/-- The image is uploaded to the second location, after it was brought to the first one; a consumer
goes in the meantime. -/
theorem call_protocol_of_pass_second :
    let s := Performance.smallService .zero
    let P := (Performance.opening .epoch).world.providers
    ∃ (c : Scene) (e : Errand) (call : CatalogCall) (url : String) (l : Ledger) (t : Instant)
      (past newer : List Entry), Reachable s (.truthful P) c ∧
      c.stage.past = ⟨.issued e (.upload call url), l, t⟩ :: past ∧ call.location = "dc2" ∧
      e.Calls s (exchanges newer ++ [⟨.upload call url, none⟩]) ∧
      (shelvesAfter P past).holds call.provider call.location call.image = false := by
  intro s P
  obtain ⟨c, hc, hfound⟩ := Performance.exists_reachable_of_bound
    (s := s) (Performance.conforms_truthful P) (t := .epoch) rfl rfl
    [.begin (.consumerAdded "early" "flatcar" "capv"), .begin (.pass "flatcar"), .resume, .resume,
      .visit (.consumerRemoved "early" "flatcar"), .resume, .resume, .resume]
    (fun c => c.upload?.any fun call => call.location == "dc2") (by decide +kernel)
  obtain ⟨call, hcall, hlocation⟩ := (Option.any_eq_true _ _).mp hfound
  obtain ⟨e, url, l, t, past, hpast⟩ := Scene.of_upload? hcall
  obtain ⟨newer, _, _, _, _, _, hcalls, _, hlacking⟩ := call_protocol_of_pass s P hc hpast
  exact ⟨c, e, call, url, l, t, past, newer, hc, hpast, beq_iff_eq.mp hlocation, hcalls,
    hlacking call url rfl⟩

end ImageCatalog
