import ImageCatalog.Proofs.Contention.Passes

/-!
# Which conflicts come to the surface

Whatever errands meet on one store, in whatever order their operations come: a conflict is tried
again behind the scenes, or comes to the caller as the failure of having given up. There is one
exception. The removal at the end of a pass is of the version that the pass has left, and if someone
else changes the record in between, the caller of the pass sees the conflict itself.

A pass over each record fails with no conflict. What fails the pass over one of them stands in its
report.

## Main definitions

* `Throng.Orderly` — the invariant of runs
* `Outrun` — someone else came between the last write of a pass and its removal

## Main results

* `Throng.Runs.orderly` — the invariant holds in every run
* `Throng.Runs.surfaces` — which conflicts come to the surface, and which do not
* `pass_conflicts_of_late_consumer` — a consumer that comes at the wrong moment lets one out
-/

namespace ImageCatalog

namespace Throng

variable {s : Service} {c c' : Throng} {i j : Nat} {e : Errand} {m : Member}

/-! ### The invariant -/

theorem of_getElem?_join (h : (c.join s e).members[j]? = some m) :
    c.members[j]? = some m ∨ j = c.members.length ∧ m = ⟨e, e.program s⟩ := by
  rw [join, List.getElem?_append] at h
  split at h
  · exact .inl h
  · obtain ⟨hlt, hm⟩ := List.getElem?_eq_some_iff.mp h
    rw [List.length_singleton] at hlt
    refine .inr ⟨by omega, ?_⟩
    rw [← hm]
    exact List.getElem_singleton _

theorem of_getElem?_turn {o : Operation} {rest : Program e.Result}
    (h : (c.turn i e o rest).members[j]? = some m) :
    i = j ∧ m = ⟨e, rest⟩ ∨ i ≠ j ∧ c.members[j]? = some m := by
  by_cases hj : i = j
  · rw [turn, ← hj, List.getElem?_set_self'] at h
    obtain ⟨_, _, hm⟩ := Option.map_eq_some_iff.mp h
    exact .inl ⟨hj, hm.symm⟩
  · rw [turn, List.getElem?_set_ne hj] at h
    exact .inr ⟨hj, h⟩

/-- Who has not come yet has done nothing. -/
theorem lastOperation_eq_none {past : List Turn} (h : ∀ m ∈ past, m.member ≠ i) :
    lastOperation i past = none := by
  induction past with
  | nil => rfl
  | cons m past ih =>
    rw [lastOperation, if_neg fun hm => h m List.mem_cons_self hm.1]
    exact ih fun m' hm' => h m' (List.mem_cons_of_mem m hm')

/-- What holds at every moment of a run. -/
structure Orderly (c : Throng) : Prop where
  named : c.ledger.AllNamed
  /-- Every turn is one of a member. -/
  known : ∀ m ∈ c.past, m.member < c.members.length
  /-- Every errand will end as it has to. -/
  copes : ∀ i (m : Member), c.members[i]? = some m →
    m.rest.Copes m.errand.Ends (lastOperation i c.past)
  /-- Every removal was of what its member had left. -/
  backed : ∀ newer m older, c.past = newer ++ m :: older →
    m.request.Backed (lastOperation m.member older)

theorem orderly_before {start : Ledger} (h : start.AllNamed) : (before start).Orderly where
  named := h
  known _ hm := absurd hm List.not_mem_nil
  copes _ _ hi := by cases hi
  backed newer m older hpast := by cases newer <;> cases hpast

theorem Orderly.join (h : c.Orderly) (e : Errand) : (c.join s e).Orderly where
  named := h.named
  known m hm := by
    have hlt := h.known m hm
    simp only [Throng.join, List.length_append]
    omega
  copes j m hj := by
    rcases of_getElem?_join hj with hj | ⟨rfl, rfl⟩
    · exact h.copes j m hj
    · have hnone : lastOperation c.members.length c.past = none :=
        lastOperation_eq_none fun m hm => Nat.ne_of_lt (h.known m hm)
      show (e.program s).Copes e.Ends (lastOperation c.members.length c.past)
      rw [hnone]
      exact e.copes s
  backed := h.backed

/-- **A turn leads on to what was to be expected after its answer.** -/
theorem Orderly.turn {r : Request} {k : r.Answer → Program e.Result} {t : Instant} {x : r.Answer}
    {l : Ledger} (h : c.Orderly) (hi : c.members[i]? = some ⟨e, .ask r k⟩)
    (ha : c.ledger.Answers t r x l) (hx : r.Plausible x) :
    (c.turn i e ⟨r, x, l⟩ (k x)).Orderly := by
  obtain ⟨hbacked, hnext⟩ := h.copes i _ hi
  refine ⟨ha.allNamed h.named, fun m hm => ?_, fun j m hj => ?_, fun newer m older hpast => ?_⟩
  · simp only [Throng.turn, List.length_set]
    rcases List.mem_cons.mp hm with rfl | hm
    · exact (List.getElem?_eq_some_iff.mp hi).1
    · exact h.known m hm
  · rcases of_getElem?_turn hj with ⟨rfl, rfl⟩ | ⟨hne, hj⟩
    · show (k x).Copes e.Ends (lastOperation i (⟨⟨r, x, l⟩, i, e⟩ :: c.past))
      rw [lastOperation_cons_self]
      exact hnext c.ledger t x l h.named ha hx
    · show m.rest.Copes m.errand.Ends (lastOperation j (⟨⟨r, x, l⟩, i, e⟩ :: c.past))
      rw [lastOperation_cons_of_ne hne]
      exact h.copes j m hj
  · cases newer with
    | nil =>
      obtain ⟨rfl, rfl⟩ := List.cons.inj hpast
      exact hbacked
    | cons _ newer => exact h.backed newer m older (List.cons.inj hpast).2

/-- **The invariant holds in every run.** -/
theorem Runs.orderly {start : Ledger} (hstart : start.AllNamed) (h : (before start).Runs s c) :
    c.Orderly := by
  induction h with
  | refl => exact orderly_before hstart
  | tail _ hs ih =>
    cases hs with
    | join e => exact ih.join e
    | turn hi ha hx => exact ih.turn hi ha hx

end Throng

/-! ### Passes that are outrun -/

/-- Someone other than the member `i` has changed the record `key` in some turns, after `older`. -/
def ChangedByOther (start : Ledger) (i : Nat) (key : String) (turns older : List Turn) : Prop :=
  ∃ since w before, turns = since ++ w :: before ∧ w.member ≠ i ∧
    w.ledger.get? key ≠ (start.afterTurns (before ++ older)).get? key

/-- A record that has changed while the member was idle was changed by someone else. -/
theorem changedByOther_of_ne {start : Ledger} {i : Nat} {key : String}
    {newer turns older : List Turn} (hchronicle : Chronicle start (newer ++ (turns ++ older)))
    (hidle : ∀ m ∈ turns, m.member = i → m.request.isStore = false)
    (hne : (start.afterTurns (turns ++ older)).get? key ≠ (start.afterTurns older).get? key) :
    ChangedByOther start i key turns older := by
  obtain ⟨since, w, before, rfl, hw⟩ := exists_turn_of_changed turns older hne
  refine ⟨since, w, before, rfl, fun hi => ?_, hw⟩
  -- What the member asked for meanwhile has changed nothing.
  have hstore := hidle w (List.mem_append_right _ List.mem_cons_self) hi
  obtain ⟨_, hturn⟩ := hchronicle (newer ++ since) w (before ++ older) (by simp)
  exact hw (congrArg (Ledger.get? · key) (hturn.eq_of_not_isStore hstore))

/-- Someone else came between the last write of the pass of a member and its removal. The turns are
the latest first: `removal` is the last operation of the member in the store, and `left` the one
before. -/
structure Outrun (start : Ledger) (i : Nat) (key : String) (e : Failure)
    (since : List Turn) (removal : Turn) (between : List Turn) (left : Turn)
    (older : List Turn) : Prop where
  removal_member : removal.member = i
  left_member : left.member = i
  /-- The member has not been to the store in between, or since. -/
  idle : ∀ m ∈ since ++ between, m.member = i → m.request.isStore = false
  /-- The removal is of the version that the member had left, and found another one. -/
  refused : ∃ r r', left.ledger.get? key = some r ∧ removal.ledger.get? key = some r' ∧
    r'.version ≠ r.version ∧ e = .conflict key r.version r'.version ∧
    removal.toOperation = ⟨.removeRecord key (some r.version), .error e, removal.ledger⟩
  changed : ChangedByOther start i key between (left :: older)

/-- If a removal was refused, someone else has written the record since the member has. -/
theorem exists_outrun {start : Ledger} {past : List Turn} {i : Nat} {key : String} {e : Failure}
    (hchronicle : Chronicle start past)
    (hbacked : ∀ newer m older, past = newer ++ m :: older →
      m.request.Backed (lastOperation m.member older))
    (h : Refused key e (lastOperation i past)) :
    ∃ since removal between left older, past = since ++ removal :: (between ++ left :: older) ∧
      Outrun start i key e since removal between left older := by
  obtain ⟨version, r', l, rfl, hversion, hlast, hr'⟩ := h
  obtain ⟨since, removal, rest, rfl, rfl, hremoval, hsince⟩ := of_lastOperation hlast
  have hback : removal.toOperation.request.Backed (lastOperation removal.member rest) :=
    hbacked since removal rest rfl
  have hturn : ∃ t, (start.afterTurns rest).Answers t removal.toOperation.request
      removal.toOperation.answer removal.toOperation.ledger := hchronicle since removal rest rfl
  rw [hremoval] at hback hturn
  obtain ⟨o, ho, r, hr, rfl⟩ := hback
  obtain ⟨t, hturn⟩ := hturn
  have hl : removal.ledger = l := congrArg Operation.ledger hremoval
  obtain ⟨between, left, older, rfl, hleft, rfl, hbetween⟩ := of_lastOperation ho
  have hbefore : l = start.afterTurns (between ++ left :: older) := hturn.eq_of_clashes rfl
  have hother : (start.afterTurns (between ++ left :: older)).get? key ≠
      (start.afterTurns (left :: older)).get? key := by
    intro hsame
    rw [← hbefore, hr', Ledger.afterTurns, hr, Option.some.injEq] at hsame
    exact hversion (congrArg Record.version hsame)
  have hpast : Chronicle start (since ++ [removal] ++ (between ++ left :: older)) := by
    simpa using hchronicle
  have hchanged : ChangedByOther start removal.member key between (left :: older) :=
    changedByOther_of_ne hpast hbetween hother
  refine ⟨since, removal, between, left, older, rfl, rfl, hleft, fun m hm hi => ?_,
    ⟨r, r', hr, hl ▸ hr', hversion, rfl, hl ▸ hremoval⟩, hchanged⟩
  rcases List.mem_append.mp hm with hm | hm
  · exact hsince m hm hi
  · exact hbetween m hm hi

/-! ### The surface -/

section

variable {e : Errand} {x : Except Failure e.Result} {last : Option Operation}

/-- An errand fails with a conflict only if it is a pass, and its removal was refused. -/
theorem Errand.Ends.refused {f : Failure} (h : e.Ends (.error f) last) (hf : f.kind = .conflict) :
    ∃ key, e = .pass key ∧ Refused key f last := by
  cases e with
  | pass key =>
    rcases h with h | h
    · exact absurd hf h.1
    · exact ⟨key, rfl, h⟩
  | passAll => exact absurd hf (h f rfl)
  | consumerAdded | consumerRemoved | releaseAdded | releaseRemoved | requestDeletion =>
    exact absurd hf h.1

/-- After a conflict an errand has failed. -/
theorem Errand.Ends.of_clashes {o : Operation} (h : e.Ends x last) (he : e ≠ .passAll)
    (ho : o ∈ last) (hclash : o.Clashes) :
    ∃ f, x = .error f ∧
      (f.kind = .conflict ∨ ∃ name, f = .conflictsExhausted name maxAttempts) := by
  have hlast : ¬ Clear last := fun hclear => hclear o ho hclash
  cases e with
  | pass key =>
    cases x with
    | ok a => exact absurd h hlast
    | error f =>
      rcases h with h | ⟨_, _, _, rfl, _⟩
      · exact ⟨f, rfl, .inr (h.2 hlast)⟩
      · exact ⟨_, rfl, .inl rfl⟩
  | passAll => exact absurd rfl he
  | consumerAdded | consumerRemoved | releaseAdded | releaseRemoved | requestDeletion =>
    cases x with
    | ok a => exact absurd h hlast
    | error f => exact ⟨f, rfl, .inr (h.2 hlast)⟩

end

namespace Throng

/-- An errand at its end has ended as it has to. -/
theorem Orderly.ends {c : Throng} {i : Nat} {m : Member} {x : Except Failure m.errand.Result}
    (h : c.Orderly) (hi : c.members[i]? = some m) (hx : m.rest.outcome? = some x) :
    m.errand.Ends x (lastOperation i c.past) := by
  have hcopes := h.copes i m hi
  cases hrest : m.rest with
  | done a =>
    rw [hrest] at hcopes hx
    obtain rfl := Option.some.inj hx
    exact hcopes
  | fail e =>
    rw [hrest] at hcopes hx
    obtain rfl := Option.some.inj hx
    exact hcopes
  | ask r k =>
    rw [hrest] at hx
    cases hx

/-- **Which conflicts come to the surface.** An errand that fails with a conflict is a pass that was
outrun. If a conflict is the last that an errand has met with in the store, the errand has failed,
with that conflict or with having given up; otherwise it has tried again. What becomes of each
record in a pass over all of them is a matter of its report. -/
theorem Runs.surfaces {s : Service} {start : Ledger} {c : Throng} {i : Nat} {m : Member}
    {x : Except Failure m.errand.Result} (hstart : start.AllNamed) (h : (before start).Runs s c)
    (hi : c.members[i]? = some m) (hx : m.rest.outcome? = some x) :
    (∀ e, x = .error e → e.kind = .conflict → ∃ key since removal between left older,
      m.errand = .pass key ∧ c.past = since ++ removal :: (between ++ left :: older) ∧
        Outrun start i key e since removal between left older) ∧
      (m.errand ≠ .passAll → ∀ o ∈ lastOperation i c.past, o.Clashes → ∃ e, x = .error e ∧
        (e.kind = .conflict ∨ ∃ name, e = .conflictsExhausted name maxAttempts)) := by
  have horderly := h.orderly hstart
  have hends := horderly.ends hi hx
  refine ⟨?_, fun he o ho hclash => hends.of_clashes he ho hclash⟩
  rintro e rfl hkind
  obtain ⟨key, he, hrefused⟩ := hends.refused hkind
  obtain ⟨since, removal, between, left, older, hpast, houtrun⟩ :=
    exists_outrun h.chronicle.2 horderly.backed hrefused
  exact ⟨key, since, removal, between, left, older, he, hpast, houtrun⟩

end Throng

/-! ### A pass that is outrun -/

/-- Whether a member has failed with a conflict. -/
def Member.clashed (m : Member) : Bool :=
  m.rest.outcome?.any fun x => match x with
    | .ok _ => false
    | .error e => e.kind == .conflict

theorem Member.of_clashed {m : Member} (h : m.clashed = true) :
    ∃ e, m.rest.outcome? = some (.error e) ∧ e.kind = .conflict := by
  obtain ⟨x, hx, hclash⟩ := (Option.any_eq_true _ _).mp h
  cases x with
  | ok a => cases hclash
  | error e => exact ⟨e, hx, by simpa using hclash⟩

/-- A consumer that comes and goes, a pass, and a consumer that comes late. -/
def lateErrands : List Errand :=
  [.consumerAdded "v1" "flatcar" "capv", .consumerRemoved "v1" "flatcar", .pass "flatcar",
    .consumerAdded "v2" "flatcar" "capv"]

/-- The late consumer comes when the pass is just about to remove the record. -/
theorem exists_clashed : ∃ c m, (Throng.before .empty).Runs (Performance.smallService .zero) c ∧
    c.members.map Member.errand = lateErrands ∧ c.members[2]? = some m ∧ m.clashed = true := by
  let found (c : Throng) : Bool :=
    c.members.map Member.errand == lateErrands && (c.members[2]?).any Member.clashed
  obtain ⟨c, hc, hfound⟩ := Throng.exists_runs (Performance.smallService .zero) (.before .empty)
    (Performance.opening .epoch).world
    [.join (.consumerAdded "v1" "flatcar" "capv"), .turns 0 8,
      .join (.consumerRemoved "v1" "flatcar"), .turns 1 3, .join (.pass "flatcar"), .turns 2 15,
      .join (.consumerAdded "v2" "flatcar" "capv"), .turns 3 3, .turns 2 1]
    found (by decide +kernel)
  simp only [found, Bool.and_eq_true, beq_iff_eq] at hfound
  obtain ⟨m, hm, hclashed⟩ := (Option.any_eq_true _ _).mp hfound.2
  exact ⟨c, m, hc, hfound.1, hm, hclashed⟩

/-- **A consumer that comes at the wrong moment has the pass fail with a conflict.** -/
theorem pass_conflicts_of_late_consumer :
    ∃ c m e, (Throng.before .empty).Runs (Performance.smallService .zero) c ∧
      c.members.map Member.errand = lateErrands ∧ c.members[2]? = some m ∧
      m.rest.outcome? = some (.error e) ∧ e.kind = .conflict := by
  obtain ⟨c, m, hc, herrands, hm, hclashed⟩ := exists_clashed
  obtain ⟨e, he, hkind⟩ := Member.of_clashed hclashed
  exact ⟨c, m, e, hc, herrands, hm, he, hkind⟩

/-- That pass was outrun. -/
theorem outrun_of_late_consumer :
    ∃ c m e, Ledger.empty.AllNamed ∧
      (Throng.before .empty).Runs (Performance.smallService .zero) c ∧ c.members[2]? = some m ∧
      m.rest.outcome? = some (.error e) ∧ e.kind = .conflict ∧
      ∃ key since removal between left older, m.errand = .pass key ∧
        c.past = since ++ removal :: (between ++ left :: older) ∧
        Outrun .empty 2 key e since removal between left older := by
  obtain ⟨c, m, hc, -, hm, hclashed⟩ := exists_clashed
  obtain ⟨e, he, hkind⟩ := Member.of_clashed hclashed
  have hnamed : Ledger.empty.AllNamed := fun n r hr => by cases hr
  exact ⟨c, m, e, hnamed, hc, hm, he, hkind, (hc.surfaces hnamed hm he).1 e rfl hkind⟩

end ImageCatalog
