import ImageCatalog.Proofs.Contention.Throng

/-!
# What becomes of a conflict

A write that meets a conflict is tried again from a fresh copy, and whoever gives up in the end says
so by a failure of its own. So a program that ends with success, or with a failure of another cause,
has not left a conflict behind as its last operation in the store.

This is shown part by part. A part need not know what goes before it, except that edits and
additions of consumers may follow even on a conflict, since they begin with reading the record.

## Main definitions

* `Clear` — the last operation in the store met no conflict
* `Request.Backed` — a removal of the version that was left last
* `Program.Copes` — how a program ends, whatever happens between its operations
* `Ends`, `Program.Bears` — how parts of errands end
* `Held` — a copy that is as it was stored last

## Main results

* `Program.Copes.bind`, `Program.Bears.bind` — programs taken part by part
* `Record.copes_reviseWithin` — an edit leaves a copy that is stored, or gives up
* `Consumers.bears_add`, `Consumers.bears_remove` — calls about consumers leave no conflict behind
-/

namespace ImageCatalog

/-- The last operation in the store, if there was one, met no conflict. -/
def Clear (last : Option Operation) : Prop :=
  ∀ o ∈ last, ¬ o.Clashes

theorem clear_none : Clear none :=
  fun _ ho => by cases ho

theorem clear_some {o : Operation} : Clear (some o) ↔ ¬ o.Clashes := by
  simp [Clear]

/-- A removal is of the version that the last operation in the store has left. -/
def Request.Backed : Request → Option Operation → Prop
  | removeRecord name (some version), last =>
    ∃ o ∈ last, ∃ r, o.ledger.get? name = some r ∧ r.version = version
  | removeRecord _ none, _ => False
  | _, _ => True

namespace Program

variable {α β : Type}

/-- After its last operation in the store the program ends in `Q` with its result and its last
operation then, whatever others do in between. It removes only what it has left itself. -/
def Copes (Q : Except Failure α → Option Operation → Prop) : Program α → Option Operation → Prop
  | done a, last => Q (.ok a) last
  | fail e, last => Q (.error e) last
  | ask r k, last => r.Backed last ∧
      ∀ (l : Ledger) t x l', l.AllNamed → l.Answers t r x l' → r.Plausible x →
        (k x).Copes Q (if r.isStore then some ⟨r, x, l'⟩ else last)

namespace Copes

variable {Q Q' : Except Failure α → Option Operation → Prop} {last : Option Operation}

theorem mono {p : Program α} (h : p.Copes Q last) (himp : ∀ x last, Q x last → Q' x last) :
    p.Copes Q' last := by
  induction p generalizing last with
  | done a => exact himp _ _ h
  | fail e => exact himp _ _ h
  | ask r k ih => exact ⟨h.1, fun l t x l' hl ha hx => ih x (h.2 l t x l' hl ha hx)⟩

/-- What is left to show after the first of two programs. -/
def Then (f : α → Program β) (Q : Except Failure β → Option Operation → Prop) :
    Except Failure α → Option Operation → Prop
  | .ok a, last => (f a).Copes Q last
  | .error e, last => Q (.error e) last

/-- **A program is taken part by part.** -/
theorem bind {p : Program α} {f : α → Program β} {Q : Except Failure β → Option Operation → Prop}
    (h : p.Copes (Then f Q) last) : (p >>= f).Copes Q last := by
  induction p generalizing last with
  | done a => exact h
  | fail e => exact h
  | ask r k ih => exact ⟨h.1, fun l t x l' hl ha hx => ih x (h.2 l t x l' hl ha hx)⟩

/-- A failure becomes a result. -/
theorem attempt {p : Program α} (h : p.Copes Q last) :
    p.attempt.Copes (fun x last => ∃ y, x = .ok y ∧ Q y last) last := by
  induction p generalizing last with
  | done a => exact ⟨_, rfl, h⟩
  | fail e => exact ⟨_, rfl, h⟩
  | ask r k ih => exact ⟨h.1, fun l t x l' hl ha hx => ih x (h.2 l t x l' hl ha hx)⟩

/-- What is not asked of the store leaves the last operation in it alone. -/
theorem idle {r : Request} {k : r.Answer → Program α} (hr : r.isStore = false)
    (h : ∀ x, r.Plausible x → (k x).Copes Q last) : (ask r k).Copes Q last := by
  refine ⟨?_, fun l t x l' _ _ hx => ?_⟩
  · cases r <;> first | exact trivial | cases hr
  · rw [hr]
    exact h x hx

theorem emitIf {b : Bool} {event : Event} {Q : Except Failure Unit → Option Operation → Prop}
    (h : Q (.ok ()) last) : (emitIf b event).Copes Q last := by
  cases b with
  | false => exact h
  | true => exact .idle rfl fun _ _ => h

end Copes

end Program

/-! ### How programs end -/

section

variable {α β : Type}

/-- A failure that is no conflict, and after a conflict the one of giving up. -/
def Borne (e : Failure) (last : Option Operation) : Prop :=
  e.kind ≠ .conflict ∧ (¬ Clear last → ∃ name, e = .conflictsExhausted name maxAttempts)

theorem Borne.of_clear {e : Failure} {last : Option Operation} (he : e.kind ≠ .conflict)
    (h : Clear last) : Borne e last :=
  ⟨he, fun hnot => absurd h hnot⟩

/-- With success in `P`, or with a failure that is borne. -/
def Ends (P : α → Option Operation → Prop) : Except Failure α → Option Operation → Prop
  | .ok a, last => P a last
  | .error e, last => Borne e last

/-- A part of a program after which others follow. -/
theorem Program.Copes.andThen {p : Program α} {f : α → Program β} {last : Option Operation}
    {P : α → Option Operation → Prop} {Q : Except Failure β → Option Operation → Prop}
    (hp : p.Copes (Ends P) last) (hfail : ∀ e last, Borne e last → Q (.error e) last)
    (hf : ∀ a last, P a last → (f a).Copes Q last) : (p >>= f).Copes Q last :=
  .bind (hp.mono fun x last hx => by
    cases x with
    | ok a => exact hf a last hx
    | error e => exact hfail e last hx)

theorem Program.Copes.seq {p : Program α} {f : α → Program β} {last : Option Operation}
    {P : α → Option Operation → Prop} {Q : β → Option Operation → Prop}
    (hp : p.Copes (Ends P) last) (hf : ∀ a last, P a last → (f a).Copes (Ends Q) last) :
    (p >>= f).Copes (Ends Q) last :=
  hp.andThen (fun _ _ h => h) hf

/-- A part that follows on no conflict and leaves none. -/
def Program.Bears (p : Program α) : Prop :=
  ∀ last, Clear last → p.Copes (Ends fun _ => Clear) last

namespace Program

theorem Bears.bind {p : Program α} {f : α → Program β} (hp : p.Bears) (hf : ∀ a, (f a).Bears) :
    (p >>= f).Bears :=
  fun last hlast => (hp last hlast).seq hf

theorem bears_done (a : α) : (done a).Bears :=
  fun _ hlast => hlast

theorem bears_fail {e : Failure} (he : e.kind ≠ .conflict) : (fail e : Program α).Bears :=
  fun _ hlast => Borne.of_clear he hlast

theorem bears_ofExcept {x : Except Failure α} (hx : Plain x) : (ofExcept x).Bears := by
  cases x with
  | ok a => exact bears_done a
  | error e => exact bears_fail (hx e rfl)

theorem bears_idle {r : Request} {k : r.Answer → Program α} (hr : r.isStore = false)
    (h : ∀ x, r.Plausible x → (k x).Bears) : (ask r k).Bears :=
  fun last hlast => .idle hr fun x hx => h x hx last hlast

theorem bears_emit (event : Event) : (emit event).Bears :=
  bears_idle rfl fun _ _ => bears_done ()

theorem bears_emitIf (b : Bool) (event : Event) : (emitIf b event).Bears :=
  fun _ hlast => .emitIf hlast

theorem bears_log (line : LogLine) : (log line).Bears :=
  bears_idle rfl fun _ _ => bears_done ()

theorem bears_now : now.Bears :=
  bears_idle (r := .now) rfl fun t _ => bears_done t

end Program

end

open Program

/-! ### Revisions -/

/-- A copy of the record `key` that is as the last operation has left it. -/
structure Held (key : String) (r : Record) (last : Option Operation) : Prop where
  clear : Clear last
  name : r.name = key
  stored : ∃ o ∈ last, o.ledger.get? key = some r

/-- If a copy was got, it is as the last operation has left it. -/
def HeldIfAny (key : String) (r? : Option Record) (last : Option Operation) : Prop :=
  Clear last ∧ ∀ r ∈ r?, Held key r last

theorem heldIfAny_none {key : String} {last : Option Operation} (h : Clear last) :
    HeldIfAny key none last :=
  ⟨h, fun _ hr => by cases hr⟩

theorem Held.ifAny {key : String} {r : Record} {last : Option Operation} (h : Held key r last) :
    HeldIfAny key (some r) last :=
  ⟨h.clear, fun _ hr => Option.some.inj hr ▸ h⟩

theorem Failure.ne_conflict_of_isOutage {e : Failure} (h : e.isOutage) : e.kind ≠ .conflict := by
  simp only [isOutage, Bool.and_eq_true, bne_iff_ne] at h
  exact h.1

theorem copes_readRecord (key : String) (last : Option Operation) :
    (readRecord key).Copes (Ends (HeldIfAny key)) last := by
  refine ⟨trivial, fun l t x l' hl ha _ => ?_⟩
  have hclear : Clear (some ⟨.readRecord key, x, l'⟩) := clear_some.mpr id
  rcases ha with ha | ⟨⟨e, rfl, he⟩, rfl⟩
  · obtain ⟨rfl, rfl⟩ := Prod.mk.inj ha
    exact ⟨hclear, fun r hr => ⟨hclear, hl key r hr, _, rfl, hr⟩⟩
  · exact .of_clear (Failure.ne_conflict_of_isOutage he) hclear

/-- An edit keeps the name, leaves alone what is not to be written, and fails for reasons of its
own. -/
structure Edit.Tame (edit : Edit) : Prop where
  name : ∀ {r r' written}, edit r = .ok (r', written) → r'.name = r.name
  kept : ∀ {r r'}, edit r = .ok (r', false) → r' = r
  fails : ∀ {r e}, edit r = .error e → e.kind ≠ .conflict

theorem Edit.tame_when {needed : Record → Bool} {change : Record → Record}
    (h : ∀ r, (change r).name = r.name) : Edit.Tame (.when needed change) where
  name {r r' written} he := by
    cases written with
    | true =>
      obtain ⟨_, rfl⟩ := Edit.when_eq_true he
      exact h r
    | false =>
      obtain ⟨_, rfl⟩ := Edit.when_eq_false he
      rfl
  kept he := (Edit.when_eq_false he).2
  fails he := by cases he

namespace Record

variable {key : String} {edit : Edit}

/-- **An edit leaves a copy that is stored, or gives up**, no matter what others write in between,
and what went before. -/
theorem copes_reviseWithin (he : edit.Tame) (attempts : Nat) (last : Option Operation) :
    (reviseWithin key edit attempts).Copes
      (Ends fun v? => HeldIfAny key (v?.map Revision.after)) last := by
  induction attempts generalizing last with
  | zero => exact .idle rfl fun _ _ => ⟨nofun, fun _ => ⟨key, rfl⟩⟩
  | succ attempts ih =>
    refine (copes_readRecord key last).seq fun r? last ⟨hclear, hheld⟩ => ?_
    cases r? with
    | none => exact heldIfAny_none hclear
    | some r =>
      have hr := hheld r rfl
      rcases hedit : edit r with e | ⟨r', written⟩
      · simp only [Edit.editor_apply, hedit]
        exact Borne.of_clear (he.fails hedit) hclear
      cases written with
      | false =>
        simp only [Edit.editor_apply, hedit]
        rw [he.kept hedit]
        exact hr.ifAny
      | true =>
        simp only [Edit.editor_apply, hedit]
        have hname : r'.name = key := (he.name hedit).trans hr.name
        refine ⟨trivial, fun l t x l' _ ha _ => ?_⟩
        rcases ha with ha | ⟨⟨e, rfl, hout⟩, rfl⟩
        · cases hq : l.get? r'.name with
          | none =>
            obtain ⟨rfl, rfl⟩ := Prod.mk.inj (ha.trans (Ledger.replace_of_absent hq))
            exact heldIfAny_none (clear_some.mpr nofun)
          | some q =>
            by_cases hv : q.version = r'.version
            · obtain ⟨rfl, rfl⟩ := Prod.mk.inj (ha.trans (Ledger.replace_of_version hq hv.symm))
              exact Held.ifAny ⟨clear_some.mpr id, hname, _, rfl, Ledger.get?_put_of_eq hname⟩
            · -- The conflict is over with the next attempt, which reads a fresh copy.
              obtain ⟨rfl, rfl⟩ := Prod.mk.inj (ha.trans (Ledger.replace_of_stale hq hv))
              exact ih _
        · have hkind := Failure.ne_conflict_of_isOutage hout
          have hclear : Clear (some ⟨.replaceRecord r', .error e, l'⟩) := clear_some.mpr hkind
          cases e <;> first | exact .of_clear hkind hclear | cases hout

theorem copes_revise (he : edit.Tame) (last : Option Operation) :
    (revise key edit).Copes (Ends fun v => Held key v.after) last := by
  refine (copes_reviseWithin he maxAttempts last).seq fun v? last ⟨hclear, hheld⟩ => ?_
  cases v? with
  | none => exact Borne.of_clear nofun hclear
  | some v => exact hheld v.after rfl

theorem bears_revise (he : edit.Tame) : (revise key edit).Bears :=
  fun last _ => (copes_revise he last).mono fun x _ hx => by
    cases x with
    | ok v => exact hx.clear
    | error e => exact hx

theorem bears_enter (key : String) (phase : Phase) : (enter key phase).Bears := by
  refine Bears.bind (bears_revise ?_) fun _ => bears_emitIf _ _
  exact Edit.tame_when fun _ => rfl

end Record

/-! ### Consumers -/

namespace Consumers

theorem bears_checkImage (name : String) : (checkImage name).Bears := by
  unfold checkImage
  split
  · exact bears_done ()
  · exact bears_fail nofun

theorem bears_checkConsumer (consumer : String) : (checkConsumer consumer).Bears := by
  unfold checkConsumer
  split
  · exact bears_done ()
  · exact bears_fail nofun

theorem tame_addition (name : String) (spec : Spec) (consumer : String) :
    (addition name spec consumer).Tame where
  name {r r' written} he := by
    unfold addition at he
    split at he
    · cases he
    · refine (Edit.tame_when fun r => ?_).name he
      rw [Record.addConsumer_eq]
      rfl
  kept {r r'} he := by
    unfold addition at he
    split at he
    · cases he
    · exact (Edit.when_eq_false he).2
  fails {r e} he := by
    unfold addition at he
    split at he
    · cases he
      exact nofun
    · cases he

/-- It is over with a conflict on the creation of a record as soon as the record is read. -/
theorem copes_ensureRecord (name : String) (spec : Spec) (last : Option Operation) :
    (ensureRecord name spec).Copes (Ends fun _ _ => True) last := by
  refine (copes_readRecord name last).seq fun r? last ⟨hclear, _⟩ => ?_
  cases r? with
  | some r => trivial
  | none =>
    refine (bears_now last hclear).seq fun now last _ => ?_
    refine ⟨trivial, fun l t x l' _ ha _ => ?_⟩
    rcases ha with ha | ⟨⟨e, rfl, hout⟩, rfl⟩
    · cases hq : l.get? (Record.new name spec now).name with
      | none =>
        obtain ⟨rfl, rfl⟩ := Prod.mk.inj (ha.trans (Ledger.create_of_absent hq))
        exact .idle rfl fun _ _ => trivial
      | some q =>
        obtain ⟨rfl, rfl⟩ := Prod.mk.inj (ha.trans (Ledger.create_of_present hq))
        trivial
    · have hkind := Failure.ne_conflict_of_isOutage hout
      have hclear : Clear (some ⟨.createRecord (.new name spec now), .error e, l'⟩) :=
        clear_some.mpr hkind
      cases e <;> first | exact .of_clear hkind hclear | cases hout

theorem bears_reportAddition (name consumer : String) (v : Revision) :
    (reportAddition name consumer v).Bears := by
  refine (bears_emitIf _ _).bind fun _ => (bears_emitIf _ _).bind fun _ => ?_
  cases v.after.phase with
  | none => exact bears_done ()
  | some phase => exact bears_emitIf _ _

theorem copes_addWithin (name : String) (spec : Spec) (consumer : String) (attempts : Nat)
    (last : Option Operation) :
    (addWithin name spec consumer attempts).Copes (Ends fun _ => Clear) last := by
  induction attempts generalizing last with
  | zero => exact ⟨nofun, fun _ => ⟨name, rfl⟩⟩
  | succ attempts ih =>
    refine (copes_ensureRecord name spec last).seq fun _ last _ => ?_
    refine (Record.copes_reviseWithin (tame_addition name spec consumer) maxAttempts last).seq
      fun v? last ⟨hclear, _⟩ => ?_
    cases v? with
    | none => exact ih last
    | some v =>
      exact ((bears_reportAddition name consumer v).bind fun _ => bears_done _) last hclear

theorem bears_add (name : String) (spec : Spec) (consumer : String) :
    (add name spec consumer).Bears :=
  (bears_checkImage name).bind fun _ => (bears_checkConsumer consumer).bind fun _ =>
    fun last _ => copes_addWithin name spec consumer maxAttempts last

theorem bears_remove (name consumer : String) : (remove name consumer).Bears := by
  have hedit : Edit.Tame (.when (fun r => r.hasConsumer consumer)
      fun r => r.removeConsumer consumer) := Edit.tame_when fun _ => rfl
  refine (bears_checkConsumer consumer).bind fun _ last _ => ?_
  refine (Record.copes_reviseWithin hedit maxAttempts last).seq fun v? last ⟨hclear, _⟩ => ?_
  cases v? with
  | none => exact hclear
  | some v => exact ((bears_emitIf _ _).bind fun _ => bears_done _) last hclear

end Consumers

/-! ### Releases -/

namespace Release

theorem plain_requiredVersion (release : Release) (component : String) :
    Plain (release.requiredVersion component) := by
  unfold requiredVersion
  split
  · exact plain_error nofun
  · split
    · exact plain_error nofun
    · exact plain_ok _

theorem plain_request (release : Release) (channel : String) :
    Plain (release.request channel) := by
  refine (release.plain_requiredVersion _).bind fun _ =>
    (release.plain_requiredVersion _).bind fun _ =>
      (release.plain_requiredVersion _).bind fun _ => ?_
  dsimp only
  split
  · exact plain_error nofun
  · split
    · exact plain_ok _
    · exact plain_error nofun

end Release

end ImageCatalog
