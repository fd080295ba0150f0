import ImageCatalog.Proofs.Rehearsal.Answers

/-!
# What a program comes to in a rehearsal

A program in a rehearsal comes to a result and a sight, or it is cut short by an interruption. In
the latter case something is still known of the sight that it leaves: each part of a pass has an
invariant of sights that all its steps keep. `Rehearsal.Yields` carries such an invariant along; it
is what is known when a program is cut short, and nothing else is.

What only writes records is not cut short at all, since the store answers all the same. So its rules
are equations of runs.

## Main definitions

* `Rehearsal.Shows` — a rehearsal with a given sight
* `Rehearsal.Yields` — a program comes to a result and a sight, or is cut short on the way

## Main results

* `Rehearsal.Shows.revise` — a record is revised at the first attempt
* `Rehearsal.Yields.bind`, `Rehearsal.Yields.after` — programs one after the other
-/

namespace ImageCatalog

/-- An edit that takes no notice of the version of a record, and leaves it and the name alone. -/
structure Edit.Blind (needed : Record → Bool) (change : Record → Record) : Prop where
  needed_eq : ∀ r, needed r.unversioned = needed r
  change_eq : ∀ r, change r.unversioned = (change r).unversioned
  name_eq : ∀ r, (change r).name = r.name
  version_eq : ∀ r, (change r).version = r.version

namespace Rehearsal

variable {α β : Type} {h h' : Rehearsal} {cut : Bool} {k : Terms} {l : Ledger} {x : Sight}
  {key : String} {r : Record}

/-- A rehearsal with a given sight. -/
def Shows (cut : Bool) (k : Terms) (x : Sight) (h : Rehearsal) : Prop :=
  ∃ l, h.Bears cut k l x

/-! ### Parts of a run -/

/-- A program goes on with the answer that it gets. -/
theorem run_ask_of_answer {q : Request} {next : q.Answer → Program α} {a : q.Answer}
    (ha : h.answer q = (a, h')) : h.run (.ask q next) = h'.run (next a) := by
  rw [run_ask, ha]

theorem run_request {q : Request} {a : q.Answer} (ha : h.answer q = (a, h')) :
    h.run (Program.request q) = (.ok a, h') :=
  run_ask_of_answer ha

theorem run_log (h : Rehearsal) (line : LogLine) : h.run (Program.log line) = (.ok (), h) := rfl

/-- One program after another that has come to a result. -/
theorem run_bind_ok {p : Program α} {a : α} (hp : h.run p = (.ok a, h')) (f : α → Program β) :
    h.run (p >>= f) = h'.run (f a) := by
  rw [run_bind, hp]

theorem run_bind_error {p : Program α} {e : Failure} (hp : h.run p = (.error e, h'))
    (f : α → Program β) : h.run (p >>= f) = (.error e, h') := by
  rw [run_bind, hp]

/-! ### The store -/

section

variable {needed : Record → Bool} {change : Record → Record}

/-- **A record is revised**, at the first attempt. -/
theorem Bears.revise (hb : h.Bears cut k l x) (hr : l.get? key = some r)
    (he : Edit.Blind needed change) :
    ∃ r' l', ∃ h' : Rehearsal,
      h.run (Record.revise key (.when needed change)) = (.ok ⟨r, r', needed r⟩, h') ∧
      l'.get? key = some r' ∧
      r'.unversioned =
        (if needed r.unversioned then change r.unversioned else r.unversioned) ∧
      h'.Bears cut k l' (x.put key (some r'.unversioned)) := by
  obtain ⟨hname, hvalid⟩ := hb.world.named key r hr
  have hrecord : x.records key = some r.unversioned := by rw [hb.world.records, hr]; rfl
  obtain ⟨h₁, hread, hb₁⟩ := hb.read hvalid
  rw [hr] at hread
  have hread' : h.run (Program.readRecord key) = (.ok (some r), h₁) := run_ask_of_answer hread
  by_cases hn : needed r
  · have hname' : (change r).name = key := (he.name_eq r).trans hname
    obtain ⟨h₂, hreplace, hb₂⟩ := hb₁.replace hr hname' (he.version_eq r)
    have hattempt : h.run (Record.revise? key (.when needed change)) =
        (.ok (some ⟨r, (change r).bumped, true⟩), h₂) := by
      refine (run_bind_ok hread' _).trans ?_
      simp only [Edit.editor_apply, Edit.when, hn, if_true]
      exact run_bind_ok (run_request hreplace) _
    refine ⟨(change r).bumped, _, h₂, ?_, Ledger.get?_put_of_eq hname', ?_, hb₂⟩
    · rw [hn]
      exact run_bind_ok hattempt _
    · rw [he.needed_eq, if_pos hn, he.change_eq]
      rfl
  · rw [Bool.not_eq_true] at hn
    have hattempt : h.run (Record.revise? key (.when needed change)) =
        (.ok (some ⟨r, r, false⟩), h₁) := by
      refine (run_bind_ok hread' _).trans ?_
      simp only [Edit.editor_apply, Edit.when, hn, Bool.false_eq_true, if_false]
      rfl
    refine ⟨r, l, h₁, ?_, hr, ?_, ?_⟩
    · rw [hn]
      exact run_bind_ok hattempt _
    · rw [he.needed_eq, hn]
      rfl
    · rw [Sight.put_self hrecord]
      exact hb₁

theorem Shows.revise (hs : h.Shows cut k x) (hr : x.records key = some r)
    (he : Edit.Blind needed change) :
    ∃ v, ∃ h' : Rehearsal, h.run (Record.revise key (.when needed change)) = (.ok v, h') ∧
      v.before.unversioned = r ∧ v.after.unversioned = (if needed r then change r else r) ∧
      v.written = needed r ∧
      h'.Shows cut k (x.put key (some (if needed r then change r else r))) := by
  obtain ⟨l, hb⟩ := hs
  rw [hb.world.records] at hr
  obtain ⟨q, hq, rfl⟩ := Option.map_eq_some_iff.mp hr
  obtain ⟨q', l', h', hrun, -, hafter, hb'⟩ := hb.revise hq he
  rw [← hafter]
  exact ⟨_, h', hrun, rfl, rfl, (he.needed_eq q).symm, l', hb'⟩

end

/-- Events are out of sight. -/
theorem Bears.run_emit (hb : h.Bears cut k l x) (event : Event) :
    ∃ h' : Rehearsal, h.run (Program.emit event) = (.ok (), h') ∧ h'.Bears cut k l x := by
  obtain ⟨h', hanswer, hb'⟩ := hb.emit event
  exact ⟨h', run_ask_of_answer hanswer, hb'⟩

theorem Bears.run_emitIf (hb : h.Bears cut k l x) (b : Bool) (event : Event) :
    ∃ h' : Rehearsal, h.run (Program.emitIf b event) = (.ok (), h') ∧ h'.Bears cut k l x := by
  cases b with
  | false => exact ⟨h, rfl, hb⟩
  | true => exact hb.run_emit event

theorem Shows.emit (hs : h.Shows cut k x) (event : Event) :
    ∃ h' : Rehearsal, h.run (Program.emit event) = (.ok (), h') ∧ h'.Shows cut k x := by
  obtain ⟨l, hb⟩ := hs
  obtain ⟨h', hrun, hb'⟩ := hb.run_emit event
  exact ⟨h', hrun, l, hb'⟩

theorem Shows.emitIf (hs : h.Shows cut k x) (b : Bool) (event : Event) :
    ∃ h' : Rehearsal, h.run (Program.emitIf b event) = (.ok (), h') ∧ h'.Shows cut k x := by
  obtain ⟨l, hb⟩ := hs
  obtain ⟨h', hrun, hb'⟩ := hb.run_emitIf b event
  exact ⟨h', hrun, l, hb'⟩

/-- A phase is entered. -/
theorem Shows.enter (hs : h.Shows cut k x) (hr : x.records key = some r) (phase : Phase) :
    ∃ h' : Rehearsal, h.run (Record.enter key phase) = (.ok (), h') ∧
      h'.Shows cut k (x.put key (some { r with phase := some phase })) := by
  have hblind : Edit.Blind (fun r => r.phase != some phase) fun r =>
      { r with phase := some phase } :=
    ⟨fun _ => rfl, fun _ => rfl, fun _ => rfl, fun _ => rfl⟩
  obtain ⟨v, h₁, hrevise, -, -, -, hs₁⟩ := hs.revise hr hblind
  obtain ⟨h₂, hemit, hs₂⟩ := hs₁.emitIf v.written (.stateChanged key v.before.phase phase)
  have hsame : (if r.phase != some phase then { r with phase := some phase } else r) =
      { r with phase := some phase } := by
    by_cases hp : r.phase = some phase
    · rw [if_neg (by simp [hp]), ← hp]
    · rw [if_pos (by simpa using hp)]
  rw [hsame] at hs₂
  exact ⟨h₂, (run_bind_ok hrevise _).trans hemit, hs₂⟩

/-! ### What a program comes to -/

/-- A program comes to a result and a sight, or it is cut short and leaves a sight with `I`. -/
def Yields (cut : Bool) (k : Terms) (I : Sight → Prop) (p : Program α)
    (G : Except Failure α × Sight) (h : Rehearsal) : Prop :=
  ((h.run p).1 = G.1 ∧ (h.run p).2.Shows cut k G.2) ∨
    cut = true ∧ (∃ e, (h.run p).1 = .error e) ∧ ∃ x, I x ∧ (h.run p).2.Shows cut k x

section

variable {I I' : Sight → Prop} {p : Program α} {f : α → Program β} {a : α} {e : Failure}
  {G : Except Failure α × Sight} {G' : Except Failure β × Sight}

theorem Yields.done (hs : h.Shows cut k x) : h.Yields cut k I (.done a) (.ok a, x) :=
  .inl ⟨rfl, hs⟩

theorem Yields.fail (hs : h.Shows cut k x) :
    h.Yields cut k I (.fail e : Program α) (.error e, x) :=
  .inl ⟨rfl, hs⟩

theorem Yields.of_run (hrun : h.run p = (.ok a, h')) (hs : h'.Shows cut k x) :
    h.Yields cut k I p (.ok a, x) := by
  rw [Yields, hrun]
  exact .inl ⟨rfl, hs⟩

/-- The work is interrupted. -/
theorem Yields.cutShort (hcut : cut = true) (hx : I x) (hs : h.Shows cut k x) :
    h.Yields cut k I (.fail e) G :=
  .inr ⟨hcut, ⟨e, rfl⟩, x, hx, hs⟩

theorem Yields.mono (hp : h.Yields cut k I p G) (himp : cut = true → ∀ x, I x → I' x) :
    h.Yields cut k I' p G := by
  rcases hp with hp | ⟨hcut, he, x, hx, hs⟩
  · exact .inl hp
  · exact .inr ⟨hcut, he, x, himp hcut x hx, hs⟩

/-- **Programs one after the other.** -/
theorem Yields.bind (hp : h.Yields cut k I p (.ok a, x))
    (hf : ∀ h' : Rehearsal, h'.Shows cut k x → h'.Yields cut k I (f a) G') :
    h.Yields cut k I (p >>= f) G' := by
  rcases hp with ⟨hresult, hs⟩ | ⟨hcut, ⟨e, he⟩, hx⟩
  · have hrun : h.run p = (.ok a, (h.run p).2) := Prod.ext hresult rfl
    rw [Yields, run_bind_ok hrun]
    exact hf _ hs
  · have hrun : h.run p = (.error e, (h.run p).2) := Prod.ext he rfl
    rw [Yields, run_bind_error hrun]
    exact .inr ⟨hcut, ⟨e, rfl⟩, hx⟩

theorem Yields.bind_error (hp : h.Yields cut k I p (.error e, x)) :
    h.Yields cut k I (p >>= f) (.error e, x) := by
  rcases hp with ⟨hresult, hs⟩ | ⟨hcut, ⟨e', he⟩, hx⟩
  · have hrun : h.run p = (.error e, (h.run p).2) := Prod.ext hresult rfl
    rw [Yields, run_bind_error hrun]
    exact .inl ⟨rfl, hs⟩
  · have hrun : h.run p = (.error e', (h.run p).2) := Prod.ext he rfl
    rw [Yields, run_bind_error hrun]
    exact .inr ⟨hcut, ⟨e', rfl⟩, hx⟩

/-- A program after another one that has come to a result. -/
theorem Yields.after (hrun : h.run p = (.ok a, h')) (hf : h'.Yields cut k I (f a) G') :
    h.Yields cut k I (p >>= f) G' := by
  rw [Yields, run_bind_ok hrun]
  exact hf

end

end Rehearsal

end ImageCatalog
