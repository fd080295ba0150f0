import ImageCatalog.Proofs.Consumers.Tally
import ImageCatalog.Proofs.Consumers.Walk

/-!
# Books

The books are in order if every record is what it was created as, with the consumers of the tally.
An errand about a consumer writes its record before it ends, and is only counted at its end. In the
meantime the record is ahead of the tally by the demand of the errand, which is then *pending*.

## Main definitions

* `Accounted` — a record agrees with what has happened
* `Books` — all records do

## Main results

* `Books.keep`, `Books.write`, `Books.create`, `Books.erase` — what becomes of the books with each
  kind of deed
* `Books.ended` — a demand is pending until its errand ends
-/

namespace ImageCatalog

/-- A record agrees with what has happened, but for a pending demand. -/
structure Accounted (s : Service) (pending : Option (String × Demand)) (past : List Entry)
    (name : String) (r : Record) : Prop where
  name_eq : r.name = name
  /-- An errand that has begun wants a record of this name and spec. -/
  origin : ∃ m ∈ past, ∃ e, m.deed = .began e ∧ e.wants? s = some (name, r.spec)
  birth : ∃ b, birth? name past = some b ∧ b.name = name ∧ r.spec = b.spec ∧ r.created = b.created
  consumers : r.consumers = met pending name (tally s name past)

/-- All records agree with what has happened. -/
def Books (s : Service) (pending : Option (String × Demand)) (σ : Stage) : Prop :=
  ∀ name r, σ.record? name = some r → Accounted s pending σ.past name r

variable {s : Service} {p : Option (String × Demand)} {σ : Stage} {past : List Entry}
  {name : String} {r r' : Record} {e : Errand} {t : Instant}

theorem Accounted.cons (h : Accounted s p past name r) {m : Entry}
    (hm : m.deed.Uncounted s name) : Accounted s p (m :: past) name r where
  name_eq := h.name_eq
  origin := by
    obtain ⟨m', hm', e, he⟩ := h.origin
    exact ⟨m', List.mem_cons_of_mem _ hm', e, he⟩
  birth := by
    rw [hm.birth?_cons]
    exact h.birth
  consumers := by
    rw [hm.tally_cons]
    exact h.consumers

theorem Accounted.akin (h : Accounted s p past name r) (ha : r.Akin r') :
    Accounted s p past name r' where
  name_eq := ha.name.trans h.name_eq
  origin := by
    rw [ha.spec]
    exact h.origin
  birth := by
    obtain ⟨b, hb, hname, hspec, hcreated⟩ := h.birth
    exact ⟨b, hb, hname, ha.spec.trans hspec, ha.created.trans hcreated⟩
  consumers := ha.consumers.trans h.consumers

/-- The demand of an errand is met in its record, and is pending from then on. -/
theorem Accounted.demand (h : Accounted s none past name r) {d : Demand} (hname : r'.name = r.name)
    (hspec : r'.spec = r.spec) (hcreated : r'.created = r.created)
    (hcons : r'.consumers = d.apply r.consumers) :
    Accounted s (some (name, d)) past name r' where
  name_eq := hname.trans h.name_eq
  origin := by
    rw [hspec]
    exact h.origin
  birth := by
    obtain ⟨b, hb, hn, hs, hc⟩ := h.birth
    exact ⟨b, hb, hn, hspec.trans hs, hcreated.trans hc⟩
  consumers := by
    rw [hcons, h.consumers, met_none, met_self]

/-- A demand on one record is no matter of the others. -/
theorem Accounted.of_ne (h : Accounted s none past name r) {n : String} (hn : n ≠ name)
    (d : Demand) : Accounted s (some (n, d)) past name r where
  name_eq := h.name_eq
  origin := h.origin
  birth := h.birth
  consumers := by
    rw [met_of_ne hn]
    exact h.consumers

theorem uncounted_replace (e : Errand) (r : Record) (x : Except Failure Record) :
    (Deed.answered e (.replaceRecord r) x).Uncounted s name :=
  Deed.uncounted_answered e (r := .replaceRecord r) (fun _ h => by cases h) x

theorem uncounted_remove (e : Errand) (n : String) (v : Option UInt64) (x : Except Failure Bool) :
    (Deed.answered e (.removeRecord n v) x).Uncounted s name :=
  Deed.uncounted_answered e (r := .removeRecord n v) (fun _ h => by cases h) x

theorem Deed.Quiet.created? {d : Deed} (h : d.Quiet) : d.created? name = none := by
  cases d with
  | answered e r x =>
    cases r with
    | createRecord r =>
      cases x with
      | error _ => rfl
      | ok _ => rcases h with h | h <;> cases h
    | _ => rfl
  | began | issued | ended => cases h

theorem Deed.Quiet.uncounted {d : Deed} (h : d.Quiet) : d.Uncounted s name := by
  cases d with
  | answered e r x => exact uncounted_of_created? h.created?
  | began | issued | ended => cases h

/-! ### The books after one deed -/

theorem Books.start (t : Instant) : Books s none (.start t) := by
  intro n r hr
  simp at hr

/-- Deeds that change no record and do not count leave the books alone. -/
theorem Books.keep (h : Books s p σ) {d : Deed} (hd : ∀ n, d.Uncounted s n) (t : Instant) :
    Books s p (σ.after d σ.ledger t) :=
  fun n r hr => (h n r hr).cons (m := ⟨d, σ.ledger, t⟩) (hd n)

/-- A pass writes a record. -/
theorem Books.write (h : Books s none σ) (hr : σ.record? name = some r) (ha : r.Akin r') :
    Books s none (σ.write e r' t) := by
  intro n q hq
  have hname : r'.name = name := ha.name.trans (h name r hr).name_eq
  rw [Stage.record?_write, hname] at hq
  refine Accounted.cons ?_ (uncounted_replace e r' _)
  by_cases hn : n = name
  · rw [if_pos hn, Option.some.injEq] at hq
    subst hq hn
    exact (h n r hr).akin ha.bumped
  · rw [if_neg hn] at hq
    exact h n q hq

/-- An errand about a consumer writes its record. -/
theorem Books.writeDemand (h : Books s none σ) (hr : σ.record? name = some r) {d : Demand}
    (hname : r'.name = r.name) (hspec : r'.spec = r.spec) (hcreated : r'.created = r.created)
    (hcons : r'.consumers = d.apply r.consumers) :
    Books s (some (name, d)) (σ.write e r' t) := by
  intro n q hq
  rw [Stage.record?_write, hname, (h name r hr).name_eq] at hq
  refine Accounted.cons ?_ (uncounted_replace e r' _)
  by_cases hn : n = name
  · rw [if_pos hn, Option.some.injEq] at hq
    subst hq hn
    exact (h n r hr).demand hname hspec hcreated hcons
  · rw [if_neg hn] at hq
    exact (h n q hq).of_ne (Ne.symm hn) d

/-- A demand that is met already needs no write. -/
theorem Books.pend (h : Books s none σ) {d : Demand}
    (hmet : ∀ r, σ.record? name = some r → d.apply r.consumers = r.consumers) :
    Books s (some (name, d)) σ := by
  intro n q hq
  by_cases hn : n = name
  · subst hn
    exact (h n q hq).demand rfl rfl rfl (hmet q hq).symm
  · exact (h n q hq).of_ne (Ne.symm hn) d

/-- A record is created, and its consumers start anew. -/
theorem Books.create (h : Books s none σ) {spec : Spec} {now : Instant}
    (hbegan : ∃ m ∈ σ.past, m.deed = .began e) (hw : e.wants? s = some (name, spec)) :
    Books s none (σ.create e (.new name spec now) t) := by
  intro n q hq
  rw [Stage.record?_create, show (Record.new name spec now).name = name from rfl] at hq
  by_cases hne : n = name
  · subst hne
    rw [if_pos rfl, Option.some.injEq] at hq
    subst hq
    obtain ⟨m, hm, he⟩ := hbegan
    refine ⟨rfl, ⟨m, List.mem_cons_of_mem _ hm, e, he, hw⟩,
      ⟨(Record.new n spec now).atFirst, ?_, rfl, rfl, rfl⟩, ?_⟩
    · simp [Stage.create, birth?_cons, Deed.created?, Record.new]
    · simp [Stage.create, tally_cons, Deed.tallied, Record.new, Record.atFirst]
  · rw [if_neg hne] at hq
    exact (h n q hq).cons (Deed.uncounted_create e (Ne.symm hne) _)

/-- A record is removed. -/
theorem Books.erase (h : Books s none σ) {v : Option UInt64} :
    Books s none (σ.after (.answered e (.removeRecord name v) (.ok true))
      ⟨σ.ledger.records.erase name⟩ t) := by
  intro n q hq
  refine Accounted.cons ?_ (uncounted_remove e name v _)
  exact h n q (Ledger.of_get?_erase hq).2

/-- **A demand is pending until its errand ends.** -/
theorem Books.ended {a : e.Result} (h : Books s (e.demand? s) σ) :
    Books s none (σ.after (.ended e (.ok a)) σ.ledger t) := by
  intro n q hq
  obtain ⟨hname, ⟨m, hm, horigin⟩, hbirth, hcons⟩ := h n q hq
  exact ⟨hname, ⟨m, List.mem_cons_of_mem _ hm, horigin⟩, hbirth, hcons⟩

end ImageCatalog
