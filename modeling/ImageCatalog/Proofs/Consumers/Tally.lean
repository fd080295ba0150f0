import ImageCatalog.Proofs.Run.Scene

/-!
# The tally of consumers

What the consumers of a record should be can be told from the errands alone: they start anew when
the record is created, and each errand about them that succeeds has its demand met. Nothing else
counts. The tally is a fold over what has happened, so it knows nothing of the records.

## Which record an errand works on

An errand about a consumer, a deletion request and a pass over one record are about a record from
the start. A round of passes goes from record to record: it asks for an interruption, and then works
on the record that it reads next, until it asks again.

## Main definitions

* `tally` — the consumers of a record as the errands have it
* `birth?` — the record as it was created
* `turn?` — the record that a round of passes works on
* `Errand.WorksOn` — the record that an errand may change
-/

namespace ImageCatalog

/-! ### What deeds count for -/

/-- A list of consumers after a demand on the record of a name, if the demand is on that one. -/
def met (demand? : Option (String × Demand)) (name : String) (l : List String) : List String :=
  match demand? with
  | some (n, d) => if n = name then d.apply l else l
  | none => l

namespace Deed

/-- What a deed makes of the consumers of a record. -/
def tallied (s : Service) (name : String) : Deed → List String → List String
  | answered _ (.createRecord r) (.ok _), l => if r.name = name then [] else l
  | ended e (.ok _), l => met (e.demand? s) name l
  | _, l => l

/-- The record of a name, if a deed creates it. -/
def created? (name : String) : Deed → Option Record
  | answered _ (.createRecord r) (.ok stored) => if r.name = name then some stored else none
  | _ => none

/-- Whether a deed has nothing to do with the consumers or the creation of a record. -/
structure Uncounted (s : Service) (name : String) (d : Deed) : Prop where
  tallied : ∀ l, d.tallied s name l = l
  created? : d.created? name = none

end Deed

/-- The consumers of a record as the errands have it. -/
def tally (s : Service) (name : String) (past : List Entry) : List String :=
  past.foldr (fun m l => m.deed.tallied s name l) []

/-- The record of a name as it was created last. -/
def birth? (name : String) (past : List Entry) : Option Record :=
  past.findSome? fun m => m.deed.created? name

/-- The record that a round of passes works on: the first one that it has read since it asked for
an interruption. -/
def turn? : List Entry → Option String
  | [] => none
  | m :: past =>
    match m.deed with
    | .answered .passAll .isInterrupted _ => none
    | .answered .passAll (.readRecord name) _ => (turn? past).or (some name)
    | _ => turn? past

/-- Whether an errand works on the record of a name. -/
def Errand.WorksOn (s : Service) (past : List Entry) (name : String) : Errand → Prop
  | requestDeletion n | pass n => n = name
  | passAll => turn? past = some name
  | e => ∃ d, e.demand? s = some (name, d)

variable {s : Service} {name : String} {m : Entry} {past : List Entry}

theorem Errand.worksOn_of_demand {e : Errand} {d : Demand} (h : e.demand? s = some (name, d)) :
    e.WorksOn s past name := by
  cases e <;> first | exact ⟨d, h⟩ | cases h

/-! ### One deed more -/

@[simp] theorem met_none (l : List String) : met none name l = l := rfl

@[simp] theorem met_self (d : Demand) (l : List String) : met (some (name, d)) name l = d.apply l :=
  if_pos rfl

theorem met_of_ne {n : String} (h : n ≠ name) (d : Demand) (l : List String) :
    met (some (n, d)) name l = l :=
  if_neg h

theorem tally_cons : tally s name (m :: past) = m.deed.tallied s name (tally s name past) := rfl

theorem birth?_cons : birth? name (m :: past) = (m.deed.created? name).or (birth? name past) := by
  cases h : m.deed.created? name <;> simp [birth?, h]

/-- A tally goes on from an empty one as if nothing had happened before. -/
theorem tally_append_of_eq_nil {older : List Entry} (h : tally s name older = [])
    (newer : List Entry) : tally s name (newer ++ older) = tally s name newer := by
  rw [tally, List.foldr_append]
  exact congrArg (fun l => newer.foldr _ l) h

theorem Deed.Uncounted.tally_cons (h : m.deed.Uncounted s name) :
    tally s name (m :: past) = tally s name past :=
  h.tallied _

theorem Deed.Uncounted.birth?_cons (h : m.deed.Uncounted s name) :
    birth? name (m :: past) = birth? name past := by
  rw [ImageCatalog.birth?_cons, h.created?, Option.none_or]

/-- Deeds that do not count leave the tally empty. -/
theorem tally_eq_nil (h : ∀ m ∈ past, m.deed.Uncounted s name) : tally s name past = [] := by
  induction past with
  | nil => rfl
  | cons m past ih =>
    rw [(h m List.mem_cons_self).tally_cons]
    exact ih fun m' hm' => h m' (List.mem_cons_of_mem _ hm')

/-! ### Which deeds do not count -/

namespace Deed

theorem uncounted_began (e : Errand) : (began e).Uncounted s name :=
  ⟨fun _ => rfl, rfl⟩

theorem uncounted_issued (e : Errand) (r : Request) : (issued e r).Uncounted s name :=
  ⟨fun _ => rfl, rfl⟩

theorem uncounted_failed (e : Errand) (reason : Failure) :
    (ended e (.error reason)).Uncounted s name :=
  ⟨fun _ => rfl, rfl⟩

theorem uncounted_ended {e : Errand} (h : e.demand? s = none) (x : Except Failure e.Result) :
    (ended e x).Uncounted s name := by
  cases x with
  | error reason => exact uncounted_failed e reason
  | ok a => exact ⟨fun l => by simp [tallied, h], rfl⟩

/-- Only creations count among the answers. -/
theorem uncounted_answered (e : Errand) {r : Request} (h : ∀ r', r ≠ .createRecord r')
    (x : r.Answer) : (answered e r x).Uncounted s name := by
  cases r <;> first | exact absurd rfl (h _) | exact ⟨fun _ => rfl, rfl⟩

/-- Answers count only if they create the record. -/
theorem uncounted_of_created? {e : Errand} {r : Request} {x : r.Answer}
    (h : (answered e r x).created? name = none) : (answered e r x).Uncounted s name := by
  refine ⟨fun l => ?_, h⟩
  cases r with
  | createRecord r =>
    cases x with
    | error _ => rfl
    | ok stored =>
      refine if_neg fun hname => ?_
      simp [created?, hname] at h
  | _ => rfl

/-- A creation counts for one record only. -/
theorem uncounted_create (e : Errand) {r : Record} (h : r.name ≠ name)
    (x : Except Failure Record) : (answered e (.createRecord r) x).Uncounted s name := by
  cases x with
  | error _ => exact ⟨fun _ => rfl, rfl⟩
  | ok stored => exact ⟨fun _ => if_neg h, if_neg h⟩

end Deed

/-! ### Whose turn it is -/

theorem turn?_cons_of_ne (h : m.deed.errand ≠ .passAll) : turn? (m :: past) = turn? past := by
  obtain ⟨d, l, t⟩ := m
  cases d with
  | answered e r x => cases e <;> first | rfl | exact absurd rfl h
  | began | issued | ended => rfl

theorem turn?_append {newer : List Entry} (h : ∀ m ∈ newer, m.deed.errand ≠ .passAll) :
    turn? (newer ++ past) = turn? past := by
  induction newer with
  | nil => rfl
  | cons m newer ih =>
    rw [List.cons_append, turn?_cons_of_ne (h m List.mem_cons_self)]
    exact ih fun m' hm' => h m' (List.mem_cons_of_mem _ hm')

/-- A round of passes keeps to its record until it asks for an interruption. -/
theorem turn?_answered {r : Request} (x : r.Answer) (l : Ledger) (t : Instant)
    (hr : r ≠ .isInterrupted) (hname : turn? past = some name) :
    turn? (⟨.answered .passAll r x, l, t⟩ :: past) = some name := by
  cases r with
  | isInterrupted => exact absurd rfl hr
  | readRecord n => simp [turn?, hname]
  | _ => exact hname

end ImageCatalog
