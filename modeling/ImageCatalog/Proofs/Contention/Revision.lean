import ImageCatalog.Proofs.Contention.Crowd
import ImageCatalog.Proofs.Store.Versions

/-!
# Revisions among others

A revision reads a record, has the copy edited and writes it back, and starts over on a conflict.
Others use the same store all the while: before each request of the revision they may have made any
calls. The store is of either kind with anything in it, and any request may fail for a reason of its
own, in which case it has done nothing.

The editor is any function with a memory of the copies it was handed. All that is asked of it is
that it leaves the name and the version of a copy alone. The edits of passes and of calls about
consumers are the case of an editor that remembers nothing.

A revision goes in one of a few ways, which `Editor.Tries` lists. What holds of all its runs is
shown by induction on that list, and the program is opened only once, to see that the list is
complete.

## Main definitions

* `Transaction`, `Program.RunsAmid` — the requests of a program and their answers, when others use
  the store in between
* `Editor.Tries` — the ways a revision can go
* `Editor.memoryAfter` — the memory of an editor after some copies
* `WritesOnce` — a revision writes at most once and reports what it wrote

## Main results

* `World.exists_runsAmid` — the runs of a world are among these
* `Record.tries_of_runsAmid` — a revision goes in one of the ways of `Editor.Tries`
* `Record.reviseBy_writesOnce` — a revision writes at most once, whatever others do
-/

namespace ImageCatalog

/-! ### Requests to a store -/

namespace Store

/-- A request has the outcome that is due, or fails and leaves the store as it was. -/
def Settles {α : Type} (s : Store) (due : Except Failure α × Store) (x : Except Failure α)
    (s' : Store) : Prop :=
  (x = due.1 ∧ s' = due.2) ∨ (∃ e, x = .error e) ∧ s' = s

/-- The answers that a request may get, with the store after it. What is not asked of the store may
be answered in any way. -/
def Answers (s : Store) : (r : Request) → r.Answer → Store → Prop
  | .readRecord name, x, s' => s.Settles (s.read name) x s'
  | .createRecord r, x, s' => s.Settles (s.create r) x s'
  | .replaceRecord r, x, s' => s.Settles (s.replace r) x s'
  | .removeRecord name version, x, s' => s.Settles (s.remove name version) x s'
  | .listRecords, x, s' => s.Settles s.list x s'
  | _, _, s' => s' = s

section Answers

variable {s s' : Store}

theorem Answers.read {name : String} {x : Except Failure (Option Record)}
    (h : s.Answers (.readRecord name) x s') :
    s' = s ∧ ∀ r?, x = .ok r? → (s.read name).1 = .ok r? := by
  rcases h with ⟨rfl, rfl⟩ | ⟨⟨e, rfl⟩, rfl⟩
  · exact ⟨s.read_snd name, fun _ h => h⟩
  · exact ⟨rfl, fun _ h => by cases h⟩

theorem Answers.replace {r : Record} {x : Except Failure Record}
    (h : s.Answers (.replaceRecord r) x s') :
    (∀ stored, x = .ok stored → s.replace r = (.ok stored, s')) ∧ ∀ e, x = .error e → s' = s := by
  rcases h with ⟨rfl, rfl⟩ | ⟨⟨e, rfl⟩, rfl⟩
  · exact ⟨fun stored h => Prod.ext h rfl, fun e h => replace_snd_of_error h⟩
  · exact ⟨fun _ h => (by cases h), fun _ _ => rfl⟩

end Answers

end Store

/-! ### Programs among others -/

/-- A request that was answered. -/
structure Transaction where
  /-- The store at that moment. -/
  before : Store
  request : Request
  answer : request.Answer
  after : Store

namespace Transaction

/-- A record was looked up. -/
def reading (s : Store) (name : String) (x : Except Failure (Option Record)) : Transaction :=
  ⟨s, .readRecord name, x, s⟩

/-- A record was to be replaced. -/
def replacing (s : Store) (r : Record) (x : Except Failure Record) (s' : Store) : Transaction :=
  ⟨s, .replaceRecord r, x, s'⟩

end Transaction

open Transaction

namespace Program

variable {α β : Type}

/-- A run of a program to its end. Others may have made any calls of the store before each of its
requests. -/
inductive RunsAmid : Store → Program α → List Transaction → Except Failure α → Prop where
  | done (s : Store) (a : α) : RunsAmid s (done a) [] (.ok a)
  | fail (s : Store) (e : Failure) : RunsAmid s (fail e) [] (.error e)
  | ask {s s' : Store} {r : Request} {k : r.Answer → Program α} {x : r.Answer}
    {ts : List Transaction} {outcome : Except Failure α} (others : List Store.Call) :
    (s.calls others).2.Answers r x s' → RunsAmid s' (k x) ts outcome →
    RunsAmid s (ask r k) (⟨(s.calls others).2, r, x, s'⟩ :: ts) outcome

namespace RunsAmid

variable {s : Store} {ts : List Transaction}

theorem of_done {a : α} {outcome : Except Failure α} (h : RunsAmid s (.done a) ts outcome) :
    ts = [] ∧ outcome = .ok a := by
  cases h
  exact ⟨rfl, rfl⟩

theorem of_fail {e : Failure} {outcome : Except Failure α} (h : RunsAmid s (.fail e) ts outcome) :
    ts = [] ∧ outcome = .error e := by
  cases h
  exact ⟨rfl, rfl⟩

theorem of_log {line : LogLine} {f : Unit → Program β} {outcome : Except Failure β}
    (h : RunsAmid s (log line >>= f) ts outcome) :
    ∃ s' rest, ts = ⟨s', .log line, (), s'⟩ :: rest ∧ RunsAmid s' (f ()) rest outcome := by
  cases h with
  | ask others hanswer hrest =>
    obtain rfl := hanswer
    exact ⟨_, _, rfl, hrest⟩

theorem of_readRecord {name : String} {f : Option Record → Program β} {outcome : Except Failure β}
    (h : RunsAmid s (readRecord name >>= f) ts outcome) :
    ∃ s' x rest, ts = reading s' name x :: rest ∧
      (∀ r?, x = .ok r? → (s'.read name).1 = .ok r?) ∧
        RunsAmid s' (Program.ofExcept x >>= f) rest outcome := by
  cases h with
  | ask others hanswer hrest =>
    obtain ⟨rfl, hread⟩ := Store.Answers.read hanswer
    exact ⟨_, _, _, rfl, hread, hrest⟩

theorem of_tryReplaceRecord {r : Record} {f : Except Failure Record → Program β}
    {outcome : Except Failure β} (h : RunsAmid s (tryReplaceRecord r >>= f) ts outcome) :
    ∃ s' x s'' rest, ts = replacing s' r x s'' :: rest ∧
      (∀ stored, x = .ok stored → s'.replace r = (.ok stored, s'')) ∧
        (∀ e, x = .error e → s'' = s') ∧ RunsAmid s'' (f x) rest outcome := by
  cases h with
  | ask others hanswer hrest =>
    obtain ⟨hreplaced, hrefused⟩ := Store.Answers.replace hanswer
    exact ⟨_, _, _, _, rfl, hreplaced, hrefused, hrest⟩

end RunsAmid

end Program

namespace World

theorem answers_store (w : World) (r : Request) :
    w.store.Answers r (w.answer r).1 (w.answer r).2.store := by
  by_cases hr : r.waits
  · have hstore : (w.answer r).2.store = w.store := congrArg Prod.fst (w.base_answer_of_waits hr)
    cases r <;> first | exact hstore | cases hr
  · cases r with
    | readRecord | createRecord | replaceRecord | removeRecord | listRecords =>
      exact .inl ⟨rfl, rfl⟩
    | now | emit | log | isInterrupted => rfl
    | probe | lookUp | upload | withdraw => exact absurd rfl hr

/-- A run in a world is one in which others do nothing. -/
theorem exists_runsAmid {α : Type} (w : World) (p : Program α) :
    ∃ ts, p.RunsAmid w.store ts (w.run p).1 := by
  induction p generalizing w with
  | done a => exact ⟨[], .done w.store a⟩
  | fail e => exact ⟨[], .fail w.store e⟩
  | ask r k ih =>
    obtain ⟨ts, hrest⟩ := ih (w.answer r).1 (w.answer r).2
    exact ⟨_, .ask [] (w.answers_store r) hrest⟩

end World

namespace Transaction

/-- Whether a record was looked up. -/
def isReading (t : Transaction) : Bool :=
  match t.request with
  | .readRecord _ => true
  | _ => false

/-- The copy that was got. -/
def copy? : Transaction → Option Record
  | ⟨_, .readRecord _, .ok r?, _⟩ => r?
  | _ => none

/-- Whether a record was replaced. -/
def replaces (t : Transaction) : Bool :=
  t.request.Replaces t.answer

/-- Nothing was written. -/
structure Idle (t : Transaction) : Prop where
  after : t.after = t.before
  replaces : t.replaces = false

theorem idle_reading (s : Store) (name : String) (x : Except Failure (Option Record)) :
    (reading s name x).Idle :=
  ⟨rfl, rfl⟩

theorem idle_replacing (s : Store) (r : Record) (e : Failure) :
    (replacing s r (.error e) s).Idle :=
  ⟨rfl, rfl⟩

end Transaction

/-- The copies that were got, in their order. -/
def copies (ts : List Transaction) : List Record :=
  ts.filterMap copy?

/-! ### The ways a revision can go -/

variable {σ : Type}

namespace Editor

/-- The memory of an editor after it was handed some copies. -/
def memoryAfter (editor : Editor σ) (memory : σ) (rs : List Record) : σ :=
  rs.foldl (fun memory r => (editor memory r).2) memory

/-- The editor leaves the names and versions of records alone. -/
def KeepsIdentity (editor : Editor σ) : Prop :=
  ∀ memory copy r written, (editor memory copy).1 = .ok (r, written) →
    r.name = copy.name ∧ r.version = copy.version

/-- The ways a revision can go, by the attempts and the memory that the editor has left. -/
inductive Tries (name : String) (editor : Editor σ) :
    (attempts : Nat) → (memory : σ) → List Transaction → Except Failure (Option Revision) → Prop
  /-- There is no attempt left. -/
  | gaveUp (s : Store) (line : LogLine) (memory : σ) :
    Tries name editor 0 memory [⟨s, .log line, (), s⟩]
      (.error (.conflictsExhausted name maxAttempts))
  /-- The record cannot be read. -/
  | unread (s : Store) (e : Failure) (n : Nat) (memory : σ) :
    Tries name editor (n + 1) memory [reading s name (.error e)] (.error e)
  /-- There is no such record. -/
  | absent (s : Store) (n : Nat) (memory : σ) :
    Tries name editor (n + 1) memory [reading s name (.ok none)] (.ok none)
  /-- The editor fails on the copy. -/
  | rejected {s : Store} {n : Nat} {memory : σ} {copy : Record} {e : Failure} :
    (s.read name).1 = .ok (some copy) → (editor memory copy).1 = .error e →
    Tries name editor (n + 1) memory [reading s name (.ok (some copy))] (.error e)
  /-- The editor has nothing to write. -/
  | kept {s : Store} {n : Nat} {memory : σ} {copy r : Record} :
    (s.read name).1 = .ok (some copy) → (editor memory copy).1 = .ok (r, false) →
    Tries name editor (n + 1) memory [reading s name (.ok (some copy))]
      (.ok (some ⟨copy, r, false⟩))
  /-- The record is written. -/
  | written {s s' s'' : Store} {n : Nat} {memory : σ} {copy r stored : Record} :
    (s.read name).1 = .ok (some copy) → (editor memory copy).1 = .ok (r, true) →
    s'.replace r = (.ok stored, s'') →
    Tries name editor (n + 1) memory
      [reading s name (.ok (some copy)), replacing s' r (.ok stored) s'']
      (.ok (some ⟨copy, stored, true⟩))
  /-- The write fails, and that is the end. -/
  | refused {s s' : Store} {n : Nat} {memory : σ} {copy r : Record} {e : Failure}
    {outcome : Except Failure (Option Revision)} :
    (s.read name).1 = .ok (some copy) → (editor memory copy).1 = .ok (r, true) →
    (∀ v, outcome ≠ .ok (some v)) →
    Tries name editor (n + 1) memory
      [reading s name (.ok (some copy)), replacing s' r (.error e) s'] outcome
  /-- The write fails, and there is another attempt. -/
  | again {s s' : Store} {n : Nat} {memory : σ} {copy r : Record} {e : Failure}
    {ts : List Transaction} {outcome : Except Failure (Option Revision)} :
    (s.read name).1 = .ok (some copy) → (editor memory copy).1 = .ok (r, true) →
    Tries name editor n (editor memory copy).2 ts outcome →
    Tries name editor (n + 1) memory
      (reading s name (.ok (some copy)) :: replacing s' r (.error e) s' :: ts) outcome

end Editor

namespace Record

open Program Editor

/-- **The list of ways is complete.** -/
theorem tries_of_runsAmid {name : String} {editor : Editor σ} {n : Nat} {memory : σ} {s : Store}
    {ts : List Transaction} {outcome : Except Failure (Option Revision)}
    (h : RunsAmid s (reviseBy name editor n memory) ts outcome) :
    Tries name editor n memory ts outcome := by
  induction n generalizing s memory ts with
  | zero =>
    obtain ⟨s', rest, rfl, hrest⟩ := RunsAmid.of_log h
    obtain ⟨rfl, rfl⟩ := hrest.of_fail
    exact .gaveUp s' _ memory
  | succ n ih =>
    obtain ⟨s', x, rest, rfl, hread, hrest⟩ := RunsAmid.of_readRecord h
    rcases x with e | _ | copy
    · obtain ⟨rfl, rfl⟩ := hrest.of_fail
      exact .unread s' e n memory
    · obtain ⟨rfl, rfl⟩ := hrest.of_done
      exact .absent s' n memory
    have hcopy := hread _ rfl
    rcases hedit : (editor memory copy).1 with e | ⟨r, wanted⟩
    · simp only [Program.ofExcept, done_bind, hedit] at hrest
      obtain ⟨rfl, rfl⟩ := hrest.of_fail
      exact .rejected hcopy hedit
    cases wanted with
    | false =>
      simp only [Program.ofExcept, done_bind, hedit] at hrest
      obtain ⟨rfl, rfl⟩ := hrest.of_done
      exact .kept hcopy hedit
    | true =>
      simp only [Program.ofExcept, done_bind, hedit] at hrest
      obtain ⟨t, x, t', rest, rfl, hreplaced, hrefused, hend⟩ := hrest.of_tryReplaceRecord
      rcases x with e | stored
      · obtain rfl := hrefused e rfl
        cases e with
        | conflict => exact .again hcopy hedit (ih hend)
        | imageNotFound =>
          obtain ⟨rfl, rfl⟩ := hend.of_done
          exact .refused hcopy hedit fun _ h => by cases h
        | _ =>
          obtain ⟨rfl, rfl⟩ := hend.of_fail
          exact .refused hcopy hedit fun _ h => by cases h
      · obtain ⟨rfl, rfl⟩ := hend.of_done
        exact .written hcopy hedit (hreplaced stored rfl)

end Record

/-! ### What holds of all of them -/

namespace Transaction

/-- A copy is the record as it is stored at that moment. -/
def Fresh (name : String) (t : Transaction) : Prop :=
  ∀ copy, t.copy? = some copy → (t.before.read name).1 = .ok (some copy)

variable {s : Store} {name : String}

theorem fresh_reading {copy : Record} (h : (s.read name).1 = .ok (some copy)) :
    (reading s name (.ok (some copy))).Fresh name := by
  rintro _ ⟨⟩
  exact h

theorem fresh_of_copy?_eq_none {t : Transaction} (h : t.copy? = none) : t.Fresh name := by
  intro copy hcopy
  rw [h] at hcopy
  cases hcopy

end Transaction

namespace Editor

variable {name : String} {editor : Editor σ} {memory : σ} {ts : List Transaction}

/-- What is to be written is what the editor made of the copy that was got just before. -/
def Edited (editor : Editor σ) (memory : σ) (ts : List Transaction) : Prop :=
  ∀ earlier t later r, ts = earlier ++ t :: later → t.request = .replaceRecord r →
    ∃ before u copy, earlier = before ++ [u] ∧ u.copy? = some copy ∧
      (editor (editor.memoryAfter memory (copies before)) copy).1 = .ok (r, true)

theorem edited_nil : Edited editor memory [] := by
  intro earlier t later r h
  cases earlier <;> cases h

theorem edited_singleton {t : Transaction} (ht : ∀ r, t.request ≠ .replaceRecord r) :
    Edited editor memory [t] := by
  intro earlier u later r h hu
  cases earlier with
  | nil =>
    obtain ⟨rfl, -⟩ := List.cons.inj h
    exact absurd hu (ht r)
  | cons w earlier => cases earlier <;> cases h

theorem edited_attempt {s s' s'' : Store} {copy r : Record} {x : Except Failure Record}
    (hedit : (editor memory copy).1 = .ok (r, true))
    (h : Edited editor (editor memory copy).2 ts) :
    Edited editor memory
      (reading s name (.ok (some copy)) :: replacing s' r x s'' :: ts) := by
  intro earlier t later q heq hq
  rcases earlier with _ | ⟨u, _ | ⟨w, earlier⟩⟩
  · obtain ⟨rfl, -⟩ := List.cons.inj heq
    cases hq
  · obtain ⟨rfl, hrest⟩ := List.cons.inj heq
    obtain ⟨rfl, -⟩ := List.cons.inj hrest
    obtain rfl := Request.replaceRecord.inj hq
    exact ⟨[], _, copy, rfl, rfl, hedit⟩
  · obtain ⟨rfl, hrest⟩ := List.cons.inj heq
    obtain ⟨rfl, hrest'⟩ := List.cons.inj hrest
    obtain ⟨before, u, copy', rfl, hcopy, hedit'⟩ := h earlier t later q hrest' hq
    exact ⟨_ :: _ :: before, u, copy', rfl, hcopy, hedit'⟩

namespace Tries

variable {n : Nat} {outcome : Except Failure (Option Revision)} {v : Revision}

theorem countP_isReading_le (h : Tries name editor n memory ts outcome) :
    ts.countP isReading ≤ n := by
  induction h with
  | gaveUp => exact Nat.le_refl 0
  | again _ _ _ ih =>
    rw [List.countP_cons_of_pos rfl, List.countP_cons_of_neg Bool.false_ne_true]
    exact Nat.succ_le_succ ih
  | _ => exact Nat.succ_le_succ (Nat.zero_le _)

theorem fresh (h : Tries name editor n memory ts outcome) : ∀ t ∈ ts, t.Fresh name := by
  induction h with
  | gaveUp | unread | absent =>
    exact List.forall_mem_singleton.2 (fresh_of_copy?_eq_none rfl)
  | rejected hread | kept hread => exact List.forall_mem_singleton.2 (fresh_reading hread)
  | written hread | refused hread =>
    exact List.forall_mem_cons.2 ⟨fresh_reading hread,
      List.forall_mem_singleton.2 (fresh_of_copy?_eq_none rfl)⟩
  | again hread _ _ ih =>
    exact List.forall_mem_cons.2 ⟨fresh_reading hread,
      List.forall_mem_cons.2 ⟨fresh_of_copy?_eq_none rfl, ih⟩⟩

theorem edited (h : Tries name editor n memory ts outcome) : Edited editor memory ts := by
  induction h with
  | written _ hedit | refused _ hedit => exact edited_attempt hedit edited_nil
  | again _ hedit _ ih => exact edited_attempt hedit ih
  | _ => exact edited_singleton fun _ h => by cases h

/-- Nothing is written on the way to an outcome that tells of no write. -/
theorem idle (h : Tries name editor n memory ts outcome)
    (hquiet : ∀ v, outcome = .ok (some v) → v.written = false) : ∀ t ∈ ts, t.Idle := by
  induction h with
  | gaveUp => exact List.forall_mem_singleton.2 ⟨rfl, rfl⟩
  | unread | absent | rejected | kept => exact List.forall_mem_singleton.2 (idle_reading ..)
  | written => cases hquiet _ rfl
  | refused =>
    exact List.forall_mem_cons.2 ⟨idle_reading .., List.forall_mem_singleton.2 (idle_replacing ..)⟩
  | again _ _ _ ih =>
    exact List.forall_mem_cons.2 ⟨idle_reading ..,
      List.forall_mem_cons.2 ⟨idle_replacing .., ih hquiet⟩⟩

/-- A revision that was not written is what the editor made of the last copy. -/
theorem exists_kept (h : Tries name editor n memory ts (.ok (some v))) (hv : v.written = false) :
    ∃ earlier s, ts = earlier ++ [reading s name (.ok (some v.before))] ∧
      (editor (editor.memoryAfter memory (copies earlier)) v.before).1 = .ok (v.after, false) := by
  generalize houtcome : Except.ok (some v) = outcome at h
  induction h with
  | gaveUp | unread | absent | rejected => cases houtcome
  | kept _ hedit =>
    cases houtcome
    exact ⟨[], _, rfl, hedit⟩
  | written =>
    cases houtcome
    cases hv
  | refused _ _ houtcome' => exact absurd houtcome.symm (houtcome' v)
  | again _ _ _ ih =>
    obtain ⟨earlier, s, rfl, hedit⟩ := ih houtcome
    exact ⟨_ :: _ :: earlier, s, rfl, hedit⟩

/-- A revision that was written was written by the last request, and nothing before it. -/
theorem exists_written (h : Tries name editor n memory ts (.ok (some v))) (hv : v.written = true) :
    ∃ earlier s s' s'' r, ts = earlier ++
        [reading s name (.ok (some v.before)), replacing s' r (.ok v.after) s''] ∧
      (∀ t ∈ earlier, t.Idle) ∧
        (editor (editor.memoryAfter memory (copies earlier)) v.before).1 = .ok (r, true) ∧
          s'.replace r = (.ok v.after, s'') := by
  generalize houtcome : Except.ok (some v) = outcome at h
  induction h with
  | gaveUp | unread | absent | rejected => cases houtcome
  | kept =>
    cases houtcome
    cases hv
  | written _ hedit hreplace =>
    cases houtcome
    exact ⟨[], _, _, _, _, rfl, List.forall_mem_nil _, hedit, hreplace⟩
  | refused _ _ houtcome' => exact absurd houtcome.symm (houtcome' v)
  | again _ _ _ ih =>
    obtain ⟨earlier, s, s', s'', r, rfl, hidle, hedit, hreplace⟩ := ih houtcome
    exact ⟨_ :: _ :: earlier, s, s', s'', r, rfl, List.forall_mem_cons.2 ⟨idle_reading ..,
      List.forall_mem_cons.2 ⟨idle_replacing .., hidle⟩⟩, hedit, hreplace⟩

end Tries

end Editor

/-! ### One write at most -/

/-- A revision writes at most once and reports what it wrote. -/
structure WritesOnce (name : String) (editor : Editor σ) (memory : σ) (ts : List Transaction)
    (outcome : Except Failure (Option Revision)) : Prop where
  /-- Each attempt begins with a reading. -/
  attempts : ts.countP isReading ≤ maxAttempts
  /-- Each attempt has a copy of its own, of what is stored at that moment. -/
  fresh : ∀ t ∈ ts, t.Fresh name
  /-- Nothing is to be written but what the editor made of the copy of the same attempt. -/
  edited : editor.Edited memory ts
  /-- After a revision that is told to be written, one update was successful, the last request. It
  stored what the editor made of the copy of that attempt, under the next version, and this is what
  is told and what is found from then on. -/
  written : ∀ v, outcome = .ok (some v) → v.written = true →
    ts.countP replaces = 1 ∧ ∃ earlier s s' s'' r,
      ts = earlier ++ [reading s name (.ok (some v.before)), replacing s' r (.ok v.after) s''] ∧
      (∀ t ∈ earlier, t.Idle) ∧
      (editor (editor.memoryAfter memory (copies earlier)) v.before).1 = .ok (r, true) ∧
      s'.replace r = (.ok v.after, s'') ∧
      v.after = { r with version := v.before.version + 1 } ∧
      (s''.read v.before.name).1 = .ok (some v.after)
  /-- Any other revision is what the editor made of the last copy, and not for writing. -/
  kept : ∀ v, outcome = .ok (some v) → v.written = false →
    ∃ earlier s, ts = earlier ++ [reading s name (.ok (some v.before))] ∧
      (editor (editor.memoryAfter memory (copies earlier)) v.before).1 = .ok (v.after, false)
  /-- Without a revision that is told to be written, nothing was written. -/
  idle : (∀ v, outcome = .ok (some v) → v.written = false) → ∀ t ∈ ts, t.Idle

/-- **A revision writes at most once and reports exactly what it wrote**, whatever others do between
its requests. -/
theorem Record.reviseBy_writesOnce {name : String} {editor : Editor σ} {memory : σ}
    (hkeeps : editor.KeepsIdentity) {s : Store} {ts : List Transaction}
    {outcome : Except Failure (Option Revision)}
    (h : (reviseBy name editor maxAttempts memory).RunsAmid s ts outcome) :
    WritesOnce name editor memory ts outcome := by
  have htries := tries_of_runsAmid h
  refine ⟨htries.countP_isReading_le, htries.fresh, htries.edited, ?_, ?_, htries.idle⟩
  · rintro v rfl hv
    obtain ⟨earlier, s, s', s'', r, rfl, hidle, hedit, hreplace⟩ := htries.exists_written hv
    obtain ⟨hname, hversion⟩ := hkeeps _ _ _ _ hedit
    obtain ⟨hstored, hfound⟩ := Store.replace_eq_ok hreplace
    have hnone : earlier.countP replaces = 0 :=
      List.countP_eq_zero.2 fun t ht => Bool.eq_false_iff.1 (hidle t ht).replaces
    refine ⟨?_, earlier, s, s', s'', r, rfl, hidle, hedit, hreplace, ?_, ?_⟩
    · rw [List.countP_append, hnone]
      rfl
    · rw [hstored, Record.bumped, hversion]
    · rw [← hname]
      exact hfound
  · rintro v rfl hv
    exact htries.exists_kept hv

/-- Puts a consumer on the list, and counts the copies it was handed. -/
def Editor.welcome : Editor Nat := fun seen copy =>
  (.ok (copy.addConsumer "workload", true), seen + 1)

theorem Editor.keepsIdentity_welcome : welcome.KeepsIdentity := by
  rintro seen copy _ _ ⟨⟩
  rw [Record.addConsumer_eq]
  exact ⟨rfl, rfl⟩

/-- The theorem at a revision into which somebody else writes: it is written at the second
attempt. -/
theorem writesOnce_after_conflict :
    Editor.welcome.KeepsIdentity ∧
      ∃ ts v, (Record.reviseBy "flatcar" Editor.welcome maxAttempts 0).RunsAmid Store.stocked ts
          (.ok (some v)) ∧ ts.length = 4 ∧ v.written = true ∧ v.after.version = 3 ∧
        WritesOnce "flatcar" Editor.welcome 0 ts (.ok (some v)) := by
  have hrun : (Record.reviseBy "flatcar" Editor.welcome maxAttempts 0).RunsAmid Store.stocked _ _ :=
    .ask [] (.inl ⟨rfl, rfl⟩) <|
    .ask [.replace (Store.draft "capv").atFirst] (.inl ⟨rfl, rfl⟩) <|
    .ask [] (.inl ⟨rfl, rfl⟩) <|
    .ask [] (.inl ⟨rfl, rfl⟩) <|
    .done _ _
  exact ⟨Editor.keepsIdentity_welcome, _, _, hrun, rfl, rfl, rfl,
    Record.reviseBy_writesOnce Editor.keepsIdentity_welcome hrun⟩

end ImageCatalog
