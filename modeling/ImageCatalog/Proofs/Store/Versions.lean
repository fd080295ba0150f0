import ImageCatalog.Proofs.Store.Call
import ImageCatalog.Proofs.Store.Files
import ImageCatalog.Proofs.Store.Ledger
import Mathlib.Algebra.Group.Nat.Defs

/-!
# What a version tells

A write is accepted from the version that is stored. What a client may conclude from that is a
statement about two moments: it read a copy, and later its write of the copy was accepted. The
version is the same at both; the question is what else may have happened.

Within one life of a record nothing may, unless the counter went all the way around. But the counter
belongs to the record, not to its name: a record that is removed and created anew starts over at
version 1, and a copy of the record that is gone passes for a copy of the new one.

## Main definitions

* `Store.writes` — what the calls have done to the record of their name
* `Store.version?` — the version that is stored under a name

## Main results

* `Store.effect_call` — what one call does to the version
* `Store.replace_eq_ok` — an accepted replacement is found under its next version
* `Store.accepted_after_read` — what lies between a read and an accepted write of the copy
* `Store.not_forall_writes_eq_nil` — there may be writes that the writer has not seen
-/

namespace ImageCatalog

namespace Store

/-! ### Writes -/

/-- The calls about the record of one name. -/
def Call.On (name : String) : Call → Prop
  | .read other => other = name
  | .create r => r.name = name
  | .replace r => r.name = name
  | .remove other _ => other = name
  | .list => False

/-- What a write does to a record. -/
inductive Write where
  | created
  | replaced
  | removed
deriving DecidableEq, Repr

/-- What a call has done, by its answer. -/
def Call.write? : Call → Answer → Option Write
  | .create _, .stored (.ok _) => some .created
  | .replace _, .stored (.ok _) => some .replaced
  | .remove _ _, .removed (.ok true) => some .removed
  | _, _ => none

/-- What calls have done one after another. -/
def writes (s : Store) : List Call → List Write
  | [] => []
  | c :: rest => (c.write? (s.call c).1).toList ++ (s.call c).2.writes rest

/-- The version of the record that was read, if there was one. -/
def versionOf : Except Failure (Option Record) → Option UInt64
  | .ok (some r) => some r.version
  | _ => none

/-- The version that is stored under a name. -/
def version? (s : Store) (name : String) : Option UInt64 :=
  versionOf (s.read name).1

/-- What a call does to a store, by the write that it reports: nothing at all without a write, and
otherwise a step of the version that is stored under the name. -/
inductive Effect (name : String) (s s' : Store) : Option Write → Prop
  | none (h : s' = s) : Effect name s s' none
  | created (h : s.version? name = .none) (h' : s'.version? name = some 1) :
    Effect name s s' (some .created)
  | replaced (v : UInt64) (h : s.version? name = some v) (h' : s'.version? name = some (v + 1)) :
    Effect name s s' (some .replaced)
  | removed (v : UInt64) (h : s.version? name = some v) (h' : s'.version? name = .none) :
    Effect name s s' (some .removed)

/-! ### One call of a ledger -/

section Ledger

variable (l : Ledger) {name : String}

theorem read_ledger (name : String) : (ledger l).read name = (.ok (l.get? name), ledger l) := rfl

theorem version?_ledger {x : Option Record} (h : l.get? name = x) :
    (ledger l).version? name = x.map Record.version := by
  rw [version?, read_ledger, h]
  cases x <;> rfl

theorem version?_put (r : Record) : (ledger (l.put r)).version? r.name = some r.version :=
  version?_ledger _ (Dictionary.get?_insert_self _ _ _)

theorem effect_ledger_create (r : Record) :
    Effect r.name (ledger l) ((ledger l).call (.create r)).2
      (Call.write? (.create r) ((ledger l).call (.create r)).1) := by
  have hcall : (ledger l).call (.create r) =
      (.stored (l.create r).1, ledger (l.create r).2) := rfl
  rw [hcall, Ledger.create]
  cases hget : l.get? r.name with
  | some old => exact .none rfl
  | none => exact .created (version?_ledger l hget) (version?_put l r.atFirst)

theorem effect_ledger_replace (r : Record) :
    Effect r.name (ledger l) ((ledger l).call (.replace r)).2
      (Call.write? (.replace r) ((ledger l).call (.replace r)).1) := by
  have hcall : (ledger l).call (.replace r) =
      (.stored (l.replace r).1, ledger (l.replace r).2) := rfl
  rw [hcall, Ledger.replace]
  cases hget : l.get? r.name with
  | none => exact .none rfl
  | some old =>
    dsimp only
    cases hplace : r.inPlaceOf old with
    | error e => exact .none rfl
    | ok r' =>
      obtain ⟨hversion, rfl⟩ := Record.inPlaceOf_eq_ok hplace
      exact .replaced old.version (version?_ledger l hget)
        (version?_put l { r with version := old.version + 1 })

theorem effect_ledger_remove (version : Option UInt64) :
    Effect name (ledger l) ((ledger l).call (.remove name version)).2
      (Call.write? (.remove name version) ((ledger l).call (.remove name version)).1) := by
  have hcall : (ledger l).call (.remove name version) =
      (.removed (l.remove name version).1, ledger (l.remove name version).2) := rfl
  rw [hcall, Ledger.remove]
  cases hget : l.get? name with
  | none => exact .none rfl
  | some old =>
    dsimp only
    cases version.forM (old.checkVersion name) with
    | error e => exact .none rfl
    | ok _ =>
      exact .removed old.version (version?_ledger l hget)
        (version?_ledger _ (Dictionary.get?_erase_self _ _))

end Ledger

/-! ### One call of a folder -/

section Folder

variable (f : Folder) (t : FileTree) {name path : String}

theorem read_folder (name : String) :
    (folder f t).read name = ((f.path name).bind t.record?, folder f t) := by
  rw [read, onFolder_eq, Folder.perform_read]
  rfl

theorem version?_folder (h : f.path name = .ok path) :
    (folder f t).version? name = versionOf (t.record? path) := by
  rw [version?, read_folder, h]
  rfl

/-- A record that is kept is the one at its path from then on. -/
theorem record?_of_keep {r r' : Record} {t' : FileTree} (h : t.keep path r = (.ok r', t')) :
    r' = r ∧ t'.record? path = .ok (some r) := by
  unfold FileTree.keep at h
  split at h
  · simp at h
  · rename_i hwrite
    obtain ⟨hr, rfl⟩ := Prod.mk.inj h
    exact ⟨(Except.ok.inj hr).symm, FileTree.record?_write hwrite⟩

theorem version?_keep {r r' : Record} {t' : FileTree} (h : f.path name = .ok path)
    (hkeep : t.keep path r = (.ok r', t')) : (folder f t').version? name = some r.version := by
  rw [version?_folder f _ h, (record?_of_keep t hkeep).2]
  rfl

/-- A write that fails leaves the tree as it was. -/
theorem keep_error {r : Record} {e : Failure} {t' : FileTree}
    (hkeep : t.keep path r = (.error e, t')) : t' = t := by
  unfold FileTree.keep at hkeep
  split at hkeep <;> simp_all

/-- There is no record at a path that leads nowhere. -/
theorem versionOf_of_free (hfree : ¬ (t.find path).isOk = true) :
    versionOf (t.record? path) = none := by
  cases hfind : t.find path with
  | ok found => exact absurd (by rw [hfind]; rfl) hfree
  | error fault =>
    have hread : t.read path = .error fault := by
      rw [FileTree.read, hfind]
      rfl
    rw [FileTree.record?, hread]
    cases fault <;> rfl

theorem effect_folder_create (r : Record) :
    Effect r.name (folder f t) ((folder f t).call (.create r)).2
      (Call.write? (.create r) ((folder f t).call (.create r)).1) := by
  have hcall : (folder f t).call (.create r) =
      ((Folder.perform (f.create FileTree.disk r) t).map .stored (folder f)) := rfl
  rw [hcall, Folder.perform_create]
  cases hpath : f.path r.name with
  | error e => exact .none rfl
  | ok path =>
    dsimp only
    split
    · exact .none rfl
    · rename_i hfree
      rcases hkeep : t.keep path r.atFirst with ⟨result, t'⟩
      cases result with
      | error e =>
        rw [keep_error t hkeep]
        exact .none rfl
      | ok r' =>
        refine .created ?_ (version?_keep f t hpath hkeep)
        rw [version?_folder f t hpath, versionOf_of_free t hfree]

theorem effect_folder_replace (r : Record) :
    Effect r.name (folder f t) ((folder f t).call (.replace r)).2
      (Call.write? (.replace r) ((folder f t).call (.replace r)).1) := by
  have hcall : (folder f t).call (.replace r) =
      ((Folder.perform (f.replace FileTree.disk r) t).map .stored (folder f)) := rfl
  rw [hcall, Folder.perform_replace]
  cases hpath : f.path r.name with
  | error e => exact .none rfl
  | ok path =>
    dsimp only
    rcases hold : t.record? path with e | _ | old
    · exact .none rfl
    · exact .none rfl
    · dsimp only
      cases hplace : r.inPlaceOf old with
      | error e => exact .none rfl
      | ok r' =>
        obtain ⟨hversion, hr'⟩ := Record.inPlaceOf_eq_ok hplace
        dsimp only
        rcases hkeep : t.keep path r' with ⟨result, t'⟩
        cases result with
        | error e =>
          rw [keep_error t hkeep]
          exact .none rfl
        | ok r'' =>
          have hput := version?_keep f t hpath hkeep
          rw [hr'] at hput
          refine .replaced old.version ?_ hput
          rw [version?_folder f t hpath, hold]
          rfl

theorem effect_folder_remove (version : Option UInt64) :
    Effect name (folder f t) ((folder f t).call (.remove name version)).2
      (Call.write? (.remove name version) ((folder f t).call (.remove name version)).1) := by
  have hcall : (folder f t).call (.remove name version) =
      ((Folder.perform (f.remove FileTree.disk name version) t).map .removed (folder f)) := rfl
  rw [hcall, Folder.perform_remove]
  cases hpath : f.path name with
  | error e => exact .none rfl
  | ok path =>
    dsimp only
    rcases hold : t.record? path with e | _ | old
    · exact .none rfl
    · exact .none rfl
    · dsimp only
      cases version.forM (old.checkVersion name) with
      | error e => exact .none rfl
      | ok _ =>
        dsimp only
        rw [FileTree.drop]
        cases hremove : t.remove path with
        | error fault => exact .none rfl
        | ok t' =>
          refine .removed old.version ?_ ?_
          · rw [version?_folder f t hpath, hold]
            rfl
          · change (folder f t').version? name = none
            rw [version?_folder f t' hpath, FileTree.record?_remove hremove]
            rfl

end Folder

/-- A store is the same after a record was read. -/
theorem read_snd (s : Store) (name : String) : (s.read name).2 = s := by
  cases s with
  | ledger l => rfl
  | folder f t => rw [read_folder]

/-- **What one call does**, in either kind of store. -/
theorem effect_call (s : Store) {name : String} {c : Call} (hon : c.On name) :
    Effect name s (s.call c).2 (c.write? (s.call c).1) := by
  cases c with
  | list => exact hon.elim
  | read other =>
    exact .none (s.read_snd other)
  | create r =>
    obtain rfl : r.name = name := hon
    cases s with
    | ledger l => exact effect_ledger_create l r
    | folder f t => exact effect_folder_create f t r
  | replace r =>
    obtain rfl : r.name = name := hon
    cases s with
    | ledger l => exact effect_ledger_replace l r
    | folder f t => exact effect_folder_replace f t r
  | remove other version =>
    obtain rfl : other = name := hon
    cases s with
    | ledger l => exact effect_ledger_remove l version
    | folder f t => exact effect_folder_remove f t version

/-! ### Replacements -/

/-- A replacement that is refused has done nothing. -/
theorem replace_snd_of_error {s : Store} {r : Record} {e : Failure}
    (h : (s.replace r).1 = .error e) : (s.replace r).2 = s := by
  have heffect := effect_call s (c := .replace r) rfl
  have hcall : s.call (.replace r) = (.stored (s.replace r).1, (s.replace r).2) := rfl
  rw [hcall, h] at heffect
  cases heffect with
  | none hsame => exact hsame

/-- **An accepted replacement is found under its next version.** -/
theorem replace_eq_ok {s s' : Store} {r stored : Record} (h : s.replace r = (.ok stored, s')) :
    stored = r.bumped ∧ (s'.read r.name).1 = .ok (some stored) := by
  cases s with
  | ledger l =>
    have hledger : (l.replace r).map id ledger = (.ok stored, s') := h
    cases hq : l.get? r.name with
    | none => simp [Ledger.replace_of_absent hq] at hledger
    | some q =>
      by_cases hv : q.version = r.version
      · rw [Ledger.replace_of_version hq hv.symm] at hledger
        obtain ⟨hstored, rfl⟩ := Prod.mk.inj hledger
        obtain rfl := Except.ok.inj hstored
        exact ⟨rfl, congrArg _ (Ledger.get?_put_of_eq rfl)⟩
      · simp [Ledger.replace_of_stale hq hv] at hledger
  | folder f t =>
    have hfolder : (Folder.perform (f.replace FileTree.disk r) t).map id (folder f) =
      (.ok stored, s') := h
    rw [Folder.perform_replace] at hfolder
    cases hpath : f.path r.name with
    | error e => simp [hpath] at hfolder
    | ok path =>
      rw [hpath] at hfolder
      rcases hold : t.record? path with e | _ | old
      · simp [hold] at hfolder
      · simp [hold] at hfolder
      · cases hplace : r.inPlaceOf old with
        | error e => simp [hold, hplace] at hfolder
        | ok r' =>
          obtain ⟨hversion, hr'⟩ := Record.inPlaceOf_eq_ok hplace
          simp only [hold, hplace] at hfolder
          rcases hkeep : t.keep path r' with ⟨result, t'⟩
          rw [hkeep] at hfolder
          obtain ⟨rfl, rfl⟩ := Prod.mk.inj hfolder
          obtain ⟨hstored, hfound⟩ := record?_of_keep t hkeep
          refine ⟨?_, ?_⟩
          · rw [hstored, hr', hversion, Record.bumped]
          · rw [read_folder, hpath, hstored]
            exact hfound

/-! ### Calls one after another -/

theorem writes_cons_of_none {s : Store} {c : Call} {cs : List Call}
    (h : c.write? (s.call c).1 = none) : s.writes (c :: cs) = (s.call c).2.writes cs := by
  rw [writes, h]
  rfl

theorem writes_cons_of_some {s : Store} {c : Call} {cs : List Call} {w : Write}
    (h : c.write? (s.call c).1 = some w) : s.writes (c :: cs) = w :: (s.call c).2.writes cs := by
  rw [writes, h]
  rfl

/-- Calls that have written nothing have left the store as it was. -/
theorem calls_of_writes_eq_nil {s : Store} {name : String} {cs : List Call}
    (hon : ∀ c ∈ cs, c.On name) (h : s.writes cs = []) : (s.calls cs).2 = s := by
  induction cs generalizing s with
  | nil => rfl
  | cons c cs ih =>
    have heffect := effect_call s (hon c List.mem_cons_self)
    cases hwrite : c.write? (s.call c).1 with
    | some w =>
      rw [writes_cons_of_some hwrite] at h
      exact absurd h (List.cons_ne_nil _ _)
    | none =>
      rw [hwrite] at heffect
      rw [writes_cons_of_none hwrite] at h
      cases heffect with
      | none hsame =>
        rw [calls, hsame]
        rw [hsame] at h
        exact ih (fun d hd => hon d (List.mem_cons_of_mem c hd)) h

/-- As long as the record is not removed there are only replacements, and each counts. -/
theorem writes_of_version?_some {s : Store} {name : String} {v : UInt64} {cs : List Call}
    (hon : ∀ c ∈ cs, c.On name) (hv : s.version? name = some v) (hstay : .removed ∉ s.writes cs) :
    s.writes cs = List.replicate (s.writes cs).length .replaced ∧
      (s.calls cs).2.version? name = some (v + UInt64.ofNat (s.writes cs).length) := by
  induction cs generalizing s v with
  | nil => exact ⟨rfl, by simpa [writes, calls] using hv⟩
  | cons c cs ih =>
    have heffect := effect_call s (hon c List.mem_cons_self)
    have hon' := fun d hd => hon d (List.mem_cons_of_mem c hd)
    cases hwrite : c.write? (s.call c).1 with
    | none =>
      rw [hwrite] at heffect
      rw [writes_cons_of_none hwrite] at hstay ⊢
      cases heffect with
      | none hsame =>
        rw [calls, hsame]
        rw [hsame] at hstay
        exact ih hon' hv hstay
    | some w =>
      rw [hwrite] at heffect
      rw [writes_cons_of_some hwrite] at hstay ⊢
      cases heffect with
      | created h h' => simp [hv] at h
      | removed u h h' => exact absurd List.mem_cons_self hstay
      | replaced u h h' =>
        obtain rfl : u = v := Option.some.inj (h.symm.trans hv)
        obtain ⟨hall, hlast⟩ := ih hon' h' fun hmem => hstay (List.mem_cons_of_mem _ hmem)
        refine ⟨by rw [List.length_cons, List.replicate_succ, ← hall], ?_⟩
        rw [calls, hlast, List.length_cons, Nat.add_comm, UInt64.ofNat_add, ← UInt64.add_assoc]
        rfl

/-- A record that is not there and then is was created, and its versions count from 1. -/
theorem writes_of_version?_none {s : Store} {name : String} {v : UInt64} {cs : List Call}
    (hon : ∀ c ∈ cs, c.On name) (hnone : s.version? name = none) (hstay : .removed ∉ s.writes cs)
    (hv : (s.calls cs).2.version? name = some v) :
    ∃ m, s.writes cs = .created :: List.replicate m .replaced ∧ v = 1 + UInt64.ofNat m := by
  induction cs generalizing s with
  | nil =>
    rw [calls, hnone] at hv
    exact absurd hv (by simp)
  | cons c cs ih =>
    have heffect := effect_call s (hon c List.mem_cons_self)
    have hon' := fun d hd => hon d (List.mem_cons_of_mem c hd)
    rw [calls] at hv
    cases hwrite : c.write? (s.call c).1 with
    | none =>
      rw [hwrite] at heffect
      rw [writes_cons_of_none hwrite] at hstay ⊢
      cases heffect with
      | none hsame =>
        rw [hsame] at hstay hv ⊢
        exact ih hon' hnone hstay hv
    | some w =>
      rw [hwrite] at heffect
      rw [writes_cons_of_some hwrite] at hstay ⊢
      cases heffect with
      | replaced u h h' => simp [hnone] at h
      | removed u h h' => simp [hnone] at h
      | created h h' =>
        obtain ⟨hall, hlast⟩ := writes_of_version?_some hon' h' fun hmem =>
          hstay (List.mem_cons_of_mem _ hmem)
        exact ⟨_, congrArg _ hall, Option.some.inj (hv.symm.trans hlast)⟩

/-- The calls after the last removal start without the record. -/
theorem exists_last_removal {s : Store} {name : String} {cs : List Call}
    (hon : ∀ c ∈ cs, c.On name) (h : .removed ∈ s.writes cs) :
    ∃ (front : List Write) (s' : Store) (back : List Call),
      s.writes cs = front ++ .removed :: s'.writes back ∧ .removed ∉ s'.writes back ∧
        s'.version? name = none ∧ (∀ c ∈ back, c.On name) ∧
          (s'.calls back).2 = (s.calls cs).2 := by
  induction cs generalizing s with
  | nil => exact absurd h (by simp [writes])
  | cons c cs ih =>
    have hon' := fun d hd => hon d (List.mem_cons_of_mem c hd)
    by_cases hlater : .removed ∈ (s.call c).2.writes cs
    · obtain ⟨front, s', back, hwrites, hback⟩ := ih hon' hlater
      refine ⟨(c.write? (s.call c).1).toList ++ front, s', back, ?_, hback⟩
      rw [writes, hwrites, List.append_assoc]
    · have heffect := effect_call s (hon c List.mem_cons_self)
      cases hwrite : c.write? (s.call c).1 with
      | none =>
        rw [writes_cons_of_none hwrite] at h
        exact absurd h hlater
      | some w =>
        rw [writes_cons_of_some hwrite] at h ⊢
        obtain rfl : .removed = w := (List.mem_cons.1 h).resolve_right hlater
        rw [hwrite] at heffect
        cases heffect with
        | removed u hv h' => exact ⟨[], (s.call c).2, cs, rfl, hlater, h', hon', rfl⟩

/-- A write is accepted from the version that is stored. -/
theorem version?_of_replace {s : Store} {r stored : Record}
    (h : (s.replace r).1 = .ok stored) : s.version? r.name = some r.version := by
  cases s with
  | ledger l =>
    have hledger : (l.replace r).1 = .ok stored := h
    rw [Ledger.replace] at hledger
    cases hget : l.get? r.name with
    | none => simp [hget] at hledger
    | some old =>
      rw [hget] at hledger
      cases hplace : r.inPlaceOf old with
      | error e => simp [hplace] at hledger
      | ok r' =>
        rw [version?_ledger l hget, ← (Record.inPlaceOf_eq_ok hplace).1]
        rfl
  | folder f t =>
    have hfolder : (Folder.perform (f.replace FileTree.disk r) t).1 = .ok stored := h
    rw [Folder.perform_replace] at hfolder
    cases hpath : f.path r.name with
    | error e => simp [hpath] at hfolder
    | ok path =>
      rw [hpath] at hfolder
      rw [version?_folder f t hpath]
      rcases hold : t.record? path with e | _ | old
      · simp [hold] at hfolder
      · simp [hold] at hfolder
      · cases hplace : r.inPlaceOf old with
        | error e => simp [hold, hplace] at hfolder
        | ok r' =>
          rw [← (Record.inPlaceOf_eq_ok hplace).1]
          rfl

/-- A counter that came back to where it was went all the way around. -/
theorem dvd_of_add_ofNat_eq {v : UInt64} {k : Nat} (h : v = v + UInt64.ofNat k) :
    2 ^ 64 ∣ k := by
  have hnat := congrArg UInt64.toNat h
  rw [UInt64.toNat_add, UInt64.toNat_ofNat'] at hnat
  have hlt := v.toNat_lt
  omega

/-- **What lies between a read and an accepted write of the copy.** Either nothing was written and
the write replaces the very record that was read; or the record was removed, created anew and
written up to the version of the copy; or its version went all the way around. -/
theorem accepted_after_read {s : Store} {name : String} {copy r stored : Record}
    {between : List Call} (hread : (s.read name).1 = .ok (some copy))
    (hon : ∀ c ∈ between, c.On name) (hname : r.name = name) (hversion : r.version = copy.version)
    (hok : ((s.calls between).2.replace r).1 = .ok stored) :
    (s.writes between = [] ∧ ((s.calls between).2.read name).1 = .ok (some copy)) ∨
      (∃ front m,
        s.writes between = front ++ .removed :: .created :: List.replicate m .replaced ∧
          copy.version = 1 + UInt64.ofNat m) ∨
      ∃ k, 0 < k ∧ s.writes between = List.replicate (k * 2 ^ 64) .replaced := by
  have hbefore : s.version? name = some copy.version := by
    rw [version?, hread]
    rfl
  have hafter : (s.calls between).2.version? name = some copy.version := by
    rw [← hname, version?_of_replace hok, hversion]
  by_cases hstay : .removed ∈ s.writes between
  · obtain ⟨front, s', back, hwrites, hback, hnone, hon', hcalls⟩ := exists_last_removal hon hstay
    rw [← hcalls] at hafter
    obtain ⟨m, hall, hcount⟩ := writes_of_version?_none hon' hnone hback hafter
    exact .inr (.inl ⟨front, m, by rw [hwrites, hall], hcount⟩)
  · obtain ⟨hall, hlast⟩ := writes_of_version?_some hon hbefore hstay
    have hround : copy.version = copy.version + UInt64.ofNat (s.writes between).length :=
      Option.some.inj (hafter.symm.trans hlast)
    obtain ⟨k, hk⟩ := dvd_of_add_ofNat_eq hround
    rcases Nat.eq_zero_or_pos k with rfl | hpos
    · have hnil : s.writes between = [] := List.length_eq_zero_iff.1 (by omega)
      rw [calls_of_writes_eq_nil hon hnil]
      exact .inl ⟨hnil, hread⟩
    · refine .inr (.inr ⟨k, hpos, ?_⟩)
      rw [hall, hk, Nat.mul_comm]

/-! ### A copy of a record that is gone -/

/-- The image record of some provider, as it is handed to a store. -/
def draft (provider : String) : Record :=
  Record.new "flatcar" ⟨"flatcar", provider⟩ .epoch

/-- The store with one record. -/
def stocked : Store :=
  ((ledger .empty).calls [.create (draft "capv")]).2

/-- The record is removed and created anew for another provider. -/
def renewal : List Call :=
  [.remove "flatcar" none, .create (draft "capa")]

theorem on_renewal : ∀ c ∈ renewal, c.On "flatcar" := by
  intro c hc
  rcases List.mem_cons.1 hc with rfl | hc
  · rfl
  · rw [List.mem_singleton.1 hc]
    rfl

/-- The theorem at a copy of a record that is gone: it passes for a copy of the new one. -/
theorem accepted_after_renewal :
    (stocked.read "flatcar").1 = .ok (some (draft "capv").atFirst) ∧
      ((stocked.calls renewal).2.replace (draft "capv").atFirst).1 =
        .ok { (draft "capv").atFirst with version := 2 } ∧
      ((stocked.writes renewal = [] ∧
          ((stocked.calls renewal).2.read "flatcar").1 = .ok (some (draft "capv").atFirst)) ∨
        (∃ front m,
          stocked.writes renewal = front ++ .removed :: .created :: List.replicate m .replaced ∧
            (draft "capv").atFirst.version = 1 + UInt64.ofNat m) ∨
        ∃ k, 0 < k ∧ stocked.writes renewal = List.replicate (k * 2 ^ 64) .replaced) := by
  have hread : (stocked.read "flatcar").1 = .ok (some (draft "capv").atFirst) := rfl
  have hok : ((stocked.calls renewal).2.replace (draft "capv").atFirst).1 =
      .ok { (draft "capv").atFirst with version := 2 } := rfl
  exact ⟨hread, hok, accepted_after_read hread on_renewal rfl rfl hok⟩

/-- **There may be writes that the writer has not seen**: what an accepted write of a copy replaces
need not be what was read. -/
theorem not_forall_writes_eq_nil :
    ¬ ∀ (before between : List Call) (name : String) (copy r stored : Record),
      (((ledger .empty).calls before).2.read name).1 = .ok (some copy) →
      (∀ c ∈ between, c.On name) → r.name = name → r.version = copy.version →
      ((((ledger .empty).calls before).2.calls between).2.replace r).1 = .ok stored →
      ((ledger .empty).calls before).2.writes between = [] := by
  intro hclaim
  have hnil := hclaim [.create (draft "capv")] renewal "flatcar" (draft "capv").atFirst
    (draft "capv").atFirst { (draft "capv").atFirst with version := 2 } rfl on_renewal rfl rfl rfl
  exact absurd hnil (by decide)

end Store

end ImageCatalog
