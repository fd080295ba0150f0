import ImageCatalog.Proofs.Store.Versions
import ImageCatalog.Proofs.Store.Ledger
import ImageCatalog.Proofs.Store.Paths

/-!
# The two kinds of stores are alike

A store in memory and a store in the files of an empty folder answer every sequence of calls alike,
to the last field of a failure, as long as all names are valid. What they have in common after every
call is the relation `Mirrors`: the files of the folder are the pretty texts of the records of the
ledger, each under the name of its record, and there is nothing else in the folder.

What makes the relation hold from call to call is said elsewhere: a record is read back from its
text (`Record.parse?_pretty`), a path leads right into the folder (`FileTree.locate_join`), and two
names never share a file (`Folder.fileOf_inj`).

## Main definitions

* `Mirrors` — the files of a folder are the records of a ledger

## Main results

* `Mirrors.call` — a call is answered alike, and the stores stay alike
* `Store.calls_alike` — so are all calls, from an empty folder on
-/

namespace ImageCatalog

/-- The files of a folder are the records of a ledger. -/
structure Mirrors (l : Ledger) (f : Folder) (place : List String) (t : FileTree) : Prop where
  root : t.find f.root = .ok (place, .folder)
  named : ∀ n r, l.get? n = some r → r.name = n ∧ Name.fault? n = none
  stored : ∀ n r, l.get? n = some r →
    t.node? (place ++ [Folder.fileOf n]) = some (.file r.pretty)
  only : ∀ file, file ≠ "" → '/' ∉ file.toList → (t.node? (place ++ [file])).isSome →
    ∃ n r, file = Folder.fileOf n ∧ l.get? n = some r

namespace FileTree

variable {t t' : FileTree} {path : String} {place : List String}

theorem node?_put_snoc (t : FileTree) (place : List String) (file other : String)
    (node : FileNode) :
    (t.put (place ++ [file]) node).node? (place ++ [other]) =
      if other = file then some node else t.node? (place ++ [other]) := by
  rw [node?_eq_get? (by simp), node?_eq_get? (by simp), put, Dictionary.get?_insert]
  simp only [key_snoc_inj]

theorem node?_erase_snoc (t : FileTree) (place : List String) (file other : String) :
    ({ t with nodes := t.nodes.erase (key (place ++ [file])) } : FileTree).node?
        (place ++ [other]) =
      if other = file then none else t.node? (place ++ [other]) := by
  rw [node?_eq_get? (by simp), node?_eq_get? (by simp), Dictionary.get?_erase]
  simp only [key_snoc_inj]

end FileTree

namespace Mirrors

variable {l : Ledger} {f : Folder} {place : List String} {t t' : FileTree} {n : String}

/-- The path of the record of a valid name. -/
abbrev pathOf (f : Folder) (n : String) : String :=
  Disk.join f.root (Folder.fileOf n)

theorem locate (h : Mirrors l f place t) (hn : Name.fault? n = none) :
    t.locate (pathOf f n) = .ok (place ++ [Folder.fileOf n]) :=
  FileTree.locate_join h.root (Folder.isFile_fileOf hn)

/-- The node at the place of a record. -/
theorem node? (h : Mirrors l f place t) (hn : Name.fault? n = none) :
    t.node? (place ++ [Folder.fileOf n]) = (l.get? n).map fun r => .file r.pretty := by
  cases hget : l.get? n with
  | some r => exact h.stored n r hget
  | none =>
    have hfile := Folder.isFile_fileOf hn
    cases hnode : t.node? (place ++ [Folder.fileOf n]) with
    | none => rfl
    | some node =>
      obtain ⟨m, r, hname, hr⟩ := h.only _ hfile.ne_empty hfile.no_slash (by rw [hnode]; rfl)
      rw [← Folder.fileOf_inj.1 hname, hget] at hr
      exact absurd hr (by simp)

/-- A path holds something just if its name is taken. -/
theorem isOk_find (h : Mirrors l f place t) (hn : Name.fault? n = none) :
    (t.find (pathOf f n)).isOk = (l.get? n).isSome := by
  have hnode := h.node? hn
  unfold FileTree.find
  rw [h.locate hn]
  cases hget : l.get? n with
  | none =>
    rw [hget] at hnode
    simp [bind, Except.bind, hnode, throw, throwThe, MonadExceptOf.throw, Except.isOk,
      Except.toBool]
  | some r =>
    rw [hget] at hnode
    simp [bind, Except.bind, hnode, pure, Except.pure, Except.isOk, Except.toBool]

/-- The record at a path is the one in the ledger. -/
theorem record? (h : Mirrors l f place t) (hn : Name.fault? n = none) :
    t.record? (pathOf f n) = .ok (l.get? n) := by
  have hnode := h.node? hn
  cases hget : l.get? n with
  | none =>
    have hread : t.read (pathOf f n) = .error .missing := by
      unfold FileTree.read FileTree.find
      rw [h.locate hn]
      rw [hget] at hnode
      simp [bind, Except.bind, hnode, throw, throwThe, MonadExceptOf.throw]
    rw [FileTree.record?, hread]
  | some r =>
    have hread : t.read (pathOf f n) = .ok r.pretty := by
      unfold FileTree.read FileTree.find
      rw [h.locate hn]
      rw [hget] at hnode
      simp [bind, Except.bind, hnode, pure, Except.pure]
    rw [FileTree.record?, hread]
    simp only [Record.parse?_pretty]

theorem not_folder (h : Mirrors l f place t) (hn : Name.fault? n = none) :
    t.node? (place ++ [Folder.fileOf n]) ≠ some .folder := by
  rw [h.node? hn]
  cases l.get? n <;> simp

/-- The folder stays where it is when a file in it changes. -/
theorem find_root (h : Mirrors l f place t) (hkeeps : FileTree.Keeps t t') :
    t'.find f.root = .ok (place, .folder) := by
  obtain ⟨hlocate, hnode⟩ := FileTree.find_eq_ok.1 h.root
  exact FileTree.find_eq_ok.2 ⟨hkeeps.locate hlocate, hkeeps.folder place hnode⟩

/-- **A write keeps the stores alike.** -/
theorem keep (h : Mirrors l f place t) {r : Record} (hname : r.name = n)
    (hn : Name.fault? n = none) :
    ∃ t', t.keep (pathOf f n) r = (.ok r, t') ∧ Mirrors (l.put r) f place t' := by
  subst hname
  have hfolder := h.not_folder hn
  have hwrite : t.write (pathOf f r.name) r.pretty =
      .ok (t.put (place ++ [Folder.fileOf r.name]) (.file r.pretty)) := by
    rw [FileTree.write, h.locate hn]
    simp only [bind, Except.bind]
    rfl
  have hkeeps : FileTree.Keeps t (t.put (place ++ [Folder.fileOf r.name]) (.file r.pretty)) :=
    FileTree.keeps_of_nodes rfl hfolder fun k hk => Dictionary.get?_insert_of_ne _ _ hk
  refine ⟨_, by rw [FileTree.keep, hwrite], h.find_root hkeeps, ?_, ?_, ?_⟩
  · intro n q hq
    rcases Ledger.of_get?_put rfl hq with ⟨rfl, rfl⟩ | ⟨_, hq⟩
    · exact ⟨rfl, hn⟩
    · exact h.named n q hq
  · intro n q hq
    rw [FileTree.node?_put_snoc]
    rcases Ledger.of_get?_put rfl hq with ⟨rfl, rfl⟩ | ⟨hne, hq⟩
    · rw [if_pos rfl]
    · rw [if_neg fun heq => hne (Folder.fileOf_inj.1 heq)]
      exact h.stored n q hq
  · intro file hempty hslash hsome
    rw [FileTree.node?_put_snoc] at hsome
    split at hsome
    · rename_i hfile
      exact ⟨r.name, r, hfile, Ledger.get?_put_of_eq rfl⟩
    · rename_i hfile
      obtain ⟨n, q, hname, hq⟩ := h.only file hempty hslash hsome
      have hne : n ≠ r.name := fun heq => hfile (by rw [hname, heq])
      exact ⟨n, q, hname, by rw [Ledger.get?_put_of_ne hne, hq]⟩

/-- **A removal keeps the stores alike.** -/
theorem drop (h : Mirrors l f place t) {r : Record} (hr : l.get? n = some r) :
    ∃ t', t.drop (pathOf f n) = (.ok true, t') ∧
      Mirrors ⟨l.records.erase n⟩ f place t' := by
  have hn := (h.named n r hr).2
  have hfolder := h.not_folder hn
  have hfind : t.find (pathOf f n) = .ok (place ++ [Folder.fileOf n], .file r.pretty) :=
    FileTree.find_eq_ok.2 ⟨h.locate hn, h.stored n r hr⟩
  have hremove : t.remove (pathOf f n) =
      .ok { t with nodes := t.nodes.erase (FileTree.key (place ++ [Folder.fileOf n])) } := by
    rw [FileTree.remove, hfind]
    rfl
  have hkeeps : FileTree.Keeps t
      { t with nodes := t.nodes.erase (FileTree.key (place ++ [Folder.fileOf n])) } :=
    FileTree.keeps_of_nodes rfl hfolder fun k hk => by simp [Dictionary.get?_erase, hk]
  refine ⟨_, by rw [FileTree.drop, hremove], h.find_root hkeeps, ?_, ?_, ?_⟩
  · intro m q hq
    exact h.named m q (Ledger.of_get?_erase hq).2
  · intro m q hq
    obtain ⟨hne, hq⟩ := Ledger.of_get?_erase hq
    rw [FileTree.node?_erase_snoc, if_neg fun heq => hne (Folder.fileOf_inj.1 heq)]
    exact h.stored m q hq
  · intro file hempty hslash hsome
    rw [FileTree.node?_erase_snoc] at hsome
    split at hsome
    · simp at hsome
    · rename_i hfile
      obtain ⟨m, q, hname, hq⟩ := h.only file hempty hslash hsome
      have hne : m ≠ n := fun heq => hfile (by rw [hname, heq])
      exact ⟨m, q, hname, by rw [Ledger.get?_erase, if_neg hne, hq]⟩

/-! ### Lists -/

/-- The list of a ledger holds each stored record. -/
theorem mem_list (h : Mirrors l f place t) (r : Record) :
    r ∈ l.list ↔ l.get? r.name = some r :=
  Ledger.mem_list (fun n r hr => (h.named n r hr).1) r

/-- The list of a ledger is sorted by the names. -/
theorem ascending_list (h : Mirrors l f place t) : l.list.Pairwise fun a b => a.name < b.name :=
  Ledger.ascending_list fun n r hr => (h.named n r hr).1

/-- The files of the folder are those of the stored records, each once. -/
theorem exists_records (h : Mirrors l f place t) :
    ∃ rs : List Record,
      t.entries f.root = .ok (rs.map fun r => Folder.fileOf r.name) ∧ rs.Nodup ∧
        ∀ r, r ∈ rs ↔ l.get? r.name = some r := by
  obtain ⟨files, hentries, hnodup, hmem⟩ := FileTree.entries_of_find h.root
  have hfile : ∀ file ∈ files, ∃ r, file = Folder.fileOf r.name ∧ l.get? r.name = some r := by
    intro file hfile
    obtain ⟨hne, hslash, hnode⟩ := (hmem file).1 hfile
    obtain ⟨n, r, rfl, hr⟩ := h.only file hne hslash hnode
    obtain rfl := (h.named n r hr).1
    exact ⟨r, rfl, hr⟩
  have hchoice : ∃ rs : List Record, files = rs.map (fun r => Folder.fileOf r.name) ∧
      ∀ r ∈ rs, l.get? r.name = some r := by
    clear hmem hnodup hentries
    induction files with
    | nil => exact ⟨[], rfl, by simp⟩
    | cons file files ih =>
      obtain ⟨r, rfl, hr⟩ := hfile file List.mem_cons_self
      obtain ⟨rs, rfl, hrs⟩ := ih fun other hother => hfile other (List.mem_cons_of_mem _ hother)
      exact ⟨r :: rs, rfl, List.forall_mem_cons.2 ⟨hr, hrs⟩⟩
  obtain ⟨rs, rfl, hrs⟩ := hchoice
  refine ⟨rs, hentries, hnodup.of_map _, fun r => ⟨hrs r, fun hr => ?_⟩⟩
  have hvalid := (h.named _ r hr).2
  have hfileOf := Folder.isFile_fileOf hvalid
  have hlisted : Folder.fileOf r.name ∈ rs.map fun r => Folder.fileOf r.name := by
    refine (hmem _).2 ⟨hfileOf.ne_empty, hfileOf.no_slash, ?_⟩
    rw [h.stored _ r hr]
    rfl
  obtain ⟨q, hq, hname⟩ := List.mem_map.1 hlisted
  have hsame := hrs q hq
  rw [Folder.fileOf_inj.1 hname, hr] at hsame
  rwa [Option.some.inj hsame]

/-- Reading the files of stored records gives the records. -/
theorem recordsIn_files (h : Mirrors l f place t) {rs : List Record}
    (hrs : ∀ r ∈ rs, l.get? r.name = some r) :
    f.recordsIn t ((rs.map fun r => Folder.fileOf r.name).filter Folder.isRecordFile) = rs := by
  induction rs with
  | nil => rfl
  | cons r rs ih =>
    have hr := hrs r List.mem_cons_self
    have hvalid := (h.named _ r hr).2
    have hrest := ih fun q hq => hrs q (List.mem_cons_of_mem r hq)
    have hrecord : t.record? (Disk.join f.root (Folder.fileOf r.name)) = .ok (some r) := by
      rw [h.record? hvalid, hr]
    rw [Folder.recordsIn] at hrest ⊢
    rw [List.map_cons, List.filter_cons_of_pos (Folder.isRecordFile_fileOf hvalid),
      List.flatMap_cons, hrest, hrecord]
    rfl

/-- **Both stores list the same records**, sorted by their names. -/
theorem list (h : Mirrors l f place t) :
    (Store.folder f t).list = (.ok l.list, Store.folder f t) := by
  obtain ⟨rs, hentries, hnodup, hmem⟩ := h.exists_records
  obtain ⟨warnings, hlist⟩ := Folder.perform_list f t hentries
  have hperm : (rs.mergeSort fun a b => a.name ≤ b.name).Perm l.list := by
    have hnodup' : l.list.Nodup := by
      refine h.ascending_list.imp fun {a b} hlt heq => ?_
      rw [heq] at hlt
      exact String.lt_irrefl _ hlt
    refine (List.mergeSort_perm rs _).trans ((List.perm_ext_iff_of_nodup hnodup hnodup').2 ?_)
    intro r
    rw [hmem, h.mem_list]
  have hsorted : (rs.mergeSort fun a b => a.name ≤ b.name).Pairwise
      fun a b => decide (a.name ≤ b.name) = true := by
    refine List.pairwise_mergeSort ?_ ?_ rs
    · intro a b c hab hbc
      exact decide_eq_true (String.le_trans (of_decide_eq_true hab) (of_decide_eq_true hbc))
    · intro a b
      simpa using String.le_total a.name b.name
  have hascending : l.list.Pairwise fun a b => decide (a.name ≤ b.name) = true :=
    h.ascending_list.imp fun hlt => decide_eq_true (String.not_lt.1 (String.lt_asymm hlt))
  have hsame : (rs.mergeSort fun a b => a.name ≤ b.name) = l.list := by
    refine List.Perm.eq_of_pairwise ?_ hsorted hascending hperm
    intro a b ha hb hab hba
    have hname : a.name = b.name :=
      String.le_antisymm (of_decide_eq_true hab) (of_decide_eq_true hba)
    have hga := (hmem a).1 ((List.mergeSort_perm rs _).mem_iff.1 ha)
    have hgb := (h.mem_list b).1 hb
    rw [hname, hgb] at hga
    exact (Option.some.inj hga).symm
  have hfiles := h.recordsIn_files fun r hr => (hmem r).1 hr
  rw [hfiles, hsame] at hlist
  have hrun : Folder.perform (do return (← f.list FileTree.disk).1) t = (.ok l.list, t) := by
    rw [Folder.perform_bind, hlist]
    rfl
  rw [Store.list, Store.onFolder_eq, hrun]
  rfl

end Mirrors

/-! ### Calls -/

namespace Store

/-- The calls whose names are valid. -/
def Call.IsValid : Call → Prop
  | .read name => Name.fault? name = none
  | .create r => Name.fault? r.name = none
  | .replace r => Name.fault? r.name = none
  | .remove name _ => Name.fault? name = none
  | .list => True

end Store

namespace Mirrors

variable {l : Ledger} {f : Folder} {place : List String} {t : FileTree}

/-- **A call is answered alike, and the stores stay alike.** -/
theorem call (h : Mirrors l f place t) {c : Store.Call} (hc : c.IsValid) :
    ∃ a l' t', (Store.ledger l).call c = (a, .ledger l') ∧
      (Store.folder f t).call c = (a, .folder f t') ∧ Mirrors l' f place t' := by
  cases c with
  | read name =>
    refine ⟨.read (.ok (l.get? name)), l, t, rfl, ?_, h⟩
    rw [Store.call, Store.read, Store.onFolder_eq, Folder.perform_read, f.path_of_valid hc]
    simp only [Except.bind, h.record? hc]
    rfl
  | list => exact ⟨.listed (.ok l.list), l, t, rfl, by rw [Store.call, h.list]; rfl, h⟩
  | create r =>
    have hledger : (Store.ledger l).call (.create r) =
      (.stored (l.create r).1, .ledger (l.create r).2) := rfl
    rw [hledger, Store.call, Store.create, Store.onFolder_eq, Folder.perform_create,
      f.path_of_valid hc, Ledger.create]
    dsimp only
    rw [h.isOk_find hc]
    cases hget : l.get? r.name with
    | some old => exact ⟨_, l, t, rfl, rfl, h⟩
    | none =>
      have hname : r.atFirst.name = r.name := rfl
      obtain ⟨t', hkeep, h'⟩ := h.keep hname hc
      refine ⟨_, _, t', rfl, ?_, h'⟩
      simp only [Option.isSome_none, Bool.false_eq_true, if_false, hkeep]
      rfl
  | replace r =>
    have hledger : (Store.ledger l).call (.replace r) =
      (.stored (l.replace r).1, .ledger (l.replace r).2) := rfl
    rw [hledger, Store.call, Store.replace, Store.onFolder_eq, Folder.perform_replace,
      f.path_of_valid hc, Ledger.replace]
    dsimp only
    rw [h.record? hc]
    cases l.get? r.name with
    | none => exact ⟨_, l, t, rfl, rfl, h⟩
    | some old =>
      dsimp only
      cases hplace : r.inPlaceOf old with
      | error e => exact ⟨_, l, t, rfl, rfl, h⟩
      | ok r' =>
        have hname : r'.name = r.name := by rw [(Record.inPlaceOf_eq_ok hplace).2]
        obtain ⟨t', hkeep, h'⟩ := h.keep hname hc
        refine ⟨_, _, t', rfl, ?_, h'⟩
        simp only [hkeep]
        rfl
  | remove name version =>
    have hledger : (Store.ledger l).call (.remove name version) =
      (.removed (l.remove name version).1, .ledger (l.remove name version).2) := rfl
    rw [hledger, Store.call, Store.remove, Store.onFolder_eq, Folder.perform_remove,
      f.path_of_valid hc, Ledger.remove]
    dsimp only
    rw [h.record? hc]
    cases hget : l.get? name with
    | none => exact ⟨_, l, t, rfl, rfl, h⟩
    | some old =>
      dsimp only
      cases version.forM (old.checkVersion name) with
      | error e => exact ⟨_, l, t, rfl, rfl, h⟩
      | ok _ =>
        obtain ⟨t', hdrop, h'⟩ := h.drop hget
        refine ⟨_, _, t', rfl, ?_, h'⟩
        simp only [hdrop]
        rfl

theorem calls (h : Mirrors l f place t) {cs : List Store.Call} (hcs : ∀ c ∈ cs, c.IsValid) :
    ∃ as l' t', (Store.ledger l).calls cs = (as, .ledger l') ∧
      (Store.folder f t).calls cs = (as, .folder f t') ∧ Mirrors l' f place t' := by
  induction cs generalizing l t with
  | nil => exact ⟨[], l, t, rfl, rfl, h⟩
  | cons c cs ih =>
    obtain ⟨a, l', t', hledger, hfolder, h'⟩ := h.call (hcs c List.mem_cons_self)
    obtain ⟨as, l'', t'', hledger', hfolder', h''⟩ :=
      ih h' fun d hd => hcs d (List.mem_cons_of_mem c hd)
    refine ⟨a :: as, l'', t'', ?_, ?_, h''⟩
    · rw [Store.calls, hledger, hledger']
    · rw [Store.calls, hfolder, hfolder']

/-- An empty folder mirrors the store without records. -/
theorem empty (hroot : t.find f.root = .ok (place, .folder)) (hempty : t.entries f.root = .ok []) :
    Mirrors .empty f place t where
  root := hroot
  named n r hr := by simp [Ledger.get?, Ledger.empty] at hr
  stored n r hr := by simp [Ledger.get?, Ledger.empty] at hr
  only file hne hslash hnode := by
    obtain ⟨files, hentries, -, hmem⟩ := FileTree.entries_of_find hroot
    rw [hempty, Except.ok.injEq] at hentries
    have hfile := (hmem file).2 ⟨hne, hslash, hnode⟩
    rw [← hentries] at hfile
    exact absurd hfile List.not_mem_nil

end Mirrors

namespace Mirrors

variable {l : Ledger} {f : Folder} {place : List String} {t : FileTree}

/-- What can be read is what is listed under the name. -/
theorem read_iff (h : Mirrors l f place t) (n : String) (r : Record) :
    ((Store.folder f t).read n).1 = .ok (some r) ↔ r ∈ l.list ∧ r.name = n := by
  have hread : ((Store.folder f t).read n).1 = (f.path n).bind t.record? := by
    rw [Store.read, Store.onFolder_eq, Folder.perform_read]
    rfl
  rw [hread, h.mem_list]
  cases hfault : Name.fault? n with
  | none =>
    rw [f.path_of_valid hfault, Except.bind, h.record? hfault, Except.ok.injEq]
    constructor
    · intro hr
      obtain rfl := (h.named n r hr).1
      exact ⟨hr, rfl⟩
    · rintro ⟨hr, rfl⟩
      exact hr
  | some fault =>
    have hpath : f.path n = .error (.ofImageName n fault) := by
      rw [Folder.path, hfault]
    rw [hpath, Except.bind]
    constructor
    · intro hr
      exact absurd hr (by simp)
    · rintro ⟨hr, rfl⟩
      rw [(h.named _ r hr).2] at hfault
      exact absurd hfault (by simp)

end Mirrors

/-- **The two kinds of stores are alike.** From the store without records and from an empty folder
on, all calls with valid names are answered alike. After any such calls, each valid name has a file
of its own right in the folder, and the list holds exactly the stored records, sorted by name. -/
theorem Store.calls_alike {f : Folder} {t : FileTree} {place : List String}
    (hroot : t.find f.root = .ok (place, .folder)) (hempty : t.entries f.root = .ok [])
    {cs : List Store.Call} (hcs : ∀ c ∈ cs, c.IsValid) :
    ∃ answers l t', (Store.ledger .empty).calls cs = (answers, .ledger l) ∧
      (Store.folder f t).calls cs = (answers, .folder f t') ∧
      (∀ n, Name.fault? n = none →
        ∃ path, f.path n = .ok path ∧ t'.locate path = .ok (place ++ [n ++ ".json"])) ∧
      (∀ n n', place ++ [n ++ ".json"] = place ++ [n' ++ ".json"] → n = n') ∧
      ∃ rs, (Store.folder f t').list = (.ok rs, .folder f t') ∧
        rs.Pairwise (fun a b => a.name < b.name) ∧
        ∀ n r, ((Store.folder f t').read n).1 = .ok (some r) ↔ r ∈ rs ∧ r.name = n := by
  obtain ⟨answers, l, t', hledger, hfolder, h⟩ := (Mirrors.empty hroot hempty).calls hcs
  refine ⟨answers, l, t', hledger, hfolder, ?_, ?_, l.list, h.list, h.ascending_list, h.read_iff⟩
  · intro n hn
    exact ⟨_, f.path_of_valid hn, h.locate hn⟩
  · intro n n' hplace
    simpa using hplace

/-- The folder of the records in a tree that holds nothing else. -/
def Folder.fresh : Folder × FileTree :=
  (⟨"images/"⟩, FileTree.empty.put ["images"] .folder)

/-- The theorem at three calls: a record is stored, refused a second time and listed. -/
theorem Store.calls_alike_fresh :
    Folder.fresh.2.find Folder.fresh.1.root = .ok (["images"], .folder) ∧
      Folder.fresh.2.entries Folder.fresh.1.root = .ok [] ∧
      ∃ answers l t',
        (Store.ledger .empty).calls [.create (draft "capv"), .create (draft "capa"), .list] =
          (answers, .ledger l) ∧
        (Store.folder Folder.fresh.1 Folder.fresh.2).calls
          [.create (draft "capv"), .create (draft "capa"), .list] =
            (answers, .folder Folder.fresh.1 t') ∧
        answers = [.stored (.ok (draft "capv").atFirst), .stored (.error (.alreadyExists "flatcar")),
          .listed (.ok [(draft "capv").atFirst])] := by
  have hroot : Folder.fresh.2.find Folder.fresh.1.root = .ok (["images"], .folder) := by
    decide +kernel
  have hempty : Folder.fresh.2.entries Folder.fresh.1.root = .ok [] := by
    decide +kernel
  have hvalid : ∀ c ∈ [Store.Call.create (draft "capv"), .create (draft "capa"), .list],
      c.IsValid := by
    simp [Store.Call.IsValid, draft, Record.new, Name.fault?]
    decide
  obtain ⟨answers, l, t', hledger, hfolder, -⟩ := Store.calls_alike hroot hempty hvalid
  refine ⟨hroot, hempty, answers, l, t', hledger, hfolder, ?_⟩
  exact (congrArg Prod.fst hledger).symm.trans rfl

end ImageCatalog
