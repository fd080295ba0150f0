import ImageCatalog.Dictionary

/-!
# The entries of a dictionary

A dictionary is a sorted list of entries as much as it is a map. The lemmas of this module lead from
one view to the other.

## Main results

* `Dictionary.ofList_entries` — a dictionary is read back from its entries
* `Dictionary.mem_entries`, `Dictionary.mem_keys` — the entries are what a look-up finds
* `Dictionary.ext_get?` — what every look-up finds alike is the same dictionary
-/

namespace ImageCatalog.Dictionary

variable {α : Type}

/-! ### From entries to a dictionary -/

/-- A key above all others goes to the end. -/
theorem insertEntry_of_lt {key : String} {value : α} {l : List (String × α)}
    (h : ∀ e ∈ l, e.1 < key) : insertEntry key value l = l ++ [(key, value)] := by
  induction l with
  | nil => rfl
  | cons head rest ih =>
    obtain ⟨k, v⟩ := head
    have hk : k < key := h _ List.mem_cons_self
    have hrest := ih fun e he => h e (List.mem_cons_of_mem _ he)
    have hne : key ≠ k := by
      rintro rfl
      exact String.lt_irrefl _ hk
    rw [insertEntry, if_neg (String.lt_asymm hk), if_neg hne, hrest, List.cons_append]

theorem entries_foldl_insert (d : Dictionary α) {l : List (String × α)}
    (h : (d.entries ++ l).Pairwise fun a b => a.1 < b.1) :
    (l.foldl (fun d e => d.insert e.1 e.2) d).entries = d.entries ++ l := by
  induction l generalizing d with
  | nil => simp
  | cons e l ih =>
    have hlast : (d.insert e.1 e.2).entries = d.entries ++ [e] := by
      refine insertEntry_of_lt fun a ha => ?_
      exact (List.pairwise_append.1 h).2.2 a ha e List.mem_cons_self
    have hnext : ((d.insert e.1 e.2).entries ++ l).Pairwise fun a b => a.1 < b.1 := by
      rw [hlast, List.append_assoc]
      exact h
    rw [List.foldl_cons, ih _ hnext, hlast, List.append_assoc, List.singleton_append]

/-- **A dictionary is read back from its entries.** -/
theorem ofList_entries (d : Dictionary α) : ofList d.entries = d := by
  have hentries : (ofList d.entries).entries = d.entries :=
    entries_foldl_insert empty (by simpa [empty] using d.ascending)
  cases hd : ofList d.entries
  cases d
  simp_all

/-! ### From a dictionary to entries -/

theorem mem_entries {d : Dictionary α} {key : String} {value : α} :
    (key, value) ∈ d.entries ↔ d.get? key = some value := by
  unfold get?
  obtain ⟨l, hascending⟩ := d
  induction l with
  | nil => simp
  | cons e rest ih =>
    obtain ⟨k, v⟩ := e
    obtain ⟨hfirst, hrest⟩ := List.pairwise_cons.1 hascending
    dsimp only at ih ⊢
    by_cases hk : key = k
    · subst hk
      have hnot : ∀ w, (key, w) ∉ rest := fun w hw => String.lt_irrefl key (hfirst (key, w) hw)
      rw [List.mem_cons, List.lookup_cons_self]
      simp [hnot, eq_comm]
    · rw [List.mem_cons, lookup_cons_of_ne v rest hk, ← ih hrest]
      simp [hk]

theorem mem_keys {d : Dictionary α} {key : String} : key ∈ d.keys ↔ (d.get? key).isSome := by
  unfold keys get?
  induction d.entries with
  | nil => simp
  | cons e rest ih =>
    obtain ⟨k, v⟩ := e
    by_cases hk : key = k
    · simp [hk]
    · rw [List.map_cons, List.mem_cons, lookup_cons_of_ne v rest hk, ← ih]
      simp [hk]

theorem nodup_keys (d : Dictionary α) : d.keys.Nodup := by
  have hascending := d.ascending
  rw [keys, List.nodup_iff_pairwise_ne, List.pairwise_map]
  refine hascending.imp fun {a b} hlt heq => ?_
  rw [heq] at hlt
  exact String.lt_irrefl _ hlt

/-- **What every look-up finds alike is the same dictionary.** -/
theorem ext_get? {d d' : Dictionary α} (h : ∀ key, d.get? key = d'.get? key) : d = d' := by
  have hmem : ∀ e, e ∈ d.entries ↔ e ∈ d'.entries := by
    rintro ⟨key, value⟩
    rw [mem_entries, mem_entries, h]
  have hnodup : ∀ d : Dictionary α, d.entries.Nodup := by
    intro d
    refine d.ascending.imp fun {a b} hlt heq => ?_
    rw [heq] at hlt
    exact String.lt_irrefl _ hlt
  have hperm : d.entries.Perm d'.entries :=
    (List.perm_ext_iff_of_nodup (hnodup d) (hnodup d')).2 hmem
  have hentries : d.entries = d'.entries :=
    List.Perm.eq_of_pairwise (fun a b _ _ hab hba => absurd hba (String.lt_asymm hab)) d.ascending
      d'.ascending hperm
  cases d
  cases d'
  simp_all

/-- An entry that is put in twice is there once. -/
theorem insert_insert_self (d : Dictionary α) (key : String) (value : α) :
    (d.insert key value).insert key value = d.insert key value := by
  refine ext_get? fun other => ?_
  rw [get?_insert, get?_insert]
  split <;> rfl

end ImageCatalog.Dictionary
