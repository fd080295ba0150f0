/-!
# Dictionaries

Finite maps from texts, kept as lists of entries with strictly ascending keys. Two dictionaries
with the same entries are equal, and the order of the entries is the order in which they are
shown.

## Main definitions

* `Dictionary` — the sorted lists of entries.
* `Dictionary.get?`, `Dictionary.insert`, `Dictionary.erase` — the operations; the lemmas `get?_*`
  say what they do to a look-up.
* `Dictionary.ofList` — from entries in any order, of which later ones win.
-/

namespace ImageCatalog

/-- A finite map from texts. -/
structure Dictionary (α : Type) where
  entries : List (String × α)
  ascending : entries.Pairwise fun a b => a.1 < b.1

namespace Dictionary

variable {α : Type}

instance [DecidableEq α] : DecidableEq (Dictionary α) := fun a b =>
  decidable_of_iff (a.entries = b.entries) (by cases a; cases b; simp)

/-- The dictionary without entries. -/
def empty : Dictionary α :=
  ⟨[], .nil⟩

instance : Inhabited (Dictionary α) := ⟨empty⟩

def isEmpty (d : Dictionary α) : Bool :=
  d.entries.isEmpty

/-- The value at a key. -/
def get? (d : Dictionary α) (key : String) : Option α :=
  d.entries.lookup key

def contains (d : Dictionary α) (key : String) : Bool :=
  (d.get? key).isSome

/-- The keys, ascending. -/
def keys (d : Dictionary α) : List String :=
  d.entries.map Prod.fst

/-- The values, in the order of their keys. -/
def values (d : Dictionary α) : List α :=
  d.entries.map Prod.snd

/-- Puts an entry into a list of entries in ascending order. -/
def insertEntry (key : String) (value : α) : List (String × α) → List (String × α)
  | [] => [(key, value)]
  | (k, v) :: rest =>
    if key < k then (key, value) :: (k, v) :: rest
    else if key = k then (key, value) :: rest
    else (k, v) :: insertEntry key value rest

theorem fst_mem_insertEntry {key : String} {value : α} {l : List (String × α)} {e : String × α}
    (h : e ∈ insertEntry key value l) : e.1 = key ∨ e ∈ l := by
  induction l with
  | nil => simp_all [insertEntry]
  | cons head rest ih =>
    obtain ⟨k, v⟩ := head
    simp only [insertEntry] at h
    split at h
    · rcases List.mem_cons.1 h with h | h
      · exact .inl (by rw [h])
      · exact .inr h
    · split at h
      · rcases List.mem_cons.1 h with h | h
        · exact .inl (by rw [h])
        · exact .inr (List.mem_cons_of_mem _ h)
      · rcases List.mem_cons.1 h with h | h
        · exact .inr (by simp [h])
        · exact (ih h).imp_right (List.mem_cons_of_mem _)

theorem pairwise_insertEntry (key : String) (value : α) {l : List (String × α)}
    (h : l.Pairwise fun a b => a.1 < b.1) :
    (insertEntry key value l).Pairwise fun a b => a.1 < b.1 := by
  induction l with
  | nil => simp [insertEntry]
  | cons head rest ih =>
    obtain ⟨k, v⟩ := head
    have hrest : ∀ {e : String × α}, e ∈ rest → k < e.1 := fun he => List.rel_of_pairwise_cons h he
    simp only [insertEntry]
    split
    · rename_i hlt
      refine List.pairwise_cons.2 ⟨?_, h⟩
      intro e he
      rcases List.mem_cons.1 he with he | he
      · simpa [he] using hlt
      · exact String.lt_trans hlt (hrest he)
    · split
      · rename_i heq
        subst heq
        exact List.pairwise_cons.2 ⟨fun e he => hrest he, (List.pairwise_cons.1 h).2⟩
      · rename_i hnlt hne
        refine List.pairwise_cons.2 ⟨?_, ih (List.pairwise_cons.1 h).2⟩
        intro e he
        rcases fst_mem_insertEntry he with he | he
        · have hlt : k < key := by
            refine Decidable.by_contra fun hle => hne ?_
            exact String.le_antisymm (String.not_lt.1 hle) (String.not_lt.1 hnlt)
          simpa [he] using hlt
        · exact hrest he

/-- Sets the value at a key. -/
def insert (d : Dictionary α) (key : String) (value : α) : Dictionary α :=
  ⟨insertEntry key value d.entries, pairwise_insertEntry key value d.ascending⟩

/-- Drops a key. -/
def erase (d : Dictionary α) (key : String) : Dictionary α :=
  ⟨d.entries.filter fun e => e.1 != key, d.ascending.filter _⟩

/-- The dictionary of some entries; of entries with one key the last wins. -/
def ofList (entries : List (String × α)) : Dictionary α :=
  entries.foldl (fun d e => d.insert e.1 e.2) empty

/-- Changes each value. -/
def mapValues {β : Type} (f : α → β) (d : Dictionary α) : Dictionary β :=
  ⟨d.entries.map fun e => (e.1, f e.2), by simpa [List.pairwise_map] using d.ascending⟩

/-- Changes each value, given its key. -/
def mapEntries {β : Type} (f : String → α → β) (d : Dictionary α) : Dictionary β :=
  ⟨d.entries.map fun e => (e.1, f e.1 e.2), by simpa [List.pairwise_map] using d.ascending⟩

/-! ### What the operations do to a look-up -/

theorem lookup_cons_of_ne {key k : String} (v : α) (l : List (String × α)) (h : key ≠ k) :
    ((k, v) :: l).lookup key = l.lookup key := by
  simp [List.lookup_cons, beq_false_of_ne h]

theorem lookup_insertEntry (key other : String) (value : α) (l : List (String × α)) :
    (insertEntry key value l).lookup other =
      if other = key then some value else l.lookup other := by
  induction l with
  | nil =>
    by_cases h : other = key
    · simp [insertEntry, h]
    · simp [insertEntry, h, lookup_cons_of_ne value [] h]
  | cons head rest ih =>
    obtain ⟨k, v⟩ := head
    simp only [insertEntry]
    split
    · by_cases h : other = key
      · simp [h]
      · rw [lookup_cons_of_ne value _ h, if_neg h]
    · split
      · rename_i heq
        subst heq
        by_cases h : other = key
        · simp [h]
        · rw [lookup_cons_of_ne value _ h, lookup_cons_of_ne v _ h, if_neg h]
      · rename_i hne
        by_cases hk : other = k
        · subst hk
          simp [Ne.symm hne]
        · rw [lookup_cons_of_ne v _ hk, lookup_cons_of_ne v _ hk, ih]

@[simp] theorem get?_empty (key : String) : (empty : Dictionary α).get? key = none := rfl

theorem get?_insert (d : Dictionary α) (key other : String) (value : α) :
    (d.insert key value).get? other = if other = key then some value else d.get? other :=
  lookup_insertEntry key other value d.entries

@[simp] theorem get?_insert_self (d : Dictionary α) (key : String) (value : α) :
    (d.insert key value).get? key = some value := by
  simp [get?_insert]

theorem get?_insert_of_ne (d : Dictionary α) {key other : String} (value : α) (h : other ≠ key) :
    (d.insert key value).get? other = d.get? other := by
  simp [get?_insert, h]

theorem lookup_filter_ne (key other : String) (l : List (String × α)) :
    (l.filter fun e => e.1 != key).lookup other = if other = key then none else l.lookup other := by
  induction l with
  | nil => simp
  | cons head rest ih =>
    obtain ⟨k, v⟩ := head
    by_cases hk : k = key
    · rw [List.filter_cons_of_neg (by simp [hk]), ih]
      by_cases h : other = key
      · simp [h]
      · rw [lookup_cons_of_ne v _ (hk ▸ h)]
    · rw [List.filter_cons_of_pos (by simp [hk])]
      by_cases h : other = k
      · subst h
        simp [hk]
      · rw [lookup_cons_of_ne v _ h, lookup_cons_of_ne v _ h, ih]

theorem get?_erase (d : Dictionary α) (key other : String) :
    (d.erase key).get? other = if other = key then none else d.get? other :=
  lookup_filter_ne key other d.entries

@[simp] theorem get?_erase_self (d : Dictionary α) (key : String) :
    (d.erase key).get? key = none := by
  simp [get?_erase]

theorem lookup_mapEntries {β : Type} (f : String → α → β) (key : String) (l : List (String × α)) :
    (l.map fun e => (e.1, f e.1 e.2)).lookup key = (l.lookup key).map (f key) := by
  induction l with
  | nil => rfl
  | cons head rest ih =>
    obtain ⟨k, v⟩ := head
    by_cases h : key = k
    · subst h
      simp
    · rw [List.map_cons, lookup_cons_of_ne v _ h, lookup_cons_of_ne (f k v) _ h, ih]

theorem get?_mapEntries {β : Type} (f : String → α → β) (d : Dictionary α) (key : String) :
    (d.mapEntries f).get? key = (d.get? key).map (f key) :=
  lookup_mapEntries f key d.entries

theorem get?_mapValues {β : Type} (f : α → β) (d : Dictionary α) (key : String) :
    (d.mapValues f).get? key = (d.get? key).map f :=
  get?_mapEntries (fun _ => f) d key

end Dictionary

end ImageCatalog
