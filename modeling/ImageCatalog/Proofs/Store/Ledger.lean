import ImageCatalog.Proofs.Dictionary
import ImageCatalog.Store.Ledger

/-!
# Looking into a ledger

What is found under a name after a record was put or removed, and what becomes of a write.

## Main results

* `Ledger.get?_put`, `Ledger.get?_erase` — a look-up after a change
* `Ledger.mem_list`, `Ledger.ascending_list` — the list of all records
* `Ledger.create_of_absent`, `Ledger.replace_of_version`, `Ledger.remove_of_version` — writes that
  are accepted
* `Ledger.create_of_present`, `Ledger.replace_of_stale`, `Ledger.remove_of_stale` — writes that meet
  a conflict
* `Ledger.replace_cases`, `Ledger.remove_cases` — the two ways in which a write can end
-/

namespace ImageCatalog

theorem Ledger.get?_put (l : Ledger) (r : Record) (name : String) :
    (l.put r).get? name = if name = r.name then some r else l.get? name :=
  Dictionary.get?_insert ..

theorem Ledger.get?_put_of_eq {l : Ledger} {r : Record} {name : String} (h : r.name = name) :
    (l.put r).get? name = some r := by
  rw [get?_put, if_pos h.symm]

theorem Ledger.get?_put_of_ne {l : Ledger} {r : Record} {name : String} (h : name ≠ r.name) :
    (l.put r).get? name = l.get? name := by
  rw [get?_put, if_neg h]

/-- A ledger without the record of a name. -/
theorem Ledger.get?_erase (l : Ledger) (key name : String) :
    Ledger.get? ⟨l.records.erase key⟩ name = if name = key then none else l.get? name :=
  Dictionary.get?_erase ..

/-- A record that is there after another one was put is that one, or it was there before. -/
theorem Ledger.of_get?_put {l : Ledger} {r q : Record} {key name : String} (hr : r.name = key)
    (h : (l.put r).get? name = some q) :
    name = key ∧ q = r ∨ name ≠ key ∧ l.get? name = some q := by
  subst hr
  by_cases hn : name = r.name
  · rw [get?_put_of_eq hn.symm, Option.some.injEq] at h
    exact .inl ⟨hn, h.symm⟩
  · rw [get?_put_of_ne hn] at h
    exact .inr ⟨hn, h⟩

theorem Ledger.of_get?_put_eq_none {l : Ledger} {r : Record} {name : String}
    (h : (l.put r).get? name = none) : l.get? name = none := by
  rw [get?_put] at h
  split at h
  · cases h
  · exact h

/-- A record that is there after one was removed was there before. -/
theorem Ledger.of_get?_erase {l : Ledger} {key name : String} {q : Record}
    (h : Ledger.get? ⟨l.records.erase key⟩ name = some q) :
    name ≠ key ∧ l.get? name = some q := by
  rw [get?_erase] at h
  split at h
  · cases h
  · exact ⟨‹_›, h⟩

theorem Ledger.ext_get? {l l' : Ledger} (h : ∀ name, l.get? name = l'.get? name) : l = l' := by
  cases l
  cases l'
  exact congrArg Ledger.mk (Dictionary.ext_get? h)

namespace Ledger

variable {l : Ledger} (hnamed : ∀ n r, l.get? n = some r → r.name = n)

include hnamed

/-- The list of a ledger holds each stored record. -/
theorem mem_list (r : Record) : r ∈ l.list ↔ l.get? r.name = some r := by
  constructor
  · intro hr
    obtain ⟨⟨n, q⟩, hmem, rfl⟩ := List.mem_map.1 hr
    have hget : l.get? n = some q := Dictionary.mem_entries.1 hmem
    rw [hnamed n q hget, hget]
  · intro hr
    exact List.mem_map.2 ⟨(r.name, r), Dictionary.mem_entries.2 hr, rfl⟩

/-- The list of a ledger is sorted by the names. -/
theorem ascending_list : l.list.Pairwise fun a b => a.name < b.name := by
  rw [list, Dictionary.values, List.pairwise_map]
  refine l.records.ascending.imp_of_mem fun {a b} ha hb hlt => ?_
  rw [hnamed a.1 a.2 (Dictionary.mem_entries.1 ha), hnamed b.1 b.2 (Dictionary.mem_entries.1 hb)]
  exact hlt

end Ledger

/-! ### Writes -/

/-- A write is accepted from the version that is stored, and counts it up. -/
theorem Record.inPlaceOf_eq_ok {r stored r' : Record} (h : r.inPlaceOf stored = .ok r') :
    stored.version = r.version ∧ r' = { r with version := stored.version + 1 } := by
  unfold inPlaceOf checkVersion at h
  split at h
  · rename_i hversion
    refine ⟨hversion, ?_⟩
    simpa [Except.map, eq_comm] using h
  · simp [Except.map] at h

/-- The record as it is stored after a write. -/
def Record.bumped (r : Record) : Record :=
  { r with version := r.version + 1 }

namespace Ledger

variable {l : Ledger} {r stored : Record} {name : String}

theorem create_of_absent (h : l.get? r.name = none) :
    l.create r = (.ok r.atFirst, l.put r.atFirst) := by
  simp only [create, h]

theorem create_of_present (h : l.get? r.name = some stored) :
    l.create r = (.error (.alreadyExists r.name), l) := by
  simp only [create, h]

theorem replace_of_absent (h : l.get? r.name = none) :
    l.replace r = (.error (.imageNotFound r.name), l) := by
  simp only [replace, h]

theorem replace_of_version (h : l.get? r.name = some stored) (hv : r.version = stored.version) :
    l.replace r = (.ok r.bumped, l.put r.bumped) := by
  have hplace : r.inPlaceOf stored = .ok r.bumped := by
    simp [Record.inPlaceOf, Record.checkVersion, Record.bumped, hv, Except.map]
  simp only [replace, h, hplace]

theorem replace_of_stale (h : l.get? r.name = some stored) (hv : stored.version ≠ r.version) :
    l.replace r = (.error (.conflict r.name r.version stored.version), l) := by
  have hplace : r.inPlaceOf stored = .error (.conflict r.name r.version stored.version) := by
    simp [Record.inPlaceOf, Record.checkVersion, hv, Except.map]
  simp only [replace, h, hplace]

theorem remove_of_absent (h : l.get? name = none) (version : Option UInt64) :
    l.remove name version = (.ok false, l) := by
  simp only [remove, h]

theorem remove_of_version (h : l.get? name = some stored) :
    l.remove name (some stored.version) = (.ok true, ⟨l.records.erase name⟩) := by
  have hcheck : stored.checkVersion name stored.version = .ok () := if_pos rfl
  simp only [remove, h, Option.forM, hcheck]

theorem remove_of_stale {version : UInt64} (h : l.get? name = some stored)
    (hv : stored.version ≠ version) :
    l.remove name (some version) = (.error (.conflict name version stored.version), l) := by
  have hcheck : stored.checkVersion name version =
      .error (.conflict name version stored.version) := if_neg hv
  simp only [remove, h, Option.forM, hcheck]

theorem remove_of_unchecked (h : l.get? name = some stored) :
    l.remove name none = (.ok true, ⟨l.records.erase name⟩) := by
  simp only [remove, h, Option.forM]
  rfl

/-- A replacement is refused, or the record is stored under a new version. -/
theorem replace_cases (l : Ledger) (r : Record) :
    (∃ e, l.replace r = (.error e, l)) ∨
      ∃ v, l.replace r = (.ok { r with version := v }, l.put { r with version := v }) := by
  cases hget : l.get? r.name with
  | none => exact .inl ⟨_, replace_of_absent hget⟩
  | some stored =>
    by_cases hv : stored.version = r.version
    · exact .inr ⟨_, replace_of_version hget hv.symm⟩
    · exact .inl ⟨_, replace_of_stale hget hv⟩

/-- A removal leaves all as it was, or takes the record of the name away. -/
theorem remove_cases (l : Ledger) (name : String) (version : Option UInt64) :
    (∃ x, l.remove name version = (x, l)) ∨
      l.remove name version = (.ok true, ⟨l.records.erase name⟩) := by
  cases hget : l.get? name with
  | none => exact .inl ⟨_, remove_of_absent hget version⟩
  | some stored =>
    cases version with
    | none => exact .inr (remove_of_unchecked hget)
    | some v =>
      by_cases hv : stored.version = v
      · exact .inr (hv ▸ remove_of_version hget)
      · exact .inl ⟨_, remove_of_stale hget hv⟩

end Ledger

end ImageCatalog
