import ImageCatalog.Proofs.Time.Stamp
import ImageCatalog.Record

/-!
# Stamps of records

The time since which nobody needs an image is kept as a text among the annotations of its record.
What is read from there is the very instant that was written, if its year has four digits, and
nothing at all otherwise: such a record passes for one without a stamp.

## Main results

* `Record.lastUsed?_of_stamp` — what is read from the stamp of an instant
* `Record.lastUsed?_stampLastUsed` — a stamp is read back, and nothing else in the record changes
-/

namespace ImageCatalog.Record

/-- A stamp is read back from its record if its year has four digits. -/
theorem lastUsed?_of_stamp {r : Record} {t : Instant}
    (h : r.annotations.get? lastUsedKey = some t.stamp) :
    r.lastUsed? = if 0 ≤ t.year ∧ t.year ≤ 9999 then some t else none := by
  rw [lastUsed?, h, Option.bind_some, Instant.ofStamp?_stamp]

/-- **A stamp is read back as its instant**, to the nanosecond and with its leap second, unless its
year is out of range. All else in the record is as it was. -/
theorem lastUsed?_stampLastUsed (r : Record) (t : Instant) :
    (r.stampLastUsed t).lastUsed? = (if 0 ≤ t.year ∧ t.year ≤ 9999 then some t else none) ∧
      (∀ key, key ≠ lastUsedKey →
        (r.stampLastUsed t).annotations.get? key = r.annotations.get? key) ∧
        { r.stampLastUsed t with annotations := r.annotations } = r := by
  refine ⟨lastUsed?_of_stamp ?_, fun key hkey => ?_, rfl⟩
  · exact Dictionary.get?_insert_self ..
  · exact Dictionary.get?_insert_of_ne _ _ hkey

/-- The leap second at the end of 2016. -/
example :
    let leap := Instant.make? 1483228799 1000000001
    leap.map Instant.stamp = some "2016-12-31T23:59:60.000000001+00:00" ∧
      leap.bind (fun t => ((new "flatcar" ⟨"flatcar", "capv"⟩ .epoch).stampLastUsed t).lastUsed?) =
        leap := by
  decide +kernel

end ImageCatalog.Record
