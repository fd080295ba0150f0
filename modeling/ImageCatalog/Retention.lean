import ImageCatalog.Record

/-!
# Retention

An image that nobody needs is kept for a period, counted from the stamp that the first pass leaves
on its record. A record that was never looked at is not touched: its first consumer may still be on
its way into the record.

The period zero deletes at once. A stamp in the future counts as made now.
-/

namespace ImageCatalog.Retention

/-- What retention asks of a pass. -/
inductive Decision where
  /-- The image is needed, or the record was never looked at. -/
  | notEligible
  | deleteNow
  /-- The period starts now. -/
  | startGracePeriod (requeue : Duration)
  /-- The period is not over. -/
  | wait (remaining : Duration)
deriving DecidableEq

/-- The time from a stamp to now, none for a stamp in the future. -/
def elapsed (stamp now : Instant) : Duration :=
  ⟨(now.since stamp).toNat⟩

/-- What retention asks for a record at a time. -/
def decide (period : Duration) (r : Record) (now : Instant) : Decision :=
  if r.isReferenced then .notEligible
  else
    match r.phase with
    | none => .notEligible
    | some phase =>
      if period.isZero then .deleteNow
      else
        match phase, r.lastUsed? with
        | .awaitingDeletion, some stamp =>
          if period.nanos ≤ (elapsed stamp now).nanos then .deleteNow
          else .wait ⟨period.nanos - (elapsed stamp now).nanos⟩
        | _, _ => .startGracePeriod period

end ImageCatalog.Retention
