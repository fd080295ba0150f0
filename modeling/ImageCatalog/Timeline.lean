import ImageCatalog.Duration

/-!
# Timelines

Time that only passes while someone sleeps, and a moment at which work is interrupted. The moment
comes while time passes, so work that never sleeps is only interrupted beforehand.

## Main definitions

* `Timeline.sleep` — a sleep that a limit or an interruption cuts short.
* `Timeline.pass` — a sleep that nothing cuts short.
-/

namespace ImageCatalog

/-- Time since the start of some work. -/
structure Timeline where
  elapsed : Duration
  /-- Whether the work was interrupted. -/
  interrupted : Bool
  /-- When the work will be interrupted. -/
  interruption : Option Duration
deriving DecidableEq

/-- How a sleep ended. -/
inductive Awakening where
  | rested
  | timedOut
  | interrupted
deriving DecidableEq, Repr

namespace Timeline

/-- The start of work that nobody interrupts. -/
def start : Timeline := ⟨.zero, false, none⟩

/-- The time after `d` from now. -/
def after (t : Timeline) (d : Duration) : Duration :=
  ⟨t.elapsed.nanos + d.nanos⟩

/-- Time has come to `moment`. -/
def advance (t : Timeline) (moment : Duration) : Timeline :=
  let moment : Duration := ⟨Nat.max t.elapsed.nanos moment.nanos⟩
  if t.interruption.any fun i => i.nanos ≤ moment.nanos then ⟨moment, true, none⟩
  else { t with elapsed := moment }

/-- Interrupts the work. -/
def interrupt (t : Timeline) : Timeline :=
  { t with interrupted := true, interruption := none }

/-- Sleeps, whatever happens. -/
def pass (t : Timeline) (d : Duration) : Timeline :=
  t.advance (t.after d)

/-- Sleeps until time is up or the work is interrupted. -/
def sleep (t : Timeline) (d : Duration) (limit : Option Duration) : Awakening × Timeline :=
  let limited := limit.any fun l => l.nanos < (t.after d).nanos
  let moment := if limited then limit.getD .zero else t.after d
  if t.interrupted then (.interrupted, t)
  else
    match t.interruption with
    | some i =>
      if i.nanos ≤ moment.nanos then (.interrupted, t.advance i)
      else (if limited then .timedOut else .rested, t.advance moment)
    | none => (if limited then .timedOut else .rested, t.advance moment)

end Timeline

end ImageCatalog
