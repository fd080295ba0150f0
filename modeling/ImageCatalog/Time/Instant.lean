import ImageCatalog.Duration
import ImageCatalog.Time.Calendar

/-!
# Instants

A point of time in UTC: a Unix second and a fraction in nanoseconds. A fraction of a second or
more marks a leap second, which is counted into the last second of its minute, so that second 60
is second 59 with a fraction from 1,000,000,000 on.

## Main definitions

* `Instant` — the instants from year -262143 to year 262142.
* `Instant.make?` — the instant of a second and a fraction, if there is one.
* `Instant.later?` — the instant after a duration.
* `Instant.since` — the signed distance of two instants, in nanoseconds.
-/

namespace ImageCatalog

namespace Instant

/-- The first second of year -262143. -/
def firstSecond : Int := -8334601228800

/-- The last second of year 262142. -/
def lastSecond : Int := 8210266876799

end Instant

/-- A point of time in UTC. -/
structure Instant where
  /-- Seconds since the start of 1970, without leap seconds. -/
  second : Int
  /-- Nanoseconds since that second, a second or more within a leap second. -/
  nano : Nat
  first_le : Instant.firstSecond ≤ second
  le_last : second ≤ Instant.lastSecond
  nano_lt : nano < 2000000000
  /-- Leap seconds end a minute. -/
  leap_ends_minute : 1000000000 ≤ nano → second % 60 = 59
deriving DecidableEq

namespace Instant

/-- The instant of a second and a fraction, unless it is out of range or a leap second within a
minute. -/
def make? (second : Int) (nano : Nat) : Option Instant :=
  if h : firstSecond ≤ second ∧ second ≤ lastSecond ∧ nano < 2000000000 ∧
      (1000000000 ≤ nano → second % 60 = 59) then
    some ⟨second, nano, h.1, h.2.1, h.2.2.1, h.2.2.2⟩
  else none

/-- The start of 1970. -/
def epoch : Instant where
  second := 0
  nano := 0
  first_le := by decide
  le_last := by decide
  nano_lt := by decide
  leap_ends_minute := by decide

instance : Inhabited Instant := ⟨epoch⟩

/-- The number of the day. -/
def day (t : Instant) : Int :=
  t.second / 86400

/-- The second of the day, 0 to 86399. -/
def secondOfDay (t : Instant) : Nat :=
  (t.second % 86400).toNat

/-- Whether the instant lies in a leap second. -/
def isLeap (t : Instant) : Bool :=
  1000000000 ≤ t.nano

def year (t : Instant) : Int :=
  Calendar.yearOf t.day

/-- The instant `d` later, if it is in range. A leap second is left like the last second of its
minute, unless the sum still lies in it. -/
def later? (t : Instant) (d : Duration) : Option Instant :=
  if t.isLeap && d.secs == 0 && t.nano + d.subsec < 2000000000 then
    make? t.second (t.nano + d.subsec)
  else
    let nano := (if t.isLeap then t.nano - 1000000000 else t.nano) + d.subsec
    make? (t.second + d.secs + (nano / 1000000000 : Nat)) (nano % 1000000000)

/-- Nanoseconds from `start` to `t`. A leap second counts when the second of the day that it
belongs to lies between the two seconds of the day. -/
def since (t start : Instant) : Int :=
  let leap : Int :=
    if start.secondOfDay < t.secondOfDay && start.isLeap then 1
    else if t.secondOfDay < start.secondOfDay && t.isLeap then -1
    else 0
  (t.second - start.second + leap) * 1000000000 + (t.nano - start.nano)

end Instant

end ImageCatalog
