import ImageCatalog.Text.Decimal
import ImageCatalog.Time.Instant

/-!
# Instants as text

The written form `2025-01-01T10:00:00.500Z`: years from 0 to 9999 have four digits, others a sign
and at least four; the fraction is left out if it is zero and else has the fewest of 3, 6 or 9
digits that are exact; a leap second is second 60.
-/

namespace ImageCatalog

namespace Instant

/-- The year, with a sign outside of 0 to 9999. -/
def yearText (year : Int) : List Char :=
  if 0 ≤ year ∧ year ≤ 9999 then Text.padded 4 year.toNat
  else (if year < 0 then '-' else '+') :: Text.padded 4 year.natAbs

/-- The date of a day number. -/
def dateText (day : Int) : List Char :=
  let (year, month, date) := Calendar.dateOf day
  yearText year ++ '-' :: Text.padded 2 month ++ '-' :: Text.padded 2 date

/-- A fraction of a second, in nanoseconds. -/
def fractionText (nano : Nat) : List Char :=
  if nano = 0 then []
  else if nano % 1000000 = 0 then '.' :: Text.padded 3 (nano / 1000000)
  else if nano % 1000 = 0 then '.' :: Text.padded 6 (nano / 1000)
  else '.' :: Text.padded 9 nano

/-- The time of day of a second of the day and a fraction. -/
def timeText (second nano : Nat) : List Char :=
  let leap := nano / 1000000000
  Text.padded 2 (second / 3600) ++ ':' :: Text.padded 2 (second / 60 % 60) ++
    ':' :: Text.padded 2 (second % 60 + leap) ++ fractionText (nano % 1000000000)

/-- The instant as text, followed by a name of the offset zero. -/
def chars (offset : List Char) (t : Instant) : List Char :=
  dateText t.day ++ 'T' :: timeText t.secondOfDay t.nano ++ offset

/-- The form of stamps and logs: the offset is written `+00:00`. -/
def stamp (t : Instant) : String :=
  String.ofList (t.chars ['+', '0', '0', ':', '0', '0'])

/-- The form in records: the offset is written `Z`. -/
def zulu (t : Instant) : String :=
  String.ofList (t.chars ['Z'])

end Instant

end ImageCatalog
