import ImageCatalog.Text.Scan
import ImageCatalog.Time.Instant

/-!
# Instants from text

Two readers for two uses. `Instant.ofStamp?` takes the strict form of stamps: a year of four digits,
two digits in all other fields, `T`, `t` or a blank before the time, an offset `Z` or `±hh:mm`.
`Instant.parse?` takes the lenient form of records: blanks in front of fields, fields with one
digit, a year with a sign, `UTC` as an offset, and an offset without a colon.

Both take second 60 as a leap second and cut a fraction after nine digits.
-/

namespace ImageCatalog

namespace Instant

open Text (Scan)

/-- The fields of a written instant. The offset is in minutes. -/
structure Fields where
  year : Int
  month : Nat
  date : Nat
  hour : Nat
  minute : Nat
  second : Nat
  nano : Nat
  offset : Int

/-- The instant that the fields name, if their date and time exist and are in range. -/
def Fields.instant? (f : Fields) : Option Instant :=
  if Calendar.isDate f.year f.month f.date && f.hour < 24 && f.minute < 60 && f.second ≤ 60 &&
      -1440 < f.offset && f.offset < 1440 then
    let second := Nat.min f.second 59
    let nano := if f.second = 60 then f.nano + 1000000000 else f.nano
    let localSecond :=
      Calendar.dayNumber f.year f.month f.date * 86400 +
        (f.hour * 3600 + f.minute * 60 + second : Nat)
    if firstSecond ≤ localSecond ∧ localSecond ≤ lastSecond then
      make? (localSecond - f.offset * 60) nano
    else none
  else none

/-- A fraction after its point: nine digits count. -/
def scanFraction : Scan Nat := do
  let ds ← Text.Scan.digits 1 9
  Text.Scan.skipWhile Text.isDigit
  return Text.value ds * Nat.pow 10 (9 - ds.length)

/-- A fraction, if there is a point. -/
def scanOptionalFraction : Scan Nat := do
  if ← Text.Scan.option '.' then scanFraction else return 0

/-- An offset from UTC, in minutes: `Z`, or a sign, two digits of hours, what `separator` takes,
and two digits of minutes. The minus sign may be U+2212. -/
def scanOffset (separator : Scan Unit) : Scan Int := do
  match ← Text.Scan.peek with
  | some 'Z' | some 'z' =>
    let _ ← Text.Scan.satisfy fun _ => true
    return 0
  | _ =>
    let sign ← Text.Scan.satisfy fun c => c == '+' || c == '-' || c == '−'
    let hours ← Text.Scan.number 2 2
    separator
    let minutes ← Text.Scan.number 2 2
    Text.Scan.require (minutes < 60)
    let total : Int := hours * 60 + minutes
    return if sign == '+' then total else -total

/-- The strict form. -/
def scanStamp : Scan Fields := do
  let year ← Text.Scan.number 4 4
  Text.Scan.char '-'
  let month ← Text.Scan.number 2 2
  Text.Scan.char '-'
  let date ← Text.Scan.number 2 2
  let _ ← Text.Scan.satisfy fun c => c == 'T' || c == 't' || c == ' '
  let hour ← Text.Scan.number 2 2
  Text.Scan.char ':'
  let minute ← Text.Scan.number 2 2
  Text.Scan.char ':'
  let second ← Text.Scan.number 2 2
  let nano ← scanOptionalFraction
  let offset ← scanOffset (Text.Scan.char ':')
  return { year, month, date, hour, minute, second, nano, offset }

/-- A number in the lenient form: blanks, then up to `most` digits. -/
def scanLenientNumber (most : Nat) : Scan Nat := do
  Text.Scan.blanks
  Text.Scan.number 1 most

/-- A year in the lenient form: four digits at most without a sign, any number with one. -/
def scanLenientYear : Scan Int := do
  Text.Scan.blanks
  match ← Text.Scan.peek with
  | some '-' =>
    Text.Scan.char '-'
    return -(value (← digitRun) : Int)
  | some '+' =>
    Text.Scan.char '+'
    return (value (← digitRun) : Int)
  | _ => return (← Text.Scan.number 1 4 : Nat)
where
  value (ds : List Char) : Nat := Text.value ds
  digitRun : Scan (List Char) := fun s => Text.Scan.digits 1 s.length s

/-- A separator in the lenient form: blanks, then the character. -/
def scanLenientChar (c : Char) : Scan Unit := do
  Text.Scan.blanks
  Text.Scan.char c

/-- `UTC` in either case. -/
def scanUtc : Scan Unit := do
  let _ ← Text.Scan.satisfy fun c => c == 'U' || c == 'u'
  let _ ← Text.Scan.satisfy fun c => c == 'T' || c == 't'
  let _ ← Text.Scan.satisfy fun c => c == 'C' || c == 'c'

/-- The lenient form. -/
def scanLenient : Scan Fields := do
  let year ← scanLenientYear
  scanLenientChar '-'
  let month ← scanLenientNumber 2
  scanLenientChar '-'
  let date ← scanLenientNumber 2
  let _ ← Text.Scan.satisfy fun c => c == 'T' || c == 't' || c == ' '
  let hour ← scanLenientNumber 2
  scanLenientChar ':'
  let minute ← scanLenientNumber 2
  scanLenientChar ':'
  let second ← scanLenientNumber 2
  let nano ← scanOptionalFraction
  Text.Scan.blanks
  let offset ← (do scanUtc; return (0 : Int)) <|>
    scanOffset (Text.Scan.skipWhile fun c => c == ':' || Text.isBlank c)
  Text.Scan.blanks
  return { year, month, date, hour, minute, second, nano, offset }

/-- Reads the strict form of stamps. -/
def ofStamp? (s : String) : Option Instant := do
  (← Text.Scan.all scanStamp s.toList).instant?

/-- Reads the lenient form of records. -/
def parse? (s : String) : Option Instant := do
  (← Text.Scan.all scanLenient s.toList).instant?

end Instant

end ImageCatalog
