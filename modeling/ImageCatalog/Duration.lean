import ImageCatalog.Text.Decimal

/-!
# Durations

A duration is a number of nanoseconds. It is shown in the largest of the units `s`, `ms`, `µs`
and `ns` that it reaches, with as many decimals as it needs: `1.5s`, `20.5ms`, `1ns`, `0ns`.
-/

namespace ImageCatalog

/-- A span of time, never negative, exact to the nanosecond. -/
structure Duration where
  nanos : Nat
deriving DecidableEq, Repr, Inhabited

namespace Duration

/-- Nanoseconds in a second. -/
def perSecond : Nat := 1000000000

/-- `n` seconds. -/
def ofSeconds (n : Nat) : Duration :=
  ⟨n * perSecond⟩

/-- `n` milliseconds. -/
def ofMillis (n : Nat) : Duration :=
  ⟨n * 1000000⟩

/-- `secs` seconds and `nanos` nanoseconds. -/
def ofParts (secs nanos : Nat) : Duration :=
  ⟨secs * perSecond + nanos⟩

def zero : Duration := ⟨0⟩

/-- The whole seconds. -/
def secs (d : Duration) : Nat :=
  d.nanos / perSecond

/-- The nanoseconds past the last whole second. -/
def subsec (d : Duration) : Nat :=
  d.nanos % perSecond

def isZero (d : Duration) : Bool :=
  d.nanos == 0

/-- The shorter of two durations. -/
def min (a b : Duration) : Duration :=
  if a.nanos ≤ b.nanos then a else b

/-- `whole` and `part / 10 ^ width`, in decimal, without zeros at the end. -/
private def decimalText (whole part width : Nat) : List Char :=
  let decimals := ((Text.padded width part).reverse.dropWhile (· == '0')).reverse
  if decimals.isEmpty then Text.digits whole else Text.digits whole ++ '.' :: decimals

/-- The duration in its largest unit, with the decimals it needs. -/
def render (d : Duration) : String :=
  if 1000000000 ≤ d.nanos then
    String.ofList (decimalText (d.nanos / 1000000000) (d.nanos % 1000000000) 9 ++ ['s'])
  else if 1000000 ≤ d.nanos then
    String.ofList (decimalText (d.nanos / 1000000) (d.nanos % 1000000) 6 ++ ['m', 's'])
  else if 1000 ≤ d.nanos then
    String.ofList (decimalText (d.nanos / 1000) (d.nanos % 1000) 3 ++ ['µ', 's'])
  else
    String.ofList (Text.digits d.nanos ++ ['n', 's'])

end Duration

end ImageCatalog
