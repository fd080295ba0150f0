/-!
# Decimal numerals

Numbers as texts of the ten ASCII digits, most significant first.

## Main definitions

* `Text.digits` — the numeral of a number, without leading zeros.
* `Text.padded` — the numeral, filled up with zeros on the left.
* `Text.value` — the number that a text of digits stands for.
-/

namespace ImageCatalog.Text

/-- The digit for a number below ten. -/
def digit (n : Nat) : Char :=
  Char.ofNat (48 + n)

/-- One of `0` to `9`. -/
def isDigit (c : Char) : Bool :=
  '0' ≤ c && c ≤ '9'

/-- The number a digit stands for. -/
def digitValue (c : Char) : Nat :=
  c.toNat - 48

/-- The numeral of `n`, without leading zeros. -/
def digits (n : Nat) : List Char :=
  if n < 10 then [digit n] else digits (n / 10) ++ [digit (n % 10)]
termination_by n

/-- The numeral of `n`, with zeros in front up to `width` digits. -/
def padded (width n : Nat) : List Char :=
  let ds := digits n
  List.replicate (width - ds.length) '0' ++ ds

/-- The number that a text of digits stands for. -/
def value (ds : List Char) : Nat :=
  ds.foldl (fun n c => 10 * n + digitValue c) 0

/-- The number written by a nonempty text that holds digits only. -/
def value? (s : List Char) : Option Nat :=
  if s.isEmpty then none else if s.all isDigit then some (value s) else none

end ImageCatalog.Text
