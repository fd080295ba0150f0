import ImageCatalog.Text.Split

/-!
# Tables of characters

Tables are written as lines of rows, rows as hexadecimal numbers with blanks between them and a
comma after all but the last of a line. The rows are in ascending order; a row starts with the
first and the last character that it is about.
-/

namespace ImageCatalog.Text

/-- The value of a hexadecimal digit in upper case. -/
def hexUpper (c : Char) : Nat :=
  if c.toNat < 58 then c.toNat - 48 else c.toNat - 55

/-- The numbers of a row. -/
def hexRow (row : List Char) : List Nat :=
  ((splitAtChar ' ' row).filter fun ds => !ds.isEmpty).map
    fun ds => ds.foldl (fun n d => 16 * n + hexUpper d) 0

/-- The rows of a table. -/
def hexRows (lines : List String) : Array (List Nat) :=
  (lines.flatMap fun line => (splitAtChar ',' line.toList).map hexRow).toArray

/-- The number in front of a row. -/
def rowStart (row : List Nat) : Nat :=
  row.head?.getD 0

/-- The place of the last row from `low` up to `high` that starts at `n` or before, found by
bisection in `steps` steps. -/
def bisect (rows : Array (List Nat)) (n : Nat) : (steps low high : Nat) → Nat
  | 0, low, _ => low
  | steps + 1, low, high =>
    let middle := (low + high + 1) / 2
    if high ≤ low then low
    else if rowStart (rows[middle]?.getD []) ≤ n then bisect rows n steps middle high
    else bisect rows n steps low (middle - 1)

/-- The row that covers `n`. -/
def findRow? (rows : Array (List Nat)) (n : Nat) : Option (List Nat) :=
  match rows[bisect rows n 32 0 (rows.size - 1)]? with
  | some (first :: last :: more) =>
    if first ≤ n && n ≤ last then some (first :: last :: more) else none
  | _ => none

/-- Whether a row covers `n`. -/
def inRows (rows : Array (List Nat)) (n : Nat) : Bool :=
  (findRow? rows n).isSome

end ImageCatalog.Text
