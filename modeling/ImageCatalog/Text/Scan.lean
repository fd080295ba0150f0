import ImageCatalog.Text.Blank
import ImageCatalog.Text.Decimal

/-!
# Scanning

Readers that take a piece from the front of a text. A `Scan α` either fails or gives a value
and the rest of the text.
-/

namespace ImageCatalog.Text

/-- A reader of the front of a text. -/
abbrev Scan := StateT (List Char) Option

namespace Scan

/-- Gives up. -/
def refuse {α : Type} : Scan α :=
  fun _ => none

/-- Goes on only if `b` holds. -/
def require (b : Bool) : Scan Unit :=
  fun s => if b then some ((), s) else none

/-- Takes the character `c`. -/
def char (c : Char) : Scan Unit
  | [] => none
  | d :: rest => if d = c then some ((), rest) else none

/-- Takes one character that satisfies `p`. -/
def satisfy (p : Char → Bool) : Scan Char
  | [] => none
  | d :: rest => if p d then some (d, rest) else none

/-- Skips the longest front whose characters satisfy `p`. -/
def skipWhile (p : Char → Bool) : Scan Unit :=
  fun s => some ((), s.dropWhile p)

/-- Skips blanks. -/
def blanks : Scan Unit :=
  skipWhile isBlank

/-- Takes the longest front of at most `most` digits, refusing fewer than `least`. -/
def digits (least most : Nat) : Scan (List Char) :=
  fun s =>
    let ds := (s.take most).takeWhile isDigit
    if ds.length < least then none else some (ds, s.drop ds.length)

/-- Takes a number of `least` to `most` digits. -/
def number (least most : Nat) : Scan Nat := do
  return value (← digits least most)

/-- Takes `c` if it comes next, and tells whether it did. -/
def option (c : Char) : Scan Bool
  | [] => some (false, [])
  | d :: rest => if d = c then some (true, rest) else some (false, d :: rest)

/-- What comes next, left in place. -/
def peek : Scan (Option Char) :=
  fun s => some (s.head?, s)

/-- The whole text is read by `p`, with nothing left. -/
def all {α : Type} (p : Scan α) (s : List Char) : Option α :=
  match p s with
  | some (a, []) => some a
  | _ => none

end Scan

end ImageCatalog.Text
