/-!
# Blanks

The characters with the Unicode property `White_Space`, and trimming by them.

## Main definitions

* `Text.isBlank` — the property, as its eleven ranges.
* `Text.trimLeft`, `Text.trim` — what is left of a text without the blanks at its ends.
-/

namespace ImageCatalog.Text

/-- The Unicode property `White_Space`. -/
def isBlank (c : Char) : Bool :=
  let n := c.toNat
  (9 ≤ n && n ≤ 13) || n == 0x20 || n == 0x85 || n == 0xA0 || n == 0x1680 ||
    (0x2000 ≤ n && n ≤ 0x200A) || n == 0x2028 || n == 0x2029 || n == 0x202F || n == 0x205F ||
    n == 0x3000

/-- Drops the blanks in front. -/
def trimLeft (s : List Char) : List Char :=
  s.dropWhile isBlank

/-- Drops the blanks at the end. -/
def trimRight (s : List Char) : List Char :=
  (s.reverse.dropWhile isBlank).reverse

/-- Drops the blanks at both ends. -/
def trim (s : List Char) : List Char :=
  trimRight (trimLeft s)

end ImageCatalog.Text
