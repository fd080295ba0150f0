/-!
# Cursors

A place in a YAML text, with what follows it. Lines are counted because layout carries meaning, and
characters because a key must not be longer than 1024 of them.

## Main definitions

* `Cursor` — a place, by its index, line and column.
* `Cursor.skip`, `Cursor.breakLine` — moving on within a line, and past its end.
-/

namespace ImageCatalog.Yaml

/-- The characters that end a line. -/
def isBreak (c : Char) : Bool :=
  c == '\n' || c == '\r' || c == '\x85' || c == '\u2028' || c == '\u2029'

/-- Space and tabulator. -/
def isBlank (c : Char) : Bool :=
  c == ' ' || c == '\t'

def isSpace (c : Char) : Bool :=
  isBlank c || isBreak c

/-- The characters that a text may hold. -/
def isAllowed (c : Char) : Bool :=
  let n := c.toNat
  n == 9 || n == 10 || n == 13 || (0x20 ≤ n && n ≤ 0x7E) || n == 0x85 || (0xA0 ≤ n && n ≤ 0xD7FF) ||
    (0xE000 ≤ n && n ≤ 0xFFFD) || 0x10000 ≤ n

/-- A place in a text. -/
structure Cursor where
  rest : List Char
  index : Nat
  line : Nat
  column : Nat

namespace Cursor

/-- The start of a text. -/
def start (s : List Char) : Cursor :=
  ⟨s, 0, 0, 0⟩

/-- The next character. -/
def peek (c : Cursor) : Option Char :=
  c.rest.head?

/-- Whether the text is over, or there is blank space, `n` characters on. -/
def isSpaceAt (c : Cursor) (n : Nat) : Bool :=
  (c.rest[n]?).all isSpace

/-- Whether the next character is `x`. -/
def isAt (c : Cursor) (x : Char) : Bool :=
  c.peek == some x

/-- Moves on by `n` characters of a line. -/
def skip (c : Cursor) (n : Nat) : Cursor :=
  ⟨c.rest.drop n, c.index + n, c.line, c.column + n⟩

/-- Takes the characters of a line that satisfy `p`. -/
def takeWhile (c : Cursor) (p : Char → Bool) : List Char × Cursor :=
  let taken := c.rest.takeWhile p
  (taken, c.skip taken.length)

def skipWhile (c : Cursor) (p : Char → Bool) : Cursor :=
  (c.takeWhile p).2

/-- Moves on to the start of the next line. -/
def nextLine (c : Cursor) (n : Nat) : Cursor :=
  ⟨c.rest.drop n, c.index + n, c.line + 1, 0⟩

/-- Takes a line break, if there is one. All but two kinds of break read as a line feed. -/
def breakLine (c : Cursor) : List Char × Cursor :=
  match c.rest with
  | '\r' :: '\n' :: _ => (['\n'], c.nextLine 2)
  | x :: _ =>
    if x == '\u2028' || x == '\u2029' then ([x], c.nextLine 1)
    else if isBreak x then (['\n'], c.nextLine 1)
    else ([], c)
  | [] => ([], c)

/-- Skips a comment. -/
def skipComment (c : Cursor) : Cursor :=
  if c.isAt '#' then c.skipWhile fun x => !isBreak x else c

/-- Whether a line starts with three times `x`, and blank space after that. -/
def isMark (c : Cursor) (x : Char) : Bool :=
  c.column == 0 && c.rest.take 3 == [x, x, x] && c.isSpaceAt 3

/-- Whether a line starts with the mark of a document. -/
def isDocumentMark (c : Cursor) : Bool :=
  c.isMark '-' || c.isMark '.'

/-- Skips blanks, a comment and a line break, or gives up if something else follows. -/
def endLine? (c : Cursor) : Option Cursor :=
  let c := (c.skipWhile isBlank).skipComment
  if c.isSpaceAt 0 then some c.breakLine.2 else none

end Cursor

end ImageCatalog.Yaml
