import ImageCatalog.Yaml.Cursor

/-!
# Scalars

The texts of scalars in the five ways to write them: plain, in single or double quotes, and as a
block whose line breaks are kept or folded.

Within plain and quoted scalars a line break counts as a space, and every further one as a line
break; blanks around line breaks are dropped.

## Implementation notes

Every loop moves the cursor forward and stops as soon as it does not, so the rest of the text bounds
the loop.
-/

namespace ImageCatalog.Yaml

/-! ### Gaps -/

/-- What stands between two words of a scalar. -/
structure Gap where
  /-- The blanks, if there is no line break. -/
  blanks : List Char
  /-- The first line break; nothing is left of one that is escaped. -/
  lead : Option (List Char)
  /-- The further line breaks. -/
  trail : List Char

namespace Gap

/-- The gap before anything is read. -/
def none : Gap := ⟨[], .none, []⟩

/-- The gap after an escaped line break. -/
def escaped : Gap := ⟨[], some [], []⟩

/-- Whether there was a line break. -/
def isBroken (g : Gap) : Bool :=
  g.lead.isSome

/-- The gap as text. -/
def folded (g : Gap) : List Char :=
  match g.lead with
  | .none => g.blanks
  | some ['\n'] => if g.trail.isEmpty then [' '] else g.trail
  | some lead => lead ++ g.trail

/-- Reads a gap. Behind a line break no tabulator may stand left of `margin`. -/
def read (margin : Nat) (g : Gap) (c : Cursor) : Option (Gap × Cursor) :=
  match c.rest with
  | [] => some (g, c)
  | x :: _ =>
    if isBlank x then
      let next := c.skip 1
      if g.isBroken && x == '\t' && c.column < margin then .none
      else if _h : next.rest.length < c.rest.length then
        read margin (if g.isBroken then g else { g with blanks := g.blanks ++ [x] }) next
      else .none
    else if isBreak x then
      let (text, next) := c.breakLine
      if _h : next.rest.length < c.rest.length then
        read margin
          (if g.isBroken then { g with trail := g.trail ++ text } else ⟨[], some text, []⟩) next
      else .none
    else some (g, c)
termination_by c.rest.length

end Gap

/-! ### Plain scalars -/

/-- The brackets and braces of flow collections, and the comma. -/
def isFlowMark (c : Char) : Bool :=
  c == ',' || c == '[' || c == ']' || c == '\x7b' || c == '\x7d'

/-- A word of a plain scalar. In a flow collection it ends before a bracket or comma, and a colon
must not stand in front of one. -/
def plainWord? (inFlow : Bool) : List Char → Option (List Char)
  | [] => some []
  | c :: rest =>
    if isSpace c then some []
    else if inFlow && c == ':' && rest.head?.any fun d => isFlowMark d || d == '?' then none
    else if (c == ':' && rest.head?.all isSpace) || (inFlow && isFlowMark c) then some []
    else (plainWord? inFlow rest).map (c :: ·)

/-- Reads on in a plain scalar of which `text` is read. Tells also whether the scalar ends behind a
line break. -/
def readPlain (inFlow : Bool) (margin : Nat) (text : List Char) (gap : Gap) (c : Cursor) :
    Option (List Char × Bool × Cursor) :=
  if c.isDocumentMark || c.isAt '#' then some (text, gap.isBroken, c)
  else
    match plainWord? inFlow c.rest with
    | none => none
    | some [] => some (text, gap.isBroken, c)
    | some word =>
      let text := text ++ gap.folded ++ word
      let afterWord := c.skip word.length
      match Gap.none.read margin afterWord with
      | none => none
      | some (gap, next) =>
        if next.rest.length = afterWord.rest.length then some (text, false, afterWord)
        else if !inFlow && next.column < margin then some (text, gap.isBroken, next)
        else if _h : next.rest.length < c.rest.length then readPlain inFlow margin text gap next
        else none
termination_by c.rest.length

/-! ### Quoted scalars -/

/-- A word in single quotes, where two quotes stand for one, and what follows. -/
def singleWord : List Char → List Char × List Char
  | '\'' :: '\'' :: rest =>
    let (word, rest') := singleWord rest
    ('\'' :: word, rest')
  | c :: rest =>
    if c == '\'' || isSpace c then ([], c :: rest)
    else
      let (word, rest') := singleWord rest
      (c :: word, rest')
  | [] => ([], [])

/-- What an escape of one letter stands for. -/
def letterEscape? (c : Char) : Option Char :=
  ([('0', '\x00'), ('a', '\x07'), ('b', '\x08'), ('t', '\t'), ('\t', '\t'), ('n', '\n'),
    ('v', '\x0b'), ('f', '\x0c'), ('r', '\r'), ('e', '\x1b'), (' ', ' '), ('"', '"'), ('/', '/'),
    ('\\', '\\'), ('N', '\x85'), ('_', '\xa0'), ('L', '\u2028'), ('P', '\u2029')] :
      List (Char × Char)).lookup c

/-- The value of a hexadecimal digit. -/
def hexDigit? (c : Char) : Option Nat :=
  if '0' ≤ c && c ≤ '9' then some (c.toNat - 48)
  else if 'a' ≤ c && c ≤ 'f' then some (c.toNat - 87)
  else if 'A' ≤ c && c ≤ 'F' then some (c.toNat - 55)
  else none

/-- The character whose number is written with `n` digits. -/
def hexEscape? (n : Nat) (s : List Char) : Option (Char × List Char) := do
  let digits ← (s.take n).mapM hexDigit?
  let code := digits.foldl (fun m d => 16 * m + d) 0
  if digits.length < n || (0xD800 ≤ code && code < 0xE000) || 0x10FFFF < code then none
  else some (Char.ofNat code, s.drop n)

/-- The character behind a backslash, and what follows. -/
def escape? : List Char → Option (Char × List Char)
  | 'x' :: rest => hexEscape? 2 rest
  | 'u' :: rest => hexEscape? 4 rest
  | 'U' :: rest => hexEscape? 8 rest
  | c :: rest => (letterEscape? c).map (·, rest)
  | [] => none

/-- A word in double quotes, whether an escaped line break ends it, and what follows. -/
def doubleWord? (s : List Char) : Option (List Char × Bool × List Char) :=
  match s with
  | [] => some ([], false, [])
  | c :: rest =>
    if c == '"' || isSpace c then some ([], false, c :: rest)
    else if c == '\\' then
      if rest.head?.any isBreak then some ([], true, rest)
      else
        match escape? rest with
        | none => none
        | some (d, rest') =>
          if _h : rest'.length < (c :: rest).length then
            (doubleWord? rest').map fun (word, more) => (d :: word, more)
          else none
    else (doubleWord? rest).map fun (word, more) => (c :: word, more)
termination_by s.length
decreasing_by all_goals simp only [List.length_cons] at *; omega

/-- A word in quotes of either kind. -/
def quotedWord? (quote : Char) (s : List Char) : Option (List Char × Bool × List Char) :=
  if quote == '"' then doubleWord? s
  else
    let (word, rest) := singleWord s
    some (word, false, rest)

/-- Reads on in a quoted scalar of which `text` is read, up to its end. -/
def readQuoted (quote : Char) (text : List Char) (c : Cursor) : Option (List Char × Cursor) :=
  if c.isDocumentMark then none
  else
    match quotedWord? quote c.rest with
    | none => none
    | some (word, isEscaped, rest) =>
      let text := text ++ word
      let afterWord := c.skip (c.rest.length - rest.length)
      let next := if isEscaped then afterWord.breakLine.2 else afterWord
      if next.isAt quote then some (text, next.skip 1)
      else
        match (if isEscaped then Gap.escaped else Gap.none).read 0 next with
        | none => none
        | some (gap, next) =>
          if _h : next.rest.length < c.rest.length then
            readQuoted quote (text ++ gap.folded) next
          else none
termination_by c.rest.length

/-! ### Block scalars -/

/-- What happens to the line breaks at the end of a block. -/
inductive Chomp where
  /-- One is kept. -/
  | clip
  | strip
  | keep
deriving DecidableEq

/-- The sign of a way to chomp. -/
def Chomp.ofSign? (c : Char) : Option Chomp :=
  if c == '+' then some .keep else if c == '-' then some .strip else none

/-- A digit for the indentation of a block, from 1 on. -/
def indentation? (c : Char) : Option Nat :=
  if '1' ≤ c && c ≤ '9' then some (c.toNat - 48) else none

/-- The chomping sign and indentation digit in front of a block, in either order. -/
def readBlockHead (c : Cursor) : Chomp × Option Nat × Cursor :=
  match c.peek.bind Chomp.ofSign? with
  | some chomp =>
    let c := c.skip 1
    match c.peek.bind indentation? with
    | some n => (chomp, some n, c.skip 1)
    | none => (chomp, none, c)
  | none =>
    match c.peek.bind indentation? with
    | some n =>
      let c := c.skip 1
      match c.peek.bind Chomp.ofSign? with
      | some chomp => (chomp, some n, c.skip 1)
      | none => (.clip, some n, c)
    | none => (.clip, none, c)

/-- Skips the spaces in front of a line of a block: all of them, or up to its indentation. -/
def skipIndentation (indent : Option Nat) (c : Cursor) : Cursor :=
  let spaces := (c.rest.takeWhile (· == ' ')).length
  match indent with
  | none => c.skip spaces
  | some n => c.skip (Nat.min spaces (n - c.column))

/-- Reads empty lines in a block and the spaces in front of the next line. `deepest` is the deepest
column so far. No tabulator may stand in the indentation. -/
def readEmptyLines (indent : Option Nat) (deepest : Nat) (breaks : List Char) (c : Cursor) :
    Option (Nat × List Char × Cursor) :=
  let at_ := skipIndentation indent c
  let deepest := Nat.max deepest at_.column
  if at_.isAt '\t' && indent.all fun n => at_.column < n then none
  else if at_.peek.any isBreak then
    let (text, next) := at_.breakLine
    if _h : next.rest.length < c.rest.length then
      readEmptyLines indent deepest (breaks ++ text) next
    else none
  else some (deepest, breaks, at_)
termination_by c.rest.length

/-- The lines of a block as they are read. -/
structure Block where
  text : List Char
  /-- The break behind the last line. -/
  lead : List Char
  /-- The breaks of empty lines after it. -/
  trail : List Char
  /-- Whether the last line starts with a blank. -/
  isIndented : Bool

/-- What stands between the lines of a block and a further line. Folding makes a space of a single
line break between lines that do not start with a blank. -/
def Block.joint (b : Block) (isFolded startsBlank : Bool) : List Char :=
  if isFolded && b.lead == ['\n'] && !b.isIndented && !startsBlank then
    if b.trail.isEmpty then [' '] else b.trail
  else b.lead ++ b.trail

/-- The text of a block. -/
def Block.chomped (b : Block) : Chomp → List Char
  | .strip => b.text
  | .clip => b.text ++ b.lead
  | .keep => b.text ++ b.lead ++ b.trail

/-- Reads on in a block. -/
def readBlockLines (isFolded : Bool) (indent : Nat) (b : Block) (c : Cursor) :
    Option (Block × Cursor) :=
  if c.column = indent && !c.rest.isEmpty then
    let startsBlank := c.peek.any isBlank
    let (line, lineEnd) := c.takeWhile fun x => !isBreak x
    let (lead, next) := lineEnd.breakLine
    match readEmptyLines (some indent) 0 [] next with
    | none => none
    | some (_, trail, next) =>
      if _h : next.rest.length < c.rest.length then
        readBlockLines isFolded indent
          ⟨b.text ++ b.joint isFolded startsBlank ++ line, lead, trail, startsBlank⟩ next
      else none
  else some (b, c)
termination_by c.rest.length

/-- Reads a block behind its first sign. Its lines start at `margin` or further right. -/
def readBlock (isFolded : Bool) (outer : Option Nat) (c : Cursor) :
    Option (List Char × Cursor) := do
  let (chomp, increment, c) := readBlockHead c
  let c ← c.endLine?
  let margin := (outer.map (· + 1)).getD 0
  let indent := increment.map (outer.getD 0 + ·)
  let (deepest, breaks, c) ← readEmptyLines indent 0 [] c
  let indent := indent.getD (Nat.max (Nat.max deepest margin) 1)
  let (b, c) ← readBlockLines isFolded indent ⟨[], [], breaks, false⟩ c
  return (b.chomped chomp, c)

end ImageCatalog.Yaml
