import ImageCatalog.Yaml.Token.Tag

/-!
# From text to tokens

The layout of a YAML text is read with a stack of indentations, and with a candidate for a key on
each level of flow collections: a node that a colon would make a key. A candidate has to stand on
one line and to be at most 1024 characters away. When the colon comes, the mark of the key goes in
front of the candidate; such marks are noted by their place and put in at the end.

## Main definitions

* `Lexer` — the state between two tokens.
* `tokens?` — the tokens of a text.
-/

namespace ImageCatalog.Yaml

/-- A node that a colon would make a key. -/
structure KeyCandidate where
  /-- Whether nothing but a key can stand here. -/
  isRequired : Bool
  /-- How many tokens stand in front of it. -/
  place : Nat
  index : Nat
  line : Nat
  column : Nat

/-- A mark that is to be put in front of a token. -/
structure KeyMark where
  place : Nat
  /-- Whether a block mapping starts with the key. -/
  startsMapping : Bool

/-- The state between two tokens. -/
structure Lexer where
  cursor : Cursor
  /-- The columns of the open block collections, innermost first. -/
  indents : List Nat
  /-- Whether a key may start here without a sign. -/
  mayStartKey : Bool
  /-- The candidates of the open flow collections, innermost first, and of the block around them. -/
  candidates : List (Option KeyCandidate)
  /-- The tokens so far, latest first. -/
  tokens : List Token
  count : Nat
  marks : List KeyMark

namespace Lexer

/-- The state at the start of a text. -/
def start (s : List Char) : Lexer where
  cursor := .start s
  indents := []
  mayStartKey := true
  candidates := [none]
  tokens := []
  count := 0
  marks := []

/-- Whether a flow collection is open. -/
def inFlow (l : Lexer) : Bool :=
  1 < l.candidates.length

def push (l : Lexer) (t : Token) : Lexer :=
  { l with tokens := t :: l.tokens, count := l.count + 1 }

/-- Takes a token of `n` characters. -/
def take (l : Lexer) (t : Token) (n : Nat) : Lexer :=
  { l.push t with cursor := l.cursor.skip n }

def mayKey (l : Lexer) (b : Bool) : Lexer :=
  { l with mayStartKey := b }

/-! ### Layout -/

/-- Skips blank space and comments. In a block a new line may start a key; a tabulator may stand
where no key can start. -/
def toToken (l : Lexer) (c : Cursor) : Lexer :=
  let unmarked := if c.column == 0 && c.isAt '\ufeff' then c.skip 1 else c
  let tabs := l.inFlow || !l.mayStartKey
  let next := (unmarked.skipWhile fun x => x == ' ' || (tabs && x == '\t')).skipComment
  if next.peek.any isBreak then
    let next := next.breakLine.2
    let l := if l.inFlow then l else l.mayKey true
    if _h : next.rest.length < c.rest.length then toToken l next else { l with cursor := next }
  else { l with cursor := next }
termination_by c.rest.length
decreasing_by exact _h

/-- Whether the lexer has moved too far from a candidate. -/
def isStale (c : Cursor) (k : KeyCandidate) : Bool :=
  k.line < c.line || k.index + 1024 < c.index

/-- Drops candidates that are too far away. None of them may be required. -/
def dropStale (l : Lexer) : Option Lexer :=
  let stale := l.candidates.map fun k? => k?.any (isStale l.cursor)
  if (l.candidates.zip stale).any fun (k?, isOld) => isOld && k?.any KeyCandidate.isRequired then
    none
  else
    let kept := (l.candidates.zip stale).map fun (k?, isOld) => if isOld then none else k?
    some { l with candidates := kept }

/-- Closes the block collections right of a column. -/
def closeBlocks (column : Nat) : List Nat → List Nat × Nat
  | [] => ([], 0)
  | indent :: rest =>
    if column < indent then
      let (left, n) := closeBlocks column rest
      (left, n + 1)
    else (indent :: rest, 0)

/-- Ends the block collections right of a column. -/
def unroll (l : Lexer) (column : Nat) : Lexer :=
  if l.inFlow then l
  else
    let (left, n) := closeBlocks column l.indents
    { l with
      indents := left
      tokens := List.replicate n .blockEnd ++ l.tokens
      count := l.count + n }

/-- Ends all block collections. -/
def unrollAll (l : Lexer) : Lexer :=
  if l.inFlow then l
  else
    let n := l.indents.length
    { l with
      indents := []
      tokens := List.replicate n .blockEnd ++ l.tokens
      count := l.count + n }

/-- Whether a column starts a new block collection. -/
def isDeeper (l : Lexer) (column : Nat) : Bool :=
  !l.inFlow && l.indents.head?.all (· < column)

/-- Starts a block collection at the cursor, if it is deeper than those that are open. -/
def roll (l : Lexer) (t : Token) : Lexer :=
  if l.isDeeper l.cursor.column then
    { l.push t with indents := l.cursor.column :: l.indents }
  else l

/-! ### Candidates -/

/-- Drops the candidate of the innermost collection, which must not be required. -/
def dropCandidate (l : Lexer) : Option Lexer :=
  match l.candidates with
  | [] => some l
  | k? :: rest =>
    if k?.any KeyCandidate.isRequired then none else some { l with candidates := none :: rest }

/-- What starts at the cursor is a candidate, if a key may start there. -/
def saveCandidate (l : Lexer) : Option Lexer :=
  if l.mayStartKey then do
    let c := l.cursor
    let candidate : KeyCandidate :=
      { isRequired := !l.inFlow && l.indents.head? == some c.column
        place := l.count
        index := c.index
        line := c.line
        column := c.column }
    let l ← l.dropCandidate
    return { l with candidates := some candidate :: l.candidates.tail }
  else some l

/-! ### Tokens -/

/-- The end of the text. -/
def finish (l : Lexer) : Option Lexer :=
  l.unrollAll.dropCandidate

def fetchDirective (l : Lexer) : Option Lexer := do
  let l ← l.unrollAll.dropCandidate
  let (t, next) ← readDirective l.cursor
  return { (l.mayKey false).push t with cursor := next }

def fetchDocumentMark (l : Lexer) : Option Lexer := do
  let l ← l.unrollAll.dropCandidate
  let t := if l.cursor.isAt '-' then Token.documentStart else .documentEnd
  return (l.mayKey false).take t 3

def fetchFlowStart (l : Lexer) (t : Token) : Option Lexer := do
  let l ← l.saveCandidate
  return { (l.mayKey true).take t 1 with candidates := none :: l.candidates }

def fetchFlowEnd (l : Lexer) (t : Token) : Option Lexer := do
  let l ← l.dropCandidate
  let candidates := if l.inFlow then l.candidates.tail else l.candidates
  return { (l.mayKey false).take t 1 with candidates := candidates }

def fetchFlowEntry (l : Lexer) : Option Lexer := do
  return ((← l.dropCandidate).mayKey true).take .flowEntry 1

/-- Refuses a sign that needs a place where a key may start. -/
def openBlock (l : Lexer) (t : Token) : Option Lexer :=
  if l.inFlow then some l
  else if l.mayStartKey then some (l.roll t)
  else none

def fetchBlockEntry (l : Lexer) : Option Lexer := do
  let l ← (← l.openBlock .blockSequenceStart).dropCandidate
  return (l.mayKey true).take .blockEntry 1

def fetchKey (l : Lexer) : Option Lexer := do
  let l ← (← l.openBlock .blockMappingStart).dropCandidate
  return (l.mayKey (!l.inFlow)).take .key 1

/-- Makes a key of a candidate. -/
def markKey (l : Lexer) (k : KeyCandidate) : Lexer :=
  let starts := l.isDeeper k.column
  { l with
    marks := ⟨k.place, starts⟩ :: l.marks
    indents := if starts then k.column :: l.indents else l.indents
    candidates := none :: l.candidates.tail }

def fetchValue (l : Lexer) : Option Lexer :=
  match l.candidates.head?.join with
  | some k => some (((l.markKey k).mayKey false).take .value 1)
  | none => do
    let l ← l.openBlock .blockMappingStart
    return (l.mayKey (!l.inFlow)).take .value 1

/-- A token that may be a key or stand in front of one. -/
def fetchNode (l : Lexer) (read : Cursor → Option (Token × Cursor)) : Option Lexer := do
  let l ← l.saveCandidate
  let (t, next) ← read l.cursor
  return { (l.mayKey false).push t with cursor := next }

def fetchName (l : Lexer) (token : String → Token) : Option Lexer :=
  l.fetchNode fun c => (readName c).map fun (name, next) => (token name, next)

def fetchQuoted (l : Lexer) (quote : Char) : Option Lexer :=
  l.fetchNode fun c =>
    (readQuoted quote [] (c.skip 1)).map fun (text, next) =>
      (.scalar (String.ofList text) false, next)

/-- A block scalar, which is no key. A key may start behind it. -/
def fetchBlockScalar (l : Lexer) (isFolded : Bool) : Option Lexer := do
  let l ← l.dropCandidate
  let (text, next) ← readBlock isFolded l.indents.head? (l.cursor.skip 1)
  return { (l.mayKey true).push (.scalar (String.ofList text) false) with cursor := next }

/-- A plain scalar. A key may start behind it if it ends behind a line break. -/
def fetchPlain (l : Lexer) : Option Lexer := do
  let l ← l.saveCandidate
  let margin := (l.indents.head?.map (· + 1)).getD 0
  let (text, isBroken, next) ← readPlain l.inFlow margin [] .none l.cursor
  return { (l.mayKey isBroken).push (.scalar (String.ofList text) true) with cursor := next }

/-- The characters outside of flow collections that have a meaning at the start of a token. -/
def indicators : List Char :=
  ['-', '?', ':', '#', '&', '*', '!', '|', '>', '\'', '"', '%', '@', '\x60']

/-- Whether a plain scalar may start with a character, whatever follows. -/
def startsPlain (c : Char) : Bool :=
  !isSpace c && !isFlowMark c && !indicators.contains c

/-- The token that starts with a character. -/
def fetchAt (l : Lexer) (x : Char) : Option Lexer :=
  let c := l.cursor
  if c.column == 0 && x == '%' then l.fetchDirective
  else if c.isDocumentMark then l.fetchDocumentMark
  else if x == '[' then l.fetchFlowStart .flowSequenceStart
  else if x == '\x7b' then l.fetchFlowStart .flowMappingStart
  else if x == ']' then l.fetchFlowEnd .flowSequenceEnd
  else if x == '\x7d' then l.fetchFlowEnd .flowMappingEnd
  else if x == ',' then l.fetchFlowEntry
  else if x == '-' && c.isSpaceAt 1 then l.fetchBlockEntry
  else if x == '?' && (l.inFlow || c.isSpaceAt 1) then l.fetchKey
  else if x == ':' && (l.inFlow || c.isSpaceAt 1) then l.fetchValue
  else if x == '*' then l.fetchName .alias
  else if x == '&' then l.fetchName .anchor
  else if x == '!' then l.fetchNode (readTag l.inFlow)
  else if (x == '|' || x == '>') && !l.inFlow then l.fetchBlockScalar (x == '>')
  else if x == '\'' || x == '"' then l.fetchQuoted x
  else if startsPlain x || x == '-' || x == '?' || x == ':' then l.fetchPlain
  else none

/-- Reads on to the end of the text. -/
def run (l : Lexer) : Option Lexer :=
  match (l.toToken l.cursor).dropStale with
  | none => none
  | some ready =>
    let ready := ready.unroll ready.cursor.column
    match ready.cursor.peek with
    | none => ready.finish
    | some x =>
      match ready.fetchAt x with
      | none => none
      | some next =>
        if _h : next.cursor.rest.length < l.cursor.rest.length then run next else none
termination_by l.cursor.rest.length

end Lexer

/-- Puts marks of keys, in the order of their places, in front of the tokens from place `n` on. -/
def weave (n : Nat) : List KeyMark → List Token → List Token
  | [], ts => ts
  | marks, [] =>
    marks.flatMap fun m => if m.startsMapping then [.blockMappingStart, .key] else [.key]
  | m :: marks, t :: ts =>
    if m.place = n then
      if m.startsMapping then .blockMappingStart :: .key :: t :: weave (n + 1) marks ts
      else .key :: t :: weave (n + 1) marks ts
    else t :: weave (n + 1) (m :: marks) ts

/-- The tokens of a text. -/
def tokens? (s : List Char) : Option (List Token) := do
  if !s.all isAllowed then none
  else
    let l ← (Lexer.start s).run
    return weave 0 (l.marks.mergeSort fun a b => a.place ≤ b.place) l.tokens.reverse

end ImageCatalog.Yaml
