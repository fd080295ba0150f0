import ImageCatalog.Json.Basic
import ImageCatalog.Text.Decimal

/-!
# Reading JSON

`Json.parse?` accepts exactly one value, with blanks around it and nothing else: no byte order
mark, no control characters within strings, no zeros in front of numbers. A lone surrogate is no
error here; it leaves a string without text.

## Implementation notes

The reader of values recurses with a fuel. Each step into a value takes a character, so the
length of the text and one more is enough; `parse?` hands that out and shows no fuel.
-/

namespace ImageCatalog.Json

/-- The four blanks of the format. -/
def isSpace (c : Char) : Bool :=
  c == ' ' || c == '\n' || c == '\t' || c == '\r'

/-- Skips blanks. -/
def skipSpaces (s : List Char) : List Char :=
  s.dropWhile isSpace

/-- The value of a hexadecimal digit of either case. -/
def hexValue? (c : Char) : Option Nat :=
  if '0' ≤ c && c ≤ '9' then some (c.toNat - 48)
  else if 'a' ≤ c && c ≤ 'f' then some (c.toNat - 87)
  else if 'A' ≤ c && c ≤ 'F' then some (c.toNat - 55)
  else none

/-- A piece of a string: a character, or an escaped half of a surrogate pair. -/
inductive Piece where
  | char (c : Char)
  | high (n : Nat)
  | low (n : Nat)

/-- The piece that a four digit escape names. -/
def Piece.ofUnit (n : Nat) : Piece :=
  if 0xD800 ≤ n && n < 0xDC00 then .high (n - 0xD800)
  else if 0xDC00 ≤ n && n < 0xE000 then .low (n - 0xDC00)
  else .char (Char.ofNat n)

/-- The number of four hexadecimal digits. -/
def unit? (a b c d : Char) : Option Nat := do
  return (((← hexValue? a) * 16 + (← hexValue? b)) * 16 + (← hexValue? c)) * 16 + (← hexValue? d)

/-- What an escape of one letter stands for. -/
def letterEscape? (c : Char) : Option Char :=
  if c = '"' then some '"'
  else if c = '\\' then some '\\'
  else if c = '/' then some '/'
  else if c = 'b' then some '\x08'
  else if c = 'f' then some '\x0c'
  else if c = 'n' then some '\n'
  else if c = 'r' then some '\r'
  else if c = 't' then some '\t'
  else none

/-- The pieces of a string up to its closing quote, and what follows. -/
def pieces : List Char → Option (List Piece × List Char)
  | [] => none
  | '"' :: rest => some ([], rest)
  | '\\' :: 'u' :: a :: b :: c :: d :: rest => do
    let n ← unit? a b c d
    let (ps, rest') ← pieces rest
    return (.ofUnit n :: ps, rest')
  | '\\' :: c :: rest => do
    let d ← letterEscape? c
    let (ps, rest') ← pieces rest
    return (.char d :: ps, rest')
  | c :: rest =>
    if c = '\\' || c.toNat < 32 then none
    else do
      let (ps, rest') ← pieces rest
      return (.char c :: ps, rest')

/-- The characters of pieces, if each half of a surrogate pair has its other half. -/
def joinPieces : List Piece → Option (List Char)
  | [] => some []
  | .char c :: rest => (joinPieces rest).map (c :: ·)
  | .high h :: .low l :: rest =>
    (joinPieces rest).map (Char.ofNat (0x10000 + h * 0x400 + l) :: ·)
  | .high _ :: _ => none
  | .low _ :: _ => none

/-- A string after its opening quote. -/
def readString (s : List Char) : Option (Option String × List Char) := do
  let (ps, rest) ← pieces s
  return ((joinPieces ps).map String.ofList, rest)

/-- One or more digits. -/
def readDigits (s : List Char) : Option (List Char × List Char) :=
  let ds := s.takeWhile Text.isDigit
  if ds.isEmpty then none else some (ds, s.dropWhile Text.isDigit)

/-- The whole part of a number: zero, or digits that do not start with zero. -/
def readWhole : List Char → Option (List Char × List Char)
  | '0' :: c :: rest => if Text.isDigit c then none else some (['0'], c :: rest)
  | s => readDigits s

/-- The decimals of a number, if there is a point. -/
def readDecimals : List Char → Option (List Char × List Char)
  | '.' :: rest => do
    let (ds, rest') ← readDigits rest
    return ('.' :: ds, rest')
  | s => some ([], s)

/-- The digits of an exponent, with their sign. -/
def readSigned : List Char → Option (List Char × List Char)
  | '+' :: rest => do
    let (ds, rest') ← readDigits rest
    return ('+' :: ds, rest')
  | '-' :: rest => do
    let (ds, rest') ← readDigits rest
    return ('-' :: ds, rest')
  | s => readDigits s

/-- The exponent of a number, if there is one. -/
def readExponent : List Char → Option (List Char × List Char)
  | c :: rest =>
    if c = 'e' || c = 'E' then do
      let (ds, rest') ← readSigned rest
      return (c :: ds, rest')
    else some ([], c :: rest)
  | [] => some ([], [])

/-- A number without its sign. -/
def readUnsigned (s : List Char) : Option (List Char × List Char) := do
  let (whole, s) ← readWhole s
  let (decimals, s) ← readDecimals s
  let (exponent, s) ← readExponent s
  return (whole ++ decimals ++ exponent, s)

/-- A number. -/
def readNumber : List Char → Option (List Char × List Char)
  | '-' :: rest => do
    let (ds, rest') ← readUnsigned rest
    return ('-' :: ds, rest')
  | s => readUnsigned s

/-- Takes a word. -/
def readWord (word : List Char) (s : List Char) : Option (List Char) :=
  if word.isPrefixOf s then some (s.drop word.length) else none

mutual

/-- A value, with blanks in front. -/
def readValue : Nat → List Char → Option (Json × List Char)
  | 0, _ => none
  | fuel + 1, s =>
    match skipSpaces s with
    | [] => none
    | '"' :: rest => do
      let (t, rest') ← readString rest
      return (.string t, rest')
    | '[' :: rest =>
      match skipSpaces rest with
      | ']' :: rest' => some (.array [], rest')
      | _ => do
        let (items, rest') ← readItems fuel rest
        return (.array items, rest')
    | '\x7b' :: rest =>
      match skipSpaces rest with
      | '\x7d' :: rest' => some (.object [], rest')
      | _ => do
        let (members, rest') ← readMembers fuel rest
        return (.object members, rest')
    | 'n' :: rest => (readWord ['u', 'l', 'l'] rest).map (Json.null, ·)
    | 't' :: rest => (readWord ['r', 'u', 'e'] rest).map (Json.bool true, ·)
    | 'f' :: rest => (readWord ['a', 'l', 's', 'e'] rest).map (Json.bool false, ·)
    | c :: rest => do
      let (literal, rest') ← readNumber (c :: rest)
      return (.number literal, rest')

/-- The items of an array that is not empty, up to its closing bracket. -/
def readItems : Nat → List Char → Option (List Json × List Char)
  | 0, _ => none
  | fuel + 1, s => do
    let (v, rest) ← readValue fuel s
    match skipSpaces rest with
    | ',' :: rest' => do
      let (vs, rest'') ← readItems fuel rest'
      return (v :: vs, rest'')
    | ']' :: rest' => return ([v], rest')
    | _ => none

/-- The members of an object that is not empty, up to its closing brace. -/
def readMembers : Nat → List Char → Option (List (Option String × Json) × List Char)
  | 0, _ => none
  | fuel + 1, s => do
    let .cons '"' rest := skipSpaces s | none
    let (key, rest) ← readString rest
    let .cons ':' rest := skipSpaces rest | none
    let (v, rest) ← readValue fuel rest
    match skipSpaces rest with
    | ',' :: rest' => do
      let (ms, rest'') ← readMembers fuel rest'
      return ((key, v) :: ms, rest'')
    | '\x7d' :: rest' => return ([(key, v)], rest')
    | _ => none

end

/-- Reads a text that holds one value and blanks around it. -/
def parseChars? (s : List Char) : Option Json := do
  let (v, rest) ← readValue (2 * s.length + 2) s
  if (skipSpaces rest).isEmpty then some v else none

/-- Reads a text that holds one value and blanks around it. -/
def parse? (s : String) : Option Json :=
  parseChars? s.toList

end ImageCatalog.Json
