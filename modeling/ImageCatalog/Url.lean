import ImageCatalog.Url.Host

/-!
# Web addresses

Reading an address: its scheme, its host and its path. Blanks around an address and line breaks
within it are dropped. Schemes of the web always have a host, however many slashes stand in front
of it, and take a backslash for a slash; the scheme `file` may have one; other schemes have one
behind two slashes.

## Main definitions

* `Url`, `Url.parse` — an address, and how it is read.
* `Url.segments` — the path of an address of the web, with the segments `.` and `..` resolved.
-/

namespace ImageCatalog

/-- An address. -/
structure Url where
  /-- The scheme, in lower case. -/
  scheme : List Char
  host : Option Host
  /-- The port, if one is written. -/
  port : Option Nat
  /-- The path, as it is written. -/
  path : List Char
deriving DecidableEq, Repr

namespace Url

/-! ### Schemes -/

def isLetter (c : Char) : Bool :=
  ('a' ≤ c && c ≤ 'z') || ('A' ≤ c && c ≤ 'Z')

/-- The characters of a scheme after its first. -/
def isSchemeChar (c : Char) : Bool :=
  isLetter c || Text.isDigit c || c == '+' || c == '-' || c == '.'

/-- The scheme in front of the first colon, and what follows. -/
def splitScheme? (s : List Char) : Option (List Char × List Char) :=
  if s.head?.any isLetter then
    match s.dropWhile isSchemeChar with
    | ':' :: rest => some ((s.takeWhile isSchemeChar).map Domain.lowerChar, rest)
    | _ => none
  else none

/-- How addresses of a scheme are read. -/
inductive Manner where
  | web
  | file
  | other
deriving DecidableEq, Repr

/-- The manner of a scheme. -/
def Manner.ofScheme (scheme : List Char) : Manner :=
  if ["http", "https", "ws", "wss", "ftp"].contains (String.ofList scheme) then .web
  else if scheme = ['f', 'i', 'l', 'e'] then .file
  else .other

/-- Whether a character ends the part of an address with its host. A backslash does so where it is
taken for a slash. -/
def Manner.isEnd (manner : Manner) (c : Char) : Bool :=
  c == '/' || c == '?' || c == '#' || (c == '\\' && manner != .other)

def isSlash (c : Char) : Bool :=
  c == '/' || c == '\\'

/-! ### Host and port -/

/-- Where the last `@` of a text stands. -/
def lastAt? (s : List Char) : Option Nat :=
  match s.reverse.dropWhile (· != '@') with
  | [] => none
  | _ :: before => some before.length

/-- The user in front of the host, up to the last `@`, and what follows it. -/
def splitUser (manner : Manner) (s : List Char) : Except Fault (List Char × List Char) :=
  match lastAt? (s.takeWhile fun c => !manner.isEnd c) with
  | none => .ok ([], s)
  | some 0 =>
    if s.tail.head?.any manner.isEnd then .error .emptyHost else .ok ([], s.tail)
  | some n => .ok (s.take n, s.drop (n + 1))

/-- The text of a host, up to its end or a colon outside of brackets, and what follows. -/
def splitHost (manner : Manner) : (inBrackets : Bool) → List Char → List Char × List Char
  | _, [] => ([], [])
  | inBrackets, c :: rest =>
    if manner.isEnd c || (c == ':' && !inBrackets) then ([], c :: rest)
    else
      let within := c == '[' || (inBrackets && c != ']')
      let (text, rest') := splitHost manner within rest
      (c :: text, rest')

/-- A port up to the end of its part of the address. It has to be below 65536; none is written if
there is no digit. -/
def readPort (s : List Char) : Except Fault (Option Nat × List Char) :=
  let ds := s.takeWhile Text.isDigit
  let rest := s.dropWhile Text.isDigit
  if 65535 < Text.value ds then .error .badPort
  else if rest.head?.all fun c => isSlash c || c == '?' || c == '#' then
    .ok (if ds.isEmpty then none else some (Text.value ds), rest)
  else .error .badPort

/-- The port behind a host, if there is a colon, and what follows. -/
def afterHost : List Char → Except Fault (Option Nat × List Char)
  | ':' :: s => readPort s
  | s => .ok (none, s)

/-- The host of a text in the manner of a scheme. -/
def hostOf (manner : Manner) (text : List Char) : Except Fault Host :=
  match manner with
  | .other => Host.ofOpaque text
  | _ => if text.isEmpty then .error .emptyHost else Host.ofText text

/-- The path up to the query or the fragment. -/
def pathOf (s : List Char) : List Char :=
  s.takeWhile fun c => c != '?' && c != '#'

/-- An address after the slashes in front of its host. -/
def readAuthority (scheme : List Char) (manner : Manner) (s : List Char) : Except Fault Url := do
  let (user, s) ← splitUser manner s
  let (text, s) := splitHost manner false s
  let host ← hostOf manner text
  if text.isEmpty && s.head? == some ':' then throw .emptyHost
  let (port, s) ← afterHost s
  if text.isEmpty && !user.isEmpty && user != [':'] then throw .emptyHost
  return {
    scheme := scheme
    host := if text.isEmpty then none else some host
    port := port
    path := pathOf s }

/-! ### Files -/

/-- The name of a drive: a letter and a colon or bar. -/
def isDrive : List Char → Bool
  | [a, b] => isLetter a && (b == ':' || b == '|')
  | _ => false

/-- An address of a file after its scheme. -/
def readFile (scheme : List Char) (s : List Char) : Except Fault Url :=
  match s with
  | a :: b :: rest =>
    if isSlash a && isSlash b then
      let text := rest.takeWhile fun c => !Manner.file.isEnd c
      if text.isEmpty || isDrive text then .ok ⟨scheme, none, none, pathOf rest⟩
      else
        match Host.ofText text with
        | .error e => .error e
        | .ok host => .ok ⟨scheme, some host, none, pathOf (rest.drop text.length)⟩
    else .ok ⟨scheme, none, none, pathOf s⟩
  | _ => .ok ⟨scheme, none, none, pathOf s⟩

/-! ### Addresses -/

/-- A text without the blanks and control characters around it, and without line breaks and
tabulators. -/
def cleaned (s : List Char) : List Char :=
  let isOuter (c : Char) : Bool := c.toNat ≤ 0x20
  let trimmed := ((s.dropWhile isOuter).reverse.dropWhile isOuter).reverse
  trimmed.filter fun c => c != '\t' && c != '\n' && c != '\r'

/-- Reads an address. -/
def parse (s : String) : Except Fault Url :=
  match splitScheme? (cleaned s.toList) with
  | none => .error .noBase
  | some (scheme, rest) =>
    match Manner.ofScheme scheme with
    | .web => readAuthority scheme .web (rest.dropWhile isSlash)
    | .file => readFile scheme rest
    | .other =>
      match rest with
      | '/' :: '/' :: rest' => readAuthority scheme .other rest'
      | _ => .ok ⟨scheme, none, none, pathOf rest⟩

/-! ### Paths -/

/-- A point, which may be written as an escape. -/
def dropDot : List Char → Option (List Char)
  | '.' :: rest => some rest
  | '%' :: '2' :: c :: rest => if c == 'e' || c == 'E' then some rest else none
  | _ => none

/-- The segment `.`. -/
def isSingleDot (segment : List Char) : Bool :=
  dropDot segment == some []

/-- The segment `..`. -/
def isDoubleDot (segment : List Char) : Bool :=
  (dropDot segment).bind dropDot == some []

/-- Goes one segment up, but not above the root or a drive. `before` holds the segments, latest
first. -/
def goUp : List (List Char) → List (List Char)
  | [] => []
  | segment :: before => if isDrive segment then segment :: before else before

/-- Resolves `.` and `..` in segments. `before` holds the segments in front, latest first. -/
def resolve (before : List (List Char)) : List (List Char) → List (List Char)
  | [] => before.reverse
  | [segment] =>
    if isDoubleDot segment then (goUp before).reverse ++ [[]]
    else if isSingleDot segment then before.reverse ++ [[]]
    else before.reverse ++ [segment]
  | segment :: rest =>
    if isDoubleDot segment then resolve (goUp before) rest
    else if isSingleDot segment then resolve before rest
    else resolve (segment :: before) rest

/-- The text with slashes for backslashes. -/
def withSlashes (s : List Char) : List Char :=
  s.map fun c => if c = '\\' then '/' else c

/-- The segments of a path behind its first slash, with `.` and `..` resolved. -/
def segments (u : Url) : List (List Char) :=
  let written := withSlashes u.path
  let path := if written.head? == some '/' then written.tail else written
  resolve [] (Text.splitAtChar '/' path)

end Url

end ImageCatalog
