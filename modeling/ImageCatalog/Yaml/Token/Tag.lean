import ImageCatalog.Yaml.Token
import ImageCatalog.Yaml.Token.Scalar

/-!
# Names and tags

Anchors, aliases, tags and the directives of a document, each read from the front of a cursor.
-/

namespace ImageCatalog.Yaml

/-- The characters of names. -/
def isNameChar (c : Char) : Bool :=
  ('a' ≤ c && c ≤ 'z') || ('A' ≤ c && c ≤ 'Z') || ('0' ≤ c && c ≤ '9') || c == '_' || c == '-'

/-- The name behind the sign of an anchor or alias. -/
def readName (c : Cursor) : Option (String × Cursor) :=
  let (name, next) := (c.skip 1).takeWhile isNameChar
  let ends := next.isSpaceAt 0 ||
    next.peek.any fun x =>
      x == '?' || x == ':' || x == ',' || x == ']' || x == '\x7d' || x == '%' || x == '@' ||
      x == '\x60'
  if name.isEmpty || !ends then none else some (String.ofList name, next)

/-! ### Tags -/

/-- The characters of tags beside those of names. Within angle brackets there are three more. -/
def isTagChar (inBrackets : Bool) (c : Char) : Bool :=
  isNameChar c || c == ';' || c == '/' || c == '?' || c == ':' || c == '@' || c == '&' ||
    c == '=' ||
    c == '+' || c == '$' || c == '.' || c == '%' || c == '!' || c == '~' || c == '*' || c == '\'' ||
    c == '(' || c == ')' || (inBrackets && (c == ',' || c == '[' || c == ']'))

/-- The bytes of a text with escapes of a percent sign and two digits replaced; none if an escape is
broken. -/
def unescapeTag? : List Char → Option (List UInt8)
  | [] => some []
  | '%' :: a :: b :: rest => do
    let byte := UInt8.ofNat (16 * (← hexDigit? a) + (← hexDigit? b))
    return byte :: (← unescapeTag? rest)
  | c :: rest =>
    if c == '%' then none
    else do return (String.ofList [c]).toUTF8.toList ++ (← unescapeTag? rest)

/-- The rest of a tag, behind a part of it that is read already. -/
def readTagRest (inBrackets : Bool) (front : List Char) (c : Cursor) :
    Option (String × Cursor) := do
  let (written, next) := c.takeWhile (isTagChar inBrackets)
  let text ← String.fromUTF8? ⟨(← unescapeTag? written).toArray⟩
  if front.isEmpty && written.isEmpty then none
  else return (String.ofList (front.drop 1) ++ text, next)

/-- A handle: two exclamation marks with a name between, or what starts like one. -/
def readHandle (c : Cursor) : Option (List Char × Cursor) :=
  if c.isAt '!' then
    let (name, next) := (c.skip 1).takeWhile isNameChar
    if next.isAt '!' then some ('!' :: name ++ ['!'], next.skip 1) else some ('!' :: name, next)
  else none

/-- Whether a text is a handle with two exclamation marks. -/
def isFullHandle (handle : List Char) : Bool :=
  1 < handle.length && handle.getLast? == some '!'

/-- A tag as handle and suffix, not yet checked for its end. -/
def readTagText (c : Cursor) : Option (String × String × Cursor) :=
  if c.rest[1]? == some '<' then do
    let (suffix, next) ← readTagRest true [] (c.skip 2)
    if next.isAt '>' then return ("", suffix, next.skip 1) else none
  else do
    let (handle, next) ← readHandle c
    if isFullHandle handle then
      let (suffix, next) ← readTagRest false [] next
      return (String.ofList handle, suffix, next)
    else
      let (suffix, next) ← readTagRest false handle next
      return if suffix.isEmpty then ("", "!", next) else ("!", suffix, next)

/-- A tag. Blank space has to follow it, or a comma in a flow collection. -/
def readTag (inFlow : Bool) (c : Cursor) : Option (Token × Cursor) := do
  let (handle, suffix, next) ← readTagText c
  if (inFlow && next.isAt ',') || next.isSpaceAt 0 then return (.tag handle suffix, next) else none

/-! ### Directives -/

/-- A number of up to nine digits. -/
def readVersionNumber (c : Cursor) : Option (Nat × Cursor) :=
  let (digits, next) := c.takeWhile fun x => '0' ≤ x && x ≤ '9'
  if digits.isEmpty || 9 < digits.length then none
  else some (digits.foldl (fun n d => 10 * n + (d.toNat - 48)) 0, next)

/-- The version in a directive. -/
def readVersion (c : Cursor) : Option (Token × Cursor) := do
  let (major, next) ← readVersionNumber (c.skipWhile isBlank)
  if next.isAt '.' then
    let (minor, next) ← readVersionNumber (next.skip 1)
    return (.version major minor, next)
  else none

/-- Handle and start of tags in a directive. -/
def readTagHandle (c : Cursor) : Option (Token × Cursor) := do
  let (handle, next) ← readHandle (c.skipWhile isBlank)
  if handle != ['!'] && !isFullHandle handle then none
  else if !next.peek.any isBlank then none
  else
    let (full, next) ← readTagRest true [] (next.skipWhile isBlank)
    if next.isSpaceAt 0 then return (.tagHandle (String.ofList handle) full, next) else none

/-- A directive with the rest of its line. -/
def readDirective (c : Cursor) : Option (Token × Cursor) := do
  let (name, next) := (c.skip 1).takeWhile isNameChar
  if !next.isSpaceAt 0 then none
  else
    let (token, next) ←
      if name == "YAML".toList then readVersion next
      else if name == "TAG".toList then readTagHandle next
      else none
    return (token, ← next.endLine?)

end ImageCatalog.Yaml
