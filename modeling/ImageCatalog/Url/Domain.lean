import ImageCatalog.Text.Normal
import ImageCatalog.Url.Domain.Direction
import ImageCatalog.Url.Domain.Mapping
import ImageCatalog.Url.Domain.Punycode

/-!
# Domain names

The ASCII form of a domain name: characters are mapped and composed, each label is checked, and a
label with other characters than ASCII is encoded as Punycode behind `xn--`. Names of plain ASCII,
by far the most, only have their letters lowered.

## Main definitions

* `Domain.toAscii?` — the ASCII form of a name, if it has one.
-/

namespace ImageCatalog.Domain

/-- The ASCII characters that no name may hold. -/
def isForbidden (c : Char) : Bool :=
  c.toNat ≤ 0x20 || c == '#' || c == '/' || c == ':' || c == '<' || c == '>' || c == '?' ||
    c == '@' || c == '[' || c == '\\' || c == ']' || c == '^' || c == '|' || c == '%' ||
    c.toNat == 0x7F

def isAscii (c : Char) : Bool :=
  c.toNat < 128

/-- A letter in lower case. -/
def lowerChar (c : Char) : Char :=
  if 'A' ≤ c && c ≤ 'Z' then Char.ofNat (c.toNat + 32) else c

/-- The mark in front of encoded labels. -/
def encodedMark : List Char := ['x', 'n', '-', '-']

/-- The labels of a name. -/
def labels (name : List Char) : List (List Char) :=
  Text.splitAtChar '.' name

/-- Maps and composes. -/
def mapped? (name : List Char) : Option (List Char) := do
  let parts ← name.mapM fun c => if isAscii c then some [lowerChar c] else mapChar? c
  return Text.compose parts.flatten

/-- A non-joiner or joiner stands after a virama; a non-joiner may also stand between letters that
join. `before` is the label up to it, latest first. -/
def joinersFit (before : List Char) : List Char → Bool
  | [] => true
  | c :: rest =>
    let afterVirama := before.head?.any fun b => Text.combiningClass b.toNat == 9
    let isTransparent (c : Char) := isMark c
    let between :=
      ((before.dropWhile isTransparent).head?.any joinsBoth) &&
        ((rest.dropWhile isTransparent).head?.any fun d => joinsBoth d || joinsBefore d)
    let fits :=
      if c.toNat == 0x200C then afterVirama || between
      else if c.toNat == 0x200D then afterVirama
      else true
    fits && joinersFit (c :: before) rest

/-- Whether a label beyond ASCII may stand in a name: it is mapped and composed already, does not
start with a mark, and its joiners fit. -/
def isLabel (label : List Char) : Bool :=
  mapped? label == some label && !label.contains '.' && !(label.head?.any isMark) &&
    joinersFit [] label

/-- A name with a character that runs from right to left. -/
def isBidirectional (name : List Char) : Bool :=
  name.any fun c =>
    let d := direction c
    d == .right || d == .arabicLetter || d == .arabicNumber

/-- The rule for labels of a bidirectional name: one direction, which the first character sets, and
a letter or number at the end, apart from marks. -/
def keepsDirection (label : List Char) : Bool :=
  let ds := label.map direction
  let final := (ds.reverse.dropWhile (· == .nonspacingMark)).head?
  let neutral (d : Direction) :=
    d == .europeanNumber || d == .europeanSeparator || d == .commonSeparator ||
      d == .europeanTerminator || d == .otherNeutral || d == .boundaryNeutral ||
      d == .nonspacingMark
  match ds.head? with
  | none => true
  | some .left =>
    ds.all (fun d => d == .left || neutral d) &&
      (final == some .left || final == some .europeanNumber)
  | some .right | some .arabicLetter =>
    ds.all (fun d => d == .right || d == .arabicLetter || d == .arabicNumber || neutral d) &&
      (final == some .right || final == some .arabicLetter || final == some .europeanNumber ||
        final == some .arabicNumber) &&
      !(ds.contains .europeanNumber && ds.contains .arabicNumber)
  | _ => false

/-- A label with encoded ones decoded. An encoded label has to hold what ASCII cannot. -/
def decodedLabel? (label : List Char) : Option (List Char) :=
  if encodedMark.isPrefixOf label then
    match decodeLabel? (label.drop 4) with
    | some decoded => if decoded.all isAscii || !isLabel decoded then none else some decoded
    | none => none
  else if label.all isAscii then some label
  else if isLabel label then some label
  else none

/-- A label in ASCII. -/
def encodedLabel (label : List Char) : List Char :=
  if label.all isAscii then label else encodedMark ++ encodeLabel label

/-- The ASCII form of any name. -/
def generalAscii? (name : List Char) : Option (List Char) := do
  let decoded ← (labels (← mapped? name)).mapM decodedLabel?
  if isBidirectional decoded.flatten && !decoded.all keepsDirection then none
  else if decoded.flatten.any isForbidden then none
  else return (['.'].intercalate (decoded.map encodedLabel))

/-- A name of ASCII characters without encoded labels. -/
def isPlain (name : List Char) : Bool :=
  name.all isAscii && !(labels (name.map lowerChar)).any encodedMark.isPrefixOf

/-- The ASCII form of a name. -/
def toAscii? (name : List Char) : Option (List Char) :=
  if isPlain name then
    if name.any isForbidden then none else some (name.map lowerChar)
  else generalAscii? name

end ImageCatalog.Domain
