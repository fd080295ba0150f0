import ImageCatalog.Text.Decimal

/-!
# Names

Image names and consumer identifiers obey the same rule: one to 253 bytes of lower-case ASCII
letters, digits, hyphens and dots, with a letter or digit at both ends.

## Main definitions

* `Name.fault?` — what is wrong with a text as a name.
* `Name.shorten` — the form of a name in error messages.
-/

namespace ImageCatalog.Name

/-- What is wrong with a text as a name. -/
inductive Fault where
  | empty
  | tooLong
  | badCharacter
  | badEnd
deriving DecidableEq, Repr

/-- The longest name, in bytes. -/
def maxLength : Nat := 253

def Fault.message : Fault → String
  | .empty => "empty"
  | .tooLong => "exceeds maximum length of 253 bytes"
  | .badCharacter => "contains invalid characters"
  | .badEnd => "must start and end with an alphanumeric character"

/-- A lower-case letter or a digit. -/
def isLowerOrDigit (c : Char) : Bool :=
  ('a' ≤ c && c ≤ 'z') || ('0' ≤ c && c ≤ '9')

/-- The characters of names. -/
def isNameChar (c : Char) : Bool :=
  isLowerOrDigit c || c == '-' || c == '.'

/-- The first rule that a text breaks, in the order length, characters, ends. -/
def fault? (s : String) : Option Fault :=
  let cs := s.toList
  if cs.isEmpty then some .empty
  else if maxLength < s.utf8ByteSize then some .tooLong
  else if !cs.all isNameChar then some .badCharacter
  else if !(cs.head?.any isLowerOrDigit && cs.getLast?.any isLowerOrDigit) then some .badEnd
  else none

/-- A text of at most 50 bytes, or the first 50 characters of a longer one and three dots. -/
def shorten (s : String) : String :=
  if 50 < s.utf8ByteSize then String.ofList (s.toList.take 50 ++ ['.', '.', '.']) else s

end ImageCatalog.Name
