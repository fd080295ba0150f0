import ImageCatalog.Json.Basic
import ImageCatalog.Text.Decimal

/-!
# Writing JSON

Two layouts: compact, without any blanks, and pretty, with one item or member a line and two
blanks of indentation a level. Both escape the same characters: quote, backslash and the control
characters below U+0020, the common ones by their letters.
-/

namespace ImageCatalog.Json

/-- A hexadecimal digit, in lower case. -/
def hexDigit (n : Nat) : Char :=
  if n < 10 then Char.ofNat (48 + n) else Char.ofNat (87 + n)

/-- A character within a string. -/
def escape (c : Char) : List Char :=
  if c = '"' then ['\\', '"']
  else if c = '\\' then ['\\', '\\']
  else if c = '\n' then ['\\', 'n']
  else if c = '\r' then ['\\', 'r']
  else if c = '\t' then ['\\', 't']
  else if c = '\x08' then ['\\', 'b']
  else if c = '\x0c' then ['\\', 'f']
  else if c.toNat < 32 then ['\\', 'u', '0', '0', hexDigit (c.toNat / 16), hexDigit (c.toNat % 16)]
  else [c]

/-- A string with its quotes. -/
def quote (s : String) : List Char :=
  '"' :: s.toList.flatMap escape ++ ['"']

/-- A string that may be ill formed; the text of such a one is lost. -/
def quote? (s : Option String) : List Char :=
  quote (s.getD "")

/-- The number `n`. -/
def nat (n : Nat) : Json :=
  .number (Text.digits n)

mutual

/-- The compact layout. -/
def compactChars : Json → List Char
  | .null => ['n', 'u', 'l', 'l']
  | .bool true => ['t', 'r', 'u', 'e']
  | .bool false => ['f', 'a', 'l', 's', 'e']
  | .number literal => literal
  | .string s => quote? s
  | .array items => '[' :: compactItems items
  | .object members => '\x7b' :: compactMembers members

/-- The items of an array, with the closing bracket. -/
def compactItems : List Json → List Char
  | [] => [']']
  | [v] => compactChars v ++ [']']
  | v :: rest => compactChars v ++ ',' :: compactItems rest

/-- The members of an object, with the closing brace. -/
def compactMembers : List (Option String × Json) → List Char
  | [] => ['\x7d']
  | [(k, v)] => quote? k ++ ':' :: compactChars v ++ ['\x7d']
  | (k, v) :: rest => quote? k ++ ':' :: compactChars v ++ ',' :: compactMembers rest

end

/-- A new line at a level of indentation. -/
def newline (level : Nat) : List Char :=
  '\n' :: List.replicate (2 * level) ' '

mutual

/-- The pretty layout of a value at a level of indentation. -/
def prettyChars (level : Nat) : Json → List Char
  | .null => ['n', 'u', 'l', 'l']
  | .bool true => ['t', 'r', 'u', 'e']
  | .bool false => ['f', 'a', 'l', 's', 'e']
  | .number literal => literal
  | .string s => quote? s
  | .array [] => ['[', ']']
  | .array (v :: rest) => '[' :: newline (level + 1) ++ prettyItems level (v :: rest)
  | .object [] => ['\x7b', '\x7d']
  | .object (m :: rest) => '\x7b' :: newline (level + 1) ++ prettyMembers level (m :: rest)

/-- The items of an array at `level`, with the closing bracket. -/
def prettyItems (level : Nat) : List Json → List Char
  | [] => newline level ++ [']']
  | [v] => prettyChars (level + 1) v ++ newline level ++ [']']
  | v :: rest => prettyChars (level + 1) v ++ ',' :: newline (level + 1) ++ prettyItems level rest

/-- The members of an object at `level`, with the closing brace. -/
def prettyMembers (level : Nat) : List (Option String × Json) → List Char
  | [] => newline level ++ ['\x7d']
  | [(k, v)] => quote? k ++ ':' :: ' ' :: prettyChars (level + 1) v ++ newline level ++ ['\x7d']
  | (k, v) :: rest =>
    quote? k ++ ':' :: ' ' :: prettyChars (level + 1) v ++ ',' :: newline (level + 1) ++
      prettyMembers level rest

end

/-- The compact text of a value. -/
def compact (v : Json) : String :=
  String.ofList v.compactChars

/-- The pretty text of a value. -/
def pretty (v : Json) : String :=
  String.ofList (v.prettyChars 0)

end ImageCatalog.Json
