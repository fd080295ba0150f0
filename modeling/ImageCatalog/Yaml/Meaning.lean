import ImageCatalog.Text.Decimal
import ImageCatalog.Yaml.Node

/-!
# The meaning of scalars

What a scalar stands for by the core schema of YAML 1.2: nothing, a truth value, a number or a text.
A scalar in quotes is a text, and a tag of the schema decides by itself.

## Main definitions

* `Meaning.ofPlain` — what a plain scalar stands for.
* `Scalar.meaning?` — what any scalar stands for.
* `Scalar.isNull?` — whether a scalar stands for nothing, where a value is optional.
-/

namespace ImageCatalog.Yaml

/-- What a scalar stands for. -/
inductive Meaning where
  | null
  | bool (b : Bool)
  /-- A whole number from 0 to 2^64 - 1. -/
  | natural (n : Nat)
  /-- Any other number. -/
  | number
  | text (s : String)
deriving DecidableEq, Repr

namespace Meaning

/-- The words for nothing. -/
def isNullWord (s : String) : Bool :=
  s == "null" || s == "Null" || s == "NULL" || s == "~"

/-- The words for truth values. -/
def boolOfWord? (s : String) : Option Bool :=
  if s == "true" || s == "True" || s == "TRUE" then some true
  else if s == "false" || s == "False" || s == "FALSE" then some false
  else none

/-! ### Whole numbers -/

/-- A digit in a base up to sixteen. -/
def digitIn? (base : Nat) (c : Char) : Option Nat :=
  let n :=
    if Text.isDigit c then Text.digitValue c
    else if 'a' ≤ c && c ≤ 'f' then c.toNat - 87
    else if 'A' ≤ c && c ≤ 'F' then c.toNat - 55
    else base
  if n < base then some n else none

/-- The number that digits of a base stand for. -/
def wholeIn? (base : Nat) (ds : List Char) : Option Nat :=
  if ds.isEmpty then none
  else (ds.mapM (digitIn? base)).map fun digits => digits.foldl (fun n d => base * n + d) 0

/-- A text without one plus sign in front. -/
def withoutPlus : List Char → List Char
  | '+' :: rest => rest
  | s => s

def startsWithSign (s : List Char) : Bool :=
  s.head?.any fun c => c == '+' || c == '-'

/-- Digits behind a zero, with or without a sign in front, are no number. -/
def isPaddedDigits (s : List Char) : Bool :=
  let digits := if startsWithSign s then s.tail else s
  1 < digits.length && digits.head? == some '0' && digits.all Text.isDigit

/-- A number behind the mark of its base: `0x`, `0o` or `0b`. -/
def wholeMarked? : List Char → Option Nat
  | '0' :: 'x' :: ds => wholeIn? 16 ds
  | '0' :: 'o' :: ds => wholeIn? 8 ds
  | '0' :: 'b' :: ds => wholeIn? 2 ds
  | _ => none

/-- A whole number without a minus sign. -/
def unsigned? (s : List Char) : Option Nat :=
  let digits := withoutPlus s
  match wholeMarked? digits with
  | some n => some n
  | none => if isPaddedDigits s then none else wholeIn? 10 digits

/-- What is behind the minus sign of a whole number. -/
def negated? : List Char → Option Nat
  | '-' :: digits =>
    match wholeMarked? digits with
    | some n => some n
    | none => if isPaddedDigits ('-' :: digits) then none else wholeIn? 10 digits
  | _ => none

/-! ### Other numbers -/

/-- A decimal number: its digits without the point, and its exponent. -/
structure Decimal where
  digits : List Char
  exponent : Int

/-- The exponent behind its letter. -/
def exponent? (s : List Char) : Option Int :=
  match s with
  | '-' :: ds => (wholeIn? 10 ds).map fun n => -(n : Int)
  | '+' :: ds => (wholeIn? 10 ds).map fun n => (n : Int)
  | ds => (wholeIn? 10 ds).map fun n => (n : Int)

/-- A decimal number with a point or an exponent, or without, and with a digit at least. -/
def decimal? (s : List Char) : Option Decimal := do
  let whole := s.takeWhile Text.isDigit
  let (decimals, rest) :=
    match s.dropWhile Text.isDigit with
    | '.' :: more => (more.takeWhile Text.isDigit, more.dropWhile Text.isDigit)
    | rest => ([], rest)
  let digits := whole ++ decimals
  if digits.isEmpty then none
  else
    match rest with
    | [] => return ⟨digits, -(decimals.length : Int)⟩
    | c :: more =>
      if c == 'e' || c == 'E' then return ⟨digits, (← exponent? more) - decimals.length⟩ else none

/-- The least number that is too large for a number of 64 bits in floating point. -/
def floatBound : Nat := Nat.pow 2 1024 - Nat.pow 2 970

/-- Whether a decimal number is not too large for floating point. -/
def Decimal.isFinite (d : Decimal) : Bool :=
  let n := Text.value d.digits
  let size := (Text.digits n).length + d.exponent
  if n = 0 || size < 300 then true
  else if 320 < size then false
  else if 0 ≤ d.exponent then n * Nat.pow 10 d.exponent.toNat < floatBound
  else n < floatBound * Nat.pow 10 (-d.exponent).toNat

/-- The words for infinity. -/
def isInfinityWord (s : List Char) : Bool :=
  [".inf", ".Inf", ".INF"].contains (String.ofList s)

/-- The words for what is no number. -/
def isNanWord (s : List Char) : Bool :=
  [".nan", ".NaN", ".NAN"].contains (String.ofList s)

/-- A text without one minus sign in front. -/
def withoutMinus : List Char → List Char
  | '-' :: rest => rest
  | s => s

/-- Whether a text is a number in floating point. -/
def isFloat (s : List Char) : Bool :=
  let magnitude := withoutPlus s
  if s.head? == some '+' && startsWithSign magnitude then false
  else
    isInfinityWord magnitude || (s.head? == some '-' && isInfinityWord s.tail) || isNanWord s ||
      (decimal? (withoutMinus magnitude)).any Decimal.isFinite

/-! ### Plain scalars -/

/-- A text that is a whole number of up to 128 bits. Minus zero is zero. -/
def whole? (s : List Char) : Option Meaning :=
  match unsigned? s with
  | some n =>
    if n < UInt64.size then some (.natural n)
    else if n < Nat.pow 2 128 then some .number
    else none
  | none =>
    match negated? s with
    | some n =>
      if n = 0 then some (.natural 0) else if n ≤ Nat.pow 2 127 then some .number else none
    | none => none

/-- What a plain scalar stands for. -/
def ofPlain (s : String) : Meaning :=
  if s.isEmpty || isNullWord s then .null
  else
    match boolOfWord? s with
    | some b => .bool b
    | none =>
      match whole? s.toList with
      | some m => m
      | none => if !isPaddedDigits s.toList && isFloat s.toList then .number else .text s

end Meaning

namespace Scalar

/-- A tag of the core schema. -/
def coreTag (name : String) : String :=
  "tag:yaml.org,2002:" ++ name

/-- The name of a tag that is private to an application. -/
def privateTag? (tag : Option String) : Option String :=
  match tag.map String.toList with
  | some ('!' :: c :: rest) => some (String.ofList (c :: rest))
  | _ => none

/-- What a scalar stands for. A private tag, or one that does not fit, leaves none. -/
def meaning? (s : Scalar) : Option Meaning :=
  match s.tag with
  | none => some (if s.isPlain then .ofPlain s.text else .text s.text)
  | some tag =>
    if (privateTag? s.tag).isSome then none
    else if tag == coreTag "bool" then (Meaning.boolOfWord? s.text).map .bool
    else if tag == coreTag "int" then Meaning.whole? s.text.toList
    else if tag == coreTag "float" then
      if Meaning.isFloat s.text.toList then some .number else none
    else if tag == coreTag "null" then if Meaning.isNullWord s.text then some .null else none
    else some (.text s.text)

/-- Whether a scalar stands for nothing in place of an optional text. -/
def isNull? (s : Scalar) : Option Bool :=
  if !s.isPlain then some false
  else
    match s.tag with
    | none => some (s.text.isEmpty || Meaning.isNullWord s.text)
    | some tag =>
      if tag == coreTag "null" then if Meaning.isNullWord s.text then some true else none
      else some false

end Scalar

end ImageCatalog.Yaml
