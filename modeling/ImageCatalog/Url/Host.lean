import ImageCatalog.Text.Decimal
import ImageCatalog.Url.Domain

/-!
# Hosts

The host of a web address: a domain name in its ASCII form, or a number of the Internet protocol,
version 4 or 6. A name whose last label is a number has to be a version 4 number.
-/

namespace ImageCatalog

/-- What is wrong with a text as a web address. -/
inductive Url.Fault where
  | noBase
  | emptyHost
  | badName
  | badPort
  | badIpv4
  | badIpv6
  | badHostCharacter
deriving DecidableEq, Repr

def Url.Fault.message : Url.Fault → String
  | noBase => "relative URL without a base"
  | emptyHost => "empty host"
  | badName => "invalid international domain name"
  | badPort => "invalid port number"
  | badIpv4 => "invalid IPv4 address"
  | badIpv6 => "invalid IPv6 address"
  | badHostCharacter => "invalid domain character"

/-- The host of a web address. -/
inductive Host where
  | name (ascii : List Char)
  | ipv4 (number : Nat)
  | ipv6 (pieces : List Nat)
deriving DecidableEq, Repr

namespace Host

/-- The value of a digit in a base up to sixteen. -/
def digitIn? (base : Nat) (c : Char) : Option Nat :=
  let n :=
    if '0' ≤ c && c ≤ '9' then c.toNat - 48
    else if 'a' ≤ c && c ≤ 'f' then c.toNat - 87
    else if 'A' ≤ c && c ≤ 'F' then c.toNat - 55
    else 16
  if n < base then some n else none

/-- The number written in a base; a text without digits is zero. -/
def numberIn? (base : Nat) (s : List Char) : Option Nat := do
  let ds ← s.mapM (digitIn? base)
  return ds.foldl (fun n d => base * n + d) 0

/-! ### Version 4 -/

/-- A part of a version 4 number: hexadecimal behind `0x`, octal behind `0`, else decimal. -/
def ipv4Part? : List Char → Option Nat
  | [] => none
  | '0' :: 'x' :: rest => numberIn? 16 rest
  | '0' :: 'X' :: rest => numberIn? 16 rest
  | '0' :: c :: rest => numberIn? 8 (c :: rest)
  | s => numberIn? 10 s

/-- The labels of a name without an empty one at the end. -/
def partsOf (name : List Char) : List (List Char) :=
  let parts := Text.splitAtChar '.' name
  if parts.getLast? == some [] then parts.dropLast else parts

/-- Whether a name has to be a version 4 number: its last label is one. -/
def endsInNumber (name : List Char) : Bool :=
  match (partsOf name).getLast? with
  | none => false
  | some part => (!part.isEmpty && part.all Text.isDigit) || (ipv4Part? part).isSome

/-- The number of parts. All but the last are bytes; the last fills what is left. -/
def joinIpv4 (numbers : List Nat) : Option Nat :=
  match numbers.getLast? with
  | none => none
  | some final =>
    let bytes := numbers.dropLast
    if Nat.pow 256 (4 - bytes.length) ≤ final || bytes.any (256 ≤ ·) then none
    else some ((bytes.foldl (fun n b => 256 * n + b) 0) * Nat.pow 256 (4 - bytes.length) + final)

/-- The version 4 number that a name is. -/
def ipv4? (name : List Char) : Option Nat := do
  let parts := partsOf name
  if 4 < parts.length then none
  else joinIpv4 (← parts.mapM ipv4Part?)

/-! ### Version 6 -/

/-- A version 4 number at the end of a version 6 one, as two pieces. -/
def embedded? (s : List Char) : Option (List Nat) := do
  let bytes ← (Text.splitAtChar '.' s).mapM fun part =>
    if part.isEmpty || 3 < part.length || (1 < part.length && part.head? == some '0') then none
    else do
      let n ← numberIn? 10 part
      if n < 256 then some n else none
  match bytes with
  | [a, b, c, d] => some [256 * a + b, 256 * c + d]
  | _ => none

/-- A piece of a version 6 number: one to four hexadecimal digits. -/
def ipv6Piece? (s : List Char) : Option Nat :=
  if s.isEmpty || 4 < s.length then none else numberIn? 16 s

/-- Pieces with colons between them, of which the last may be a version 4 number. -/
def ipv6Pieces? : List (List Char) → Option (List Nat)
  | [] => some []
  | [part] => if part.contains '.' then embedded? part else (ipv6Piece? part).map ([·])
  | part :: rest => do
    let n ← ipv6Piece? part
    return n :: (← ipv6Pieces? rest)

/-- Pieces with colons between them, or nothing. -/
def ipv6Side? (s : List Char) : Option (List Nat) :=
  if s.isEmpty then some [] else ipv6Pieces? (Text.splitAtChar ':' s)

/-- Splits a text at the first two colons in a row. -/
def splitDoubleColon : List Char → Option (List Char × List Char)
  | [] => none
  | ':' :: ':' :: rest => some ([], rest)
  | c :: rest => (splitDoubleColon rest).map fun (a, b) => (c :: a, b)

/-- The eight pieces of a version 6 number. Two colons in a row stand for one or more zeros. -/
def ipv6? (s : List Char) : Option (List Nat) :=
  match splitDoubleColon s with
  | none => do
    let pieces ← ipv6Side? s
    if pieces.length = 8 then some pieces else none
  | some (left, right) => do
    if left.contains '.' then none
    else
      let front ← ipv6Side? left
      let back ← ipv6Side? right
      if front.length + back.length < 8 then
        some (front ++ List.replicate (8 - front.length - back.length) 0 ++ back)
      else none

/-! ### Hosts from text -/

/-- The bytes of a text, with escapes of a percent sign and two digits replaced. -/
def percentDecode : List UInt8 → List UInt8
  | [] => []
  | 37 :: a :: b :: rest =>
    match digitIn? 16 (Char.ofNat a.toNat), digitIn? 16 (Char.ofNat b.toNat) with
    | some h, some l => UInt8.ofNat (16 * h + l) :: percentDecode rest
    | _, _ => 37 :: percentDecode (a :: b :: rest)
  | a :: rest => a :: percentDecode rest

/-- The name behind the escapes of a host. -/
def unescape? (s : List Char) : Option (List Char) :=
  if s.contains '%' then
    (String.fromUTF8? ⟨(percentDecode (String.ofList s).toUTF8.toList).toArray⟩).map String.toList
  else some s

/-- A version 6 number in brackets. -/
def bracketed (s : List Char) : Except Url.Fault Host :=
  if s.getLast? = some ']' then
    match ipv6? s.tail.dropLast with
    | some pieces => .ok (.ipv6 pieces)
    | none => .error .badIpv6
  else .error .badIpv6

/-- The host that a name in ASCII form stands for. -/
def ofAscii (name : List Char) : Except Url.Fault Host :=
  if name.isEmpty then .error .emptyHost
  else if endsInNumber name then
    match ipv4? name with
    | some n => .ok (.ipv4 n)
    | none => .error .badIpv4
  else .ok (.name name)

/-- The host of an address whose scheme knows domain names. -/
def ofText (s : List Char) : Except Url.Fault Host :=
  if s.head? = some '[' then bracketed s
  else
    match (unescape? s).bind Domain.toAscii? with
    | some ascii => ofAscii ascii
    | none => .error .badName

/-- The characters that no host may hold. -/
def isForbidden (c : Char) : Bool :=
  c.toNat == 0 || c == '\t' || c == '\n' || c == '\r' || c == ' ' || c == '#' || c == '/' ||
    c == ':' || c == '<' || c == '>' || c == '?' || c == '@' || c == '[' || c == '\\' || c == ']' ||
    c == '^' || c == '|'

/-- The host of an address of any other scheme, which is not looked into. -/
def ofOpaque (s : List Char) : Except Url.Fault Host :=
  if s.head? = some '[' then bracketed s
  else if s.any isForbidden then .error .badHostCharacter
  else .ok (.name s)

end Host

end ImageCatalog
