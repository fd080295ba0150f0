/-!
# Punycode

The encoding of labels of domain names by letters, digits and hyphens: the ASCII characters of a
label, a hyphen, and then, in ascending order, each other character as a variable-length number
that tells how far it is from the one before it.
-/

namespace ImageCatalog.Domain

/-- The largest code point. -/
def maxCode : Nat := 0x10FFFF

/-- A digit of base 36: `a` to `z`, then `0` to `9`. -/
def punyDigit (n : Nat) : Char :=
  if n < 26 then Char.ofNat (97 + n) else Char.ofNat (22 + n)

/-- The value of a digit of base 36. -/
def punyValue? (c : Char) : Option Nat :=
  if 'a' ≤ c && c ≤ 'z' then some (c.toNat - 97)
  else if 'A' ≤ c && c ≤ 'Z' then some (c.toNat - 65)
  else if '0' ≤ c && c ≤ '9' then some (c.toNat - 22)
  else none

/-- The threshold of the digit at a place. -/
def threshold (place bias : Nat) : Nat :=
  if place ≤ bias then 1 else if bias + 26 ≤ place then 26 else place - bias

/-- Divides by 35 until the number is small; gives it, and 36 for each division. -/
def shrink (delta : Nat) : Nat × Nat :=
  if 455 < delta then
    let (small, steps) := shrink (delta / 35)
    (small, steps + 36)
  else (delta, 0)
termination_by delta

/-- The bias after a number. -/
def adapt (delta count : Nat) (first : Bool) : Nat :=
  let delta := if first then delta / 700 else delta / 2
  let (small, steps) := shrink (delta + delta / count)
  steps + 36 * small / (small + 38)

/-- A number as digits with thresholds. -/
def punyNumber (bias : Nat) : (fuel place n : Nat) → List Char
  | 0, _, _ => []
  | fuel + 1, place, n =>
    let t := threshold place bias
    if n < t then [punyDigit n]
    else
      punyDigit (t + (n - t) % (36 - t)) ::
        punyNumber bias fuel (place + 36) ((n - t) / (36 - t))

/-- The state of an encoder: the digits so far, the distance to the last character that was
written, the bias, and how many characters are written. -/
structure Encoder where
  digits : List Char
  delta : Nat
  bias : Nat
  handled : Nat

/-- Goes over the label once and writes the characters with code point `code`. -/
def encodeCode (basic code : Nat) (label : List Nat) (e : Encoder) : Encoder :=
  let e := label.foldl
    (fun e c =>
      if c < code then { e with delta := e.delta + 1 }
      else if c = code then
        { digits := e.digits ++ punyNumber e.bias 64 36 e.delta
          delta := 0
          bias := adapt e.delta (e.handled + 1) (e.handled == basic)
          handled := e.handled + 1 }
      else e)
    e
  { e with delta := e.delta + 1 }

/-- Writes the characters of the given code points, in ascending order. -/
def encodeCodes (basic : Nat) (label : List Nat) : (last : Nat) → List Nat → Encoder → Encoder
  | _, [], e => e
  | last, code :: codes, e =>
    let e := { e with delta := e.delta + (code - last) * (e.handled + 1) }
    encodeCodes basic label (code + 1) codes (encodeCode basic code label e)

/-- The encoding of a label. -/
def encodeLabel (label : List Char) : List Char :=
  let basic := label.filter fun c => c.toNat < 128
  let codes := label.map Char.toNat
  let others := ((codes.filter fun n => 128 ≤ n).mergeSort (· ≤ ·)).eraseDups
  let start := if basic.isEmpty then [] else basic ++ ['-']
  start ++ (encodeCodes basic.length codes 128 others ⟨[], 0, 72, basic.length⟩).digits

/-- A number, the rest of the digits, and whether the digits were enough. -/
def readPunyNumber (bias : Nat) :
    (place weight total : Nat) → List Char → Option (Nat × List Char)
  | _, _, _, [] => none
  | place, weight, total, c :: rest => do
    let d ← punyValue? c
    let total := total + d * weight
    if UInt32.size ≤ total then none
    else
      let t := threshold place bias
      if d < t then some (total, rest)
      else
        let weight := weight * (36 - t)
        if UInt32.size ≤ weight then none else readPunyNumber bias (place + 36) weight total rest

/-- Puts the characters that the digits tell into the label. `code` and `index` are where the last
one was put. -/
def decodeCodes : (fuel code index bias : Nat) → (label digits : List Char) → Option (List Char)
  | 0, _, _, _, _, _ => none
  | _ + 1, _, _, _, label, [] => some label
  | fuel + 1, code, index, bias, label, digits => do
    let (distance, rest) ← readPunyNumber bias 36 1 0 digits
    let count := label.length + 1
    let code := code + (index + distance) / count
    let place := (index + distance) % count
    if maxCode < code || (0xD800 ≤ code && code < 0xE000) then none
    else
      decodeCodes fuel code (place + 1) (adapt distance count (index == 0))
        (label.take place ++ Char.ofNat code :: label.drop place) rest

/-- The label with a given encoding. What stands before the last hyphen is taken as it is. -/
def decodeLabel? (s : List Char) : Option (List Char) :=
  let tail := (s.reverse.takeWhile (· != '-')).reverse
  let front := s.take (s.length - tail.length - 1)
  if tail.length = s.length then decodeCodes (s.length + 1) 128 0 72 [] s
  else if front.isEmpty then none
  else decodeCodes (s.length + 1) 128 0 72 front tail

end ImageCatalog.Domain
