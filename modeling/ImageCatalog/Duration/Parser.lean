import ImageCatalog.Failure
import ImageCatalog.Text.Blank

/-!
# Durations from text

A written duration is a whole number and at most one letter for its unit: `90`, `90s`, `15m`, `24h`
or `7d`. Blanks around it and a plus sign in front of the number are allowed. Number and seconds
both have to stay below 2^64.

## Main definitions

* `Duration.parse` — reads a duration, or says what is wrong with the text.
* `Duration.ofText` — reads a duration, or fails with the text.
-/

namespace ImageCatalog.Duration

/-- What is wrong with a text as a duration. -/
inductive Fault where
  | empty
  | notWhole
  | badUnit
  | tooLarge
deriving DecidableEq, Repr

def Fault.message : Fault → String
  | .empty => "empty"
  | .notWhole => "expected a whole number"
  | .badUnit => "unit must be one of s, m, h, d"
  | .tooLarge => "too large"

/-- A text that is no duration. -/
def Fault.toFailure (text : String) (fault : Fault) : Failure :=
  .invalidDuration text fault.message

/-- An ASCII letter, which can only be a unit. -/
def isLetter (c : Char) : Bool :=
  ('a' ≤ c && c ≤ 'z') || ('A' ≤ c && c ≤ 'Z')

/-- A text without its last character if that is a letter, and that letter. -/
def splitUnit (s : List Char) : List Char × Option Char :=
  match s.getLast? with
  | some c => if isLetter c then (s.dropLast, some c) else (s, none)
  | none => (s, none)

/-- A whole number below 2^64, with a plus sign or without. -/
def wholeNumber? (s : List Char) : Option Nat := do
  let n ← Text.value? (match s with | '+' :: rest => rest | _ => s)
  if n < UInt64.size then some n else none

/-- The seconds in a unit. -/
def unitSeconds? : Option Char → Option Nat
  | none => some 1
  | some c =>
    if c = 's' then some 1
    else if c = 'm' then some 60
    else if c = 'h' then some 3600
    else if c = 'd' then some 86400
    else none

/-- Reads a duration. -/
def parse (s : String) : Except Fault Duration :=
  let trimmed := Text.trim s.toList
  if trimmed.isEmpty then .error .empty
  else
    let (digits, unit) := splitUnit trimmed
    match wholeNumber? digits with
    | none => .error .notWhole
    | some n =>
      match unitSeconds? unit with
      | none => .error .badUnit
      | some m => if n * m < UInt64.size then .ok (ofSeconds (n * m)) else .error .tooLarge

/-- Reads a duration. The failure keeps the text as it was given, with the blanks around it. -/
def ofText (s : String) : Except Failure Duration :=
  (parse s).mapError (Fault.toFailure s)

end ImageCatalog.Duration
