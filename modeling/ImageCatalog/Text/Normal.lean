import ImageCatalog.Text.Normal.Table

/-!
# The composed normal form

Texts that look alike may be written with other characters. `Text.compose` brings them into the
normal form C of Unicode: everything is decomposed, marks are put into the order of their
combining classes, and what can be composed is composed again.
-/

namespace ImageCatalog.Text

def compositeRows : Array (List Nat) :=
  (hexRows composites).map fun
    | c :: parts => c :: c :: parts
    | [] => []

def singletonRows : Array (List Nat) :=
  (hexRows singletons).map fun
    | c :: parts => c :: c :: parts
    | [] => []

def combiningRows : Array (List Nat) :=
  hexRows combiningClasses

/-- The composites by their parts: the number of the pair, twice, and the composite. -/
def pairRows : Array (List Nat) :=
  let rows := (hexRows composites).toList.filterMap fun
    | [c, a, b] => some [a * 0x200000 + b, a * 0x200000 + b, c]
    | _ => none
  (rows.mergeSort fun r s => rowStart r ≤ rowStart s).toArray

/-- The combining class of a code point. -/
def combiningClass (n : Nat) : Nat :=
  match findRow? combiningRows n with
  | some [_, _, k] => k
  | _ => 0

/-- The full decomposition of a code point, by the rows that the two functions find for it. A
syllable of Hangul is computed; composites nest at most four deep. -/
def decomposeBy (composite? singleton? : Nat → Option (List Nat)) : (depth : Nat) → Nat → List Nat
  | 0, n => [n]
  | depth + 1, n =>
    if 0xAC00 ≤ n && n < 0xAC00 + 11172 then
      let s := n - 0xAC00
      let final := if s % 28 = 0 then [] else [0x11A7 + s % 28]
      [0x1100 + s / 588, 0x1161 + s % 588 / 28] ++ final
    else
      match composite? n with
      | some [_, _, a, b] => decomposeBy composite? singleton? depth a ++ [b]
      | _ =>
        match singleton? n with
        | some (_ :: _ :: parts) => parts
        | _ => [n]

/-- The full decomposition of a code point. -/
def decompose (depth n : Nat) : List Nat :=
  decomposeBy (findRow? compositeRows) (findRow? singletonRows) depth n

/-- Marks, given latest first, in the order of their classes, marks of one class in their order. -/
def sortMarks (marks : List Nat) : List Nat :=
  marks.reverse.mergeSort fun a b => combiningClass a ≤ combiningClass b

/-- Puts each run of marks into order. `marks` are those since the last starter, latest first. -/
def orderMarksFrom (marks : List Nat) : List Nat → List Nat
  | [] => sortMarks marks
  | n :: rest =>
    if combiningClass n = 0 then sortMarks marks ++ n :: orderMarksFrom [] rest
    else orderMarksFrom (n :: marks) rest

/-- Puts each run of marks into order. -/
def orderMarks (s : List Nat) : List Nat :=
  orderMarksFrom [] s

/-- The composite of two code points. -/
def composePair? (a b : Nat) : Option Nat :=
  if 0x1100 ≤ a && a < 0x1113 && 0x1161 ≤ b && b < 0x1176 then
    some (0xAC00 + ((a - 0x1100) * 21 + (b - 0x1161)) * 28)
  else if 0xAC00 ≤ a && a < 0xAC00 + 11172 && (a - 0xAC00) % 28 = 0 && 0x11A8 ≤ b && b < 0x11C3 then
    some (a + (b - 0x11A7))
  else
    match findRow? pairRows (a * 0x200000 + b) with
    | some [_, _, c] => some c
    | _ => none

/-- Composes a starter with the marks after it. `held` are the marks that stay, latest first, and
`block` is the class of the latest. -/
def composeFrom (starter : Nat) (held : List Nat) (block : Nat) : List Nat → List Nat
  | [] => starter :: held.reverse
  | n :: rest =>
    let k := combiningClass n
    let free := held.isEmpty || block < k
    match if free then composePair? starter n else none with
    | some c => composeFrom c held block rest
    | none =>
      if k = 0 then starter :: held.reverse ++ composeFrom n [] 0 rest
      else composeFrom starter (n :: held) k rest

/-- Composes what can be composed. -/
def composeAll : List Nat → List Nat
  | [] => []
  | n :: rest => if combiningClass n = 0 then composeFrom n [] 0 rest else n :: composeAll rest

/-- The composed normal form. -/
def compose (s : List Char) : List Char :=
  (composeAll (orderMarks (s.flatMap fun c => decompose 4 c.toNat))).map Char.ofNat

end ImageCatalog.Text
