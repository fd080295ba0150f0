import ImageCatalog.Duration.Parser
import ImageCatalog.Proofs.Text.Numeral
import Mathlib.Algebra.Group.Nat.Defs

/-!
# What a written duration is

A written duration is a numeral and at most one letter for its unit, with any blanks around it. The
grammar is said here by its parts, without a word on how they are found. `Duration.parse` finds them
from the ends: it trims the blanks, takes a letter off the end, and a plus sign off the front. The
two agree because none of the parts in between begins or ends with what is taken off around it.

## Main definitions

* `Duration.IsNumeral`, `Duration.IsUnit`, `Duration.IsWritten` — the grammar

## Main results

* `Text.exists_of_trim`, `Text.trim_append` — a text between blanks
* `Duration.parse_eq_ok_iff` — the texts that are read, and as what
* `Duration.ofText_reads_written` — the same with the failure for all other texts
-/

namespace ImageCatalog

/-! ### Blanks around a text -/

namespace Text

theorem exists_of_trimLeft (s : List Char) :
    ∃ front, s = front ++ trimLeft s ∧ ∀ c ∈ front, isBlank c :=
  ⟨s.takeWhile isBlank, List.takeWhile_append_dropWhile.symm,
    fun _ hc => List.all_eq_true.1 List.all_takeWhile _ hc⟩

theorem exists_of_trimRight (s : List Char) :
    ∃ back, s = trimRight s ++ back ∧ ∀ c ∈ back, isBlank c := by
  obtain ⟨front, hs, hfront⟩ := exists_of_trimLeft s.reverse
  refine ⟨front.reverse, ?_, fun c hc => hfront c (List.mem_reverse.1 hc)⟩
  have hrev := congrArg List.reverse hs
  rwa [List.reverse_reverse, List.reverse_append] at hrev

/-- A text is what is left of it between blanks. -/
theorem exists_of_trim (s : List Char) :
    ∃ front back, s = front ++ trim s ++ back ∧ (∀ c ∈ front, isBlank c) ∧
      ∀ c ∈ back, isBlank c := by
  obtain ⟨front, hs, hfront⟩ := exists_of_trimLeft s
  obtain ⟨back, ht, hback⟩ := exists_of_trimRight (trimLeft s)
  refine ⟨front, back, ?_, hfront, hback⟩
  rw [trim, List.append_assoc, ← ht]
  exact hs

theorem trimLeft_append {front t : List Char} (hfront : ∀ c ∈ front, isBlank c)
    (ht : ∀ c ∈ t.head?, isBlank c = false) : trimLeft (front ++ t) = t := by
  rw [trimLeft, List.dropWhile_append_of_pos hfront]
  cases t with
  | nil => rfl
  | cons c t => rw [List.dropWhile_cons_of_neg (by simp [ht c rfl])]

theorem trimRight_append {t back : List Char} (hback : ∀ c ∈ back, isBlank c)
    (ht : ∀ c ∈ t.getLast?, isBlank c = false) : trimRight (t ++ back) = t := by
  have hleft : trimLeft (back.reverse ++ t.reverse) = t.reverse :=
    trimLeft_append (fun c hc => hback c (List.mem_reverse.1 hc)) (by rwa [List.head?_reverse])
  rw [trimLeft] at hleft
  rw [trimRight, List.reverse_append, hleft, List.reverse_reverse]

/-- Blanks around a text that has none at its ends are trimmed. -/
theorem trim_append {front t back : List Char} (hfront : ∀ c ∈ front, isBlank c)
    (hback : ∀ c ∈ back, isBlank c) (hhead : ∀ c ∈ t.head?, isBlank c = false)
    (hlast : ∀ c ∈ t.getLast?, isBlank c = false) (hne : t ≠ []) :
    trim (front ++ t ++ back) = t := by
  obtain ⟨c, t, rfl⟩ := List.exists_cons_of_ne_nil hne
  have hleft : trimLeft (front ++ ((c :: t) ++ back)) = (c :: t) ++ back :=
    trimLeft_append hfront hhead
  rw [trim, List.append_assoc, hleft, trimRight_append hback hlast]

theorem value?_eq_some_iff {s : List Char} {n : Nat} :
    value? s = some n ↔ s ≠ [] ∧ (∀ c ∈ s, isDigit c) ∧ value s = n := by
  cases s <;> simp [value?]

end Text

/-! ### The grammar -/

namespace Duration

/-- A numeral of `n`: one or more digits, with a plus sign in front or without. -/
inductive IsNumeral : List Char → Nat → Prop where
  | plain {ds : List Char} : ds ≠ [] → (∀ c ∈ ds, Text.isDigit c) → IsNumeral ds (Text.value ds)
  | signed {ds : List Char} : ds ≠ [] → (∀ c ∈ ds, Text.isDigit c) →
    IsNumeral ('+' :: ds) (Text.value ds)

/-- At most one letter, and the seconds in the unit that it stands for. -/
inductive IsUnit : List Char → Nat → Prop where
  | unnamed : IsUnit [] 1
  | second : IsUnit ['s'] 1
  | minute : IsUnit ['m'] 60
  | hour : IsUnit ['h'] 3600
  | day : IsUnit ['d'] 86400

/-- A numeral of `n` and a unit of `m` seconds, with blanks around them. -/
def IsWritten (s : String) (n m : Nat) : Prop :=
  ∃ front number unit back, s.toList = front ++ (number ++ unit) ++ back ∧
    (∀ c ∈ front, Text.isBlank c) ∧ (∀ c ∈ back, Text.isBlank c) ∧
      IsNumeral number n ∧ IsUnit unit m

section Numeral

variable {s : List Char} {n : Nat}

theorem IsNumeral.ne_nil (h : IsNumeral s n) : s ≠ [] := by
  cases h with
  | plain hne _ => exact hne
  | signed => exact List.cons_ne_nil _ _

theorem IsNumeral.head?_isBlank (h : IsNumeral s n) : ∀ c ∈ s.head?, Text.isBlank c = false := by
  intro c hc
  cases h with
  | plain _ hdigits => exact Text.isBlank_of_isDigit (hdigits c (List.mem_of_head? hc))
  | signed =>
    obtain rfl := Option.some.inj hc
    decide

/-- A numeral ends with a digit. -/
theorem IsNumeral.getLast?_isDigit (h : IsNumeral s n) : ∀ c ∈ s.getLast?, Text.isDigit c := by
  intro c hc
  cases h with
  | plain _ hdigits => exact hdigits c (List.mem_of_getLast? hc)
  | @signed ds hne hdigits =>
    rw [List.getLast?_cons_of_ne_nil hne] at hc
    exact hdigits c (List.mem_of_getLast? hc)

/-- The one plus sign that may be in front is taken off. -/
theorem wholeNumber?_eq (s : List Char) :
    wholeNumber? s = (Text.value? (if s.head? = some '+' then s.tail else s)).bind fun n =>
      if n < UInt64.size then some n else none := by
  unfold wholeNumber?
  split
  · rfl
  · rename_i hplain
    rw [if_neg]
    · rfl
    · intro hplus
      obtain ⟨rest, rfl⟩ := List.head?_eq_some_iff.1 hplus
      exact hplain rest rfl

theorem wholeNumber?_eq_some_iff :
    wholeNumber? s = some n ↔ IsNumeral s n ∧ n < UInt64.size := by
  rw [wholeNumber?_eq]
  constructor
  · intro h
    simp only [Option.bind_eq_some_iff, Option.ite_none_right_eq_some, Option.some.injEq] at h
    obtain ⟨k, hk, hsize, rfl⟩ := h
    split at hk
    · rename_i hplus
      obtain ⟨rest, rfl⟩ := List.head?_eq_some_iff.1 hplus
      obtain ⟨hne, hdigits, rfl⟩ := Text.value?_eq_some_iff.1 hk
      exact ⟨.signed hne hdigits, hsize⟩
    · obtain ⟨hne, hdigits, rfl⟩ := Text.value?_eq_some_iff.1 hk
      exact ⟨.plain hne hdigits, hsize⟩
  · rintro ⟨h, hsize⟩
    cases h with
    | plain hne hdigits =>
      have hplain : s.head? ≠ some '+' := fun hplus =>
        absurd (hdigits '+' (List.mem_of_head? hplus)) (by decide)
      rw [if_neg hplain, Text.value?_eq_some_iff.2 ⟨hne, hdigits, rfl⟩, Option.bind_some,
        if_pos hsize]
    | @signed ds hne hdigits =>
      have hplus : ('+' :: ds).head? = some '+' := rfl
      rw [if_pos hplus, List.tail_cons, Text.value?_eq_some_iff.2 ⟨hne, hdigits, rfl⟩,
        Option.bind_some, if_pos hsize]

end Numeral

section Unit

variable {unit : List Char} {m : Nat}

theorem unitSeconds?_eq_some_iff {letter : Option Char} :
    unitSeconds? letter = some m ↔ IsUnit letter.toList m := by
  constructor
  · intro h
    cases letter with
    | none =>
      obtain rfl := Option.some.inj h
      exact .unnamed
    | some c =>
      simp only [unitSeconds?] at h
      split at h
      · rename_i hc
        obtain rfl := Option.some.inj h
        exact hc ▸ .second
      split at h
      · rename_i hc
        obtain rfl := Option.some.inj h
        exact hc ▸ .minute
      split at h
      · rename_i hc
        obtain rfl := Option.some.inj h
        exact hc ▸ .hour
      split at h
      · rename_i hc
        obtain rfl := Option.some.inj h
        exact hc ▸ .day
      · cases h
  · intro h
    cases letter with
    | none => cases h; rfl
    | some c => cases h <;> rfl

/-- A letter for a unit is a letter, so it is not a blank. -/
theorem IsUnit.isLetter (h : IsUnit unit m) :
    unit = [] ∨ ∃ c, unit = [c] ∧ isLetter c = true ∧ Text.isBlank c = false := by
  cases h with
  | unnamed => exact .inl rfl
  | second | minute | hour | day => exact .inr ⟨_, rfl, by decide, by decide⟩

theorem isLetter_of_isDigit {c : Char} (h : Text.isDigit c = true) : isLetter c = false := by
  simp only [Text.isDigit, Bool.and_eq_true, decide_eq_true_eq, Char.le_def,
    UInt32.le_iff_toNat_le] at h
  have hhigh : c.val.toNat ≤ 57 := h.2
  have hlower : ¬ 'a' ≤ c := fun hle => absurd (UInt32.le_iff_toNat_le.1 hle)
    (Nat.not_le.2 (Nat.lt_of_le_of_lt hhigh (by decide)))
  have hupper : ¬ 'A' ≤ c := fun hle => absurd (UInt32.le_iff_toNat_le.1 hle)
    (Nat.not_le.2 (Nat.lt_of_le_of_lt hhigh (by decide)))
  simp [isLetter, hlower, hupper]

/-- Nothing of a text is lost. -/
theorem append_splitUnit (s : List Char) : (splitUnit s).1 ++ (splitUnit s).2.toList = s := by
  unfold splitUnit
  cases hlast : s.getLast? with
  | none => simp
  | some c =>
    dsimp only
    split
    · obtain ⟨front, rfl⟩ := List.getLast?_eq_some_iff.1 hlast
      simp
    · simp

/-- A numeral and a unit are told apart, since a numeral ends with a digit. -/
theorem splitUnit_append {number : List Char} {n : Nat} (hnumber : IsNumeral number n)
    (hunit : IsUnit unit m) : splitUnit (number ++ unit) = (number, unit.head?) := by
  rcases hunit.isLetter with rfl | ⟨c, rfl, hletter, -⟩
  · rw [List.append_nil, splitUnit]
    cases hlast : number.getLast? with
    | none => rfl
    | some c =>
      have hdigit := hnumber.getLast?_isDigit c hlast
      simp [isLetter_of_isDigit hdigit]
  · simp [splitUnit, hletter]

end Unit

/-! ### Reading -/

/-- There is no blank at the ends of a numeral with its unit. -/
theorem isBlank_ends {number unit : List Char} {n m : Nat} (hnumber : IsNumeral number n)
    (hunit : IsUnit unit m) :
    (∀ c ∈ (number ++ unit).head?, Text.isBlank c = false) ∧
      ∀ c ∈ (number ++ unit).getLast?, Text.isBlank c = false := by
  constructor
  · obtain ⟨c, number, rfl⟩ := List.exists_cons_of_ne_nil hnumber.ne_nil
    exact hnumber.head?_isBlank
  · rcases hunit.isLetter with rfl | ⟨c, rfl, -, hblank⟩
    · rw [List.append_nil]
      exact fun c hc => Text.isBlank_of_isDigit (hnumber.getLast?_isDigit c hc)
    · intro c' hc'
      rw [List.getLast?_concat] at hc'
      exact Option.some.inj hc' ▸ hblank

/-- **The texts that are read**, and as what. -/
theorem parse_eq_ok_iff (s : String) (d : Duration) :
    parse s = .ok d ↔
      ∃ n m, IsWritten s n m ∧ n < UInt64.size ∧ n * m < UInt64.size ∧ d = ofSeconds (n * m) := by
  constructor
  · intro h
    unfold parse at h
    dsimp only at h
    split at h
    · cases h
    split at h
    · cases h
    rename_i n hn
    split at h
    · cases h
    rename_i m hm
    split at h
    · rename_i hproduct
      obtain ⟨hnumber, hsize⟩ := wholeNumber?_eq_some_iff.1 hn
      obtain ⟨front, back, htext, hfront, hback⟩ := Text.exists_of_trim s.toList
      rw [← append_splitUnit (Text.trim s.toList)] at htext
      exact ⟨n, m, ⟨front, _, _, back, htext, hfront, hback, hnumber,
        unitSeconds?_eq_some_iff.1 hm⟩, hsize, hproduct, (Except.ok.inj h).symm⟩
    · cases h
  · rintro ⟨n, m, ⟨front, number, unit, back, htext, hfront, hback, hnumber, hunit⟩, hsize,
      hproduct, rfl⟩
    have hne : number ++ unit ≠ [] := List.append_ne_nil_of_left_ne_nil hnumber.ne_nil _
    obtain ⟨hhead, hlast⟩ := isBlank_ends hnumber hunit
    have htrim : Text.trim s.toList = number ++ unit := by
      rw [htext, Text.trim_append hfront hback hhead hlast hne]
    have hletter : unit.head?.toList = unit := by
      rcases hunit.isLetter with rfl | ⟨c, rfl, -⟩ <;> rfl
    have hseconds : unitSeconds? unit.head? = some m := by
      rw [unitSeconds?_eq_some_iff, hletter]
      exact hunit
    have hempty : (number ++ unit).isEmpty = false := List.isEmpty_eq_false_iff.2 hne
    simp only [parse, htrim, hempty, splitUnit_append hnumber hunit,
      wholeNumber?_eq_some_iff.2 ⟨hnumber, hsize⟩, hseconds, if_pos hproduct]
    rfl

/-- **A text is read as a duration if and only if it is written as one** with both the number and
the seconds below `2 ^ 64`, and then as so many seconds. Every other text is rejected, and the
failure keeps it as it was given. -/
theorem ofText_reads_written (s : String) :
    (∀ d, ofText s = .ok d ↔
      ∃ n m, IsWritten s n m ∧ n < 2 ^ 64 ∧ n * m < 2 ^ 64 ∧ d = ofSeconds (n * m)) ∧
    ((∃ d, ofText s = .ok d) ∨
      ∃ fault : Fault, ofText s = .error (.invalidDuration s fault.message)) := by
  constructor
  · intro d
    rw [show (2 : Nat) ^ 64 = UInt64.size from rfl, ← parse_eq_ok_iff, ofText]
    cases parse s with
    | ok d' =>
      exact ⟨fun h => congrArg _ (Except.ok.inj h), fun h => congrArg _ (Except.ok.inj h)⟩
    | error fault => exact ⟨fun h => (by cases h), fun h => (by cases h)⟩
  · rw [ofText]
    cases parse s with
    | ok d => exact .inl ⟨d, rfl⟩
    | error fault => exact .inr ⟨fault, rfl⟩

-- The last whole day below the limit, and the first one above it.
example : ofText " +213503982334601d\n" = .ok (.ofSeconds 18446744073709526400) := by rfl

example : ofText "213503982334602d" =
    .error (.invalidDuration "213503982334602d" "too large") := by rfl

end Duration

end ImageCatalog
