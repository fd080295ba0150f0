import ImageCatalog.Text.Scan

/-!
# Numerals are read back

A numeral that is filled up with zeros has the width it was asked for and is read back as its
number, so readers of fixed width take exactly what the writers wrote.

## Main results

* `Text.value_padded`, `Text.length_padded` — the number and the width of a numeral
* `Text.Scan.number_padded` — a field of fixed width is read back
-/

namespace ImageCatalog.Text

/-! ### Digits -/

theorem isDigit_digit {n : Nat} (h : n < 10) : isDigit (digit n) = true := by
  have hall : ∀ m < 10, isDigit (digit m) = true := by decide
  exact hall n h

theorem digitValue_digit {n : Nat} (h : n < 10) : digitValue (digit n) = n := by
  have hall : ∀ m < 10, digitValue (digit m) = m := by decide
  exact hall n h

theorem isBlank_of_isDigit {c : Char} (h : isDigit c = true) : isBlank c = false := by
  simp only [isDigit, Bool.and_eq_true, decide_eq_true_eq, Char.le_def, UInt32.le_iff_toNat_le] at h
  have hlow : 48 ≤ c.toNat := h.1
  have hhigh : c.toNat ≤ 57 := h.2
  simp [isBlank]
  omega

theorem value_append_singleton (ds : List Char) (c : Char) :
    value (ds ++ [c]) = 10 * value ds + digitValue c := by
  simp only [value, List.foldl_append, List.foldl_cons, List.foldl_nil]

theorem value_digits (n : Nat) : value (digits n) = n := by
  induction n using digits.induct with
  | case1 n h =>
    rw [digits, if_pos h]
    simp [value, digitValue_digit h]
  | case2 n h ih =>
    have hlast : n % 10 < 10 := Nat.mod_lt n (by decide)
    rw [digits, if_neg h, value_append_singleton, ih, digitValue_digit hlast]
    omega

theorem isDigit_of_mem_digits {n : Nat} {c : Char} (h : c ∈ digits n) : isDigit c = true := by
  induction n using digits.induct with
  | case1 n hn =>
    rw [digits, if_pos hn, List.mem_singleton] at h
    rw [h]
    exact isDigit_digit hn
  | case2 n hn ih =>
    rw [digits, if_neg hn, List.mem_append, List.mem_singleton] at h
    rcases h with h | h
    · exact ih h
    · rw [h]
      exact isDigit_digit (Nat.mod_lt n (by decide))

/-- A number below a power of ten has no more digits than the exponent says. -/
theorem length_digits_le {n width : Nat} (hpos : 0 < width) (h : n < Nat.pow 10 width) :
    (digits n).length ≤ width := by
  induction n using digits.induct generalizing width with
  | case1 n hn =>
    rw [digits, if_pos hn]
    exact hpos
  | case2 n hn ih =>
    obtain ⟨w, rfl⟩ : ∃ w, width = w + 1 := ⟨width - 1, by omega⟩
    have hw : 0 < w := by
      refine Nat.pos_of_ne_zero fun h0 => hn ?_
      simpa [h0] using h
    have hlt : n / 10 < Nat.pow 10 w := by
      have hpow : Nat.pow 10 (w + 1) = Nat.pow 10 w * 10 := rfl
      rw [hpow] at h
      omega
    rw [digits, if_neg hn, List.length_append, List.length_singleton]
    exact Nat.succ_le_succ (ih hw hlt)

/-! ### Numerals of fixed width -/

theorem length_padded {n width : Nat} (hpos : 0 < width) (h : n < Nat.pow 10 width) :
    (padded width n).length = width := by
  have hle := length_digits_le hpos h
  simp only [padded, List.length_append, List.length_replicate]
  omega

theorem isDigit_of_mem_padded {n width : Nat} {c : Char} (h : c ∈ padded width n) :
    isDigit c = true := by
  simp only [padded, List.mem_append, List.mem_replicate] at h
  rcases h with ⟨_, rfl⟩ | h
  · rfl
  · exact isDigit_of_mem_digits h

theorem value_replicate_zero_append (k : Nat) (ds : List Char) :
    value (List.replicate k '0' ++ ds) = value ds := by
  induction k with
  | zero => rfl
  | succ k ih =>
    rw [List.replicate_succ, List.cons_append, ← ih]
    rfl

theorem value_padded (width n : Nat) : value (padded width n) = n := by
  rw [padded, value_replicate_zero_append, value_digits]

/-! ### Readers -/

namespace Scan

variable {α β : Type}

theorem bind_apply (p : Scan α) (f : α → Scan β) (s : List Char) :
    (p >>= f) s = (p s).bind fun x => f x.1 x.2 := rfl

theorem bind_of_eq {p : Scan α} {s rest : List Char} {a : α} (h : p s = some (a, rest))
    (f : α → Scan β) : (p >>= f) s = f a rest := by
  rw [bind_apply, h, Option.bind_some]

theorem pure_apply (a : α) (s : List Char) : (pure a : Scan α) s = some (a, s) := rfl

@[simp] theorem char_cons (c : Char) (rest : List Char) : char c (c :: rest) = some ((), rest) :=
  if_pos rfl

/-- The longest front of digits is taken, if there are not too many. -/
theorem digits_append {least most : Nat} {ds rest : List Char} (hd : ∀ c ∈ ds, isDigit c = true)
    (hleast : least ≤ ds.length) (hmost : ds.length ≤ most)
    (hrest : ds.length = most ∨ ∀ c ∈ rest.head?, isDigit c = false) :
    digits least most (ds ++ rest) = some (ds, rest) := by
  have htake : ((ds ++ rest).take most).takeWhile isDigit = ds := by
    rw [List.take_append, List.take_of_length_le hmost,
      List.takeWhile_append_of_pos hd]
    have hnil : (rest.take (most - ds.length)).takeWhile isDigit = [] := by
      rcases hrest with hlen | hhead
      · simp [hlen]
      · cases rest with
        | nil => simp
        | cons c rest =>
          have hc := hhead c rfl
          cases most - ds.length with
          | zero => rfl
          | succ k => simp [hc]
    rw [hnil, List.append_nil]
  simp only [digits, htake]
  rw [if_neg (by omega), List.drop_left]

/-- **A field of fixed width is read back.** -/
theorem number_padded {width n : Nat} (hpos : 0 < width) (h : n < Nat.pow 10 width)
    (rest : List Char) : number width width (padded width n ++ rest) = some (n, rest) := by
  have hlen := length_padded hpos h
  have hdigits : digits width width (padded width n ++ rest) = some (padded width n, rest) :=
    digits_append (fun _ hc => isDigit_of_mem_padded hc) (Nat.le_of_eq hlen.symm)
      (Nat.le_of_eq hlen) (.inl hlen)
  rw [number, bind_apply, hdigits]
  simp [pure_apply, value_padded]

end Scan

end ImageCatalog.Text
