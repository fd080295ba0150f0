import ImageCatalog.Text.Split
import Mathlib.Data.List.TakeWhile

/-!
# Parts between marks

`Text.splitAtChar` is `List.splitOn` of the library with the mark in front, so that it is undone
by `List.intercalate`. What names and paths need beyond that is where a part stands: between two
marks, or between a mark and an end of the text; and what stands in front of the first character of
a kind, or behind the last mark.

## Main results

* `Text.splitAtChar_eq_splitOn` — splitting at a character is splitting of lists
* `Text.splitAtChar_cons`, `Text.splitAtChar_concat` — the first and the last part
* `Text.exists_of_mem_splitAtChar` — what stands around a part
* `Text.takeWhile_append_of_head`, `Text.takeWhile_reverse_append` — texts that are taken apart at a
  first or a last place
-/

namespace ImageCatalog.Text

variable {mark c : Char} {s t part : List Char} {p : Char → Bool}

theorem splitAtChar_eq_splitOn (mark : Char) (s : List Char) :
    splitAtChar mark s = s.splitOn mark := by
  induction s with
  | nil => rfl
  | cons c s ih =>
    obtain ⟨part, parts, hparts⟩ := List.exists_cons_of_ne_nil (List.splitOn_ne_nil mark s)
    rw [splitAtChar, ih, List.splitOn_cons_eq_if_modifyHead, hparts]
    by_cases hc : c = mark <;> simp [hc]

theorem splitAtChar_ne_nil (mark : Char) (s : List Char) : splitAtChar mark s ≠ [] := by
  rw [splitAtChar_eq_splitOn]
  exact List.splitOn_ne_nil mark s

theorem splitAtChar_of_not_mem (h : mark ∉ s) : splitAtChar mark s = [s] := by
  rw [splitAtChar_eq_splitOn, List.splitOn_eq_singleton h]

/-- A mark ends a part and starts the next one. -/
theorem splitAtChar_append (mark : Char) (s t : List Char) :
    splitAtChar mark (s ++ mark :: t) = splitAtChar mark s ++ splitAtChar mark t := by
  simp only [splitAtChar_eq_splitOn, List.splitOn_append_cons_self]

theorem intercalate_splitAtChar (mark : Char) (s : List Char) :
    [mark].intercalate (splitAtChar mark s) = s := by
  rw [splitAtChar_eq_splitOn, List.intercalate_splitOn]

theorem splitAtChar_intercalate {parts : List (List Char)} (hparts : parts ≠ [])
    (h : ∀ part ∈ parts, mark ∉ part) : splitAtChar mark ([mark].intercalate parts) = parts := by
  rw [splitAtChar_eq_splitOn, List.splitOn_intercalate mark h hparts]

theorem not_mem_of_mem_splitAtChar (h : part ∈ splitAtChar mark s) : mark ∉ part := by
  induction s generalizing part with
  | nil => simp_all [splitAtChar]
  | cons c s ih =>
    obtain ⟨first, parts, hparts⟩ := List.exists_cons_of_ne_nil (splitAtChar_ne_nil mark s)
    rw [hparts] at ih
    rw [splitAtChar, hparts] at h
    by_cases hc : c = mark
    · simp only [hc, if_true, List.mem_cons] at h
      rcases h with rfl | h
      · exact List.not_mem_nil
      · exact ih (List.mem_cons.2 h)
    · simp only [hc, if_false, List.mem_cons] at h
      rcases h with rfl | h
      · have hfirst : mark ∉ first := ih List.mem_cons_self
        simp [hfirst, Ne.symm hc]
      · exact ih (List.mem_cons_of_mem first h)

theorem mem_intercalate {parts : List (List Char)} (h : c ∈ [mark].intercalate parts) :
    c = mark ∨ ∃ part ∈ parts, c ∈ part := by
  induction parts with
  | nil => simp [List.intercalate] at h
  | cons first parts ih =>
    cases parts with
    | nil => exact .inr ⟨first, List.mem_singleton_self first, by simpa [List.intercalate] using h⟩
    | cons next parts =>
      rw [List.intercalate_cons_cons, List.append_assoc, List.mem_append, List.mem_append,
        List.mem_singleton] at h
      rcases h with h | h | h
      · exact .inr ⟨first, List.mem_cons_self, h⟩
      · exact .inl h
      · exact (ih h).imp_right fun ⟨part, hpart, hc⟩ => ⟨part, List.mem_cons_of_mem first hpart, hc⟩

/-- What is no mark stands in a part. -/
theorem exists_part_of_mem (hne : c ≠ mark) (h : c ∈ s) :
    ∃ part ∈ splitAtChar mark s, c ∈ part := by
  rw [← intercalate_splitAtChar mark s] at h
  exact (mem_intercalate h).resolve_left hne

/-- The first part starts with the first character. -/
theorem splitAtChar_cons (h : c ≠ mark) (s : List Char) :
    ∃ part parts, splitAtChar mark (c :: s) = (c :: part) :: parts := by
  obtain ⟨part, parts, hparts⟩ := List.exists_cons_of_ne_nil (splitAtChar_ne_nil mark s)
  refine ⟨part, parts, ?_⟩
  rw [splitAtChar, hparts]
  simp [h]

/-- The last part ends with the last character. -/
theorem splitAtChar_concat (h : c ≠ mark) (s : List Char) :
    ∃ parts part, splitAtChar mark (s ++ [c]) = parts ++ [part ++ [c]] := by
  induction s with
  | nil => exact ⟨[], [], by simp [splitAtChar, h]⟩
  | cons d s ih =>
    obtain ⟨parts, part, hparts⟩ := ih
    rw [List.cons_append, splitAtChar, hparts]
    -- the first character makes a part of its own, or goes in front of the first part
    cases parts with
    | nil =>
      by_cases hd : d = mark
      · exact ⟨[[]], part, by simp [hd]⟩
      · exact ⟨[], d :: part, by simp [hd]⟩
    | cons first parts =>
      by_cases hd : d = mark
      · exact ⟨[] :: first :: parts, part, by simp [hd]⟩
      · exact ⟨(d :: first) :: parts, part, by simp [hd]⟩

/-- Only a mark at the end leaves an empty part there. -/
theorem getLast?_splitAtChar_ne (h : c ≠ mark) (s : List Char) :
    (splitAtChar mark (s ++ [c])).getLast? ≠ some [] := by
  obtain ⟨parts, part, hparts⟩ := splitAtChar_concat h s
  rw [hparts]
  simp

/-- What stands in front of a part ends with a mark, and what stands behind it starts with one. -/
theorem intercalate_append_cons (mark : Char) (before after : List (List Char))
    (part : List Char) :
    [mark].intercalate (before ++ part :: after) =
      before.flatMap (· ++ [mark]) ++ part ++ after.flatMap (mark :: ·) := by
  induction before with
  | nil =>
    induction after generalizing part with
    | nil => simp [List.intercalate]
    | cons next after ih =>
      have hnext := ih next
      simp only [List.nil_append] at hnext
      simp [List.intercalate_cons_cons, hnext]
  | cons first before ih =>
    obtain ⟨next, parts, hparts⟩ :=
      List.exists_cons_of_ne_nil (l := before ++ part :: after) (by simp)
    rw [hparts] at ih
    rw [List.cons_append, hparts, List.intercalate_cons_cons, ih]
    simp

theorem exists_of_mem_splitAtChar (h : part ∈ splitAtChar mark s) :
    ∃ front back, s = front ++ part ++ back ∧
      (front = [] ∨ ∃ t, front = t ++ [mark]) ∧ (back = [] ∨ ∃ t, back = mark :: t) := by
  obtain ⟨before, after, hsplit⟩ := List.append_of_mem h
  refine ⟨before.flatMap (· ++ [mark]), after.flatMap (mark :: ·), ?_, ?_, ?_⟩
  · rw [← intercalate_append_cons, ← hsplit, intercalate_splitAtChar]
  · rcases List.eq_nil_or_concat before with rfl | ⟨before, last, rfl⟩
    · exact .inl rfl
    · exact .inr ⟨before.flatMap (· ++ [mark]) ++ last, by simp⟩
  · cases after with
    | nil => exact .inl rfl
    | cons next after => exact .inr ⟨next ++ after.flatMap (mark :: ·), by simp⟩

/-! ### Characters of a text -/

/-- A property of the characters of a given text is tested on each of them. -/
theorem forall_mem_of_all {q : Char → Prop} [DecidablePred q] (h : s.all fun c => q c) :
    ∀ c ∈ s, q c := by
  simpa using h

/-! ### First and last places -/

theorem takeWhile_append_of_head (hs : ∀ c ∈ s, p c) (ht : t.head?.all (!p ·)) :
    (s ++ t).takeWhile p = s := by
  rw [List.takeWhile_append_of_pos hs]
  cases t with
  | nil => simp
  | cons c t =>
    have hc : p c = false := by simpa using ht
    simp [hc]

theorem dropWhile_append_of_head (hs : ∀ c ∈ s, p c) (ht : t.head?.all (!p ·)) :
    (s ++ t).dropWhile p = t := by
  rw [List.dropWhile_append_of_pos hs]
  cases t with
  | nil => simp
  | cons c t =>
    have hc : p c = false := by simpa using ht
    simp [hc]

theorem head?_dropWhile (p : Char → Bool) (s : List Char) :
    (s.dropWhile p).head?.all (!p ·) := by
  have := List.head?_dropWhile_not p s
  cases h : (s.dropWhile p).head? with
  | none => rfl
  | some c => simpa [h] using this

theorem forall_ne_of_not_mem (h : mark ∉ s) : ∀ c ∈ s, c != mark := by
  intro c hc
  rw [bne_iff_ne]
  rintro rfl
  exact h hc

/-- A mark stands somewhere for the last time. -/
theorem exists_last (h : mark ∈ s) : ∃ front back, s = front ++ mark :: back ∧ mark ∉ back := by
  obtain ⟨back, front, hs, hback⟩ := List.eq_append_cons_of_mem (List.mem_reverse.2 h)
  refine ⟨front.reverse, back.reverse, ?_, by simpa using hback⟩
  rw [← List.reverse_inj, hs]
  simp

/-- From the end, a text is read up to its last mark. -/
theorem takeWhile_reverse_append (s : List Char) (ht : mark ∉ t) :
    (s ++ mark :: t).reverse.takeWhile (· != mark) = t.reverse := by
  have hreverse : (s ++ mark :: t).reverse = t.reverse ++ mark :: s.reverse := by simp
  rw [hreverse, takeWhile_append_of_head (forall_ne_of_not_mem (by simpa using ht)) (by simp)]

theorem dropWhile_reverse_append (s : List Char) (ht : mark ∉ t) :
    (s ++ mark :: t).reverse.dropWhile (· != mark) = mark :: s.reverse := by
  have hreverse : (s ++ mark :: t).reverse = t.reverse ++ mark :: s.reverse := by simp
  rw [hreverse, dropWhile_append_of_head (forall_ne_of_not_mem (by simpa using ht)) (by simp)]

theorem takeWhile_reverse_of_not_mem (h : mark ∉ s) :
    s.reverse.takeWhile (· != mark) = s.reverse :=
  List.takeWhile_eq_self_iff.2 (forall_ne_of_not_mem (by simpa using h))

theorem dropWhile_reverse_of_not_mem (h : mark ∉ s) : s.reverse.dropWhile (· != mark) = [] :=
  List.dropWhile_eq_nil_iff.2 (forall_ne_of_not_mem (by simpa using h))

end ImageCatalog.Text
