import ImageCatalog.Text.Normal
import ImageCatalog.Proofs.Text.Split

/-!
# What composition leaves alone

The composed normal form of a text may put one character for several. No composite has an ASCII
character as a part behind its first, and as its first only a letter or one of `<`, `=` and `>`.
So all other ASCII characters stay: composition cannot hide a slash or a bracket.

The facts on the tables are checked line by line, each on the list of the characters of the line.

## Main results

* `Text.hexRows_cons` — a property of the rows of a table, line by line
* `Text.mem_compose` — an inert character stays in the composed form
-/

namespace ImageCatalog.Text

variable {lines : List String} {n x : Nat} {rows : Array (List Nat)} {row : List Nat}

/-! ### Rows of tables -/

/-- What every row of a table of hexadecimal lines is. -/
def HexRows (p : List Nat → Bool) (lines : List String) : Prop :=
  ∀ row ∈ hexRows lines, p row

theorem hexRows_nil (p : List Nat → Bool) : HexRows p [] := by
  simp [HexRows, hexRows]

theorem hexRows_cons {p : List Nat → Bool} {line : List Char}
    (hline : ((splitAtChar ',' line).map hexRow).all p) (hlines : HexRows p lines) :
    HexRows p (String.ofList line :: lines) := by
  intro row hrow
  simp only [hexRows, List.flatMap_cons, String.toList_ofList, List.mem_toArray,
    List.mem_append] at hrow
  rcases hrow with hrow | hrow
  · exact List.all_eq_true.1 hline row hrow
  · exact hlines row (by simpa [hexRows] using hrow)

/-- A row that is found covers the number. -/
theorem findRow?_eq_some (h : findRow? rows n = some row) :
    row ∈ rows ∧ ∃ first last more, row = first :: last :: more ∧ first ≤ n ∧ n ≤ last := by
  unfold findRow? at h
  split at h
  · rename_i first last more hget
    split at h
    · rename_i hcovers
      simp only [Option.some.injEq] at h
      subst h
      refine ⟨Array.mem_of_getElem? hget, first, last, more, rfl, ?_⟩
      simpa using hcovers
    · simp at h
  · simp at h

/-! ### The tables of the normal form -/

/-- A number of an ASCII character that is no first part of a composite: it is neither a letter
nor one of `<`, `=` and `>`. -/
def isInert (n : Nat) : Bool :=
  n < 128 && !(60 ≤ n && n ≤ 62) && !(65 ≤ n && n ≤ 90) && !(97 ≤ n && n ≤ 122)

/-- A bound of all code points, by which pairs of them are numbered. -/
def pairBase : Nat := 0x200000

/-- A row with a composite beyond ASCII and its two parts, of which the first is not inert and the
second is beyond ASCII. -/
def isCompositeRow : List Nat → Bool
  | [c, a, b] => 128 ≤ c && !isInert a && a < pairBase && 128 ≤ b && b < pairBase
  | _ => false

/-- A row about characters beyond ASCII. -/
def isRowBeyondAscii : List Nat → Bool
  | [] => false
  | first :: more => 128 ≤ first && (first :: more).all (· < pairBase)

theorem composites_rows : HexRows isCompositeRow composites := by
  unfold composites
  repeat' (first | refine hexRows_cons ?_ ?_ | exact hexRows_nil _)
  all_goals decide +kernel

theorem singletons_rows : HexRows isRowBeyondAscii singletons := by
  unfold singletons
  repeat' (first | refine hexRows_cons ?_ ?_ | exact hexRows_nil _)
  all_goals decide +kernel

theorem lt_of_isInert (h : isInert n) : n < 128 := by
  simp [isInert] at h
  omega

/-- The rows that are searched have the composite in front once more. -/
theorem findRow?_compositeRows (h : findRow? compositeRows n = some row) :
    ∃ a b, row = [n, n, a, b] ∧ isCompositeRow [n, a, b] := by
  obtain ⟨hmem, first, last, more, rfl, hfirst, hlast⟩ := findRow?_eq_some h
  unfold compositeRows at hmem
  obtain ⟨source, hsource, heq⟩ := Array.mem_map.1 hmem
  have hcomposite := composites_rows source hsource
  unfold isCompositeRow at hcomposite
  split at hcomposite
  · rename_i c a b
    simp only [List.cons.injEq] at heq
    obtain ⟨hc, hc', rfl⟩ := heq
    obtain rfl : n = c := by omega
    exact ⟨a, b, by rw [← hc, ← hc'], hcomposite⟩
  · simp at hcomposite

theorem findRow?_singletonRows (h : findRow? singletonRows n = some row) :
    ∃ parts, row = n :: n :: parts ∧ isRowBeyondAscii (n :: parts) := by
  obtain ⟨hmem, first, last, more, rfl, hfirst, hlast⟩ := findRow?_eq_some h
  unfold singletonRows at hmem
  obtain ⟨source, hsource, heq⟩ := Array.mem_map.1 hmem
  have hbeyond := singletons_rows source hsource
  cases source with
  | nil => simp at heq
  | cons c parts =>
    simp only [List.cons.injEq] at heq
    obtain ⟨hc, hc', rfl⟩ := heq
    obtain rfl : n = c := by omega
    exact ⟨parts, by rw [← hc, ← hc'], hbeyond⟩

theorem decompose_of_lt (h : n < 128) : decompose 4 n = [n] := by
  have hsyllable : ¬ (0xAC00 ≤ n && n < 0xAC00 + 11172) := by simp; omega
  rw [decompose, decomposeBy, if_neg hsyllable]
  split
  · rename_i a b hrow
    obtain ⟨a, b, -, hcomposite⟩ := findRow?_compositeRows hrow
    simp [isCompositeRow] at hcomposite
    omega
  · split
    · rename_i parts hrow
      obtain ⟨parts, -, hbeyond⟩ := findRow?_singletonRows hrow
      simp [isRowBeyondAscii] at hbeyond
      omega
    · rfl

theorem decompose_lt (depth : Nat) (h : n < pairBase) :
    ∀ m ∈ decompose depth n, m < pairBase := by
  unfold decompose
  induction depth generalizing n with
  | zero => simpa [decomposeBy] using h
  | succ depth ih =>
    intro m hm
    rw [decomposeBy] at hm
    split at hm
    · rename_i hsyllable
      simp at hsyllable
      simp only [List.cons_append, List.nil_append, List.mem_cons] at hm
      unfold pairBase
      rcases hm with rfl | rfl | hm
      · omega
      · omega
      · split at hm
        · simp at hm
        · simp at hm
          omega
    · split at hm
      · rename_i hrow
        obtain ⟨a, b, heq, hcomposite⟩ := findRow?_compositeRows hrow
        simp only [List.cons.injEq] at heq
        obtain ⟨-, -, rfl, rfl, -⟩ := heq
        simp [isCompositeRow] at hcomposite
        rcases List.mem_append.1 hm with hm | hm
        · exact ih hcomposite.1.1.2 m hm
        · rw [List.mem_singleton.1 hm]
          exact hcomposite.2
      · split at hm
        · rename_i hrow
          obtain ⟨parts, heq, hbeyond⟩ := findRow?_singletonRows hrow
          simp only [List.cons.injEq] at heq
          obtain ⟨-, -, rfl⟩ := heq
          simp only [isRowBeyondAscii, Bool.and_eq_true, List.all_eq_true, decide_eq_true_eq]
            at hbeyond
          exact hbeyond.2 m (List.mem_cons_of_mem _ hm)
        · rw [List.mem_singleton.1 hm]
          exact h

theorem composePair?_of_isInert {a b : Nat} (hb : b < pairBase) (h : isInert a ∨ isInert b) :
    composePair? a b = none := by
  have hsmall : a < 128 ∨ b < 128 := h.imp lt_of_isInert lt_of_isInert
  have hletters : ¬ (0x1100 ≤ a && a < 0x1113 && 0x1161 ≤ b && b < 0x1176) := by simp; omega
  have hfinal : ¬ (0xAC00 ≤ a && a < 0xAC00 + 11172 && (a - 0xAC00) % 28 = 0 &&
      0x11A8 ≤ b && b < 0x11C3) := by simp; omega
  rw [composePair?, if_neg hletters, if_neg hfinal]
  split
  · rename_i c hrow
    obtain ⟨hmem, first, last, more, heq, hfirst, hlast⟩ := findRow?_eq_some hrow
    simp only [pairRows, List.mem_toArray, List.mem_mergeSort, List.mem_filterMap] at hmem
    obtain ⟨source, hsource, hrow⟩ := hmem
    have hcomposite := composites_rows source (by simpa using hsource)
    unfold isCompositeRow at hcomposite
    split at hcomposite
    · rename_i c' a' b'
      simp at hcomposite hrow heq
      unfold pairBase at hcomposite hb
      -- the number of a pair tells its two parts
      have ha : a = a' := by omega
      have hb' : b = b' := by omega
      subst ha hb'
      rcases h with h | h
      · simp [h] at hcomposite
      · have := lt_of_isInert h
        omega
    · simp at hcomposite
  · rfl

/-! ### Marks -/

theorem mem_sortMarks {marks : List Nat} : x ∈ sortMarks marks ↔ x ∈ marks := by
  rw [sortMarks, List.mem_mergeSort, List.mem_reverse]

/-- Marks only change their places. -/
theorem mem_orderMarksFrom {s marks : List Nat} :
    x ∈ orderMarksFrom marks s ↔ x ∈ marks ∨ x ∈ s := by
  induction s generalizing marks with
  | nil => simp [orderMarksFrom, mem_sortMarks]
  | cons n s ih =>
    rw [orderMarksFrom]
    split
    · simp only [List.mem_append, mem_sortMarks, List.mem_cons, ih, List.not_mem_nil, false_or]
    · rw [ih, List.mem_cons, List.mem_cons, or_assoc, or_left_comm]

theorem mem_orderMarks {s : List Nat} : x ∈ orderMarks s ↔ x ∈ s := by
  simp [orderMarks, mem_orderMarksFrom]

/-! ### Composition -/

/-- An inert number is composed with nothing: it stays the starter, is held, or is read later. -/
theorem mem_composeFrom (hx : isInert x) {s held : List Nat} {starter block : Nat}
    (hs : ∀ m ∈ s, m < pairBase) (hmem : x = starter ∨ x ∈ held ∨ x ∈ s) :
    x ∈ composeFrom starter held block s := by
  induction s generalizing starter held block with
  | nil =>
    simp only [composeFrom, List.mem_cons, List.mem_reverse]
    simpa using hmem
  | cons n s ih =>
    have hn : n < pairBase := hs n (by simp)
    have htail : ∀ m ∈ s, m < pairBase := fun m hm => hs m (List.mem_cons_of_mem n hm)
    rw [List.mem_cons] at hmem
    rw [composeFrom]
    split
    · rename_i c hpair
      have hfree : composePair? starter n = some c := by
        split at hpair
        · exact hpair
        · simp at hpair
      have hstarter : x ≠ starter := by
        rintro rfl
        rw [composePair?_of_isInert hn (.inl hx)] at hfree
        simp at hfree
      have hne : x ≠ n := by
        rintro rfl
        rw [composePair?_of_isInert hn (.inr hx)] at hfree
        simp at hfree
      refine ih htail ?_
      simp only [hstarter, hne, false_or] at hmem
      exact .inr hmem
    · split
      · rw [List.cons_append, List.mem_cons, List.mem_append, List.mem_reverse]
        rcases hmem with h | h | h | h
        · exact .inl h
        · exact .inr (.inl h)
        · exact .inr (.inr (ih htail (.inl h)))
        · exact .inr (.inr (ih htail (.inr (.inr h))))
      · refine ih htail ?_
        rw [List.mem_cons]
        grind only

theorem mem_composeAll (hx : isInert x) {s : List Nat} (hs : ∀ m ∈ s, m < pairBase)
    (hmem : x ∈ s) : x ∈ composeAll s := by
  induction s with
  | nil => simp at hmem
  | cons n s ih =>
    have htail : ∀ m ∈ s, m < pairBase := fun m hm => hs m (List.mem_cons_of_mem n hm)
    rw [List.mem_cons] at hmem
    rw [composeAll]
    split
    · exact mem_composeFrom hx htail (hmem.imp_right .inr)
    · rw [List.mem_cons]
      exact hmem.imp_right (ih htail)

/-- An inert character stays in the composed form. -/
theorem mem_compose {c : Char} {s : List Char} (hc : isInert c.toNat) (hmem : c ∈ s) :
    c ∈ compose s := by
  have hbound : ∀ d : Char, d.toNat < pairBase := by
    intro d
    have hvalid : d.toNat.isValidChar := d.valid
    unfold Nat.isValidChar at hvalid
    unfold pairBase
    omega
  have hstays : c.toNat ∈ s.flatMap fun d => decompose 4 d.toNat := by
    refine List.mem_flatMap.2 ⟨c, hmem, ?_⟩
    rw [decompose_of_lt (lt_of_isInert hc)]
    exact List.mem_singleton_self _
  have hordered : ∀ m ∈ orderMarks (s.flatMap fun d => decompose 4 d.toNat), m < pairBase := by
    intro m hm
    obtain ⟨d, -, hd⟩ := List.mem_flatMap.1 (mem_orderMarks.1 hm)
    exact decompose_lt 4 (hbound d) m hd
  have hcomposed := mem_composeAll hc hordered (mem_orderMarks.2 hstays)
  exact List.mem_map.2 ⟨c.toNat, hcomposed, Char.ofNat_toNat c⟩

end ImageCatalog.Text
