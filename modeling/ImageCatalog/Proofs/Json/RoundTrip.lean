import ImageCatalog.Proofs.Json.Layout
import ImageCatalog.Proofs.Text.Numeral

/-!
# JSON texts are read back

What the writer lays out, the reader takes apart again, whatever blanks the layout puts between the
parts.

Not every value has a text. A string with a lone surrogate is written without its characters, and
the literal of a number may be anything, so the theorems are about the values that are `Printable`:
all strings well formed, all numbers whole.

## Main results

* `Json.readString_quote` — a string is read back, with all its escapes
* `Json.readValue_chars` — a value is read back from every layout, whatever follows it
* `Json.parse?_compact`, `Json.parse?_pretty` — so are both texts of the writer

## Implementation notes

The theorem on values speaks of a text in front of any other, since that is what the reader sees
of an item. What follows must not go on with a number (`EndsNumber`). The fuel is tied to the length
of the text alone: twice the length always does.
-/

namespace ImageCatalog.Json

/-! ### Printable values -/

/-- The values that have a text: strings are well formed and numbers are whole. -/
inductive Printable : Json → Prop
  | null : Printable .null
  | bool (b : Bool) : Printable (.bool b)
  | nat (n : Nat) : Printable (nat n)
  | text (s : String) : Printable (text s)
  | array {items : List Json} (h : ∀ v ∈ items, Printable v) : Printable (.array items)
  | object {members : List (Option String × Json)} (hkey : ∀ m ∈ members, m.1.isSome)
      (h : ∀ m ∈ members, Printable m.2) : Printable (.object members)

/-- What follows a number does not go on with it. -/
def EndsNumber (rest : List Char) : Prop :=
  ∀ c ∈ rest.head?, Text.isDigit c = false ∧ c ≠ '.' ∧ c ≠ 'e' ∧ c ≠ 'E'

theorem endsNumber_nil : EndsNumber [] :=
  fun _ h => nomatch h

theorem endsNumber_cons {c : Char} {rest : List Char}
    (h : Text.isDigit c = false ∧ c ≠ '.' ∧ c ≠ 'e' ∧ c ≠ 'E') : EndsNumber (c :: rest) := by
  intro d hd
  rw [List.head?_cons, Option.mem_def, Option.some.injEq] at hd
  exact hd ▸ h

/-! ### Blanks -/

theorem skipSpaces_append {blanks : List Char} (h : ∀ c ∈ blanks, isSpace c = true)
    (s : List Char) : skipSpaces (blanks ++ s) = skipSpaces s := by
  induction blanks with
  | nil => rfl
  | cons c blanks ih =>
    have hc := h c List.mem_cons_self
    have hrest := ih fun d hd => h d (List.mem_cons_of_mem _ hd)
    simpa [skipSpaces, hc] using hrest

theorem skipSpaces_cons {c : Char} (h : isSpace c = false) (s : List Char) :
    skipSpaces (c :: s) = c :: s := by
  simp [skipSpaces, h]

namespace Layout

theorem skipSpaces_gap (y : Layout) (level : Nat) (s : List Char) :
    skipSpaces (y.gap level ++ s) = skipSpaces s :=
  skipSpaces_append (y.isSpace_gap level) s

theorem skipSpaces_space (y : Layout) (s : List Char) : skipSpaces (y.space ++ s) = skipSpaces s :=
  skipSpaces_append y.isSpace_space s

end Layout

theorem readValue_skip {s s' : List Char} (h : skipSpaces s = skipSpaces s') (fuel : Nat) :
    readValue fuel s = readValue fuel s' := by
  cases fuel with
  | zero => rfl
  | succ fuel => simp only [readValue, h]

/-! ### Strings -/

theorem unit?_control {n : Nat} (h : n < 32) :
    unit? '0' '0' (hexDigit (n / 16)) (hexDigit (n % 16)) = some n := by
  have hall : ∀ m < 32, unit? '0' '0' (hexDigit (m / 16)) (hexDigit (m % 16)) = some m := by decide
  exact hall n h

theorem ofUnit_control {c : Char} (h : c.toNat < 32) : Piece.ofUnit c.toNat = .char c := by
  rw [Piece.ofUnit, if_neg (by simp; omega), if_neg (by simp; omega), Char.ofNat_toNat]

/-- An escaped character is read back as the character. -/
theorem pieces_escape (c : Char) (s : List Char) :
    pieces (escape c ++ s) = (pieces s).bind fun x => some (.char c :: x.1, x.2) := by
  unfold escape
  split
  · subst c; simp [pieces, letterEscape?]
  split
  · subst c; simp [pieces, letterEscape?]
  split
  · subst c; simp [pieces, letterEscape?]
  split
  · subst c; simp [pieces, letterEscape?]
  split
  · subst c; simp [pieces, letterEscape?]
  split
  · subst c; simp [pieces, letterEscape?]
  split
  · subst c; simp [pieces, letterEscape?]
  split
  · rename_i hcontrol
    simp [pieces, unit?_control hcontrol, ofUnit_control hcontrol]
  · rename_i hquote hback _ _ _ _ _ hplain
    simp [pieces, hback, hplain]

theorem pieces_flatMap_escape (cs rest : List Char) :
    pieces (cs.flatMap escape ++ '"' :: rest) = some (cs.map Piece.char, rest) := by
  induction cs with
  | nil => simp [pieces]
  | cons c cs ih => rw [List.flatMap_cons, List.append_assoc, pieces_escape, ih]; rfl

theorem joinPieces_map_char (cs : List Char) : joinPieces (cs.map Piece.char) = some cs := by
  induction cs with
  | nil => rfl
  | cons c cs ih => simp [joinPieces, ih]

/-- **A string is read back**, with all its escapes. -/
theorem readString_quote (s : String) (rest : List Char) :
    readString (s.toList.flatMap escape ++ '"' :: rest) = some (some s, rest) := by
  rw [readString, pieces_flatMap_escape]
  simp [joinPieces_map_char]

/-! ### Numbers -/

theorem isSome_head?_digits (n : Nat) : (Text.digits n).head?.isSome := by
  induction n using Text.digits.induct with
  | case1 n hn => simp [Text.digits, hn]
  | case2 n hn ih => rw [Text.digits, if_neg hn, List.head?_append, Option.isSome_or, ih]; rfl

theorem digits_ne_nil (n : Nat) : Text.digits n ≠ [] := by
  intro h
  have hhead := isSome_head?_digits n
  rw [h] at hhead
  exact absurd hhead (by decide)

/-- A numeral starts with a digit and no other mark. -/
theorem digits_eq_cons (n : Nat) :
    ∃ c ds, Text.digits n = c :: ds ∧ ∀ d, Text.isDigit d = false → c ≠ d := by
  obtain ⟨c, ds, hcons⟩ := List.exists_cons_of_ne_nil (digits_ne_nil n)
  have hc : Text.isDigit c = true := Text.isDigit_of_mem_digits (n := n) (by simp [hcons])
  refine ⟨c, ds, hcons, ?_⟩
  rintro d hd rfl
  rw [hc] at hd
  exact absurd hd (by decide)

theorem isSpace_eq_false {c : Char} (h : ∀ d, Text.isDigit d = false → c ≠ d) :
    isSpace c = false := by
  simp [isSpace, h ' ' rfl, h '\n' rfl, h '\t' rfl, h '\r' rfl]

/-- A numeral starts with a zero only if it is the numeral of zero. -/
theorem head?_digits_ne_zero {n : Nat} (h : n ≠ 0) : (Text.digits n).head? ≠ some '0' := by
  induction n using Text.digits.induct with
  | case1 n hn =>
    have hall : ∀ m < 10, m ≠ 0 → Text.digit m ≠ '0' := by decide
    rw [Text.digits, if_pos hn, List.head?_cons, ne_eq, Option.some.injEq]
    exact hall n hn h
  | case2 n hn ih =>
    rw [Text.digits, if_neg hn, List.head?_append, Option.or_of_isSome (isSome_head?_digits _)]
    exact ih (by omega)

theorem readDigits_append {ds rest : List Char} (hd : ∀ c ∈ ds, Text.isDigit c = true)
    (hne : ds ≠ []) (hrest : EndsNumber rest) : readDigits (ds ++ rest) = some (ds, rest) := by
  have hstop : rest.takeWhile Text.isDigit = [] ∧ rest.dropWhile Text.isDigit = rest := by
    cases rest with
    | nil => exact ⟨rfl, rfl⟩
    | cons c rest => simp [(hrest c rfl).1]
  have htake : (ds ++ rest).takeWhile Text.isDigit = ds := by
    rw [List.takeWhile_append_of_pos hd, hstop.1, List.append_nil]
  have hdrop : (ds ++ rest).dropWhile Text.isDigit = rest := by
    rw [List.dropWhile_append_of_pos hd, hstop.2]
  simp only [readDigits, htake, hdrop]
  rw [if_neg (by simpa using hne)]

theorem readWhole_digits (n : Nat) {rest : List Char} (hrest : EndsNumber rest) :
    readWhole (Text.digits n ++ rest) = some (Text.digits n, rest) := by
  have hdigits : readDigits (Text.digits n ++ rest) = some (Text.digits n, rest) := by
    exact readDigits_append (fun _ => Text.isDigit_of_mem_digits) (digits_ne_nil n) hrest
  rw [readWhole.eq_def]
  split
  · rename_i c rest' heq
    by_cases hn : n = 0
    · -- zero stands alone, so the character after it is the first of what follows
      subst hn
      have hzero : Text.digits 0 = ['0'] := by
        rw [Text.digits]
        rfl
      rw [hzero, List.singleton_append, List.cons.injEq] at heq
      rw [hzero, ← heq.2, if_neg]
      have hc := hrest c (by rw [heq.2]; rfl)
      simp [hc.1]
    · exfalso
      have hhead : (Text.digits n ++ rest).head? = (Text.digits n).head? := by
        rw [List.head?_append, Option.or_of_isSome (isSome_head?_digits n)]
      rw [heq] at hhead
      exact head?_digits_ne_zero hn hhead.symm
  · exact hdigits

theorem readUnsigned_digits (n : Nat) {rest : List Char} (hrest : EndsNumber rest) :
    readUnsigned (Text.digits n ++ rest) = some (Text.digits n, rest) := by
  have hdecimals : readDecimals rest = some ([], rest) := by
    rw [readDecimals.eq_def]
    split
    · exact absurd rfl (hrest '.' rfl).2.1
    · rfl
  have hexponent : readExponent rest = some ([], rest) := by
    rw [readExponent.eq_def]
    split
    · rename_i c rest'
      rw [if_neg (by simp [(hrest c rfl).2.2])]
    · rfl
  simp [readUnsigned, readWhole_digits n hrest, hdecimals, hexponent]

/-- A whole number is read back. -/
theorem readValue_digits (n : Nat) {rest : List Char} (hrest : EndsNumber rest) (fuel : Nat) :
    readValue (fuel + 1) (Text.digits n ++ rest) = some (nat n, rest) := by
  have hunsigned := readUnsigned_digits n hrest
  obtain ⟨c, ds, hcons, hne⟩ := digits_eq_cons n
  have hnumber : readNumber (c :: (ds ++ rest)) = readUnsigned (c :: (ds ++ rest)) := by
    rw [readNumber.eq_def]
    split
    · rename_i heq
      exact absurd (List.cons.inj heq).1 (hne '-' rfl)
    · rfl
  rw [hcons, List.cons_append] at hunsigned
  rw [hcons, List.cons_append, readValue, skipSpaces_cons (isSpace_eq_false hne)]
  split
  case h_1 heq => exact absurd heq (List.cons_ne_nil _ _)
  case h_8 => simp_all [nat]
  -- the first character of a numeral starts nothing else
  all_goals
    rename_i heq
    exact absurd (List.cons.inj heq).1 (hne _ (by rfl))

/-! ### Arrays and objects -/

theorem readItems_last {fuel : Nat} {s rest rest' : List Char} {v : Json}
    (hv : readValue fuel s = some (v, rest)) (hend : skipSpaces rest = ']' :: rest') :
    readItems (fuel + 1) s = some ([v], rest') := by
  simp [readItems, hv, hend]

theorem readItems_cons {fuel : Nat} {s rest rest' rest'' : List Char} {v : Json} {vs : List Json}
    (hv : readValue fuel s = some (v, rest)) (hnext : skipSpaces rest = ',' :: rest')
    (hvs : readItems fuel rest' = some (vs, rest'')) :
    readItems (fuel + 1) s = some (v :: vs, rest'') := by
  simp [readItems, hv, hnext, hvs]

theorem readMembers_last {fuel : Nat} {s t rest rest' : List Char} {key : String} {v : Json}
    (hkey : skipSpaces s = quote key ++ ':' :: t) (hv : readValue fuel t = some (v, rest))
    (hend : skipSpaces rest = '\x7d' :: rest') :
    readMembers (fuel + 1) s = some ([(some key, v)], rest') := by
  have hquote := readString_quote key (':' :: t)
  simp [readMembers, hkey, quote, hquote, skipSpaces_cons (c := ':') rfl, hv, hend]

theorem readMembers_cons {fuel : Nat} {s t rest rest' rest'' : List Char} {key : String} {v : Json}
    {ms : List (Option String × Json)} (hkey : skipSpaces s = quote key ++ ':' :: t)
    (hv : readValue fuel t = some (v, rest)) (hnext : skipSpaces rest = ',' :: rest')
    (hms : readMembers fuel rest' = some (ms, rest'')) :
    readMembers (fuel + 1) s = some ((some key, v) :: ms, rest'') := by
  have hquote := readString_quote key (':' :: t)
  simp [readMembers, hkey, quote, hquote, skipSpaces_cons (c := ':') rfl, hv, hnext, hms]

/-! ### Texts in a layout -/

theorem readItems_skip {s s' : List Char} (h : skipSpaces s = skipSpaces s') (fuel : Nat) :
    readItems fuel s = readItems fuel s' := by
  cases fuel with
  | zero => rfl
  | succ fuel => simp only [readItems, readValue_skip h]

theorem readMembers_skip {s s' : List Char} (h : skipSpaces s = skipSpaces s') (fuel : Nat) :
    readMembers fuel s = readMembers fuel s' := by
  cases fuel with
  | zero => rfl
  | succ fuel => simp only [readMembers, h]

/-- A text starts with a mark that is no blank and closes nothing. -/
theorem chars_eq_cons {v : Json} (hv : Printable v) (y : Layout) (level : Nat) :
    ∃ c cs, y.chars level v = c :: cs ∧ isSpace c = false ∧ c ≠ ']' ∧ c ≠ '\x7d' := by
  cases hv with
  | null => exact ⟨'n', _, by rw [Layout.chars], rfl, by decide, by decide⟩
  | bool b =>
    cases b
    · exact ⟨'f', _, by rw [Layout.chars], rfl, by decide, by decide⟩
    · exact ⟨'t', _, by rw [Layout.chars], rfl, by decide, by decide⟩
  | nat n =>
    obtain ⟨c, ds, hcons, hne⟩ := digits_eq_cons n
    exact ⟨c, ds, by rw [nat, Layout.chars, hcons], isSpace_eq_false hne, hne _ (by rfl),
      hne _ (by rfl)⟩
  | text s =>
    exact ⟨'"', s.toList.flatMap escape ++ ['"'], by simp [text, Layout.chars, quote?, quote], rfl,
      by decide, by decide⟩
  | @array items h =>
    cases items
    · exact ⟨'[', _, by rw [Layout.chars], rfl, by decide, by decide⟩
    · exact ⟨'[', _, by rw [Layout.chars], rfl, by decide, by decide⟩
  | @object members hkey h =>
    cases members
    · exact ⟨'\x7b', _, by rw [Layout.chars], rfl, by decide, by decide⟩
    · exact ⟨'\x7b', _, by rw [Layout.chars], rfl, by decide, by decide⟩

/-- A value is read back from a layout, whatever follows it. -/
def ReadsBack (y : Layout) (v : Json) : Prop :=
  ∀ (level : Nat) (rest : List Char) (fuel : Nat), EndsNumber rest →
    2 * (y.chars level v).length ≤ fuel →
    readValue fuel (y.chars level v ++ rest) = some (v, rest)

theorem endsNumber_comma (rest : List Char) : EndsNumber (',' :: rest) :=
  endsNumber_cons ⟨rfl, by decide, by decide, by decide⟩

/-- A number ends where blanks or one of the marks behind them start. -/
theorem endsNumber_append {blanks rest : List Char} (hblanks : ∀ c ∈ blanks, isSpace c = true)
    (hrest : EndsNumber rest) : EndsNumber (blanks ++ rest) := by
  cases blanks with
  | nil => exact hrest
  | cons c blanks =>
    have hc : ((c = ' ' ∨ c = '\n') ∨ c = '\t') ∨ c = '\r' := by
      simpa [isSpace] using hblanks c List.mem_cons_self
    exact endsNumber_cons (by rcases hc with ((rfl | rfl) | rfl) | rfl <;> decide)

theorem items_eq_append (y : Layout) (level : Nat) (v : Json) (others : List Json) :
    ∃ t, y.items level (v :: others) = y.chars (level + 1) v ++ t := by
  cases others with
  | nil => exact ⟨_, by rw [Layout.items]⟩
  | cons w others => exact ⟨_, y.items_cons_cons level v w others⟩

theorem members_eq_cons (y : Layout) (level : Nat) (m : Option String × Json)
    (others : List (Option String × Json)) :
    ∃ t, y.members level (m :: others) = '"' :: t := by
  obtain ⟨key, v⟩ := m
  cases others with
  | nil => exact ⟨_, by rw [Layout.members, quote?, quote]; rfl⟩
  | cons w others => exact ⟨_, by rw [Layout.members_cons_cons, quote?, quote]; rfl⟩

theorem readItems_items {y : Layout} {items : List Json} (hne : items ≠ [])
    (h : ∀ v ∈ items, ReadsBack y v) (level : Nat) (rest : List Char) {fuel : Nat}
    (hfuel : 2 * (y.items level items).length ≤ fuel) :
    readItems fuel (y.items level items ++ rest) = some (items, rest) := by
  induction items generalizing fuel with
  | nil => exact absurd rfl hne
  | cons v others ih =>
    have hv := h v List.mem_cons_self
    cases others with
    | nil =>
      rw [Layout.items] at hfuel ⊢
      simp only [List.length_append, List.length_singleton] at hfuel
      obtain ⟨fuel, rfl⟩ : ∃ k, fuel = k + 1 := ⟨fuel - 1, by omega⟩
      have hbracket : EndsNumber (y.gap level ++ ']' :: rest) :=
        endsNumber_append (y.isSpace_gap level)
          (endsNumber_cons ⟨rfl, by decide, by decide, by decide⟩)
      have hvalue := hv (level + 1) (y.gap level ++ ']' :: rest) fuel hbracket (by omega)
      have hend : skipSpaces (y.gap level ++ ']' :: rest) = ']' :: rest := by
        rw [y.skipSpaces_gap, skipSpaces_cons rfl]
      simpa only [List.append_assoc, List.singleton_append] using readItems_last hvalue hend
    | cons w others =>
      rw [Layout.items_cons_cons] at hfuel ⊢
      simp only [List.length_append, List.length_cons] at hfuel
      obtain ⟨fuel, rfl⟩ : ∃ k, fuel = k + 1 := ⟨fuel - 1, by omega⟩
      have htail : readItems fuel (y.items level (w :: others) ++ rest) =
          some (w :: others, rest) :=
        ih (List.cons_ne_nil w others) (fun u hu => h u (List.mem_cons_of_mem v hu)) (by omega)
      have hvalue := hv (level + 1)
        (',' :: (y.gap (level + 1) ++ (y.items level (w :: others) ++ rest))) fuel
        (endsNumber_comma _) (by omega)
      rw [← readItems_skip (y.skipSpaces_gap (level + 1) _)] at htail
      have hcons := readItems_cons hvalue (skipSpaces_cons rfl _) htail
      simpa only [List.append_assoc, List.cons_append] using hcons

theorem readMembers_members {y : Layout} {members : List (Option String × Json)}
    (hne : members ≠ []) (hkey : ∀ m ∈ members, m.1.isSome) (h : ∀ m ∈ members, ReadsBack y m.2)
    (level : Nat) (rest : List Char) {fuel : Nat}
    (hfuel : 2 * (y.members level members).length ≤ fuel) :
    readMembers fuel (y.members level members ++ rest) = some (members, rest) := by
  induction members generalizing fuel with
  | nil => exact absurd rfl hne
  | cons m others ih =>
    obtain ⟨key?, v⟩ := m
    obtain ⟨key, rfl⟩ := Option.isSome_iff_exists.1 (hkey _ List.mem_cons_self)
    have hv : ReadsBack y v := h _ List.mem_cons_self
    have hquote : ∀ t, skipSpaces (quote key ++ t) = quote key ++ t :=
      fun t => skipSpaces_cons rfl _
    cases others with
    | nil =>
      rw [Layout.members] at hfuel ⊢
      simp only [List.length_append, List.length_cons, List.length_nil, quote?,
        Option.getD_some] at hfuel
      obtain ⟨fuel, rfl⟩ : ∃ k, fuel = k + 1 := ⟨fuel - 1, by omega⟩
      have hbrace : EndsNumber (y.gap level ++ '\x7d' :: rest) :=
        endsNumber_append (y.isSpace_gap level)
          (endsNumber_cons ⟨rfl, by decide, by decide, by decide⟩)
      have hvalue := hv (level + 1) (y.gap level ++ '\x7d' :: rest) fuel hbrace (by omega)
      rw [← readValue_skip (y.skipSpaces_space _)] at hvalue
      have hend : skipSpaces (y.gap level ++ '\x7d' :: rest) = '\x7d' :: rest := by
        rw [y.skipSpaces_gap, skipSpaces_cons rfl]
      simpa only [quote?, Option.getD_some, List.append_assoc, List.cons_append,
        List.nil_append] using readMembers_last (hquote _) hvalue hend
    | cons w others =>
      rw [Layout.members_cons_cons] at hfuel ⊢
      simp only [List.length_append, List.length_cons, quote?, Option.getD_some] at hfuel
      obtain ⟨fuel, rfl⟩ : ∃ k, fuel = k + 1 := ⟨fuel - 1, by omega⟩
      have htail : readMembers fuel (y.members level (w :: others) ++ rest) =
          some (w :: others, rest) :=
        ih (List.cons_ne_nil w others) (fun u hu => hkey u (List.mem_cons_of_mem _ hu))
          (fun u hu => h u (List.mem_cons_of_mem _ hu)) (by omega)
      have hvalue := hv (level + 1)
        (',' :: (y.gap (level + 1) ++ (y.members level (w :: others) ++ rest))) fuel
        (endsNumber_comma _) (by omega)
      rw [← readValue_skip (y.skipSpaces_space _)] at hvalue
      rw [← readMembers_skip (y.skipSpaces_gap (level + 1) _)] at htail
      have hcons := readMembers_cons (hquote _) hvalue (skipSpaces_cons rfl _) htail
      simpa only [quote?, Option.getD_some, List.append_assoc, List.cons_append] using hcons

/-- **A value is read back from every layout**, whatever follows it. -/
theorem readValue_chars {v : Json} (hv : Printable v) (y : Layout) : ReadsBack y v := by
  induction hv with
  | null =>
    intro level rest fuel hrest hfuel
    rw [Layout.chars] at hfuel ⊢
    obtain ⟨fuel, rfl⟩ : ∃ k, fuel = k + 1 := ⟨fuel - 1, by simp at hfuel; omega⟩
    rfl
  | bool b =>
    intro level rest fuel hrest hfuel
    cases b <;> rw [Layout.chars] at hfuel ⊢ <;>
      obtain ⟨fuel, rfl⟩ : ∃ k, fuel = k + 1 := ⟨fuel - 1, by simp at hfuel; omega⟩ <;> rfl
  | nat n =>
    intro level rest fuel hrest hfuel
    rw [nat, Layout.chars] at hfuel ⊢
    have hpos := List.length_pos_iff.2 (digits_ne_nil n)
    obtain ⟨fuel, rfl⟩ : ∃ k, fuel = k + 1 := ⟨fuel - 1, by omega⟩
    exact readValue_digits n hrest fuel
  | text s =>
    intro level rest fuel hrest hfuel
    rw [text, Layout.chars, quote?, Option.getD_some, quote] at hfuel ⊢
    obtain ⟨fuel, rfl⟩ : ∃ k, fuel = k + 1 := ⟨fuel - 1, by simp at hfuel; omega⟩
    simp [readValue, skipSpaces_cons (c := '"') rfl, readString_quote]
  | @array items h ih =>
    intro level rest fuel hrest hfuel
    cases items with
    | nil =>
      rw [Layout.chars] at hfuel ⊢
      obtain ⟨fuel, rfl⟩ : ∃ k, fuel = k + 1 := ⟨fuel - 1, by simp at hfuel; omega⟩
      rfl
    | cons v others =>
      rw [Layout.chars] at hfuel ⊢
      simp only [List.length_append, List.length_cons] at hfuel
      obtain ⟨fuel, rfl⟩ : ∃ k, fuel = k + 1 := ⟨fuel - 1, by omega⟩
      have hitems : readItems fuel (y.items level (v :: others) ++ rest) =
          some (v :: others, rest) :=
        readItems_items (List.cons_ne_nil v others) ih level rest (by omega)
      rw [← readItems_skip (y.skipSpaces_gap (level + 1) _)] at hitems
      -- the array is not empty, since its first item starts with another mark than `]`
      obtain ⟨t, htext⟩ := items_eq_append y level v others
      obtain ⟨c, cs, hcons, hspace, hbracket, -⟩ :=
        chars_eq_cons (h v List.mem_cons_self) y (level + 1)
      have hfirst : skipSpaces (y.gap (level + 1) ++ (y.items level (v :: others) ++ rest)) =
          c :: (cs ++ (t ++ rest)) := by
        rw [y.skipSpaces_gap, htext, hcons, List.append_assoc, List.cons_append,
          skipSpaces_cons hspace]
      simp [readValue, skipSpaces_cons (c := '[') rfl, hfirst, hbracket, hitems]
  | @object members hkey h ih =>
    intro level rest fuel hrest hfuel
    cases members with
    | nil =>
      rw [Layout.chars] at hfuel ⊢
      obtain ⟨fuel, rfl⟩ : ∃ k, fuel = k + 1 := ⟨fuel - 1, by simp at hfuel; omega⟩
      rfl
    | cons m others =>
      rw [Layout.chars] at hfuel ⊢
      simp only [List.length_append, List.length_cons] at hfuel
      obtain ⟨fuel, rfl⟩ : ∃ k, fuel = k + 1 := ⟨fuel - 1, by omega⟩
      have hmembers : readMembers fuel (y.members level (m :: others) ++ rest) =
          some (m :: others, rest) :=
        readMembers_members (List.cons_ne_nil m others) hkey ih level rest (by omega)
      rw [← readMembers_skip (y.skipSpaces_gap (level + 1) _)] at hmembers
      obtain ⟨t, htext⟩ := members_eq_cons y level m others
      have hfirst : skipSpaces (y.gap (level + 1) ++ (y.members level (m :: others) ++ rest)) =
          '"' :: (t ++ rest) := by
        rw [y.skipSpaces_gap, htext, List.cons_append, skipSpaces_cons rfl]
      simp [readValue, skipSpaces_cons (c := '\x7b') rfl, hfirst, hmembers]

theorem parse?_chars {v : Json} (hv : Printable v) (y : Layout) :
    parse? (String.ofList (y.chars 0 v)) = some v := by
  have hread := readValue_chars hv y 0 [] (2 * (y.chars 0 v).length + 2) endsNumber_nil (by omega)
  rw [List.append_nil] at hread
  rw [parse?, String.toList_ofList, parseChars?, hread]
  rfl

/-- **The compact text of a value is read back.** -/
theorem parse?_compact {v : Json} (hv : Printable v) : parse? v.compact = some v := by
  rw [compact, ← Layout.chars_tight 0 v, parse?_chars hv]

/-- **The pretty text of a value is read back.** -/
theorem parse?_pretty {v : Json} (hv : Printable v) : parse? v.pretty = some v := by
  rw [pretty, ← Layout.chars_indented 0 v, parse?_chars hv]

end ImageCatalog.Json
