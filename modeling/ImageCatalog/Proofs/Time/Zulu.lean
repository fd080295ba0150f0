import ImageCatalog.Proofs.Time.Stamp

/-!
# Instants in records are read back

The form in records has no limits on the year, so every instant is read back, years with a sign and
leap seconds included.

## Main results

* `Instant.scanLenient_fieldsText` — the lenient reader takes a written instant field by field
* `Instant.parse?_zulu` — every instant is read back
-/

namespace ImageCatalog.Instant

open Text (Scan isBlank_of_isDigit padded)

/-! ### Fields of the lenient form -/

theorem blanks_cons {c : Char} (h : Text.isBlank c = false) (rest : List Char) :
    Text.Scan.blanks (c :: rest) = some ((), c :: rest) := by
  simp [Text.Scan.blanks, Text.Scan.skipWhile, h]

/-- A written numeral starts with a digit. -/
theorem padded_eq_cons {width : Nat} (hpos : 0 < width) (n : Nat) :
    ∃ c ds, padded width n = c :: ds ∧ Text.isDigit c = true := by
  cases hds : padded width n with
  | nil =>
    have hlen : width ≤ (padded width n).length := by
      simp only [padded, List.length_append, List.length_replicate]
      omega
    rw [hds, List.length_nil] at hlen
    omega
  | cons c ds =>
    have hmem : c ∈ padded width n := by
      rw [hds]
      exact List.mem_cons_self
    exact ⟨c, ds, rfl, Text.isDigit_of_mem_padded hmem⟩

theorem scanLenientChar_cons {c : Char} (h : Text.isBlank c = false) (rest : List Char) :
    scanLenientChar c (c :: rest) = some ((), rest) := by
  rw [scanLenientChar, Text.Scan.bind_of_eq (blanks_cons h rest), Text.Scan.char_cons]

/-- A field of two digits is read back, since what follows it is no digit. -/
theorem scanLenientNumber_padded {n : Nat} (h : n < 100) (rest : List Char) :
    scanLenientNumber 2 (padded 2 n ++ rest) = some (n, rest) := by
  have hlen : (padded 2 n).length = 2 := Text.length_padded (by decide) h
  obtain ⟨c, ds, hcons, hc⟩ := padded_eq_cons (show 0 < 2 by decide) n
  have hblanks : Text.Scan.blanks (padded 2 n ++ rest) = some ((), padded 2 n ++ rest) := by
    rw [hcons]
    exact blanks_cons (isBlank_of_isDigit hc) _
  have hdigits : Text.Scan.digits 1 2 (padded 2 n ++ rest) = some (padded 2 n, rest) :=
    Text.Scan.digits_append (fun _ => Text.isDigit_of_mem_padded) (by omega) (by omega) (.inl hlen)
  rw [scanLenientNumber, Text.Scan.bind_of_eq hblanks, Text.Scan.number,
    Text.Scan.bind_of_eq hdigits, Text.value_padded, Text.Scan.pure_apply]

/-- A year is read back, with its sign if it has one. -/
theorem scanLenientYear_yearText (year : Int) (rest : List Char) :
    scanLenientYear (yearText year ++ '-' :: rest) = some (year, '-' :: rest) := by
  have hstop : ∀ c ∈ ('-' :: rest).head?, Text.isDigit c = false := by
    intro c hc
    rw [List.head?_cons, Option.mem_def, Option.some.injEq] at hc
    rw [← hc]
    rfl
  unfold yearText
  split
  · rename_i hyear
    have hlen : (padded 4 year.toNat).length = 4 := Text.length_padded (by decide) (by
      change year.toNat < 10000
      omega)
    have hdigits : Text.Scan.digits 1 4 (padded 4 year.toNat ++ '-' :: rest) =
        some (padded 4 year.toNat, '-' :: rest) :=
      Text.Scan.digits_append (fun _ => Text.isDigit_of_mem_padded) (by omega) (by omega)
        (.inl hlen)
    obtain ⟨c, ds, hcons, hc⟩ := padded_eq_cons (show 0 < 4 by decide) year.toNat
    have hvalue := Text.value_padded 4 year.toNat
    rw [hcons, List.cons_append] at hdigits ⊢
    rw [hcons] at hvalue
    have hminus : c ≠ '-' := by rintro rfl; exact absurd hc (by decide)
    have hplus : c ≠ '+' := by rintro rfl; exact absurd hc (by decide)
    have hpeek : Text.Scan.peek (c :: (ds ++ '-' :: rest)) =
        some (some c, c :: (ds ++ '-' :: rest)) := rfl
    have hback : ((year.toNat : Nat) : Int) = year := Int.toNat_of_nonneg hyear.1
    rw [scanLenientYear, Text.Scan.bind_of_eq (blanks_cons (isBlank_of_isDigit hc) _),
      Text.Scan.bind_of_eq hpeek]
    simp [-bind_pure_comp, hminus, hplus, Text.Scan.number, Text.Scan.bind_apply, hdigits,
      Text.Scan.pure_apply, hvalue, hback]
  · rename_i hyear
    have hrun : scanLenientYear.digitRun (padded 4 year.natAbs ++ '-' :: rest) =
        some (padded 4 year.natAbs, '-' :: rest) := by
      obtain ⟨c, ds, hcons, hc⟩ := padded_eq_cons (show 0 < 4 by decide) year.natAbs
      exact Text.Scan.digits_append (fun _ => Text.isDigit_of_mem_padded) (by simp [hcons])
        (by simp) (.inr hstop)
    have hvalue : scanLenientYear.value (padded 4 year.natAbs) = year.natAbs :=
      Text.value_padded 4 _
    generalize hn : year.natAbs = n at hrun hvalue ⊢
    split
    · have hback : -(n : Int) = year := by omega
      simp [-bind_pure_comp, scanLenientYear, Text.Scan.bind_apply, blanks_cons (c := '-') rfl,
        Text.Scan.peek, hrun, hvalue, Text.Scan.pure_apply, hback]
    · have hback : (n : Int) = year := by omega
      simp [-bind_pure_comp, scanLenientYear, Text.Scan.bind_apply, blanks_cons (c := '+') rfl,
        Text.Scan.peek, hrun, hvalue, Text.Scan.pure_apply, hback]

/-- The name of the offset zero is taken by the reader of offsets, not by the one of `UTC`. -/
theorem scanZone :
    ((do scanUtc; return (0 : Int)) <|>
      scanOffset (Text.Scan.skipWhile fun c => c == ':' || Text.isBlank c) : Scan Int) ['Z'] =
        some (0, []) := by
  decide

/-! ### Instants -/

/-- **The lenient reader takes a written instant field by field.** -/
theorem scanLenient_fieldsText (year : Int) {month date hour minute second nano : Nat}
    (hmonth : month < 100) (hdate : date < 100) (hhour : hour < 100) (hminute : minute < 100)
    (hsecond : second < 100) (hnano : nano < 1000000000) :
    scanLenient (fieldsText (yearText year) month date hour minute second nano ['Z']) =
      some (⟨year, month, date, hour, minute, second, nano, 0⟩, []) := by
  have hT : ∀ rest, Text.Scan.satisfy (fun c => c == 'T' || c == 't' || c == ' ') ('T' :: rest) =
      some ('T', rest) := fun _ => rfl
  have hdash : ∀ rest, scanLenientChar '-' ('-' :: rest) = some ((), rest) :=
    scanLenientChar_cons rfl
  have hcolon : ∀ rest, scanLenientChar ':' (':' :: rest) = some ((), rest) :=
    scanLenientChar_cons rfl
  have hfraction : scanOptionalFraction (fractionText nano ++ ['Z']) = some (nano, ['Z']) :=
    scanOptionalFraction_fractionText hnano rfl (by decide) _
  rw [fieldsText, scanLenient, Text.Scan.bind_of_eq (scanLenientYear_yearText year _),
    Text.Scan.bind_of_eq (hdash _), Text.Scan.bind_of_eq (scanLenientNumber_padded hmonth _),
    Text.Scan.bind_of_eq (hdash _), Text.Scan.bind_of_eq (scanLenientNumber_padded hdate _),
    Text.Scan.bind_of_eq (hT _), Text.Scan.bind_of_eq (scanLenientNumber_padded hhour _),
    Text.Scan.bind_of_eq (hcolon _), Text.Scan.bind_of_eq (scanLenientNumber_padded hminute _),
    Text.Scan.bind_of_eq (hcolon _), Text.Scan.bind_of_eq (scanLenientNumber_padded hsecond _),
    Text.Scan.bind_of_eq hfraction, Text.Scan.bind_of_eq (blanks_cons rfl _),
    Text.Scan.bind_of_eq scanZone]
  rfl

/-- **Every instant is read back from its form in records.** -/
theorem parse?_zulu (t : Instant) : parse? t.zulu = some t := by
  obtain ⟨hmonth, hdate, hhour, hminute, hsecond, hnano⟩ := t.fields_lt
  have hscan := scanLenient_fieldsText t.year hmonth hdate hhour hminute hsecond hnano
  have hlist : t.zulu.toList = t.chars ['Z'] := String.toList_ofList
  rw [parse?, hlist, chars_eq, Text.Scan.all, hscan]
  exact t.instant?_fields

end ImageCatalog.Instant
