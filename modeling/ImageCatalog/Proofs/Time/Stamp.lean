import ImageCatalog.Proofs.Text.Numeral
import ImageCatalog.Proofs.Time.Calendar
import ImageCatalog.Time.Reader
import ImageCatalog.Time.Writer

/-!
# Stamps are read back

A stamp of a year with four digits is read back as the instant it was made of, to the nanosecond and
with its leap second. Years with a sign are refused.

## Main results

* `Instant.instant?_fields` — the fields of an instant name it
* `Instant.scanStamp_fieldsText` — a stamp is read back field by field
* `Instant.ofStamp?_stamp` — what becomes of a stamp
-/

namespace ImageCatalog.Instant

open Text (Scan padded)

/-! ### Fields -/

/-- The fields of an instant in UTC. -/
def fields (t : Instant) : Fields where
  year := t.year
  month := (Calendar.dateOf t.day).2.1
  date := (Calendar.dateOf t.day).2.2
  hour := t.secondOfDay / 3600
  minute := t.secondOfDay / 60 % 60
  second := t.secondOfDay % 60 + t.nano / 1000000000
  nano := t.nano % 1000000000
  offset := 0

theorem secondOfDay_lt (t : Instant) : t.secondOfDay < 86400 := by
  unfold secondOfDay
  omega

theorem second_eq (t : Instant) : t.second = t.day * 86400 + t.secondOfDay := by
  unfold day secondOfDay
  omega

/-- Second 60 is the leap second of second 59. -/
theorem second_fields (t : Instant) :
    t.nano < 1000000000 ∧ t.fields.second = t.secondOfDay % 60 ∧ t.fields.nano = t.nano ∨
      1000000000 ≤ t.nano ∧ t.secondOfDay % 60 = 59 ∧ t.fields.second = 60 ∧
        t.fields.nano = t.nano - 1000000000 := by
  have hlt := t.nano_lt
  have hleap := t.leap_ends_minute
  have hsecond := t.second_eq
  simp only [fields]
  by_cases hnano : 1000000000 ≤ t.nano
  · have hend := hleap hnano
    right
    omega
  · left
    omega

/-- All fields but the year fit into the digits that are written for them. -/
theorem fields_lt (t : Instant) :
    t.fields.month < 100 ∧ t.fields.date < 100 ∧ t.fields.hour < 100 ∧ t.fields.minute < 100 ∧
      t.fields.second < 100 ∧ t.fields.nano < 1000000000 := by
  have hof := t.secondOfDay_lt
  have hlt := t.nano_lt
  have hdate := Calendar.dateOf_lt t.day
  refine ⟨hdate.1, hdate.2, ?_⟩
  simp only [fields]
  omega

/-- **The fields of an instant name it.** -/
theorem instant?_fields (t : Instant) : t.fields.instant? = some t := by
  have hdate : Calendar.isDate t.fields.year t.fields.month t.fields.date = true :=
    Calendar.isDate_dateOf t.day
  have hday : Calendar.dayNumber t.fields.year t.fields.month t.fields.date = t.day :=
    Calendar.dayNumber_dateOf t.day
  have hof := t.secondOfDay_lt
  have hhour : t.fields.hour < 24 := by
    simp only [fields]
    omega
  have hminute : t.fields.minute < 60 := by
    simp only [fields]
    omega
  have hsecond : t.fields.second ≤ 60 := by
    rcases t.second_fields with ⟨_, h, _⟩ | ⟨_, _, h, _⟩ <;> omega
  have hlocal : t.day * 86400 + ((t.fields.hour * 3600 + t.fields.minute * 60 +
      Nat.min t.fields.second 59 : Nat) : Int) = t.second := by
    have hsum : t.fields.hour * 3600 + t.fields.minute * 60 + t.secondOfDay % 60 =
        t.secondOfDay := by
      simp only [fields]
      omega
    have hmin : Nat.min t.fields.second 59 = t.secondOfDay % 60 := by
      rcases t.second_fields with ⟨_, h, _⟩ | ⟨_, h', h, _⟩
      · rw [h]
        exact Nat.min_eq_left (by omega)
      · rw [h, h']
        rfl
    rw [hmin, hsum, second_eq]
  have hnano : (if t.fields.second = 60 then t.fields.nano + 1000000000 else t.fields.nano) =
      t.nano := by
    rcases t.second_fields with ⟨_, h, h'⟩ | ⟨_, _, h, h'⟩
    · rw [if_neg (by omega), h']
    · rw [if_pos h, h']
      omega
  have hoffset : t.fields.offset = 0 := rfl
  unfold Fields.instant?
  rw [if_pos (by simp [hdate, hhour, hminute, hsecond, hoffset])]
  simp only [hday, hlocal, hnano, hoffset]
  rw [if_pos ⟨t.first_le, t.le_last⟩, Int.zero_mul, Int.sub_zero]
  exact dif_pos ⟨t.first_le, t.le_last, t.nano_lt, t.leap_ends_minute⟩

/-! ### Texts -/

theorem scanFraction_padded {width k : Nat} (hpos : 0 < width) (hmax : width ≤ 9)
    (hk : k < Nat.pow 10 width) {c : Char} (hc : Text.isDigit c = false) (rest : List Char) :
    scanFraction (padded width k ++ c :: rest) = some (k * Nat.pow 10 (9 - width), c :: rest) := by
  have hlen := Text.length_padded hpos hk
  have hdigits : Text.Scan.digits 1 9 (padded width k ++ c :: rest) =
      some (padded width k, c :: rest) := by
    refine Text.Scan.digits_append (fun _ h => Text.isDigit_of_mem_padded h) (by omega) (by omega)
      (.inr fun d hd => ?_)
    rw [List.head?_cons, Option.mem_def, Option.some.injEq] at hd
    rw [← hd]
    exact hc
  have hskip : Text.Scan.skipWhile Text.isDigit (c :: rest) = some ((), c :: rest) := by
    simp [Text.Scan.skipWhile, hc]
  simp only [scanFraction, Text.Scan.bind_apply, hdigits, hskip, Option.bind_some,
    Text.Scan.pure_apply, Text.value_padded, hlen]

/-- A fraction is read back, whether it is written with no digits or with 3, 6 or 9. -/
theorem scanOptionalFraction_fractionText {nano : Nat} (h : nano < 1000000000) {c : Char}
    (hc : Text.isDigit c = false) (hpoint : c ≠ '.') (rest : List Char) :
    scanOptionalFraction (fractionText nano ++ c :: rest) = some (nano, c :: rest) := by
  unfold fractionText
  split
  · subst nano
    simp [scanOptionalFraction, Text.Scan.bind_apply, Text.Scan.option, hpoint,
      Text.Scan.pure_apply]
  · have hpoint : ∀ {width k : Nat}, 0 < width → width ≤ 9 → k < Nat.pow 10 width →
        scanOptionalFraction ('.' :: padded width k ++ c :: rest) =
          some (k * Nat.pow 10 (9 - width), c :: rest) := by
      intro width k hpos hmax hk
      have hfraction := scanFraction_padded hpos hmax hk hc rest
      simp [scanOptionalFraction, Text.Scan.bind_apply, Text.Scan.option, hfraction]
    split
    · have hk : nano / 1000000 < Nat.pow 10 3 := by
        change _ < 1000
        omega
      have hback : nano / 1000000 * Nat.pow 10 (9 - 3) = nano := by
        change _ * 1000000 = _
        omega
      rw [hpoint (by decide) (by decide) hk, hback]
    · split
      · have hk : nano / 1000 < Nat.pow 10 6 := by
          change _ < 1000000
          omega
        have hback : nano / 1000 * Nat.pow 10 (9 - 6) = nano := by
          change _ * 1000 = _
          omega
        rw [hpoint (by decide) (by decide) hk, hback]
      · have hback : nano * Nat.pow 10 (9 - 9) = nano := Nat.mul_one nano
        rw [hpoint (by decide) (by decide) h, hback]

/-! ### Stamps -/

/-- The numerals of the fields, with the signs between them. -/
def fieldsText (year : List Char) (month date hour minute second nano : Nat)
    (offset : List Char) : List Char :=
  year ++ '-' :: (padded 2 month ++ '-' :: (padded 2 date ++ 'T' :: (padded 2 hour ++ ':' ::
    (padded 2 minute ++ ':' :: (padded 2 second ++ (fractionText nano ++ offset))))))

theorem chars_eq (t : Instant) (offset : List Char) :
    t.chars offset = fieldsText (yearText t.year) t.fields.month t.fields.date t.fields.hour
      t.fields.minute t.fields.second t.fields.nano offset := by
  simp only [chars, dateText, timeText, fields, year, fieldsText, List.append_assoc,
    List.cons_append]
  rfl

/-- **A stamp is read back field by field.** -/
theorem scanStamp_fieldsText {year month date hour minute second nano : Nat} (hyear : year < 10000)
    (hmonth : month < 100) (hdate : date < 100) (hhour : hour < 100) (hminute : minute < 100)
    (hsecond : second < 100) (hnano : nano < 1000000000) :
    scanStamp (fieldsText (padded 4 year) month date hour minute second nano
      ['+', '0', '0', ':', '0', '0']) =
        some (⟨year, month, date, hour, minute, second, nano, 0⟩, []) := by
  have hfour : ∀ rest, Text.Scan.number 4 4 (padded 4 year ++ rest) = some (year, rest) :=
    Text.Scan.number_padded (by decide) hyear
  have htwo : ∀ {n : Nat}, n < 100 → ∀ rest, Text.Scan.number 2 2 (padded 2 n ++ rest) =
      some (n, rest) := fun hn => Text.Scan.number_padded (by decide) hn
  have hT : ∀ rest, Text.Scan.satisfy (fun c => c == 'T' || c == 't' || c == ' ') ('T' :: rest) =
      some ('T', rest) := fun _ => rfl
  have hfraction : scanOptionalFraction (fractionText nano ++ ['+', '0', '0', ':', '0', '0']) =
      some (nano, ['+', '0', '0', ':', '0', '0']) :=
    scanOptionalFraction_fractionText hnano rfl (by decide) _
  have hoffset : scanOffset (Text.Scan.char ':') ['+', '0', '0', ':', '0', '0'] =
      some (0, []) := by decide
  have hchar : ∀ c rest, Text.Scan.char c (c :: rest) = some ((), rest) := Text.Scan.char_cons
  rw [fieldsText, scanStamp, Text.Scan.bind_of_eq (hfour _), Text.Scan.bind_of_eq (hchar _ _),
    Text.Scan.bind_of_eq (htwo hmonth _), Text.Scan.bind_of_eq (hchar _ _),
    Text.Scan.bind_of_eq (htwo hdate _), Text.Scan.bind_of_eq (hT _),
    Text.Scan.bind_of_eq (htwo hhour _), Text.Scan.bind_of_eq (hchar _ _),
    Text.Scan.bind_of_eq (htwo hminute _), Text.Scan.bind_of_eq (hchar _ _),
    Text.Scan.bind_of_eq (htwo hsecond _), Text.Scan.bind_of_eq hfraction,
    Text.Scan.bind_of_eq hoffset]
  rfl

/-- A year with a sign is no stamp. -/
theorem scanStamp_sign {c : Char} (hc : Text.isDigit c = false) (rest : List Char) :
    scanStamp (c :: rest) = none := by
  have hnumber : Text.Scan.number 4 4 (c :: rest) = none := by
    simp [Text.Scan.number, Text.Scan.bind_apply, Text.Scan.digits, hc]
  rw [scanStamp, Text.Scan.bind_apply, hnumber, Option.bind_none]

/-- **A stamp of a year with four digits is read back as its instant**, and others are refused. -/
theorem ofStamp?_stamp (t : Instant) :
    ofStamp? t.stamp = if 0 ≤ t.year ∧ t.year ≤ 9999 then some t else none := by
  have hlist : t.stamp.toList = t.chars ['+', '0', '0', ':', '0', '0'] := String.toList_ofList
  rw [ofStamp?, hlist, chars_eq]
  by_cases hyear : 0 ≤ t.year ∧ t.year ≤ 9999
  · obtain ⟨hmonth, hdate, hhour, hminute, hsecond, hnano⟩ := t.fields_lt
    have hcast : ((t.year.toNat : Nat) : Int) = t.fields.year :=
      Int.toNat_of_nonneg hyear.1
    have hscan := scanStamp_fieldsText (show t.year.toNat < 10000 by omega) hmonth hdate hhour
      hminute hsecond hnano
    rw [hcast] at hscan
    have htext : yearText t.year = padded 4 t.year.toNat := if_pos hyear
    have hall : Text.Scan.all scanStamp (fieldsText (padded 4 t.year.toNat) t.fields.month
        t.fields.date t.fields.hour t.fields.minute t.fields.second t.fields.nano
        ['+', '0', '0', ':', '0', '0']) = some t.fields := by
      rw [Text.Scan.all, hscan]
      rfl
    rw [if_pos hyear, htext, hall]
    exact t.instant?_fields
  · rw [if_neg hyear, show yearText t.year = (if t.year < 0 then '-' else '+') ::
      padded 4 t.year.natAbs from if_neg hyear, fieldsText, List.cons_append, Text.Scan.all,
      scanStamp_sign (by split <;> rfl)]
    rfl

end ImageCatalog.Instant
