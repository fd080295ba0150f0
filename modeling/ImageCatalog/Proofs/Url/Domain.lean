import ImageCatalog.Url.Domain
import ImageCatalog.Proofs.Text.Composition

/-!
# What the ASCII form of a name holds

Two facts about names of hosts. Their ASCII form holds ASCII characters only, and none that no name
may hold. And a name with such a character has no ASCII form, but for `<` and `>`: these two can be
composed with a mark behind them. Mapping keeps ASCII characters, composition keeps them, and an
encoded label keeps what stands in front of its digits.

## Main results

* `Domain.toAscii?_chars` — what the ASCII form of a name holds
* `Domain.not_mem_of_toAscii?` — what a name with an ASCII form does not hold
-/

namespace ImageCatalog.Domain

variable {c : Char} {s name label ascii : List Char}

/-- What is read item by item has a result for each item. -/
theorem exists_of_mem_mapM {α β : Type} {f : α → Option β} {l : List α} {l' : List β} {a : α}
    (h : l.mapM f = some l') (ha : a ∈ l) : ∃ b ∈ l', f a = some b := by
  induction l generalizing l' with
  | nil => simp at ha
  | cons x l ih =>
    rw [List.mapM_cons] at h
    obtain ⟨y, hy, hrest⟩ := Option.bind_eq_some_iff.1 h
    obtain ⟨ys, hys, hresult⟩ := Option.bind_eq_some_iff.1 hrest
    obtain rfl : y :: ys = l' := by simpa using hresult
    rcases List.mem_cons.1 ha with rfl | ha
    · exact ⟨y, List.mem_cons_self, hy⟩
    · obtain ⟨b, hb, hfb⟩ := ih hys ha
      exact ⟨b, List.mem_cons_of_mem y hb, hfb⟩

/-! ### Characters -/

/-- A property of all ASCII characters is tested on their numbers. -/
theorem forall_isAscii {p : Char → Prop} (h : ∀ n < 128, p (Char.ofNat n)) :
    ∀ c, isAscii c → p c := by
  intro c hc
  rw [isAscii, decide_eq_true_eq] at hc
  have := h c.toNat hc
  rwa [Char.ofNat_toNat] at this

theorem isForbidden_lowerChar (hc : isAscii c) :
    isAscii (lowerChar c) ∧ isForbidden (lowerChar c) = isForbidden c :=
  forall_isAscii (p := fun c => isAscii (lowerChar c) ∧
    isForbidden (lowerChar c) = isForbidden c) (by decide) c hc

theorem isAscii_of_isForbidden (hc : isForbidden c) : isAscii c := by
  simp only [isForbidden, Bool.or_eq_true, decide_eq_true_eq, beq_iff_eq] at hc
  rw [isAscii, decide_eq_true_eq]
  simp only [or_assoc] at hc
  rcases hc with hc | hc
  · omega
  · repeat' rcases hc with rfl | hc
    all_goals first | decide | omega

/-- But for the two that composition may hide, what is forbidden is kept by composition, and is no
part of the encoding of a label. -/
theorem isForbidden_cases (hc : isForbidden c) :
    (Text.isInert c.toNat ∧ punyValue? c = none ∧ c ≠ '-' ∧ c ≠ '.' ∧ lowerChar c = c) ∨
      c = '<' ∨ c = '>' :=
  forall_isAscii (p := fun c => isForbidden c →
    (Text.isInert c.toNat ∧ punyValue? c = none ∧ c ≠ '-' ∧ c ≠ '.' ∧ lowerChar c = c) ∨
      c = '<' ∨ c = '>') (by decide) c (isAscii_of_isForbidden hc) hc

/-- A digit of an encoded label. -/
def IsPunyDigit (c : Char) : Prop :=
  ∃ n < 36, punyDigit n = c

theorem IsPunyDigit.isAscii (hc : IsPunyDigit c) : isAscii c ∧ isForbidden c = false := by
  obtain ⟨n, hn, rfl⟩ := hc
  have hall : ∀ n < 36, Domain.isAscii (punyDigit n) ∧ isForbidden (punyDigit n) = false := by
    decide
  exact hall n hn

/-! ### Encoded labels -/

theorem threshold_le (place bias : Nat) : threshold place bias ≤ 26 := by
  unfold threshold
  split
  · omega
  · split <;> omega

theorem isPunyDigit_of_mem_punyNumber {bias fuel place n : Nat}
    (hc : c ∈ punyNumber bias fuel place n) : IsPunyDigit c := by
  induction fuel generalizing place n with
  | zero => simp [punyNumber] at hc
  | succ fuel ih =>
    have ht := threshold_le place bias
    rw [punyNumber] at hc
    split at hc
    · rename_i hlt
      rw [List.mem_singleton.1 hc]
      exact ⟨n, by omega, rfl⟩
    · rcases List.mem_cons.1 hc with rfl | hc
      · have hmod : (n - threshold place bias) % (36 - threshold place bias) <
            36 - threshold place bias := Nat.mod_lt _ (by omega)
        exact ⟨_, by omega, rfl⟩
      · exact ih hc

/-- An encoder that has written digits only. -/
def Encoder.WritesDigits (e : Encoder) : Prop :=
  ∀ c ∈ e.digits, IsPunyDigit c

theorem Encoder.WritesDigits.encodeCode {e : Encoder} (he : e.WritesDigits) (basic code : Nat)
    (label : List Nat) : (encodeCode basic code label e).WritesDigits := by
  unfold Domain.encodeCode
  refine List.foldlRecOn (motive := WritesDigits) label _ he ?_
  intro e he n _
  split
  · exact he
  · split
    · intro c hc
      rcases List.mem_append.1 hc with hc | hc
      · exact he c hc
      · exact isPunyDigit_of_mem_punyNumber hc
    · exact he

theorem Encoder.WritesDigits.encodeCodes {e : Encoder} (he : e.WritesDigits) (basic : Nat)
    (label : List Nat) (last : Nat) (codes : List Nat) :
    (encodeCodes basic label last codes e).WritesDigits := by
  induction codes generalizing last e with
  | nil => exact he
  | cons code codes ih =>
    have hmoved :
        Encoder.WritesDigits { e with delta := e.delta + (code - last) * (e.handled + 1) } := he
    exact ih (hmoved.encodeCode basic code label) (code + 1)

theorem mem_encodeLabel (hc : c ∈ encodeLabel label) :
    c ∈ label ∧ isAscii c ∨ c = '-' ∨ IsPunyDigit c := by
  have hdigits : Encoder.WritesDigits ⟨[], 0, 72, (label.filter fun c => c.toNat < 128).length⟩ :=
    fun c hc => absurd hc List.not_mem_nil
  unfold encodeLabel at hc
  rcases List.mem_append.1 hc with hc | hc
  · split at hc
    · simp at hc
    · simp only [List.mem_append, List.mem_filter, List.mem_singleton] at hc
      exact hc.imp_right .inl
  · exact .inr (.inr (hdigits.encodeCodes _ _ _ _ c hc))

/-! ### Decoded labels -/

/-- Characters that are put into a label do not replace others. -/
theorem subset_decodeCodes {fuel code index bias : Nat} {digits decoded : List Char}
    (h : decodeCodes fuel code index bias label digits = some decoded) : label ⊆ decoded := by
  induction fuel generalizing code index bias label digits with
  | zero => simp [decodeCodes] at h
  | succ fuel ih =>
    cases digits with
    | nil =>
      obtain rfl : label = decoded := by simpa [decodeCodes] using h
      exact List.Subset.refl label
    | cons d digits =>
      rw [decodeCodes] at h
      obtain ⟨⟨distance, rest⟩, -, h⟩ := Option.bind_eq_some_iff.1 h
      dsimp only at h
      split at h
      · simp at h
      · intro c hc
        refine ih h ?_
        rw [← List.take_append_drop ((index + distance) % (label.length + 1)) label] at hc
        simp only [List.mem_append, List.mem_cons] at hc ⊢
        exact hc.imp_right .inr
      · simp

/-- A number takes digits only. -/
theorem isSome_of_readPunyNumber {bias place weight total n : Nat} {digits rest : List Char}
    (h : readPunyNumber bias place weight total digits = some (n, rest)) :
    ∀ c ∈ digits, (punyValue? c).isSome ∨ c ∈ rest := by
  induction digits generalizing place weight total with
  | nil => simp [readPunyNumber] at h
  | cons d digits ih =>
    rw [readPunyNumber] at h
    obtain ⟨value, hvalue, h⟩ := Option.bind_eq_some_iff.1 h
    have hd : (punyValue? d).isSome := by rw [hvalue]; rfl
    intro c hc
    rcases List.mem_cons.1 hc with rfl | hc
    · exact .inl hd
    · dsimp only at h
      split at h
      · simp at h
      · split at h
        · obtain ⟨-, rfl⟩ : _ ∧ digits = rest := by simpa using h
          exact .inr hc
        · split at h
          · simp at h
          · exact ih h c hc

theorem isSome_of_decodeCodes {fuel code index bias : Nat} {digits decoded : List Char}
    (h : decodeCodes fuel code index bias label digits = some decoded) :
    ∀ c ∈ digits, (punyValue? c).isSome := by
  induction fuel generalizing code index bias label digits with
  | zero => simp [decodeCodes] at h
  | succ fuel ih =>
    cases digits with
    | nil => simp
    | cons d digits =>
      rw [decodeCodes] at h
      obtain ⟨⟨distance, rest⟩, hread, h⟩ := Option.bind_eq_some_iff.1 h
      dsimp only at h
      split at h
      · simp at h
      · intro c hc
        exact (isSome_of_readPunyNumber hread c hc).elim id fun hc => ih h c hc
      · simp

/-- What an encoded label holds is a digit, a hyphen, or stays. -/
theorem mem_decodeLabel? {decoded : List Char} (h : decodeLabel? s = some decoded) (hc : c ∈ s) :
    (punyValue? c).isSome ∨ c = '-' ∨ c ∈ decoded := by
  unfold decodeLabel? at h
  dsimp only at h
  by_cases hhyphen : '-' ∈ s
  · obtain ⟨front, back, rfl, hback⟩ := Text.exists_last hhyphen
    have hne : back.length ≠ (front ++ '-' :: back).length := by simp; omega
    have hfront : (front ++ '-' :: back).length - back.length - 1 = front.length := by simp; omega
    rw [Text.takeWhile_reverse_append front hback, List.reverse_reverse, if_neg hne, hfront,
      List.take_left] at h
    split at h
    · simp at h
    · rcases List.mem_append.1 hc with hc | hc
      · exact .inr (.inr (subset_decodeCodes h hc))
      · rcases List.mem_cons.1 hc with rfl | hc
        · exact .inr (.inl rfl)
        · exact .inl (isSome_of_decodeCodes h c hc)
  · -- without a hyphen all of it is digits
    rw [Text.takeWhile_reverse_of_not_mem hhyphen, List.reverse_reverse, if_pos rfl] at h
    exact .inl (isSome_of_decodeCodes h c hc)

/-! ### Names -/

theorem mem_mapped? {mapped : List Char} (h : mapped? name = some mapped) (hc : c ∈ name)
    (hinert : Text.isInert c.toNat) (hlower : lowerChar c = c) : c ∈ mapped := by
  obtain ⟨parts, hparts, h⟩ := Option.bind_eq_some_iff.1 h
  obtain rfl : Text.compose parts.flatten = mapped := by simpa using h
  obtain ⟨part, hpart, hmap⟩ := exists_of_mem_mapM hparts hc
  have hascii : isAscii c := decide_eq_true (Text.lt_of_isInert hinert)
  rw [if_pos hascii, hlower] at hmap
  obtain rfl : [c] = part := by simpa using hmap
  exact Text.mem_compose hinert (List.mem_flatten.2 ⟨[c], hpart, List.mem_singleton_self c⟩)

theorem mem_decodedLabel? {decoded : List Char} (h : decodedLabel? label = some decoded)
    (hc : c ∈ label) (hvalue : punyValue? c = none) (hhyphen : c ≠ '-') : c ∈ decoded := by
  unfold decodedLabel? at h
  split at h
  · rename_i hmark
    obtain ⟨rest, rfl⟩ := List.isPrefixOf_iff_prefix.1 hmark
    have hrest : c ∈ rest := by
      refine (List.mem_append.1 hc).resolve_left fun hmem => ?_
      have hall : ∀ c ∈ encodedMark, (punyValue? c).isSome ∨ c = '-' :=
        Text.forall_mem_of_all (by decide)
      rcases hall c hmem with hsome | rfl
      · simp [hvalue] at hsome
      · exact hhyphen rfl
    rw [show (encodedMark ++ rest).drop 4 = rest from rfl] at h
    split at h
    · rename_i inner hinner
      split at h
      · simp at h
      · obtain rfl : inner = decoded := by simpa using h
        rcases mem_decodeLabel? hinner hrest with hsome | rfl | hmem
        · simp [hvalue] at hsome
        · exact absurd rfl hhyphen
        · exact hmem
    · simp at h
  · have hsame : label = decoded := by
      split at h
      · simpa using h
      · split at h
        · simpa using h
        · simp at h
    rwa [← hsame]

/-- What the general rule gives: decoded labels without forbidden characters, each encoded. -/
theorem generalAscii?_eq_some (h : generalAscii? name = some ascii) :
    ∃ mapped decoded, mapped? name = some mapped ∧
      (labels mapped).mapM decodedLabel? = some decoded ∧
      (∀ label ∈ decoded, ∀ c ∈ label, isForbidden c = false) ∧
      ascii = ['.'].intercalate (decoded.map encodedLabel) := by
  obtain ⟨mapped, hmapped, h⟩ := Option.bind_eq_some_iff.1 h
  obtain ⟨decoded, hdecoded, h⟩ := Option.bind_eq_some_iff.1 h
  split at h
  · simp at h
  · split at h
    · simp at h
    · rename_i hallowed
      refine ⟨mapped, decoded, hmapped, hdecoded, ?_, by simpa using h.symm⟩
      intro label hlabel c hc
      simp only [List.any_flatten, List.any_eq_true, not_exists, not_and,
        Bool.not_eq_true] at hallowed
      exact hallowed label hlabel c hc

/-- A name with an ASCII form has no forbidden character, but perhaps `<` or `>`. -/
theorem not_mem_of_toAscii? (h : toAscii? name = some ascii) (hc : isForbidden c) (hlt : c ≠ '<')
    (hgt : c ≠ '>') : c ∉ name := by
  intro hmem
  unfold toAscii? at h
  split at h
  · split at h
    · simp at h
    · rename_i hallowed
      exact hallowed (List.any_eq_true.2 ⟨c, hmem, hc⟩)
  · obtain ⟨mapped, decoded, hmapped, hdecoded, hallowed, -⟩ := generalAscii?_eq_some h
    obtain ⟨hinert, hvalue, hhyphen, hpoint, hlower⟩ :=
      (isForbidden_cases hc).resolve_right (not_or.2 ⟨hlt, hgt⟩)
    have hmapped := mem_mapped? hmapped hmem hinert hlower
    obtain ⟨label, hlabel, hmem⟩ := Text.exists_part_of_mem hpoint hmapped
    obtain ⟨decodedLabel, hdecodedLabel, heq⟩ := exists_of_mem_mapM hdecoded hlabel
    have hstays := mem_decodedLabel? heq hmem hvalue hhyphen
    rw [hallowed decodedLabel hdecodedLabel c hstays] at hc
    simp at hc

/-- The ASCII form of a name holds no other characters than ASCII, and no forbidden ones. -/
theorem toAscii?_chars (h : toAscii? name = some ascii) :
    ∀ c ∈ ascii, isAscii c ∧ isForbidden c = false := by
  unfold toAscii? at h
  split at h
  · rename_i hplain
    simp only [isPlain, Bool.and_eq_true, List.all_eq_true] at hplain
    split at h
    · simp at h
    · rename_i hallowed
      obtain rfl : name.map lowerChar = ascii := by simpa using h
      intro c hc
      obtain ⟨d, hd, rfl⟩ := List.mem_map.1 hc
      obtain ⟨hascii, hsame⟩ := isForbidden_lowerChar (hplain.1 d hd)
      simp only [List.any_eq_true, not_exists, not_and, Bool.not_eq_true] at hallowed
      exact ⟨hascii, hsame.trans (hallowed d hd)⟩
  · obtain ⟨mapped, decoded, -, -, hallowed, rfl⟩ := generalAscii?_eq_some h
    intro c hc
    rcases Text.mem_intercalate hc with rfl | ⟨encoded, hencoded, hc⟩
    · decide
    · obtain ⟨label, hlabel, rfl⟩ := List.mem_map.1 hencoded
      unfold encodedLabel at hc
      split at hc
      · rename_i hascii
        exact ⟨List.all_eq_true.1 hascii c hc, hallowed label hlabel c hc⟩
      · rcases List.mem_append.1 hc with hc | hc
        · have hall : ∀ c ∈ encodedMark, isAscii c ∧ isForbidden c = false :=
            Text.forall_mem_of_all (by decide)
          exact hall c hc
        · rcases mem_encodeLabel hc with ⟨hc, hascii⟩ | rfl | hc
          · exact ⟨hascii, hallowed label hlabel c hc⟩
          · decide
          · exact hc.isAscii

end ImageCatalog.Domain
