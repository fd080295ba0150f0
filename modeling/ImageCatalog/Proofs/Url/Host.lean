import ImageCatalog.Url.Host
import ImageCatalog.Proofs.Url.Domain

/-!
# Hosts that are names

The text of a host is unescaped, brought into its ASCII form and tested for being a number. An
opening bracket in it cannot be hidden by this: no escape takes it in, the bytes of other characters
are larger, and no name may hold it. So the text of a host that is a name has none, and its first
colon ends it.

## Main results

* `Host.ofText_eq_name` — which texts are read as a name
* `Host.not_mem_of_ofText` — no bracket in the text of a name
-/

namespace ImageCatalog.Host

variable {c : Char} {s name ascii : List Char} {b : UInt8} {bytes : List UInt8}

/-! ### Bytes -/

/-- The list of an array's bytes is read from a place on, behind what was read before. -/
theorem toList_loop (a : ByteArray) (i : Nat) (read : List UInt8) :
    ByteArray.toList.loop a i read = read.reverse ++ a.data.toList.drop i := by
  induction i, read using ByteArray.toList.loop.induct a with
  | case1 i read hi ih =>
    have hlength : i < a.data.toList.length := by simpa using hi
    have hget : a.get! i = a.data.toList[i] := by simp [ByteArray.get!, hi]
    rw [ByteArray.toList.loop, if_pos hi, ih, List.drop_eq_getElem_cons hlength, hget]
    simp
  | case2 i read hi =>
    have hlength : a.data.toList.length ≤ i := by simpa using hi
    rw [ByteArray.toList.loop, if_neg hi, List.drop_eq_nil_of_le hlength, List.append_nil]

theorem toList_eq_data (a : ByteArray) : a.toList = a.data.toList := by
  rw [ByteArray.toList, toList_loop]
  simp

theorem toUTF8_ofList (s : List Char) :
    (String.ofList s).toUTF8.toList = s.flatMap String.utf8EncodeChar := by
  rw [String.toUTF8_eq_toByteArray, toList_eq_data]
  exact List.toList_data_toByteArray

theorem toUTF8_of_fromUTF8? {a : ByteArray} {text : String} (h : String.fromUTF8? a = some text) :
    text.toUTF8 = a := by
  unfold String.fromUTF8? at h
  split at h
  · obtain rfl : String.fromUTF8 a _ = text := by simpa using h
    rfl
  · simp at h

theorem utf8EncodeChar_of_lt (hc : c.toNat < 128) :
    String.utf8EncodeChar c = [UInt8.ofNat c.toNat] := by
  have hle : c.val.toNat ≤ 127 := Nat.le_of_lt_succ hc
  rw [String.utf8EncodeChar, if_pos hle]
  rfl

/-- All bytes of a character beyond ASCII are large. -/
theorem le_of_mem_utf8EncodeChar (hc : 128 ≤ c.toNat) (hb : b ∈ String.utf8EncodeChar c) :
    128 ≤ b.toNat := by
  have hlt : ¬ c.val.toNat ≤ 127 := by
    change ¬ c.toNat ≤ 127
    omega
  rw [String.utf8EncodeChar, if_neg hlt] at hb
  split at hb
  · simp only [List.mem_cons, List.not_mem_nil, or_false] at hb
    rcases hb with rfl | rfl <;> simp <;> omega
  · split at hb
    · simp only [List.mem_cons, List.not_mem_nil, or_false] at hb
      rcases hb with rfl | rfl | rfl <;> simp <;> omega
    · simp only [List.mem_cons, List.not_mem_nil, or_false] at hb
      rcases hb with rfl | rfl | rfl | rfl <;> simp <;> omega

/-- An ASCII character stands in a text where its byte does. -/
theorem mem_flatMap_utf8EncodeChar (hc : c.toNat < 128) :
    UInt8.ofNat c.toNat ∈ s.flatMap String.utf8EncodeChar ↔ c ∈ s := by
  have hbyte : (UInt8.ofNat c.toNat).toNat = c.toNat := by
    simp
    omega
  rw [List.mem_flatMap]
  constructor
  · rintro ⟨d, hd, hmem⟩
    by_cases hlarge : 128 ≤ d.toNat
    · have := le_of_mem_utf8EncodeChar hlarge hmem
      omega
    · rw [utf8EncodeChar_of_lt (by omega), List.mem_singleton] at hmem
      have hnat : c.toNat = d.toNat := by
        have h := congrArg UInt8.toNat hmem
        simp at h
        omega
      have heq : c = d := by rw [← Char.ofNat_toNat c, hnat, Char.ofNat_toNat]
      rwa [heq]
  · intro hmem
    exact ⟨c, hmem, by rw [utf8EncodeChar_of_lt hc]; exact List.mem_singleton_self _⟩

/-! ### Escapes -/

/-- A byte that is no part of an escape stays. -/
theorem mem_percentDecode (hpercent : b ≠ 37) (hdigit : digitIn? 16 (Char.ofNat b.toNat) = none)
    (hb : b ∈ bytes) : b ∈ percentDecode bytes := by
  induction bytes using percentDecode.induct with
  | case1 => exact hb
  | case2 x y rest h l hy hx ih =>
    have hxb : b ≠ x := by
      rintro rfl
      simp [hdigit] at hx
    have hyb : b ≠ y := by
      rintro rfl
      simp [hdigit] at hy
    simp only [List.mem_cons, hpercent, hxb, hyb, false_or] at hb
    rw [percentDecode]
    split
    · exact List.mem_cons_of_mem _ (ih hb)
    · rename_i hno
      exact absurd hy (hno h l hx)
  | case3 x y rest hno ih =>
    have hdecode : percentDecode (37 :: x :: y :: rest) = 37 :: percentDecode (x :: y :: rest) := by
      rw [percentDecode]
      split
      · rename_i h l hx hy
        exact absurd hy (hno h l hx)
      · rfl
    rw [hdecode]
    exact List.mem_cons_of_mem _ (ih ((List.mem_cons.1 hb).resolve_left hpercent))
  | case4 x rest hno ih =>
    rw [percentDecode]
    · rcases List.mem_cons.1 hb with rfl | hb
      · exact List.mem_cons_self
      · exact List.mem_cons_of_mem _ (ih hb)
    · exact hno

theorem mem_unescape? (h : unescape? s = some name) (hc : c.toNat < 128) (hpercent : c ≠ '%')
    (hdigit : digitIn? 16 c = none) (hmem : c ∈ s) : c ∈ name := by
  unfold unescape? at h
  split at h
  · obtain ⟨text, htext, rfl⟩ := Option.map_eq_some_iff.1 h
    have hbytes := congrArg ByteArray.toList (toUTF8_of_fromUTF8? htext)
    rw [← String.ofList_toList (s := text), toUTF8_ofList, toList_eq_data, List.toList_toArray,
      toUTF8_ofList] at hbytes
    have hbyte : (UInt8.ofNat c.toNat).toNat = c.toNat := by
      simp
      omega
    rw [← mem_flatMap_utf8EncodeChar hc, hbytes]
    refine mem_percentDecode ?_ ?_ ((mem_flatMap_utf8EncodeChar hc).2 hmem)
    · intro heq
      have hnat := congrArg UInt8.toNat heq
      rw [hbyte] at hnat
      exact hpercent (by rw [← Char.ofNat_toNat c, hnat]; rfl)
    · rwa [hbyte, Char.ofNat_toNat]
  · obtain rfl : s = name := by simpa using h
    exact hmem

/-! ### Names -/

theorem ofAscii_eq_name :
    ofAscii s = .ok (.name ascii) ↔ s = ascii ∧ ascii ≠ [] ∧ endsInNumber ascii = false := by
  unfold ofAscii
  split
  · rename_i hempty
    simp only [List.isEmpty_iff] at hempty
    simp only [reduceCtorEq, false_iff]
    rintro ⟨rfl, hne, -⟩
    exact hne hempty
  · rename_i hne
    simp only [List.isEmpty_iff] at hne
    split
    · rename_i hnumber
      split <;> simp only [Except.ok.injEq, reduceCtorEq, false_iff] <;>
        · rintro ⟨rfl, -, hname⟩
          simp [hname] at hnumber
    · rename_i hname
      simp only [Except.ok.injEq, Host.name.injEq]
      constructor
      · rintro rfl
        exact ⟨rfl, hne, by simpa using hname⟩
      · exact fun h => h.1

/-- The texts of hosts that are read as a name. -/
theorem ofText_eq_name :
    ofText s = .ok (.name ascii) ↔
      s.head? ≠ some '[' ∧ (unescape? s).bind Domain.toAscii? = some ascii ∧ ascii ≠ [] ∧
        endsInNumber ascii = false := by
  unfold ofText
  split
  · rename_i hbracket
    simp only [hbracket, ne_eq, not_true_eq_false, false_and, iff_false]
    unfold bracketed
    repeat' split
    all_goals simp
  · rename_i hbracket
    simp only [ne_eq, hbracket, not_false_eq_true, true_and]
    split
    · rename_i form hform
      rw [ofAscii_eq_name, hform, Option.some.injEq]
    · rename_i hform
      simp [hform]

/-- A plain text without escapes has its letters lowered, and nothing else happens to it. -/
theorem form_of_plain (hpercent : '%' ∉ s) (hplain : Domain.isPlain s) :
    (unescape? s).bind Domain.toAscii? = some ascii ↔
      (∀ c ∈ s, Domain.isForbidden c = false) ∧ s.map Domain.lowerChar = ascii := by
  rw [unescape?, if_neg (by simpa using hpercent), Option.bind_some, Domain.toAscii?, if_pos hplain]
  split
  · rename_i hany
    obtain ⟨c, hc, hforbidden⟩ := List.any_eq_true.1 hany
    simp only [reduceCtorEq, false_iff]
    rintro ⟨hallowed, -⟩
    simp [hallowed c hc] at hforbidden
  · rename_i hallowed
    simp only [List.any_eq_true, not_exists, not_and, Bool.not_eq_true] at hallowed
    rw [Option.some.injEq]
    exact ⟨fun h => ⟨hallowed, h⟩, And.right⟩

/-- No bracket stands in the text of a name. -/
theorem not_mem_of_ofText (h : ofText s = .ok (.name ascii)) : '[' ∉ s := by
  obtain ⟨-, hform, -⟩ := ofText_eq_name.1 h
  obtain ⟨name, hname, hascii⟩ := Option.bind_eq_some_iff.1 hform
  intro hmem
  have hstays := mem_unescape? hname (by decide) (by decide) (by decide) hmem
  exact Domain.not_mem_of_toAscii? hascii (by decide) (by decide) (by decide) hstays

/-- The name of a host holds ASCII characters that names may hold. -/
theorem chars_of_ofText (h : ofText s = .ok (.name ascii)) :
    ∀ c ∈ ascii, Domain.isAscii c ∧ Domain.isForbidden c = false := by
  obtain ⟨-, hform, -⟩ := ofText_eq_name.1 h
  obtain ⟨name, -, hascii⟩ := Option.bind_eq_some_iff.1 hform
  exact Domain.toAscii?_chars hascii

end ImageCatalog.Host
