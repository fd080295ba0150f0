import ImageCatalog.Name
import ImageCatalog.Proofs.Text.Split

/-!
# Valid names and subdomains

A subdomain by the rules of DNS-1123 is a sequence of labels with points between them, where a
label has a letter or a digit at both of its ends. `Name.fault?` looks at the ends of the whole
name only. So it lets a point stand beside another point or beside a hyphen, and this is all that
it lets pass: `Name.isSubdomain_iff`.

## Main definitions

* `Name.IsLabel`, `Name.IsSubdomain` — the grammar of DNS-1123

## Main results

* `Name.fault?_eq_none_iff` — what a valid name is
* `Name.isSubdomain_iff` — which valid names are subdomains
* `Name.not_forall_isSubdomain` — a valid name that is none
-/

namespace ImageCatalog.Name

variable {s : String}

/-- A label: lower-case letters, digits and hyphens, with a letter or a digit at both ends. -/
structure IsLabel (label : List Char) : Prop where
  chars : ∀ c ∈ label, isLowerOrDigit c ∨ c = '-'
  first : label.head?.any isLowerOrDigit
  last : label.getLast?.any isLowerOrDigit

/-- A subdomain of DNS-1123: up to 253 bytes, labels with points between them. -/
structure IsSubdomain (s : String) : Prop where
  size_pos : 1 ≤ s.utf8ByteSize
  size_le : s.utf8ByteSize ≤ 253
  labels : ∃ labels : List (List Char), labels ≠ [] ∧ s.toList = ['.'].intercalate labels ∧
    ∀ label ∈ labels, IsLabel label

namespace IsLabel

variable {label : List Char}

theorem ne_nil (h : IsLabel label) : label ≠ [] := by
  rintro rfl
  exact absurd h.first (by decide)

theorem no_point (h : IsLabel label) : '.' ∉ label := by
  intro hmem
  rcases h.chars _ hmem with hc | hc
  · exact absurd hc (by decide)
  · exact absurd hc (by decide)

theorem isNameChar {c : Char} (h : IsLabel label) (hc : c ∈ label) : isNameChar c := by
  rcases h.chars c hc with hc | rfl
  · simp [Name.isNameChar, hc]
  · decide

end IsLabel

/-! ### Valid names -/

theorem toList_ne_nil_iff : s.toList ≠ [] ↔ 1 ≤ s.utf8ByteSize := by
  rw [Nat.one_le_iff_ne_zero, ne_eq, ne_eq, String.toList_eq_nil_iff,
    String.utf8ByteSize_eq_zero_iff]

theorem fault?_eq_none_iff (s : String) :
    fault? s = none ↔
      1 ≤ s.utf8ByteSize ∧ s.utf8ByteSize ≤ 253 ∧ (∀ c ∈ s.toList, isNameChar c) ∧
        s.toList.head?.any isLowerOrDigit ∧ s.toList.getLast?.any isLowerOrDigit := by
  have hcheck : ∀ (P : Prop) [Decidable P] (fault : Fault) (rest : Option Fault),
      (if P then some fault else rest) = none ↔ ¬ P ∧ rest = none := by
    intro P _ fault rest
    split <;> simp_all
  rw [← toList_ne_nil_iff]
  simp only [fault?, hcheck]
  simp [maxLength]

theorem chars_of_valid (h : fault? s = none) : ∀ c ∈ s.toList, isNameChar c :=
  ((fault?_eq_none_iff s).1 h).2.2.1

theorem ne_nil_of_valid (h : fault? s = none) : s.toList ≠ [] :=
  toList_ne_nil_iff.2 ((fault?_eq_none_iff s).1 h).1

/-! ### Subdomains -/

/-- The labels of a subdomain are its parts between points. -/
theorem IsSubdomain.isLabel (h : IsSubdomain s) :
    ∀ label ∈ Text.splitAtChar '.' s.toList, IsLabel label := by
  obtain ⟨labels, hne, htext, hlabels⟩ := h.labels
  rw [htext, Text.splitAtChar_intercalate hne fun label hmem => (hlabels label hmem).no_point]
  exact hlabels

theorem IsSubdomain.valid (h : IsSubdomain s) : fault? s = none := by
  obtain ⟨labels, hne, htext, hlabels⟩ := h.labels
  refine (fault?_eq_none_iff s).2 ⟨h.size_pos, h.size_le, ?_, ?_, ?_⟩
  · obtain ⟨label, labels, rfl⟩ := List.exists_cons_of_ne_nil hne
    rw [← List.nil_append (label :: labels), Text.intercalate_append_cons] at htext
    intro c hc
    simp only [htext, List.flatMap_nil, List.nil_append, List.mem_append, List.mem_flatMap,
      List.mem_cons] at hc
    rcases hc with hc | ⟨label', hlabel', rfl | hc⟩
    · exact (hlabels label (by simp)).isNameChar hc
    · decide
    · exact (hlabels label' (by simp [hlabel'])).isNameChar hc
  · obtain ⟨label, labels, rfl⟩ := List.exists_cons_of_ne_nil hne
    have hlabel := hlabels label (by simp)
    obtain ⟨c, cs, rfl⟩ := List.exists_cons_of_ne_nil hlabel.ne_nil
    rw [htext, ← List.nil_append ((c :: cs) :: labels), Text.intercalate_append_cons]
    simpa using hlabel.first
  · obtain ⟨labels, label, rfl⟩ := (List.eq_nil_or_concat labels).resolve_left hne
    rw [List.concat_eq_append] at htext hlabels
    have hlabel := hlabels label (by simp)
    obtain ⟨cs, c, rfl⟩ := (List.eq_nil_or_concat label).resolve_left hlabel.ne_nil
    rw [htext, Text.intercalate_append_cons]
    simpa [← List.append_assoc] using hlabel.last

/-- A point beside a point or a hyphen. -/
def gaps : List String := ["..", ".-", "-."]

theorem IsSubdomain.no_gap (h : IsSubdomain s) : ∀ gap ∈ gaps, ¬ gap.toList <:+: s.toList := by
  have hlabels := h.isLabel
  -- a text with a gap is split at the point of the gap, and the label beside it has a bad end
  have hpoint : ∀ front back, s.toList = front ++ '.' :: back →
      ∀ label ∈ Text.splitAtChar '.' front ++ Text.splitAtChar '.' back, IsLabel label := by
    intro front back htext
    rwa [htext, Text.splitAtChar_append] at hlabels
  intro gap hgap
  simp only [gaps, List.mem_cons, List.not_mem_nil, or_false] at hgap
  rintro ⟨front, back, htext⟩
  rcases hgap with rfl | rfl | rfl
  · have htwo := hpoint front ('.' :: back) (by simp [← htext])
    rw [← List.nil_append ('.' :: back), Text.splitAtChar_append] at htwo
    exact (htwo [] (by simp [Text.splitAtChar])).ne_nil rfl
  · have hbehind := hpoint front ('-' :: back) (by simp [← htext])
    obtain ⟨part, parts, hparts⟩ := Text.splitAtChar_cons (by decide : '-' ≠ '.') back
    rw [hparts] at hbehind
    exact absurd (hbehind ('-' :: part) (by simp)).first (by simp; decide)
  · have hbefore := hpoint (front ++ ['-']) back (by simp [← htext])
    obtain ⟨parts, part, hparts⟩ := Text.splitAtChar_concat (by decide : '-' ≠ '.') front
    rw [hparts] at hbefore
    exact absurd (hbefore (part ++ ['-']) (by simp)).last (by simp; decide)

/-- Without a gap, the ends of a label are ends of the name or stand beside a point. -/
theorem isLabel_of_valid (hvalid : fault? s = none)
    (hgaps : ∀ gap ∈ gaps, ¬ gap.toList <:+: s.toList) {label : List Char}
    (hlabel : label ∈ Text.splitAtChar '.' s.toList) : IsLabel label := by
  obtain ⟨-, -, hchars, hhead, hlast⟩ := (fault?_eq_none_iff s).1 hvalid
  have hpoint : '.' ∉ label := Text.not_mem_of_mem_splitAtChar hlabel
  obtain ⟨front, back, htext, hfront, hback⟩ := Text.exists_of_mem_splitAtChar hlabel
  rw [htext] at hgaps hchars hhead hlast
  have hcases : ∀ c ∈ label, isLowerOrDigit c ∨ c = '-' := by
    intro c hc
    have hname := hchars c (by simp [hc])
    have hne : c ≠ '.' := fun heq => hpoint (heq ▸ hc)
    simpa [isNameChar, hne] using hname
  have hne : label ≠ [] := by
    rintro rfl
    rcases hfront with rfl | ⟨before, rfl⟩
    · rcases hback with rfl | ⟨after, rfl⟩
      · exact absurd hhead (by simp)
      · exact absurd hhead (by simp; decide)
    · rcases hback with rfl | ⟨after, rfl⟩
      · exact absurd hlast (by simp; decide)
      · exact hgaps ".." (by simp [gaps]) ⟨before, after, by simp⟩
  refine ⟨hcases, ?_, ?_⟩
  · obtain ⟨c, label, rfl⟩ := List.exists_cons_of_ne_nil hne
    rcases hfront with rfl | ⟨before, rfl⟩
    · simpa using hhead
    · rcases hcases c (by simp) with hc | rfl
      · simpa using hc
      · exact absurd ⟨before, label ++ back, by simp⟩ (hgaps ".-" (by simp [gaps]))
  · obtain ⟨label, c, rfl⟩ := (List.eq_nil_or_concat label).resolve_left hne
    rw [List.concat_eq_append] at *
    rcases hback with rfl | ⟨after, rfl⟩
    · simpa [← List.append_assoc] using hlast
    · rcases hcases c (by simp) with hc | rfl
      · simpa using hc
      · exact absurd ⟨front ++ label, after, by simp⟩ (hgaps "-." (by simp [gaps]))

/-- A text is a valid name if and only if it has 1 to 253 bytes, holds lower-case letters, digits,
hyphens and points, and has a letter or a digit at both ends. It is a subdomain if and only if,
beyond that, no point in it stands beside another point or a hyphen. -/
theorem isSubdomain_iff (s : String) :
    (fault? s = none ↔
      1 ≤ s.utf8ByteSize ∧ s.utf8ByteSize ≤ 253 ∧ (∀ c ∈ s.toList, isNameChar c) ∧
        s.toList.head?.any isLowerOrDigit ∧ s.toList.getLast?.any isLowerOrDigit) ∧
    (IsSubdomain s ↔ fault? s = none ∧ ∀ gap ∈ gaps, ¬ gap.toList <:+: s.toList) := by
  refine ⟨fault?_eq_none_iff s, fun h => ⟨h.valid, h.no_gap⟩, ?_⟩
  rintro ⟨hvalid, hgaps⟩
  obtain ⟨hpos, hle, -⟩ := (fault?_eq_none_iff s).1 hvalid
  exact
    { size_pos := hpos
      size_le := hle
      labels := ⟨Text.splitAtChar '.' s.toList, Text.splitAtChar_ne_nil '.' s.toList,
        (Text.intercalate_splitAtChar '.' s.toList).symm,
        fun label hlabel => isLabel_of_valid hvalid hgaps hlabel⟩ }

/-- `a..b` is a valid name and has an empty label. -/
theorem not_forall_isSubdomain : ¬ ∀ s, fault? s = none ↔ IsSubdomain s := by
  intro h
  have hvalid : fault? "a..b" = none := by decide
  have hlabel := ((h "a..b").1 hvalid).isLabel [] (by decide)
  exact hlabel.ne_nil rfl

end ImageCatalog.Name
