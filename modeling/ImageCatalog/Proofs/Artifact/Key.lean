import ImageCatalog.Artifact.Key
import ImageCatalog.Release
import Mathlib.Data.List.Infix

/-!
# Keys of the images of releases

The file of an artifact is named for the part of the image name in front of the first
`-tooling-`, with its first `kube-` replaced. In the name that a release gives its image, these
are the places where the versions of Kubernetes and of the tooling are put: neither mark can stand
earlier, not even across two versions, because a word without hyphens does not reach over the
hyphens between them.

## Main results

* `Artifact.before_hyphenated`, `Artifact.replaceFirst_hyphenated` — the first place of a word
  between hyphens
* `Artifact.key_imageName` — the key of the image that a release needs
-/

namespace ImageCatalog.Artifact

variable {mark old new s t w x : List Char}

/-! ### First places -/

/-- What the mark does not start in is passed over. -/
theorem before_append (h : ∀ x, x <:+ s → x ≠ [] → ¬ mark <+: x ++ t) :
    before mark (s ++ t) = s ++ before mark t := by
  induction s with
  | nil => rfl
  | cons c s ih =>
    have hc : ¬ mark.isPrefixOf (c :: (s ++ t)) := by
      rw [List.isPrefixOf_iff_prefix]
      exact h (c :: s) (List.suffix_refl _) (by simp)
    have htail : ∀ x, x <:+ s → x ≠ [] → ¬ mark <+: x ++ t :=
      fun x hx => h x (hx.trans (List.suffix_cons c s))
    rw [List.cons_append, before, if_neg hc, ih htail, List.cons_append]

theorem before_self_append (mark t : List Char) : before mark (mark ++ t) = [] := by
  cases hmark : mark ++ t with
  | nil => rfl
  | cons c rest =>
    have hprefix : mark.isPrefixOf (c :: rest) := by
      rw [List.isPrefixOf_iff_prefix, ← hmark]
      exact List.prefix_append mark t
    rw [before, if_pos hprefix]

theorem replaceFirst_append (h : ∀ x, x <:+ s → x ≠ [] → ¬ old <+: x ++ t) :
    replaceFirst old new (s ++ t) = s ++ replaceFirst old new t := by
  induction s with
  | nil => rfl
  | cons c s ih =>
    have hc : ¬ old.isPrefixOf (c :: (s ++ t)) := by
      rw [List.isPrefixOf_iff_prefix]
      exact h (c :: s) (List.suffix_refl _) (by simp)
    have htail : ∀ x, x <:+ s → x ≠ [] → ¬ old <+: x ++ t :=
      fun x hx => h x (hx.trans (List.suffix_cons c s))
    rw [List.cons_append, replaceFirst, if_neg hc, ih htail, List.cons_append]

theorem replaceFirst_self_append (hold : old ≠ []) (new t : List Char) :
    replaceFirst old new (old ++ t) = new ++ t := by
  obtain ⟨c, rest, hrest⟩ := List.exists_cons_of_ne_nil (l := old ++ t) (by simp [hold])
  have hprefix : old.isPrefixOf (c :: rest) := by
    rw [List.isPrefixOf_iff_prefix, ← hrest]
    exact List.prefix_append old t
  rw [hrest, replaceFirst, if_pos hprefix, ← hrest, List.drop_left]

/-! ### Words between hyphens -/

/-- A word without hyphens that starts in front of a hyphen also ends there. -/
theorem not_prefix_append_hyphen (hw : '-' ∉ w) (hx : ¬ w <:+: x) (t : List Char) :
    ¬ w <+: x ++ '-' :: t := by
  intro hprefix
  have hfront : x ++ ['-'] <+: x ++ '-' :: t := ⟨t, by simp⟩
  rcases List.prefix_or_prefix_of_prefix hprefix hfront with h | h
  · rcases List.prefix_concat_iff.1 h with rfl | h
    · exact hw (by simp)
    · exact hx h.isInfix
  · exact hw (h.subset (by simp))

theorem not_infix_append_hyphen (hw : '-' ∉ w) (hs : ¬ w <:+: s) (ht : ¬ w <:+: t) :
    ¬ w <:+: s ++ '-' :: t := by
  intro h
  rcases List.infix_append_iff.1 h with h | h | ⟨front, back, rfl, hfront, hback⟩
  · exact hs h
  · rcases List.infix_cons_iff.1 h with h | h
    · exact not_prefix_append_hyphen hw (x := []) (fun hnil => hs (hnil.trans List.nil_infix)) t h
    · exact ht h
  · cases back with
    | nil => exact hs (by simpa using hfront.isInfix)
    | cons c back =>
      obtain ⟨rfl, -⟩ := List.cons_prefix_cons.1 hback
      exact hw (by simp)

theorem before_hyphenated (hw : '-' ∉ w) (hs : ¬ w <:+: s) (t : List Char) :
    before ('-' :: (w ++ ['-'])) (s ++ '-' :: (w ++ '-' :: t)) = s := by
  have hmark : '-' :: (w ++ '-' :: t) = '-' :: (w ++ ['-']) ++ t := by simp
  rw [before_append, hmark, before_self_append, List.append_nil]
  intro x hx hne hprefix
  obtain ⟨c, x, rfl⟩ := List.exists_cons_of_ne_nil hne
  have hrest : w ++ ['-'] <+: x ++ '-' :: (w ++ '-' :: t) := (List.cons_prefix_cons.1 hprefix).2
  have hinfix : ¬ w <:+: x := fun h => hs (h.trans ((List.suffix_cons c x).trans hx).isInfix)
  exact not_prefix_append_hyphen hw hinfix _ ((List.prefix_append w ['-']).trans hrest)

theorem replaceFirst_hyphenated (hw : '-' ∉ w) (hs : ¬ w <:+: s) (new t : List Char) :
    replaceFirst (w ++ ['-']) new (s ++ '-' :: (w ++ '-' :: t)) = s ++ '-' :: (new ++ t) := by
  have htext : s ++ '-' :: (w ++ '-' :: t) = (s ++ ['-']) ++ ((w ++ ['-']) ++ t) := by simp
  rw [htext, replaceFirst_append, replaceFirst_self_append (by simp)]
  · simp
  · intro x hx hne hprefix
    obtain ⟨x, rfl, hsuffix⟩ := (List.suffix_concat_iff.1 hx).resolve_left hne
    have hinfix : ¬ w <:+: x := fun h => hs (h.trans hsuffix.isInfix)
    refine not_prefix_append_hyphen hw hinfix ((w ++ ['-']) ++ t) ?_
    exact (List.prefix_append w ['-']).trans (by simpa using hprefix)

/-! ### The images of releases -/

/-- A version without its `v` is the version itself if it has none. -/
theorem plainVersion_cases (v : String) :
    v = "v" ++ Release.plainVersion v ∨
      v = Release.plainVersion v ∧ v.toList.head? ≠ some 'v' := by
  simp only [Release.plainVersion]
  split
  · rename_i rest hv
    left
    rw [← String.toList_inj, hv]
    simp
  · rename_i hv
    right
    refine ⟨rfl, fun hhead => ?_⟩
    obtain ⟨rest, hrest⟩ := List.head?_eq_some_iff.1 hhead
    exact hv rest hrest

theorem isInfix_plainVersion (v : String) : (Release.plainVersion v).toList <:+: v.toList := by
  rcases plainVersion_cases v with h | ⟨h, -⟩
  · have htext : v.toList = "v".toList ++ (Release.plainVersion v).toList := by
      rw [← String.toList_append, ← h]
    exact ⟨"v".toList, [], by rw [List.append_nil, ← htext]⟩
  · rw [← h]

/-- The file of the image of a release is named for the channel, the version of the system and the
version of Kubernetes, the last with a `v` in front. -/
theorem fileStem_imageName {channel flatcar kubernetes : String} (tooling : String)
    (hkube : ∀ s ∈ [channel, flatcar, kubernetes], ¬ "kube".toList <:+: s.toList)
    (htooling : ∀ s ∈ [channel, flatcar, kubernetes], ¬ "tooling".toList <:+: s.toList) :
    fileStem (Release.imageName channel flatcar kubernetes tooling) =
      "flatcar-" ++ channel ++ "-" ++ flatcar ++ "-kube-v" ++ Release.plainVersion kubernetes := by
  simp only [List.forall_mem_cons, List.not_mem_nil, false_implies, implies_true, and_true]
    at hkube htooling
  obtain ⟨hkubeChannel, hkubeFlatcar, -⟩ := hkube
  obtain ⟨htoolingChannel, htoolingFlatcar, htoolingKubernetes⟩ := htooling
  let k : List Char := (Release.plainVersion kubernetes).toList
  let system : List Char := "flatcar".toList ++ '-' :: (channel.toList ++ '-' :: flatcar.toList)
  let front : List Char := system ++ '-' :: ("kube".toList ++ '-' :: k)
  have hk : ¬ "tooling".toList <:+: k :=
    fun h => htoolingKubernetes (h.trans (isInfix_plainVersion kubernetes))
  have hsystem : ∀ word : List Char, '-' ∉ word → ¬ word <:+: "flatcar".toList →
      ¬ word <:+: channel.toList → ¬ word <:+: flatcar.toList → ¬ word <:+: system :=
    fun word hword hflatcar hchannel hversion =>
      not_infix_append_hyphen hword hflatcar (not_infix_append_hyphen hword hchannel hversion)
  have hkubeSystem := hsystem "kube".toList (by decide) (by decide) hkubeChannel hkubeFlatcar
  have htoolingSystem :=
    hsystem "tooling".toList (by decide) (by decide) htoolingChannel htoolingFlatcar
  have htoolingFront : ¬ "tooling".toList <:+: front :=
    not_infix_append_hyphen (by decide) htoolingSystem
      (not_infix_append_hyphen (by decide) (by decide) hk)
  have hname : (Release.imageName channel flatcar kubernetes tooling).toList =
      front ++ '-' :: ("tooling".toList ++
        '-' :: ((Release.plainVersion tooling).toList ++ "-gs".toList)) := by
    unfold Release.imageName
    simp [front, system, k]
  have hbefore : before toolingMark (Release.imageName channel flatcar kubernetes tooling).toList =
      front := by
    rw [hname]
    exact before_hyphenated (by decide) htoolingFront _
  have hreplaced : replaceFirst "kube-".toList "kube-v".toList front =
      system ++ '-' :: ("kube-v".toList ++ k) :=
    replaceFirst_hyphenated (by decide) hkubeSystem _ _
  rw [fileStem, hbefore, hreplaced, ← String.toList_inj]
  simp [system, k]

/-- **Releases and artifacts agree.** The key of the image that a release needs is made of the name
of the image and of the versions that the release pins, for versions that hold neither `kube` nor
`tooling`. The version of the tooling may be any text. -/
theorem key_imageName {channel flatcar kubernetes : String} (tooling : String)
    (hkube : ∀ s ∈ [channel, flatcar, kubernetes], ¬ "kube".toList <:+: s.toList)
    (htooling : ∀ s ∈ [channel, flatcar, kubernetes], ¬ "tooling".toList <:+: s.toList) :
    ∃ k, (kubernetes = "v" ++ k ∨ kubernetes = k ∧ kubernetes.toList.head? ≠ some 'v') ∧
      key (Release.imageName channel flatcar kubernetes tooling) =
        "capv/" ++ Release.imageName channel flatcar kubernetes tooling ++ "/flatcar-" ++ channel ++
          "-" ++ flatcar ++ "-kube-v" ++ k ++ ".ova" := by
  refine ⟨Release.plainVersion kubernetes, plainVersion_cases kubernetes, ?_⟩
  rw [key, fileStem_imageName tooling hkube htooling, ← String.toList_inj]
  simp

/-- A tooling version that holds both marks moves neither. -/
theorem key_imageName_of_marks :
    (∀ s ∈ ["stable", "3975.2.0", "v1.30.4"], ¬ "kube".toList <:+: s.toList) ∧
    (∀ s ∈ ["stable", "3975.2.0", "v1.30.4"], ¬ "tooling".toList <:+: s.toList) ∧
    ∃ k, ("v1.30.4" = "v" ++ k ∨ "v1.30.4" = k ∧ "v1.30.4".toList.head? ≠ some 'v') ∧
      key (Release.imageName "stable" "3975.2.0" "v1.30.4" "1-tooling-kube-2") =
        "capv/" ++ Release.imageName "stable" "3975.2.0" "v1.30.4" "1-tooling-kube-2" ++
          "/flatcar-" ++ "stable" ++ "-" ++ "3975.2.0" ++ "-kube-v" ++ k ++ ".ova" :=
  have hkube : ∀ s ∈ ["stable", "3975.2.0", "v1.30.4"], ¬ "kube".toList <:+: s.toList := by decide
  have htooling : ∀ s ∈ ["stable", "3975.2.0", "v1.30.4"], ¬ "tooling".toList <:+: s.toList := by
    decide
  ⟨hkube, htooling, key_imageName "1-tooling-kube-2" hkube htooling⟩

end ImageCatalog.Artifact
