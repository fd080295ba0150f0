import ImageCatalog.Source
import ImageCatalog.Proofs.Artifact.Address
import ImageCatalog.Proofs.Name

/-!
# The addresses of published images

A source puts the key of an image behind the host of its bucket. Nothing in such an address is
dropped, mapped or resolved away: valid names, and labels of hosts, hold only characters that stand
for themselves in every part of an address, and no valid name is taken for the segment `..`.

## Main results

* `Artifact.standsForItself` — what a character of names is to the reader of addresses
* `Artifact.form_bucketHost` — the host of a bucket is its own ASCII form
* `Source.addressFault?_artifact` — the address of the artifact of an image is taken
-/

namespace ImageCatalog.Artifact

variable {c : Char} {bucket region : List Char} {image : String}

/-! ### Characters that stand for themselves -/

theorem isAscii_of_isNameChar (h : Name.isNameChar c) : Domain.isAscii c := by
  simp only [Name.isNameChar, Name.isLowerOrDigit, Bool.or_eq_true, Bool.and_eq_true,
    decide_eq_true_eq, beq_iff_eq] at h
  have hsmall : ∀ d : Char, d.toNat < 128 → c ≤ d → Domain.isAscii c :=
    fun d hd hc => decide_eq_true (Nat.lt_of_le_of_lt hc hd)
  rcases h with ((⟨-, hc⟩ | ⟨-, hc⟩) | rfl) | rfl
  · exact hsmall 'z' (by decide) hc
  · exact hsmall '9' (by decide) hc
  · decide
  · decide

/-- A character that ends no part of an address, and that reading neither drops nor changes. -/
structure StandsForItself (c : Char) : Prop where
  host : Url.isHostChar c
  allowed : Domain.isForbidden c = false
  lower : Domain.lowerChar c = c
  no_escape : c ≠ '%'
  printed : 0x20 < c.toNat

theorem standsForItself (h : Name.isNameChar c) : StandsForItself c := by
  have hall : ∀ c, Domain.isAscii c → Name.isNameChar c → Url.isHostChar c ∧
      Domain.isForbidden c = false ∧ Domain.lowerChar c = c ∧ c ≠ '%' ∧ 0x20 < c.toNat :=
    Domain.forall_isAscii (by decide)
  obtain ⟨hhost, hallowed, hlower, hescape, hprinted⟩ := hall c (isAscii_of_isNameChar h) h
  exact ⟨hhost, hallowed, hlower, hescape, hprinted⟩

theorem StandsForItself.ne_slash (h : StandsForItself c) : c ≠ '/' := by
  rintro rfl
  exact absurd h.host (by decide)

/-! ### Hosts -/

theorem isNameChar_of_mem_bucketHost (hbucket : Name.IsLabel bucket) (hregion : Name.IsLabel region)
    (hc : c ∈ bucketHost bucket region) : Name.isNameChar c :=
  forall_mem_bucketHost (fun _ => hbucket.isNameChar) (fun _ => hregion.isNameChar) (by decide) c hc

theorem bucketHost_plain (hbucket : Name.IsLabel bucket) (hregion : Name.IsLabel region) :
    (bucketHost bucket region).map Domain.lowerChar = bucketHost bucket region := by
  have hsame : ∀ c ∈ bucketHost bucket region, Domain.lowerChar c = id c := fun c hc =>
    (standsForItself (isNameChar_of_mem_bucketHost hbucket hregion hc)).lower
  rw [List.map_congr_left hsame, List.map_id]

theorem labels_bucketHost (hbucket : Name.IsLabel bucket) (hregion : Name.IsLabel region) :
    Domain.labels (bucketHost bucket region) =
      [bucket, "s3".toList, region, "amazonaws".toList, "com".toList] := by
  have hform : bucketHost bucket region = bucket ++ '.' ::
      ("s3".toList ++ '.' :: (region ++ '.' :: ("amazonaws".toList ++ '.' :: "com".toList))) := by
    rw [bucketHost, List.append_assoc, List.append_assoc]
    rfl
  have hends : Text.splitAtChar '.' ("amazonaws".toList ++ '.' :: "com".toList) =
      ["amazonaws".toList, "com".toList] := by decide
  rw [Domain.labels, hform, Text.splitAtChar_append, Text.splitAtChar_append,
    Text.splitAtChar_append, hends, Text.splitAtChar_of_not_mem hbucket.no_point,
    Text.splitAtChar_of_not_mem hregion.no_point]
  rfl

theorem form_bucketHost (hbucket : Name.IsLabel bucket)
    (hbucketMark : ¬ Domain.encodedMark <+: bucket) (hregion : Name.IsLabel region)
    (hregionMark : ¬ Domain.encodedMark <+: region) :
    (Host.unescape? (bucketHost bucket region)).bind Domain.toAscii? =
      some (bucketHost bucket region) := by
  have hchars := fun c hc => isNameChar_of_mem_bucketHost (c := c) hbucket hregion hc
  have hpercent : '%' ∉ bucketHost bucket region :=
    fun hc => (standsForItself (hchars _ hc)).no_escape rfl
  have hplain : Domain.isPlain (bucketHost bucket region) := by
    rw [Domain.isPlain, bucketHost_plain hbucket hregion, labels_bucketHost hbucket hregion,
      Bool.and_eq_true, List.all_eq_true]
    refine ⟨fun c hc => isAscii_of_isNameChar (hchars c hc), ?_⟩
    rw [← List.isPrefixOf_iff_prefix, Bool.not_eq_true] at hbucketMark hregionMark
    simp only [List.any_cons, hbucketMark, hregionMark]
    decide
  refine (Host.form_of_plain hpercent hplain).2 ⟨?_, bucketHost_plain hbucket hregion⟩
  exact fun c hc => (standsForItself (hchars c hc)).allowed

/-! ### Keys -/

theorem isPrefix_before (mark s : List Char) : before mark s <+: s := by
  induction s with
  | nil => exact List.prefix_refl []
  | cons c s ih =>
    rw [before]
    split
    · exact List.nil_prefix
    · exact List.cons_prefix_cons.2 ⟨rfl, ih⟩

theorem mem_replaceFirst {old new s : List Char} (hc : c ∈ replaceFirst old new s) :
    c ∈ new ∨ c ∈ s := by
  induction s with
  | nil => simp [replaceFirst] at hc
  | cons d s ih =>
    rw [replaceFirst] at hc
    split at hc
    · exact (List.mem_append.1 hc).imp_right List.mem_of_mem_drop
    · rcases List.mem_cons.1 hc with rfl | hc
      · exact .inr List.mem_cons_self
      · exact (ih hc).imp_right (List.mem_cons_of_mem d)

/-- The name of a file holds what the name of its image holds, and one more letter. -/
theorem isNameChar_of_mem_fileStem (himage : Name.fault? image = none)
    (hc : c ∈ (fileStem image).toList) : Name.isNameChar c := by
  rw [fileStem, String.toList_ofList] at hc
  have hnew : ∀ c ∈ "kube-v".toList, Name.isNameChar c := Text.forall_mem_of_all (by decide)
  rcases mem_replaceFirst hc with hc | hc
  · exact hnew c hc
  · exact Name.chars_of_valid himage c ((isPrefix_before toolingMark image.toList).subset hc)

theorem key_toList (image : String) :
    (key image).toList = "capv".toList ++
      '/' :: (image.toList ++ '/' :: ((fileStem image).toList ++ ".ova".toList)) := by
  simp [key]

/-- Nothing in a key ends the path, is dropped, or is a slash of another kind. -/
theorem key_chars (himage : Name.fault? image = none) (hc : c ∈ (key image).toList) :
    0x20 < c.toNat ∧ c ≠ '?' ∧ c ≠ '#' ∧ c ≠ '\\' := by
  have hfolder : ∀ c ∈ "capv".toList, Name.isNameChar c := Text.forall_mem_of_all (by decide)
  have hextension : ∀ c ∈ ".ova".toList, Name.isNameChar c := Text.forall_mem_of_all (by decide)
  have hname : Name.isNameChar c ∨ c = '/' := by
    rw [key_toList] at hc
    simp only [List.mem_append, List.mem_cons] at hc
    rcases hc with hc | hc | hc | hc | hc | hc
    · exact .inl (hfolder c hc)
    · exact .inr hc
    · exact .inl (Name.chars_of_valid himage c hc)
    · exact .inr hc
    · exact .inl (isNameChar_of_mem_fileStem himage hc)
    · exact .inl (hextension c hc)
  rcases hname with hname | rfl
  · have hself := standsForItself hname
    refine ⟨hself.printed, ?_, ?_, ?_⟩ <;>
      · rintro rfl
        exact absurd hself.host (by decide)
  · decide

/-- The segments of a key are a folder, the name of the image, and a file. -/
theorem splitAtChar_key (himage : Name.fault? image = none) :
    Text.splitAtChar '/' (key image).toList =
      ["capv".toList, image.toList, (fileStem image).toList ++ ".ova".toList] := by
  have himageSlash : '/' ∉ image.toList :=
    fun hc => (standsForItself (Name.chars_of_valid himage _ hc)).ne_slash rfl
  have hfileSlash : '/' ∉ (fileStem image).toList ++ ".ova".toList := by
    rw [List.mem_append, not_or]
    refine ⟨fun hc => ?_, by decide⟩
    exact (standsForItself (isNameChar_of_mem_fileStem himage hc)).ne_slash rfl
  rw [key_toList, Text.splitAtChar_append, Text.splitAtChar_append,
    Text.splitAtChar_of_not_mem himageSlash, Text.splitAtChar_of_not_mem hfileSlash]
  rfl

/-! ### Paths -/

/-- What stands above the last segment stays, whatever that segment is. -/
theorem mem_resolve_singleton {before : List (List Char)} {x : List Char} (segment : List Char)
    (hx : x ∈ Url.goUp before) : x ∈ Url.resolve before [segment] := by
  have hbefore : x ∈ before := by
    cases before with
    | nil => simp [Url.goUp] at hx
    | cons last before =>
      rw [Url.goUp] at hx
      split at hx
      · exact hx
      · exact List.mem_cons_of_mem last hx
  rw [Url.resolve]
  split
  · simp [hx]
  · split <;> simp [hbefore]

/-- A valid name does not start with a point, written or escaped. -/
theorem dropDot_of_valid (himage : Name.fault? image = none) : Url.dropDot image.toList = none := by
  have hfirst := ((Name.fault?_eq_none_iff image).1 himage).2.2.2.1
  unfold Url.dropDot
  split
  · rename_i hform
    simp [hform, Name.isLowerOrDigit] at hfirst
  · rename_i hform
    simp [hform, Name.isLowerOrDigit] at hfirst
  · rfl

/-- A segment without a point in front is kept. -/
theorem resolve_cons_cons {before rest : List (List Char)} {segment next : List Char}
    (h : Url.dropDot segment = none) :
    Url.resolve before (segment :: next :: rest) =
      Url.resolve (segment :: before) (next :: rest) := by
  have hdouble : Url.isDoubleDot segment = false := by simp [Url.isDoubleDot, h]
  have hsingle : Url.isSingleDot segment = false := by simp [Url.isSingleDot, h]
  rw [Url.resolve]
  · simp only [hdouble, hsingle, Bool.false_eq_true, if_false]
  · simp

/-- The path of a key is not resolved to nothing: its folder stays. -/
theorem namesObject_key (himage : Name.fault? image = none) {u : Url}
    (hpath : u.path = '/' :: (key image).toList) : namesObject u := by
  have hslashes : Url.withSlashes u.path = u.path := by
    have hsame : ∀ c ∈ u.path, (if c = '\\' then '/' else c) = id c := by
      intro c hc
      rw [hpath, List.mem_cons] at hc
      rcases hc with rfl | hc
      · rfl
      · exact if_neg (key_chars himage hc).2.2.2
    rw [Url.withSlashes, List.map_congr_left hsame, List.map_id]
  have hsegments : u.segments =
      Url.resolve [image.toList, "capv".toList] [(fileStem image).toList ++ ".ova".toList] := by
    rw [Url.segments, hslashes, hpath]
    simp only [List.head?_cons, beq_self_eq_true, if_true, List.tail_cons, splitAtChar_key himage]
    rw [resolve_cons_cons (by decide), resolve_cons_cons (dropDot_of_valid himage)]
  have hfolder : "capv".toList ∈ Url.goUp [image.toList, "capv".toList] := by
    rw [Url.goUp]
    split <;> simp
  rw [namesObject, List.any_eq_true, hsegments]
  exact ⟨"capv".toList, mem_resolve_singleton _ hfolder, by decide⟩

/-! ### Addresses -/

/-- The parts of the address of an image in a bucket. -/
def publishedParts (hbucket : Name.IsLabel bucket) (hregion : Name.IsLabel region)
    (image : String) : Url.Parts where
  scheme := "https".toList
  slashes := "//".toList
  user := none
  host := bucketHost bucket region
  port := none
  rest := '/' :: (key image).toList
  scheme_web := web_https
  slashes_chars := isSlash_of_mem
  user_chars := fun _ h => nomatch h
  host_ne_nil := bucketHost_ne_nil hbucket.ne_nil
  host_chars := fun _ hc => (standsForItself (isNameChar_of_mem_bucketHost hbucket hregion hc)).host
  port_digits := fun _ h => nomatch h
  rest_head := rfl

/-- Nothing is dropped when the address of an image is read. -/
theorem cleaned_publishedParts (hbucket : Name.IsLabel bucket) (hregion : Name.IsLabel region)
    (himage : Name.fault? image = none) :
    Url.cleaned (publishedParts hbucket hregion image).text =
      (publishedParts hbucket hregion image).text := by
  refine Url.cleaned_of_lt ?_
  intro c hc
  have hstart : ∀ c ∈ "https".toList ++ ':' :: "//".toList, 0x20 < c.toNat :=
    Text.forall_mem_of_all (by decide)
  have hform : (publishedParts hbucket hregion image).text =
      ("https".toList ++ ':' :: "//".toList) ++
        (bucketHost bucket region ++ '/' :: (key image).toList) := rfl
  rw [hform] at hc
  rcases List.mem_append.1 hc with hc | hc
  · exact hstart c hc
  · rw [List.mem_append, List.mem_cons] at hc
    rcases hc with hc | rfl | hc
    · exact (standsForItself (isNameChar_of_mem_bucketHost hbucket hregion hc)).printed
    · decide
    · exact (key_chars himage hc).1

end ImageCatalog.Artifact

namespace ImageCatalog.Source

open Artifact

/-- **Published addresses are taken.** The address of the artifact of an image with a valid name is
taken as one, for every bucket and every region that are labels of hosts, but no encoded ones. -/
theorem addressFault?_artifact {bucket region image : String} (himage : Name.fault? image = none)
    (hbucket : Name.IsLabel bucket.toList)
    (hbucketMark : ¬ Domain.encodedMark <+: bucket.toList)
    (hregion : Name.IsLabel region.toList)
    (hregionMark : ¬ Domain.encodedMark <+: region.toList) :
    addressFault? ((ofBucket bucket region).artifact image) = none := by
  let p : Url.Parts := publishedParts hbucket hregion image
  have htext : ((ofBucket bucket region).artifact image).toList = p.text := by
    simp only [artifact, address, ofBucket, String.toList_append, List.append_assoc]
    have hhost : bucketHost bucket.toList region.toList ++ '/' :: (key image).toList =
        bucket.toList ++ (".s3.".toList ++ (region.toList ++
          (".amazonaws.com".toList ++ '/' :: (key image).toList))) := by
      simp only [bucketHost, List.append_assoc]
      rfl
    exact (congrArg ("https://".toList ++ ·) hhost).symm
  have hpath : Url.pathOf p.rest = p.rest := by
    refine List.takeWhile_eq_self_iff.2 fun c hc => ?_
    rcases List.mem_cons.1 hc with rfl | hc
    · decide
    · have := key_chars himage hc
      simp [this.2.1, this.2.2.1]
  have hsecure : "https".toList.map Domain.lowerChar = "https".toList := by decide
  have hlocates : Locates p bucket.toList region.toList :=
    { secure := hsecure
      host := form_bucketHost hbucket hbucketMark hregion hregionMark
      bucket_ne_nil := hbucket.ne_nil
      region_ne_nil := hregion.ne_nil
      region_no_point := hregion.no_point
      object := namesObject_key himage hpath }
  refine hlocates.addressFault? ?_
  rw [htext]
  exact cleaned_publishedParts hbucket hregion himage

/-- A bucket with hyphens in a row, and a name with points in a row and both marks of file names. -/
theorem addressFault?_artifact_of_marks :
    Name.fault? "kube-a..b-tooling-kube-1-tooling-gs" = none ∧
    Name.IsLabel "3--images".toList ∧ ¬ Domain.encodedMark <+: "3--images".toList ∧
    Name.IsLabel "eu-central-1".toList ∧ ¬ Domain.encodedMark <+: "eu-central-1".toList ∧
    addressFault?
      ((ofBucket "3--images" "eu-central-1").artifact "kube-a..b-tooling-kube-1-tooling-gs") =
        none :=
  have himage : Name.fault? "kube-a..b-tooling-kube-1-tooling-gs" = none := by decide
  have hbucket : Name.IsLabel "3--images".toList :=
    ⟨Text.forall_mem_of_all (by decide), by decide, by decide⟩
  have hregion : Name.IsLabel "eu-central-1".toList :=
    ⟨Text.forall_mem_of_all (by decide), by decide, by decide⟩
  have hbucketMark : ¬ Domain.encodedMark <+: "3--images".toList := by decide
  have hregionMark : ¬ Domain.encodedMark <+: "eu-central-1".toList := by decide
  ⟨himage, hbucket, hbucketMark, hregion, hregionMark,
    addressFault?_artifact himage hbucket hbucketMark hregion hregionMark⟩

end ImageCatalog.Source
