import ImageCatalog.Artifact.Address
import ImageCatalog.Proofs.Text.Split
import ImageCatalog.Proofs.Url.Parts
import ImageCatalog.Text.Blank

/-!
# Which addresses are those of artifacts

The address of an artifact is documented as `https://<bucket>.s3.<region>.amazonaws.com/<key>`. The
test of an address looks at what the reader of web addresses makes of it, so that it also takes
other texts: with a user or a port, with more or fewer slashes, with blanks around. This is said by
the parts of the address. Of addresses that are plainly written, the documented ones are those
without a user and without a port.

## Main definitions

* `Artifact.IsDocumented` — the documented form
* `Artifact.Locates` — parts of an address that locate an object in a bucket

## Main results

* `Artifact.addressFault?_eq_none_iff` — which texts are taken as addresses of artifacts, and which
  of them have the documented form
* `Artifact.not_forall_isDocumented` — a user and a port are taken
-/

namespace ImageCatalog.Artifact

variable {s front back host endpoint bucket region : List Char}

/-! ### Hosts of buckets -/

/-- The host of a bucket in a region. -/
def bucketHost (bucket region : List Char) : List Char :=
  bucket ++ ".s3.".toList ++ region ++ hostSuffix

theorem bucketHost_ne_nil (hbucket : bucket ≠ []) : bucketHost bucket region ≠ [] := by
  simp [bucketHost, hbucket]

/-- A property of the characters of a host is tested on those of its fixed parts. -/
theorem forall_mem_bucketHost {q : Char → Bool} (hbucket : ∀ c ∈ bucket, q c)
    (hregion : ∀ c ∈ region, q c) (hfixed : (".s3.".toList ++ hostSuffix).all q) :
    ∀ c ∈ bucketHost bucket region, q c := by
  rw [List.all_append, Bool.and_eq_true, List.all_eq_true, List.all_eq_true] at hfixed
  intro c hc
  simp only [bucketHost, List.mem_append] at hc
  rcases hc with ((hc | hc) | hc) | hc
  · exact hbucket c hc
  · exact hfixed.1 c hc
  · exact hregion c hc
  · exact hfixed.2 c hc

theorem splitLastPoint?_append (front : List Char) (hback : '.' ∉ back) :
    splitLastPoint? (front ++ '.' :: back) = some (front, back) := by
  rw [splitLastPoint?, Text.dropWhile_reverse_append front hback]
  simp

theorem splitLastPoint?_eq_some :
    splitLastPoint? s = some (front, back) ↔ s = front ++ '.' :: back ∧ '.' ∉ back := by
  constructor
  · intro h
    by_cases hpoint : '.' ∈ s
    · obtain ⟨front', back', rfl, hback⟩ := Text.exists_last hpoint
      rw [splitLastPoint?_append front' hback, Option.some.injEq, Prod.mk.injEq] at h
      obtain ⟨rfl, rfl⟩ := h
      exact ⟨rfl, hback⟩
    · rw [splitLastPoint?, Text.dropWhile_reverse_of_not_mem hpoint] at h
      simp at h
  · rintro ⟨rfl, hback⟩
    exact splitLastPoint?_append front hback

theorem bucketAndRegion?_eq_some :
    bucketAndRegion? endpoint = some (bucket, region) ↔
      endpoint = bucket ++ ".s3.".toList ++ region ∧ bucket ≠ [] ∧ region ≠ [] ∧ '.' ∉ region := by
  unfold bucketAndRegion?
  constructor
  · intro h
    obtain ⟨⟨before, region'⟩, hlast, hrest⟩ := Option.bind_eq_some_iff.1 h
    obtain ⟨⟨bucket', service⟩, hfirst, hresult⟩ := Option.bind_eq_some_iff.1 hrest
    obtain ⟨rfl, hregion⟩ := splitLastPoint?_eq_some.1 hlast
    obtain ⟨rfl, -⟩ := splitLastPoint?_eq_some.1 hfirst
    dsimp only at hresult
    split at hresult
    · rename_i hparts
      simp only [Bool.and_eq_true, decide_eq_true_eq, Bool.not_eq_true', List.isEmpty_eq_false_iff]
        at hparts
      simp only [Option.some.injEq, Prod.mk.injEq] at hresult
      obtain ⟨rfl, rfl⟩ := hresult
      exact ⟨by simp [hparts.1.1], hparts.2, hparts.1.2, hregion⟩
    · simp at hresult
  · rintro ⟨rfl, hbucket, hregion, hpoint⟩
    have hlast : splitLastPoint? (bucket ++ ".s3.".toList ++ region) =
        some (bucket ++ ".s3".toList, region) :=
      splitLastPoint?_eq_some.2 ⟨by simp, hpoint⟩
    have hfirst : splitLastPoint? (bucket ++ ".s3".toList) = some (bucket, "s3".toList) :=
      splitLastPoint?_eq_some.2 ⟨by simp, by decide⟩
    simp only [hlast, hfirst, Option.bind_some, Bind.bind]
    simp [hbucket, hregion]

theorem endpoint?_eq_some : endpoint? host = some endpoint ↔ host = endpoint ++ hostSuffix := by
  unfold endpoint?
  constructor
  · intro h
    split at h
    · rename_i hsuffix
      obtain ⟨endpoint', rfl⟩ := List.isSuffixOf_iff_suffix.1 hsuffix
      obtain rfl : endpoint' = endpoint := by simpa using h
      rfl
    · simp at h
  · rintro rfl
    have hsuffix : hostSuffix.isSuffixOf (endpoint ++ hostSuffix) := by
      rw [List.isSuffixOf_iff_suffix]
      exact List.suffix_append endpoint hostSuffix
    rw [if_pos hsuffix]
    simp

theorem hostFault?_eq_none {host? : Option Host} :
    hostFault? host? = none ↔ ∃ bucket region, host? = some (.name (bucketHost bucket region)) ∧
      bucket ≠ [] ∧ region ≠ [] ∧ '.' ∉ region := by
  constructor
  · intro h
    unfold hostFault? at h
    split at h
    · simp at h
    · rename_i host
      split at h
      · simp at h
      · rename_i endpoint hendpoint
        cases hparts : bucketAndRegion? endpoint with
        | none => simp [hparts] at h
        | some parts =>
          obtain ⟨rfl, hnames⟩ := bucketAndRegion?_eq_some.1 hparts
          rw [endpoint?_eq_some.1 hendpoint]
          exact ⟨parts.1, parts.2, rfl, hnames⟩
    · simp at h
  · rintro ⟨bucket, region, rfl, hbucket, hregion, hpoint⟩
    have hendpoint :
        endpoint? (bucketHost bucket region) = some (bucket ++ ".s3.".toList ++ region) :=
      endpoint?_eq_some.2 rfl
    have hparts := bucketAndRegion?_eq_some.2 ⟨rfl, hbucket, hregion, hpoint⟩
    simp only [hostFault?, hendpoint, hparts, Option.isNone_some, Bool.false_eq_true, if_false]

/-- A host of the storage service is no number. -/
theorem endsInNumber_bucketHost (bucket region : List Char) :
    Host.endsInNumber (bucketHost bucket region) = false := by
  have hform : bucketHost bucket region =
      bucket ++ ".s3.".toList ++ region ++ '.' :: ("amazonaws".toList ++ '.' :: "com".toList) := rfl
  have hparts : Host.partsOf (bucketHost bucket region) =
      Text.splitAtChar '.' (bucket ++ ".s3.".toList ++ region) ++
        ["amazonaws".toList, "com".toList] := by
    have hends : Text.splitAtChar '.' ("amazonaws".toList ++ '.' :: "com".toList) =
        ["amazonaws".toList, "com".toList] := by decide
    rw [Host.partsOf, hform, Text.splitAtChar_append, hends]
    simp
  have hlast : (Text.splitAtChar '.' (bucket ++ ".s3.".toList ++ region) ++
      ["amazonaws".toList, "com".toList]).getLast? = some "com".toList := by simp
  rw [Host.endsInNumber, hparts, hlast]
  decide

/-! ### Addresses -/

theorem web_https : Url.Manner.ofScheme ("https".toList.map Domain.lowerChar) = .web := by
  decide

theorem isSlash_of_mem : ∀ c ∈ "//".toList, Url.isSlash c :=
  Text.forall_mem_of_all (by decide)

/-- Parts of an address whose host is the one of a bucket, and whose path names an object. -/
structure Locates (p : Url.Parts) (bucket region : List Char) : Prop where
  secure : p.scheme.map Domain.lowerChar = "https".toList
  host : (Host.unescape? p.host).bind Domain.toAscii? = some (bucketHost bucket region)
  bucket_ne_nil : bucket ≠ []
  region_ne_nil : region ≠ []
  region_no_point : '.' ∉ region
  object : namesObject (p.url (.name (bucketHost bucket region)))

theorem Locates.ofText {p : Url.Parts} (h : Locates p bucket region) :
    Host.ofText p.host = .ok (.name (bucketHost bucket region)) := by
  have hbracket : p.host.head? ≠ some '[' := by
    intro hhead
    have hchar := p.host_chars '[' (List.mem_of_mem_head? (by simp [hhead]))
    simp [Url.isHostChar] at hchar
  exact Host.ofText_eq_name.2 ⟨hbracket, h.host, bucketHost_ne_nil h.bucket_ne_nil,
    endsInNumber_bucketHost bucket region⟩

theorem urlFault?_eq_none {u : Url} :
    urlFault? u = none ↔
      u.scheme = "https".toList ∧ hostFault? u.host = none ∧ namesObject u := by
  unfold urlFault?
  split
  · rename_i hscheme
    exact iff_of_false (by simp) fun h => hscheme h.1
  · rename_i hscheme
    split
    · rename_i fault hfault
      simp [hfault]
    · rename_i hfault
      split
      · rename_i hobject
        simpa [hfault, hobject] using hscheme
      · rename_i hobject
        simp [hobject]

theorem addressFault?_of_parse {s : String} {u : Url} (h : Url.parse s = .ok u) :
    addressFault? s = urlFault? u := by
  have hne : s.isEmpty = false := by
    rw [Bool.eq_false_iff]
    intro hempty
    obtain rfl : s = "" := by simpa using hempty
    have hnone : Url.parse "" = .error .noBase := by decide
    rw [hnone] at h
    simp at h
  simp only [addressFault?, hne, h, Bool.false_eq_true, if_false]

/-- A text is taken if its parts locate an object. -/
theorem Locates.addressFault? {s : String} {p : Url.Parts} (h : Locates p bucket region)
    (hs : Url.cleaned s.toList = p.text) : addressFault? s = none := by
  rw [addressFault?_of_parse (Url.parse_of_parts p hs h.ofText), urlFault?_eq_none]
  refine ⟨h.secure, hostFault?_eq_none.2 ?_, h.object⟩
  exact ⟨bucket, region, rfl, h.bucket_ne_nil, h.region_ne_nil, h.region_no_point⟩

/-- A text that is taken has parts that locate an object. -/
theorem exists_locates {s : String} (h : addressFault? s = none) :
    ∃ p : Url.Parts, Url.cleaned s.toList = p.text ∧ ∃ bucket region, Locates p bucket region := by
  cases hparse : Url.parse s with
  | error fault =>
    unfold Artifact.addressFault? at h
    split at h
    · simp at h
    · simp [hparse] at h
  | ok u =>
    rw [addressFault?_of_parse hparse] at h
    obtain ⟨hscheme, hhost, hobject⟩ := urlFault?_eq_none.1 h
    obtain ⟨bucket, region, hname, hbucket, hregion, hpoint⟩ := hostFault?_eq_none.1 hhost
    have hweb : Url.Manner.ofScheme u.scheme = .web := by
      rw [hscheme]
      decide
    obtain ⟨p, hs, htext, rfl⟩ := Url.exists_parts hparse hweb hname
    exact ⟨p, hs, bucket, region,
      { secure := hscheme
        host := (Host.ofText_eq_name.1 htext).2.1
        bucket_ne_nil := hbucket
        region_ne_nil := hregion
        region_no_point := hpoint
        object := hobject }⟩

/-! ### The documented form -/

/-- The characters that buckets and regions may hold in the documented form. -/
def isPartChar (c : Char) : Bool :=
  !(c == '/' || c == '@' || c == ':' || c == '?' || c == '#' || Text.isBlank c)

/-- A text of the form `https://<bucket>.s3.<region>.amazonaws.com/<key>`. Letters in front of the
key may be of either case. -/
def IsDocumented (s : String) : Prop :=
  ∃ front bucket region key, s.toList = front ++ '/' :: key ∧
    front.map Domain.lowerChar = "https://".toList ++ bucketHost bucket region ∧
    bucket ≠ [] ∧ region ≠ [] ∧ key ≠ [] ∧ (∀ c ∈ bucket ++ region, isPartChar c) ∧ '.' ∉ region

/-- An address that is written as it is read: without anything that reading drops, with two slashes
behind the scheme and one behind the host, and with a plain host. -/
structure IsPlainlyWritten (s : String) (p : Url.Parts) : Prop where
  text : s.toList = p.text
  slashes : p.slashes = "//".toList
  path : p.rest.head? = some '/'
  host : Domain.isPlain p.host
  no_escape : '%' ∉ p.host

/-- Buckets and regions of addresses are plain. -/
theorem Locates.isPartChar {p : Url.Parts} (h : Locates p bucket region) :
    ∀ c ∈ bucket ++ region, isPartChar c := by
  intro c hc
  have hmem : c ∈ bucketHost bucket region := by
    simp only [bucketHost, List.mem_append] at hc ⊢
    rcases hc with hc | hc <;> simp [hc]
  obtain ⟨hascii, hallowed⟩ := Host.chars_of_ofText h.ofText c hmem
  have hall : ∀ c, Domain.isAscii c → Domain.isForbidden c = false → Artifact.isPartChar c :=
    Domain.forall_isAscii (by decide)
  exact hall c hascii hallowed

/-- A path without anything behind its slash names no object. -/
theorem Locates.rest_ne {p : Url.Parts} (h : Locates p bucket region) : p.rest ≠ ['/'] := by
  intro hrest
  have hobject := h.object
  have hpath : (p.url (.name (bucketHost bucket region))).path = ['/'] := by
    simp [Url.Parts.url, Url.Authority.url, hrest, Url.pathOf]
  have hsegments : (p.url (.name (bucketHost bucket region))).segments = [[]] := by
    rw [Url.segments, hpath]
    decide
  simp [namesObject, hsegments] at hobject

/-- Two texts that go on with a slash behind them are equal if neither holds one. -/
theorem eq_of_append_slash {s t : List Char} (hs : '/' ∉ s) (ht : '/' ∉ t)
    (h : s ++ '/' :: front = t ++ '/' :: back) : s = t := by
  calc s = (s ++ '/' :: front).takeWhile (· != '/') :=
        (Text.takeWhile_append_of_head (Text.forall_ne_of_not_mem hs) rfl).symm
    _ = (t ++ '/' :: back).takeWhile (· != '/') := by rw [h]
    _ = t := Text.takeWhile_append_of_head (Text.forall_ne_of_not_mem ht) rfl

/-- No mark of the other parts of an address stands in a host of the documented form. -/
theorem not_mem_of_lower {name : List Char}
    (hname : name.map Domain.lowerChar = bucketHost bucket region)
    (hchars : ∀ c ∈ bucket ++ region, isPartChar c) :
    ∀ c ∈ name, c ≠ '/' ∧ c ≠ '@' ∧ c ≠ ':' := by
  have hhost : ∀ c ∈ bucketHost bucket region, isPartChar c :=
    forall_mem_bucketHost (fun c hc => hchars c (List.mem_append_left _ hc))
      (fun c hc => hchars c (List.mem_append_right _ hc)) (by decide)
  intro c hc
  have hlower : isPartChar (Domain.lowerChar c) := by
    apply hhost
    rw [← hname]
    exact List.mem_map_of_mem hc
  refine ⟨?_, ?_, ?_⟩ <;>
    · rintro rfl
      revert hlower
      decide

theorem IsPlainlyWritten.isDocumented_iff {s : String} {p : Url.Parts}
    (hplain : IsPlainlyWritten s p) (h : Locates p bucket region) :
    IsDocumented s ↔ p.user = none ∧ p.port = none := by
  obtain ⟨key, hrest⟩ : ∃ key, p.rest = '/' :: key := List.head?_eq_some_iff.1 hplain.path
  have hkey : key ≠ [] := by
    rintro rfl
    exact h.rest_ne hrest
  have hform : s.toList = (p.scheme ++ "://".toList) ++
      (Url.userText p.user ++ (p.host ++ Url.portText p.port) ++ '/' :: key) := by
    rw [hplain.text, Url.Parts.text, Url.Authority.text, hplain.slashes, hrest]
    simp
  have hlower : (p.scheme ++ "://".toList).map Domain.lowerChar = "https://".toList := by
    rw [List.map_append, h.secure]
    decide
  constructor
  · rintro ⟨front, bucket', region', key', hdocumented, hfront, -, -, -, hchars, -⟩
    obtain ⟨start, name, rfl, hstart, hname⟩ := List.map_eq_append_iff.1 hfront
    have hlength : start.length = (p.scheme ++ "://".toList).length := by
      simpa using congrArg List.length (hstart.trans hlower.symm)
    have htail : name ++ '/' :: key' =
        Url.userText p.user ++ (p.host ++ Url.portText p.port) ++ '/' :: key := by
      rw [hform, List.append_assoc start] at hdocumented
      exact (List.append_inj hdocumented.symm hlength).2
    have hmarks := not_mem_of_lower hname hchars
    have hslash : '/' ∉ Url.userText p.user ++ (p.host ++ Url.portText p.port) := by
      intro hmem
      simpa [Url.Manner.isEnd] using p.isEnd_of_mem hmem
    -- both end at the first slash, so that they hold the same marks
    have heq := eq_of_append_slash (fun hmem => (hmarks _ hmem).1 rfl) hslash htail
    rw [heq] at hmarks
    constructor
    · cases huser : p.user with
      | none => rfl
      | some user => exact absurd rfl (hmarks '@' (by simp [huser, Url.userText])).2.1
    · cases hport : p.port with
      | none => rfl
      | some port => exact absurd rfl (hmarks ':' (by simp [hport, Url.portText])).2.2
  · rintro ⟨huser, hport⟩
    refine ⟨p.scheme ++ "://".toList ++ p.host, bucket, region, key, ?_, ?_, h.bucket_ne_nil,
      h.region_ne_nil, hkey, h.isPartChar, h.region_no_point⟩
    · rw [hform, huser, hport]
      simp [Url.userText, Url.portText]
    · rw [List.map_append, hlower, ((Host.form_of_plain hplain.no_escape hplain.host).1 h.host).2]

/-- **Addresses of artifacts.** A text is taken if and only if, apart from what reading drops, it is
made of parts that locate an object: the scheme `https`, any slashes, perhaps a user, a host whose
ASCII form names a bucket and a region, perhaps a port, and a path with a segment. What the host
names holds no mark of another part. Of the plainly written texts that are taken, those without a
user and without a port have the documented form, and only those. -/
theorem addressFault?_eq_none_iff (s : String) :
    (addressFault? s = none ↔
      ∃ p : Url.Parts, Url.cleaned s.toList = p.text ∧
        ∃ bucket region, Locates p bucket region) ∧
    (∀ (p : Url.Parts) (bucket region : List Char), Locates p bucket region →
      (∀ c ∈ bucket ++ region, isPartChar c) ∧
      (IsPlainlyWritten s p → (IsDocumented s ↔ p.user = none ∧ p.port = none))) := by
  refine ⟨⟨exists_locates, ?_⟩, ?_⟩
  · rintro ⟨p, hs, bucket, region, h⟩
    exact h.addressFault? hs
  · intro p bucket region h
    exact ⟨h.isPartChar, fun hplain => hplain.isDocumented_iff h⟩

/-- The parts of `https://user@node-images.s3.eu-central-1.amazonaws.com:8443/capv/a.ova`. -/
def foreignParts : Url.Parts where
  scheme := "https".toList
  slashes := "//".toList
  user := some "user".toList
  host := "node-images.s3.eu-central-1.amazonaws.com".toList
  port := some "8443".toList
  rest := "/capv/a.ova".toList
  scheme_web := web_https
  slashes_chars := isSlash_of_mem
  user_chars := by
    rintro user ⟨⟩
    exact Text.forall_mem_of_all (by decide)
  host_ne_nil := by decide
  host_chars := Text.forall_mem_of_all (by decide)
  port_digits := by
    rintro digits ⟨⟩
    exact ⟨Text.forall_mem_of_all (by decide), by decide⟩
  rest_head := by decide

/-- An address with a user and a port is taken. -/
theorem not_forall_isDocumented : ¬ ∀ s, addressFault? s = none → IsDocumented s := by
  intro h
  let s : String := "https://user@node-images.s3.eu-central-1.amazonaws.com:8443/capv/a.ova"
  have hlocates : Locates foreignParts "node-images".toList "eu-central-1".toList :=
    { secure := by decide
      host := (Host.form_of_plain (by decide) (by decide)).2
        ⟨Text.forall_mem_of_all (by decide), by decide⟩
      bucket_ne_nil := by decide
      region_ne_nil := by decide
      region_no_point := by decide
      object := by decide }
  have hplain : IsPlainlyWritten s foreignParts :=
    { text := by decide
      slashes := rfl
      path := by decide
      host := by decide
      no_escape := by decide }
  have hdocumented := h s (hlocates.addressFault? (by decide))
  have hparts := (hplain.isDocumented_iff hlocates).1 hdocumented
  exact absurd hparts.1 (by decide)

end ImageCatalog.Artifact
