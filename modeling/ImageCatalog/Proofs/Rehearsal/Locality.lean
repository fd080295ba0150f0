import ImageCatalog.Proofs.Catalog.Shelves
import ImageCatalog.Proofs.Pass.Footprint
import ImageCatalog.Proofs.Rehearsal.Rest

/-!
# Programs leave alone what is outside of their footprint

A program that keeps to a footprint changes nothing else in a world: no other record, no other
image, and the image of the footprint at no other location. This holds whatever happens, with
providers that fail and work that is interrupted, and at every moment on the way.

The source may be any: what it answers may depend on the address, and be a failure.

## Main definitions

* `Store.Accepts` — a store looks up and changes what is stored under a name
* `World.answerBy`, `World.runBy` — a program in a world with another source
* `Footprint.Fits` — a store with no other record under the name of a footprint
* `Footprint.Spares` — what is outside of a footprint is as it was

## Main results

* `Footprint.Fits.answer` — one request
* `Program.Within.runBy` — a whole program
* `Program.Within.comes` — all moments of a program
-/

namespace ImageCatalog

/-! ### Stores of either kind -/

namespace Store

variable {st : Store} {l l' : Ledger} {n : String} {r : Record}

/-- A store looks up and changes what is stored under a name. In a folder it has to be a valid
one. -/
def Accepts : Store → String → Prop
  | ledger _, _ => True
  | folder .., n => Name.fault? n = none

/-- What is stored has an acceptable name. -/
theorem Holds.accepts (h : st.Holds l) (hr : l.get? n = some r) : st.Accepts n := by
  cases st with
  | ledger l' => trivial
  | folder f t =>
    obtain ⟨place, hmirrors⟩ := h
    exact (hmirrors.named n r hr).2

theorem Holds.read_of_accepts (h : st.Holds l) (hn : st.Accepts n) :
    st.read n = (.ok (l.get? n), st) := by
  refine Prod.ext ?_ (st.read_snd n)
  cases st with
  | ledger l' =>
    obtain rfl : l' = l := h
    rfl
  | folder f t =>
    obtain ⟨st', hread, -⟩ := h.read hn
    rw [hread]

theorem Holds.replace_of_accepts (h : st.Holds l) (hn : st.Accepts r.name) :
    (st.replace r).1 = (l.replace r).1 ∧ (st.replace r).2.Holds (l.replace r).2 := by
  cases st with
  | ledger l' =>
    obtain rfl : l' = l := h
    exact ⟨rfl, rfl⟩
  | folder f t =>
    obtain ⟨st', hreplace, hst'⟩ := h.replace hn
    rw [hreplace]
    exact ⟨rfl, hst'⟩

theorem Holds.remove_of_accepts (h : st.Holds l) (hn : st.Accepts n) (version : Option UInt64) :
    (st.remove n version).1 = (l.remove n version).1 ∧
      (st.remove n version).2.Holds (l.remove n version).2 := by
  cases st with
  | ledger l' =>
    obtain rfl : l' = l := h
    exact ⟨rfl, rfl⟩
  | folder f t =>
    obtain ⟨st', hremove, hst'⟩ := h.remove hn version
    rw [hremove]
    exact ⟨rfl, hst'⟩

theorem Holds.list (h : st.Holds l) : st.list = (.ok l.list, st) := by
  cases st with
  | ledger l' =>
    obtain rfl : l' = l := h
    rfl
  | folder f t =>
    obtain ⟨place, hmirrors⟩ := h
    exact hmirrors.list

/-- Writes do not change what a store accepts. -/
theorem accepts_replace : (st.replace r).2.Accepts n ↔ st.Accepts n := by
  cases st <;> rfl

theorem accepts_remove {m : String} {version : Option UInt64} :
    (st.remove m version).2.Accepts n ↔ st.Accepts n := by
  cases st <;> rfl

/-- A store holds the records of one ledger. -/
theorem Holds.unique (h : st.Holds l) (h' : st.Holds l') : l = l' := by
  refine Ledger.ext_get? fun n => ?_
  by_cases hn : st.Accepts n
  · have hread := h.read_of_accepts hn
    rw [h'.read_of_accepts hn] at hread
    simpa using hread.symm
  · have hnone : ∀ {l : Ledger}, st.Holds l → l.get? n = none := fun h =>
      Option.eq_none_iff_forall_ne_some.mpr fun r hr => hn (h.accepts hr)
    rw [hnone h, hnone h']

end Store

/-! ### Catalogs -/

/-- A catalog goes on from an earlier state of its own. -/
structure Catalog.Continues (c c' : Catalog) : Prop where
  tag_eq : c'.tag = c.tag
  locations_eq : c'.locations = c.locations
  uploadTime_eq : c'.uploadTime = c.uploadTime
  faults_subset : c'.faults ⊆ c.faults

namespace Catalog

variable {c c' c'' : Catalog}

theorem Continues.refl (c : Catalog) : c.Continues c :=
  ⟨rfl, rfl, rfl, List.Subset.refl _⟩

theorem Continues.trans (h : c.Continues c') (h' : c'.Continues c'') : c.Continues c'' where
  tag_eq := h'.tag_eq.trans h.tag_eq
  locations_eq := h'.locations_eq.trans h.locations_eq
  uploadTime_eq := h'.uploadTime_eq.trans h.uploadTime_eq
  faults_subset := List.Subset.trans h'.faults_subset h.faults_subset

theorem continues_receive (c : Catalog) (verb : Verb) (location image : String) :
    c.Continues (c.receive verb location image).2 := by
  unfold receive
  dsimp only
  split
  · exact ⟨rfl, rfl, rfl, List.erase_subset⟩
  · exact ⟨rfl, rfl, rfl, List.Subset.refl _⟩

theorem continues_insert (c : Catalog) (location image : String) :
    c.Continues (c.insert location image) := by
  unfold insert
  split <;> exact ⟨rfl, rfl, rfl, List.Subset.refl _⟩

theorem continues_lookUp (c : Catalog) (location image : String) :
    c.Continues (c.lookUp location image).2 := by
  have hreceive := c.continues_receive .lookUp location image
  unfold lookUp
  split <;> (rename_i h; rw [h] at hreceive; exact hreceive)

theorem continues_withdraw (c : Catalog) (location image : String) :
    c.Continues (c.withdraw location image).2 := by
  have hreceive := c.continues_receive .withdraw location image
  unfold withdraw
  split
  · rename_i h
    rw [h] at hreceive
    exact hreceive
  · rename_i h
    rw [h] at hreceive
    exact ⟨hreceive.tag_eq, hreceive.locations_eq, hreceive.uploadTime_eq, hreceive.faults_subset⟩

end Catalog

namespace World

variable {w w' w'' : World} {provider location image p : String}

/-- All catalogs go on from an earlier state of their own. -/
structure Continues (w w' : World) : Prop where
  none_of_none : ∀ p, w.catalog? p = none → w'.catalog? p = none
  exists_of_some : ∀ p c, w.catalog? p = some c → ∃ c', w'.catalog? p = some c' ∧ c.Continues c'

theorem Continues.refl (w : World) : w.Continues w :=
  ⟨fun _ h => h, fun _ c h => ⟨c, h, .refl c⟩⟩

theorem Continues.of_providers (h : w'.providers = w.providers) : w.Continues w' := by
  have hsame : ∀ p, w'.catalog? p = w.catalog? p := fun p => by rw [catalog?, catalog?, h]
  exact ⟨fun p hp => (hsame p).trans hp, fun p c hc => ⟨c, (hsame p).trans hc, .refl c⟩⟩

theorem Continues.trans (h : w.Continues w') (h' : w'.Continues w'') : w.Continues w'' where
  none_of_none p hp := h'.none_of_none p (h.none_of_none p hp)
  exists_of_some p c hc := by
    obtain ⟨c', hc', hcc'⟩ := h.exists_of_some p c hc
    obtain ⟨c'', hc'', hcc''⟩ := h'.exists_of_some p c' hc'
    exact ⟨c'', hc'', hcc'.trans hcc''⟩

theorem Continues.uploadTime?_eq (h : w.Continues w') (p : String) :
    w'.uploadTime? p = w.uploadTime? p := by
  rw [World.uploadTime?_eq, World.uploadTime?_eq]
  cases hc : w.catalog? p with
  | none => rw [h.none_of_none p hc]
  | some c =>
    obtain ⟨c', hc', hcc'⟩ := h.exists_of_some p c hc
    rw [hc', Option.bind_some, Option.bind_some, hcc'.uploadTime_eq]

theorem Continues.faultless (h : w.Continues w') (hw : w.Faultless) : w'.Faultless := by
  intro p c' hc'
  cases hc : w.catalog? p with
  | none =>
    rw [h.none_of_none p hc] at hc'
    cases hc'
  | some c =>
    obtain ⟨c'', hc'', hcc'⟩ := h.exists_of_some p c hc
    obtain rfl := Option.some.inj (hc''.symm.trans hc')
    exact List.subset_nil.mp (hw p c hc ▸ hcc'.faults_subset)

theorem continues_setCatalog {c c' : Catalog} (hc : w.catalog? provider = some c)
    (h : c.Continues c') : w.Continues (w.setCatalog provider c') where
  none_of_none p hp := by
    rw [catalog?_setCatalog, if_neg]
    · exact hp
    · rintro rfl
      rw [hc] at hp
      cases hp
  exists_of_some p d hd := by
    rw [catalog?_setCatalog]
    split
    · rename_i hp
      subst hp
      obtain rfl := Option.some.inj (hc.symm.trans hd)
      exact ⟨c', rfl, h⟩
    · exact ⟨d, hd, .refl d⟩

theorem continues_onProvider {α : Type} (idle : α)
    {call : Catalog → Except Failure α × Catalog} (h : ∀ c : Catalog, c.Continues (call c).2) :
    w.Continues (w.onProvider provider idle call).2 := by
  cases hc : w.catalog? provider with
  | none =>
    rw [onProvider_of_none hc]
    exact .refl w
  | some c =>
    rw [onProvider_of_catalog hc]
    exact continues_setCatalog hc (h c)

theorem continues_mapCatalog {f : Catalog → Catalog} (h : ∀ c : Catalog, c.Continues (f c)) :
    w.Continues (w.mapCatalog provider f) := by
  cases hget : w.providers.get? provider with
  | none =>
    simp only [mapCatalog, hget]
    exact .refl w
  | some q =>
    simp only [mapCatalog, hget]
    cases q with
    | idle tag locations =>
      refine .of_providers (Dictionary.ext_get? fun p => ?_)
      rw [Dictionary.get?_insert]
      split
      · rename_i hp
        rw [hp, hget]
        rfl
      · rfl
    | catalog c =>
      have hc : w.catalog? provider = some c := by
        rw [catalog?, hget]
        rfl
      exact continues_setCatalog hc (h c)

theorem continues_upload (limit : Option Duration) :
    w.Continues (w.upload provider location image limit).2 := by
  have hreceive : w.Continues
      (w.onProvider provider () fun c => c.receive .upload location image).2 :=
    continues_onProvider () fun c => c.continues_receive .upload location image
  unfold upload
  split
  · rename_i h
    rw [h] at hreceive
    exact hreceive
  · rename_i w₁ h
    rw [h] at hreceive
    have hwait : w₁.Continues (w₁.awaitUpload provider location image limit).2 := by
      unfold awaitUpload
      split
      · exact .refl w₁
      · split
        · exact .refl w₁
        · exact .of_providers rfl
    split
    · rename_i h
      rw [h] at hwait
      exact (hreceive.trans hwait).trans
        (continues_mapCatalog fun c => c.continues_insert location image)
    · exact hreceive.trans hwait

/-! ### Sources -/

/-- What is answered in a world with another source. -/
def answerBy (source : String → Except Failure Bool) (w : World) : (r : Request) → r.Answer × World
  | .probe url =>
    if w.timeline.interrupted then (.error (.cancelled ("probe " ++ url)), w)
    else (source url, { w with probes := w.probes + 1 })
  | r => w.answer r

/-- A program in a world with another source: its outcome, and the world after it. -/
def runBy {α : Type} (source : String → Except Failure Bool) (p : Program α) (w : World) :
    Except Failure α × World :=
  match p with
  | .done a => (.ok a, w)
  | .fail e => (.error e, w)
  | .ask r next =>
    let (x, w) := w.answerBy source r
    runBy source (next x) w

variable {source : String → Except Failure Bool}

theorem runBy_ask {α : Type} (r : Request) (next : r.Answer → Program α) (w : World) :
    w.runBy source (.ask r next) =
      runBy source (next (w.answerBy source r).1) (w.answerBy source r).2 := rfl

/-- **Programs one after the other.** -/
theorem runBy_bind {α β : Type} (p : Program α) (k : α → Program β) (w : World) :
    w.runBy source (p >>= k) =
      match w.runBy source p with
      | (.ok a, w') => w'.runBy source (k a)
      | (.error e, w') => (.error e, w') := by
  induction p generalizing w with
  | done a => rfl
  | fail e => rfl
  | ask r next ih =>
    rw [Program.ask_bind, runBy_ask, runBy_ask]
    exact ih _ _

theorem runBy_attempt {α : Type} (p : Program α) (w : World) :
    w.runBy source p.attempt = (.ok (w.runBy source p).1, (w.runBy source p).2) := by
  induction p generalizing w with
  | done a => rfl
  | fail e => rfl
  | ask r next ih => exact ih _ _

/-- A world has a source of its own. -/
theorem answer_eq_answerBy (w : World) (r : Request) :
    w.answer r = w.answerBy (fun _ => .ok w.reachable) r := by
  cases r <;> rfl

section

variable (hi : ¬ w.timeline.interrupted)

include hi

theorem answerBy_probe (url : String) :
    w.answerBy source (.probe url) = (source url, { w with probes := w.probes + 1 }) :=
  if_neg hi

theorem answerBy_lookUp (call : CatalogCall) :
    w.answerBy source (.lookUp call) =
      finish (w.lookUp call.provider call.location call.image) :=
  if_neg hi

theorem answerBy_upload (call : CatalogCall) (url : String) :
    w.answerBy source (.upload call url) =
      w.upload call.provider call.location call.image (w.limitOf call) :=
  if_neg hi

theorem answerBy_withdraw (call : CatalogCall) :
    w.answerBy source (.withdraw call) =
      finish (w.withdraw call.provider call.location call.image) :=
  if_neg hi

end

theorem continues_answerBy (w : World) (r : Request) :
    w.Continues (w.answerBy source r).2 := by
  by_cases hi : w.timeline.interrupted
  · have hproviders : (w.answerBy source r).2.providers = w.providers := by
      cases r <;> simp [answerBy, answer, hi] <;> rfl
    exact .of_providers hproviders
  cases r with
  | lookUp call =>
    rw [answerBy_lookUp hi]
    exact continues_onProvider true fun c => c.continues_lookUp _ _
  | withdraw call =>
    rw [answerBy_withdraw hi]
    exact continues_onProvider () fun c => c.continues_withdraw _ _
  | upload call url =>
    rw [answerBy_upload hi]
    exact continues_upload _
  | probe url =>
    rw [answerBy_probe hi]
    exact .of_providers rfl
  | readRecord | createRecord | replaceRecord | removeRecord | listRecords
  | now | emit | log | isInterrupted => exact .of_providers rfl

/-- Only requests of the store have to do with the records, and none with the clock. -/
theorem base_answerBy_of_waits (w : World) {r : Request} (hr : r.waits) :
    (w.answerBy source r).2.base = w.base := by
  cases r with
  | probe url =>
    simp only [answerBy]
    split <;> rfl
  | lookUp | upload | withdraw => exact w.base_answer_of_waits hr
  | _ => cases hr

theorem clock_answerBy (w : World) (r : Request) : (w.answerBy source r).2.clock = w.clock := by
  by_cases hr : r.waits
  · exact congrArg Prod.snd (w.base_answerBy_of_waits hr)
  · cases r <;> first | rfl | exact absurd rfl hr

theorem shelves_answerBy (w : World) (e : Errand) (r : Request) :
    (w.answerBy source r).2.shelves =
      (Deed.answered e r (w.answerBy source r).1).shelve w.shelves := by
  cases r with
  | probe url =>
    simp only [answerBy]
    split <;> rfl
  | lookUp | upload | withdraw => exact w.shelves_answer e _
  | _ => rfl

end World

/-! ### Outside of a footprint -/

namespace Shelves

variable {H H' : Shelves} {call : CatalogCall} {present : Bool} {provider location image : String}

/-- Whether an image is at a location of a provider that has catalogs. -/
def at? (H : Shelves) (provider location image : String) : Option Bool :=
  (H provider).map fun held => held location image

theorem at?_set : (H.set call present).at? provider location image =
    if provider = call.provider ∧ location = call.location ∧ image = call.image then
      (H.at? provider location image).map fun _ => present
    else H.at? provider location image := by
  unfold at? set
  by_cases hp : provider = call.provider
  · subst hp
    cases H call.provider with
    | none => simp
    | some held =>
      by_cases hm : location = call.location ∧ image = call.image
      · simp [hm]
      · simp [hm]
  · simp [hp]

theorem ext_at? (h : ∀ p l i, H.at? p l i = H'.at? p l i) : H = H' := by
  funext p
  have hp := h p
  unfold at? at hp
  cases hH : H p with
  | none =>
    cases hH' : H' p with
    | none => rfl
    | some held => simpa [hH, hH'] using hp "" ""
  | some held =>
    cases hH' : H' p with
    | none => simpa [hH, hH'] using hp "" ""
    | some held' =>
      refine congrArg some (funext fun l => funext fun i => ?_)
      simpa [hH, hH'] using hp l i

end Shelves

/-- What a request makes of the records. -/
def Ledger.afterRequest (l : Ledger) : Request → Ledger
  | .replaceRecord r => (l.replace r).2
  | .removeRecord name version => (l.remove name version).2
  | _ => l

namespace Footprint

variable {f : Footprint} {l l' l'' : Ledger} {w w' w'' : World} {r : Request}

/-- An image at a location that belongs to a footprint. -/
def Touches (f : Footprint) (provider location image : String) : Prop :=
  provider = f.spec.provider ∧ location ∈ f.places ∧ image = f.spec.image

/-- The store of a world holds no other record under the name of a footprint. -/
structure Fits (f : Footprint) (l : Ledger) (w : World) : Prop where
  store : w.store.Holds l
  accepts : w.store.Accepts f.key
  owns : ∀ r, l.get? f.key = some r → f.Owns r

/-- What is outside of a footprint is as it was. -/
structure Spares (f : Footprint) (l l' : Ledger) (w w' : World) : Prop where
  records : ∀ n, n ≠ f.key → l'.get? n = l.get? n
  images : ∀ p m i, ¬ f.Touches p m i → w'.shelves.at? p m i = w.shelves.at? p m i
  clock : w'.clock = w.clock
  accepts : ∀ n, w'.store.Accepts n ↔ w.store.Accepts n
  continues : w.Continues w'

theorem Spares.refl (f : Footprint) (l : Ledger) (w : World) : f.Spares l l w w :=
  ⟨fun _ _ => rfl, fun _ _ _ _ => rfl, rfl, fun _ => .rfl, .refl w⟩

theorem Spares.trans (h : f.Spares l l' w w') (h' : f.Spares l' l'' w' w'') :
    f.Spares l l'' w w'' where
  records n hn := (h'.records n hn).trans (h.records n hn)
  images p m i hi := (h'.images p m i hi).trans (h.images p m i hi)
  clock := h'.clock.trans h.clock
  accepts n := (h'.accepts n).trans (h.accepts n)
  continues := h.continues.trans h'.continues

theorem at?_set_of_reaches {call : CatalogCall} (hreach : f.Reaches call) (present : Bool)
    {p m i : String} (hi : ¬ f.Touches p m i) (H : Shelves) :
    (H.set call present).at? p m i = H.at? p m i := by
  rw [Shelves.at?_set, if_neg]
  rintro ⟨rfl, rfl, rfl⟩
  exact hi ⟨hreach.provider_eq, hreach.location_mem, hreach.image_eq⟩

/-- A request changes no image outside of a footprint that covers it. -/
theorem Covers.images (hr : f.Covers r) {p m i : String} (hi : ¬ f.Touches p m i) (w : World)
    (source : String → Except Failure Bool) :
    (w.answerBy source r).2.shelves.at? p m i = w.shelves.at? p m i := by
  rw [w.shelves_answerBy (.pass f.key)]
  cases r with
  | upload call url =>
    by_cases hx : (w.answerBy source (.upload call url)).1 = .finished (.ok ())
    · rw [hx]
      exact at?_set_of_reaches hr.1 true hi _
    · rw [Deed.shelve_upload_of_ne hx]
  | withdraw call =>
    by_cases hx : (w.answerBy source (.withdraw call)).1 = .finished (.ok ())
    · rw [hx]
      exact at?_set_of_reaches hr false hi _
    · rw [Deed.shelve_withdraw_of_ne hx]
  | _ => rfl

/-- The records under other names stay as they are. -/
theorem Covers.records (hr : f.Covers r) {n : String} (hn : n ≠ f.key) (l : Ledger) :
    (l.afterRequest r).get? n = l.get? n := by
  cases r with
  | replaceRecord q =>
    have hname : q.name = f.key := hr.1
    rcases l.replace_cases q with ⟨e, h⟩ | ⟨v, h⟩
    · rw [Ledger.afterRequest, h]
    · rw [Ledger.afterRequest, h]
      exact Ledger.get?_put_of_ne (hname ▸ hn)
  | removeRecord name version =>
    obtain rfl : name = f.key := hr
    rcases l.remove_cases f.key version with ⟨x, h⟩ | h
    · rw [Ledger.afterRequest, h]
    · rw [Ledger.afterRequest, h]
      exact (Ledger.get?_erase ..).trans (if_neg hn)
  | _ => rfl

/-- A replacement within a footprint stores its record, and is answered by it. -/
theorem Owns.replace {q : Record} (hq : f.Owns q) (l : Ledger) :
    (∀ r, (l.replace q).1 = .ok r → f.Owns r) ∧
      ((∀ r, l.get? f.key = some r → f.Owns r) →
        ∀ r, (l.replace q).2.get? f.key = some r → f.Owns r) := by
  rcases l.replace_cases q with ⟨e, h⟩ | ⟨v, h⟩
  · rw [h]
    exact ⟨fun r hr => (by cases hr), fun howns => howns⟩
  · rw [h]
    refine ⟨fun r hr => ?_, fun _ r hr => ?_⟩
    · obtain rfl := Except.ok.inj hr
      exact hq
    · have hput := Ledger.get?_put_of_eq (l := l) (r := { q with version := v }) hq.1
      obtain rfl := Option.some.inj (hput.symm.trans hr)
      exact hq

/-- **One request.** It is answered by no other record than that of the footprint, and leaves no
other one there. -/
theorem Fits.answer (h : f.Fits l w) (source : String → Except Failure Bool) (hr : f.Covers r) :
    f.Admits r (w.answerBy source r).1 ∧
      f.Fits (l.afterRequest r) (w.answerBy source r).2 ∧
      f.Spares l (l.afterRequest r) w (w.answerBy source r).2 := by
  have hspares : (∀ n, (w.answerBy source r).2.store.Accepts n ↔ w.store.Accepts n) →
      f.Spares l (l.afterRequest r) w (w.answerBy source r).2 := fun haccepts =>
    ⟨fun n hn => hr.records hn l, fun p m i hi => hr.images hi w source, w.clock_answerBy r, haccepts,
      w.continues_answerBy r⟩
  have hsame : r.waits → f.Fits l (w.answerBy source r).2 ∧
      ∀ n, (w.answerBy source r).2.store.Accepts n ↔ w.store.Accepts n := fun hw => by
    have hstore : (w.answerBy source r).2.store = w.store :=
      congrArg Prod.fst (w.base_answerBy_of_waits hw)
    rw [hstore]
    exact ⟨⟨hstore ▸ h.store, hstore ▸ h.accepts, h.owns⟩, fun _ => .rfl⟩
  cases r with
  | readRecord name =>
    obtain rfl : name = f.key := hr
    have hanswer : w.answerBy source (.readRecord f.key) = (.ok (l.get? f.key), w) := by
      show w.onStore (w.store.read f.key) = _
      rw [h.store.read_of_accepts h.accepts]
      rfl
    rw [hanswer]
    exact ⟨fun q hq => h.owns q (Except.ok.inj hq), h, .refl f l w⟩
  | replaceRecord q =>
    have haccepts : w.store.Accepts q.name := by
      rw [hr.1]
      exact h.accepts
    obtain ⟨hanswer, hstore⟩ := h.store.replace_of_accepts haccepts
    obtain ⟨hstored, hafter⟩ := Owns.replace hr l
    refine ⟨?_, ⟨hstore, Store.accepts_replace.mpr h.accepts, hafter h.owns⟩,
      hspares fun _ => Store.accepts_replace⟩
    show ∀ q', (w.store.replace q).1 = .ok q' → f.Owns q'
    rw [hanswer]
    exact hstored
  | removeRecord name version =>
    obtain rfl : name = f.key := hr
    obtain ⟨-, hstore⟩ := h.store.remove_of_accepts h.accepts version
    refine ⟨trivial, ⟨hstore, Store.accepts_remove.mpr h.accepts, ?_⟩,
      hspares fun _ => Store.accepts_remove⟩
    rcases l.remove_cases f.key version with ⟨x, hremove⟩ | hremove
    · rw [Ledger.afterRequest, hremove]
      exact h.owns
    · rw [Ledger.afterRequest, hremove]
      intro q hq
      exact absurd rfl (Ledger.of_get?_erase hq).1
  | probe | lookUp | upload | withdraw =>
    obtain ⟨hfits, haccepts⟩ := hsame rfl
    exact ⟨trivial, hfits, hspares haccepts⟩
  | now | emit | log | isInterrupted =>
    exact ⟨trivial, ⟨h.store, h.accepts, h.owns⟩, hspares fun _ => .rfl⟩
  | createRecord | listRecords => cases hr

end Footprint

namespace Program

variable {α : Type} {f : Footprint} {Q : α → Prop} {p p' : Program α} {l : Ledger} {w : World}

/-- **A whole program** leaves alone what is outside of its footprint. -/
theorem Within.runBy (hp : p.Within f Q) (h : f.Fits l w)
    (source : String → Except Failure Bool) :
    ∃ l', f.Fits l' (w.runBy source p).2 ∧ f.Spares l l' w (w.runBy source p).2 := by
  induction p generalizing l w with
  | done a => exact ⟨l, h, .refl f l w⟩
  | fail e => exact ⟨l, h, .refl f l w⟩
  | ask r next ih =>
    obtain ⟨hadmits, hfits, hspares⟩ := h.answer source hp.1
    obtain ⟨l', hfits', hspares'⟩ := ih _ (hp.2 _ hadmits) hfits
    exact ⟨l', hfits', hspares.trans hspares'⟩

/-- **All moments of a program** leave alone what is outside of its footprint. -/
theorem Within.comes (hp : p.Within f Q) (h : f.Fits l w) {h' : Rehearsal}
    (hc : Rehearsal.Comes (p, ⟨w, []⟩) (p', h')) :
    ∃ l', f.Fits l' h'.world ∧ f.Spares l l' w h'.world := by
  suffices hkept : p'.Within f Q ∧ h'.disturbances = [] ∧
      ∃ l', f.Fits l' h'.world ∧ f.Spares l l' w h'.world from hkept.2.2
  refine Relation.ReflTransGen.rec (motive := fun m _ => m.1.Within f Q ∧ m.2.disturbances = [] ∧
    ∃ l', f.Fits l' m.2.world ∧ f.Spares l l' w m.2.world) ⟨hp, rfl, l, h, .refl f l w⟩ ?_ hc
  rintro _ _ _ (@⟨r, next, ⟨w₁, disturbances⟩⟩) ⟨hwithin, hcalm, l₁, hfits, hspares⟩
  obtain rfl : disturbances = [] := hcalm
  rw [Rehearsal.answer_calm, World.answer_eq_answerBy]
  obtain ⟨hadmits, hfits', hspares'⟩ := hfits.answer (fun _ => .ok w₁.reachable) hwithin.1
  exact ⟨hwithin.2 _ hadmits, rfl, _, hfits', hspares.trans hspares'⟩

end Program

/-- A stored record is that of the pass over it. -/
theorem Pass.fits_footprint (s : Pass.Setup) {w : World} {l : Ledger} {r : Record}
    (hw : w.store.Holds l) (hr : l.get? r.name = some r) : (s.footprint r).Fits l w where
  store := hw
  accepts := hw.accepts hr
  owns q hq := by
    obtain rfl := Option.some.inj (hr.symm.trans hq)
    exact ⟨rfl, rfl⟩

end ImageCatalog
