import ImageCatalog.Proofs.Rehearsal.Locality

/-!
# Programs with disjoint footprints commute

A program within a footprint neither changes nor sees anything outside of it. What it does not
change is said in `Locality`. Here it is what it does not see: in two worlds that agree on a
footprint, the program is answered alike, and they agree on it afterwards. So programs with disjoint
footprints do not notice each other, and it does not matter which of them comes first.

Providers have no faults in store here, and nothing interrupts the work. A fault is in store for the
next call at a location, whatever the image; so it would matter whose call that is.

## Main definitions

* `World.Tame` — a world without faults and interruptions
* `Footprint.Agree` — two worlds that agree on a footprint
* `World.Twins` — two worlds with the same records and the same images

## Main results

* `Program.Within.agree` — a program sees nothing outside of its footprint
* `Program.Within.twins` — a program comes to the same in twins
* `Program.Within.commute` — programs with disjoint footprints commute
-/

namespace ImageCatalog

variable {α β : Type} {source : String → Except Failure Bool} {w w' w₁ w₂ : World}
  {l l' l₁ l₂ : Ledger} {f g : Footprint}

/-! ### Worlds in which nothing goes wrong -/

/-- No provider has a fault in store, and nothing interrupts the work. -/
structure World.Tame (w : World) : Prop where
  faultless : w.Faultless
  quiet : w.timeline.Quiet

namespace World.Tame

theorem lookUp (h : w.Tame) (provider location image : String) :
    (w.lookUp provider location image).1 =
      .ok ((w.shelves.at? provider location image).getD true) := by
  cases hc : w.catalog? provider with
  | none =>
    rw [World.lookUp, onProvider_of_none hc, Shelves.at?, shelves_eq, hc]
    rfl
  | some c =>
    have hcall : c.lookUp location image =
        (.ok (c.holds location image), c.noted .lookUp location image) := by
      rw [Catalog.lookUp, Catalog.receive_of_faultless (h.faultless provider c hc)]
      rfl
    rw [World.lookUp, onProvider_of_catalog hc, hcall, Shelves.at?, shelves_eq, hc]
    rfl

theorem withdraw (h : w.Tame) (provider location image : String) :
    (w.withdraw provider location image).1 = .ok () := by
  cases hc : w.catalog? provider with
  | none => rw [World.withdraw, onProvider_of_none hc]
  | some c =>
    rw [World.withdraw, onProvider_of_catalog hc]
    simp only [Catalog.withdraw, Catalog.receive_of_faultless (h.faultless provider c hc)]

/-- An upload ends by itself, or at its limit. -/
theorem upload (h : w.Tame) (provider location image : String) :
    let result :=
      w.upload provider location image (some (w.timeline.after Pass.uploadLimit))
    result.1 = (if w.terms.tooSlow provider then .timedOut else .finished (.ok ())) ∧
      result.2.timeline.Quiet := by
  have hcall : ∃ w₁, (w.onProvider provider () fun c => c.receive .upload location image) =
      (.ok (), w₁) ∧ w₁.timeline = w.timeline ∧ w₁.terms = w.terms := by
    cases hc : w.catalog? provider with
    | none => exact ⟨w, onProvider_of_none hc _ _, rfl, rfl⟩
    | some c =>
      exact ⟨_, receive_upload hc (h.faultless provider c hc), rfl, terms_setCatalog hc rfl⟩
  obtain ⟨w₁, hcall, htime, hterms⟩ := hcall
  obtain ⟨a, t, hwait, hquiet, hcases⟩ := w₁.awaitUpload_cases provider location image
  rw [htime] at hwait hquiet hcases
  rw [hterms] at hcases
  have hquiet' := hquiet h.quiet
  rcases hcases with ⟨rfl, hfast⟩ | ⟨rfl, hslow⟩ | ⟨hcut, -⟩
  · simp only [World.upload, hcall, hwait, hfast, Bool.false_eq_true, if_false]
    refine ⟨trivial, ?_⟩
    rw [timeline_mapCatalog]
    exact hquiet'
  · simp only [World.upload, hcall, hwait, hslow, if_true]
    exact ⟨trivial, hquiet'⟩
  · exact absurd h.quiet hcut

/-- A world stays tame. -/
theorem answerBy (h : w.Tame) {r : Request} (hr : f.Covers r)
    (source : String → Except Failure Bool) : (w.answerBy source r).2.Tame := by
  refine ⟨(w.continues_answerBy r).faultless h.faultless, ?_⟩
  have hi : ¬ w.timeline.interrupted := by simp [h.quiet.1]
  cases r with
  | lookUp call =>
    rw [answerBy_lookUp hi]
    exact h.quiet
  | withdraw call =>
    rw [answerBy_withdraw hi]
    exact h.quiet
  | upload call url =>
    have hupload := h.upload call.provider call.location call.image
    rw [← hr.2] at hupload
    rw [answerBy_upload hi]
    exact hupload.2
  | probe url =>
    rw [answerBy_probe hi]
    exact h.quiet
  | _ => exact h.quiet

theorem runBy (h : w.Tame) {p : Program α} {Q : α → Prop} (hp : p.Within f Q) (hf : f.Fits l w)
    (source : String → Except Failure Bool) :
    (w.runBy source p).2.Tame := by
  induction p generalizing l w with
  | done a => exact h
  | fail e => exact h
  | ask r next ih =>
    obtain ⟨hadmits, hfits, -⟩ := hf.answer source hp.1
    exact ih _ (h.answerBy hp.1 source) (hp.2 _ hadmits) hfits

end World.Tame

/-! ### What a program sees -/

/-- What a deed makes of an image depends on nothing else. -/
theorem Deed.at?_shelve (d : Deed) {H H' : Shelves} {p m i : String}
    (h : H.at? p m i = H'.at? p m i) : (d.shelve H).at? p m i = (d.shelve H').at? p m i := by
  cases d with
  | began | issued | ended => exact h
  | answered e r x =>
    cases r with
    | upload call url =>
      by_cases hx : x = .finished (.ok ())
      · subst hx
        simp only [shelve, Shelves.at?_set, h]
      · rw [shelve_upload_of_ne hx, shelve_upload_of_ne hx, h]
    | withdraw call =>
      by_cases hx : x = .finished (.ok ())
      · subst hx
        simp only [shelve, Shelves.at?_set, h]
      · rw [shelve_withdraw_of_ne hx, shelve_withdraw_of_ne hx, h]
    | _ => exact h

/-- Two worlds agree on a footprint. -/
structure Footprint.Agree (f : Footprint) (l₁ l₂ : Ledger) (w₁ w₂ : World) : Prop where
  record : l₁.get? f.key = l₂.get? f.key
  images : ∀ p m i, f.Touches p m i → w₁.shelves.at? p m i = w₂.shelves.at? p m i
  clock : w₁.clock = w₂.clock
  uploadTime : w₁.uploadTime? f.spec.provider = w₂.uploadTime? f.spec.provider

namespace Footprint

theorem Reaches.touches {call : CatalogCall} (h : f.Reaches call) :
    f.Touches call.provider call.location call.image :=
  ⟨h.provider_eq, h.location_mem, h.image_eq⟩

theorem Agree.replace (h : f.Agree l₁ l₂ w₁ w₂) {q : Record} (hq : f.Owns q) :
    (l₁.replace q).1 = (l₂.replace q).1 ∧
      (l₁.replace q).2.get? f.key = (l₂.replace q).2.get? f.key := by
  have hrecord : l₁.get? q.name = l₂.get? q.name := by
    rw [hq.1]
    exact h.record
  rw [← hq.1]
  cases hget : l₂.get? q.name with
  | none =>
    rw [Ledger.replace_of_absent hget, Ledger.replace_of_absent (hrecord.trans hget)]
    exact ⟨rfl, hrecord⟩
  | some stored =>
    by_cases hv : stored.version = q.version
    · rw [Ledger.replace_of_version hget hv.symm,
        Ledger.replace_of_version (hrecord.trans hget) hv.symm]
      refine ⟨rfl, ?_⟩
      have hname : q.bumped.name = q.name := rfl
      rw [Ledger.get?_put_of_eq hname, Ledger.get?_put_of_eq hname]
    · rw [Ledger.replace_of_stale hget hv, Ledger.replace_of_stale (hrecord.trans hget) hv]
      exact ⟨rfl, hrecord⟩

theorem Agree.remove (h : f.Agree l₁ l₂ w₁ w₂) (version : Option UInt64) :
    (l₁.remove f.key version).1 = (l₂.remove f.key version).1 ∧
      (l₁.remove f.key version).2.get? f.key = (l₂.remove f.key version).2.get? f.key := by
  have hrecord := h.record
  have herased : Ledger.get? ⟨l₁.records.erase f.key⟩ f.key =
      Ledger.get? ⟨l₂.records.erase f.key⟩ f.key := by
    rw [Ledger.get?_erase, Ledger.get?_erase, if_pos rfl, if_pos rfl]
  cases hget : l₂.get? f.key with
  | none =>
    rw [Ledger.remove_of_absent hget, Ledger.remove_of_absent (hrecord.trans hget)]
    exact ⟨rfl, hrecord⟩
  | some stored =>
    cases version with
    | none =>
      rw [Ledger.remove_of_unchecked hget, Ledger.remove_of_unchecked (hrecord.trans hget)]
      exact ⟨rfl, herased⟩
    | some v =>
      by_cases hv : stored.version = v
      · subst hv
        rw [Ledger.remove_of_version hget, Ledger.remove_of_version (hrecord.trans hget)]
        exact ⟨rfl, herased⟩
      · rw [Ledger.remove_of_stale hget hv, Ledger.remove_of_stale (hrecord.trans hget) hv]
        exact ⟨rfl, hrecord⟩

/-- A request that stays within a footprint leaves its record alike. -/
theorem Agree.get?_afterRequest (h : f.Agree l₁ l₂ w₁ w₂) {r : Request} (hr : f.Covers r) :
    (l₁.afterRequest r).get? f.key = (l₂.afterRequest r).get? f.key := by
  cases r with
  | replaceRecord q => exact (h.replace hr).2
  | removeRecord name version =>
    obtain rfl : name = f.key := hr
    exact (h.remove version).2
  | createRecord | listRecords => cases hr
  | _ => exact h.record

/-- A request that stays within a footprint is answered alike. -/
theorem Agree.result (h : f.Agree l₁ l₂ w₁ w₂) (h₁ : f.Fits l₁ w₁) (h₂ : f.Fits l₂ w₂)
    (ht₁ : w₁.Tame) (ht₂ : w₂.Tame) (source : String → Except Failure Bool) {r : Request}
    (hr : f.Covers r) : (w₁.answerBy source r).1 = (w₂.answerBy source r).1 := by
  have hi₁ : ¬ w₁.timeline.interrupted := by simp [ht₁.quiet.1]
  have hi₂ : ¬ w₂.timeline.interrupted := by simp [ht₂.quiet.1]
  cases r with
  | readRecord name =>
    obtain rfl : name = f.key := hr
    show (w₁.store.read f.key).1 = (w₂.store.read f.key).1
    rw [h₁.store.read_of_accepts h₁.accepts, h₂.store.read_of_accepts h₂.accepts, h.record]
  | replaceRecord q =>
    show (w₁.store.replace q).1 = (w₂.store.replace q).1
    rw [(h₁.store.replace_of_accepts (hr.1 ▸ h₁.accepts)).1,
      (h₂.store.replace_of_accepts (hr.1 ▸ h₂.accepts)).1, (h.replace hr).1]
  | removeRecord name version =>
    obtain rfl : name = f.key := hr
    show (w₁.store.remove f.key version).1 = (w₂.store.remove f.key version).1
    rw [(h₁.store.remove_of_accepts h₁.accepts version).1,
      (h₂.store.remove_of_accepts h₂.accepts version).1, (h.remove version).1]
  | now => exact h.clock
  | isInterrupted => exact ht₁.quiet.1.trans ht₂.quiet.1.symm
  | emit | log => rfl
  | probe url => rw [World.answerBy_probe hi₁, World.answerBy_probe hi₂]
  | lookUp call =>
    have hseen : (w₁.lookUp call.provider call.location call.image).1 =
        (w₂.lookUp call.provider call.location call.image).1 := by
      rw [ht₁.lookUp, ht₂.lookUp, h.images _ _ _ hr.touches]
    rw [World.answerBy_lookUp hi₁, World.answerBy_lookUp hi₂]
    exact congrArg Attempt.finished hseen
  | withdraw call =>
    have hdone : (w₁.withdraw call.provider call.location call.image).1 =
        (w₂.withdraw call.provider call.location call.image).1 := by
      rw [ht₁.withdraw, ht₂.withdraw]
    rw [World.answerBy_withdraw hi₁, World.answerBy_withdraw hi₂]
    exact congrArg Attempt.finished hdone
  | upload call url =>
    have hslow : w₁.terms.tooSlow call.provider = w₂.terms.tooSlow call.provider := by
      rw [hr.1.provider_eq]
      exact congrArg (·.any fun d => Pass.uploadLimit.nanos < d.nanos) h.uploadTime
    have hupload₁ := (ht₁.upload call.provider call.location call.image).1
    have hupload₂ := (ht₂.upload call.provider call.location call.image).1
    rw [← hr.2] at hupload₁ hupload₂
    rw [World.answerBy_upload hi₁, World.answerBy_upload hi₂]
    exact hupload₁.trans ((congrArg (fun b : Bool => if b then _ else _) hslow).trans
      hupload₂.symm)
  | createRecord | listRecords => cases hr

/-- **One request** is answered alike in two worlds that agree on a footprint, and they agree on it
afterwards. -/
theorem Agree.answer (h : f.Agree l₁ l₂ w₁ w₂) (h₁ : f.Fits l₁ w₁) (h₂ : f.Fits l₂ w₂)
    (ht₁ : w₁.Tame) (ht₂ : w₂.Tame) (source : String → Except Failure Bool) {r : Request}
    (hr : f.Covers r) :
    (w₁.answerBy source r).1 = (w₂.answerBy source r).1 ∧
      f.Agree (l₁.afterRequest r) (l₂.afterRequest r) (w₁.answerBy source r).2
        (w₂.answerBy source r).2 := by
  have hresult := h.result h₁ h₂ ht₁ ht₂ source hr
  refine ⟨hresult, h.get?_afterRequest hr, fun p m i hi => ?_, ?_, ?_⟩
  · rw [w₁.shelves_answerBy (.pass f.key), w₂.shelves_answerBy (.pass f.key), hresult]
    exact Deed.at?_shelve _ (h.images p m i hi)
  · rw [World.clock_answerBy, World.clock_answerBy, h.clock]
  · rw [(w₁.continues_answerBy r).uploadTime?_eq, (w₂.continues_answerBy r).uploadTime?_eq,
      h.uploadTime]

/-! ### Footprints apart -/

/-- Two footprints have neither the record nor the image in common. -/
structure Apart (f g : Footprint) : Prop where
  key_ne : f.key ≠ g.key
  spec_ne : f.spec ≠ g.spec

theorem Apart.symm (h : f.Apart g) : g.Apart f :=
  ⟨h.key_ne.symm, h.spec_ne.symm⟩

theorem Apart.not_touches (h : f.Apart g) {p m i : String} (hf : f.Touches p m i) :
    ¬ g.Touches p m i := by
  intro hg
  have himage : f.spec.image = g.spec.image := hf.2.2.symm.trans hg.2.2
  have hprovider : f.spec.provider = g.spec.provider := hf.1.symm.trans hg.1
  apply h.spec_ne
  cases hfs : f.spec
  cases hgs : g.spec
  simp_all

/-- What spares all but a footprint apart from `f` leaves a world that agrees on `f`. -/
theorem Apart.agree (h : f.Apart g) (hs : g.Spares l l' w w') : f.Agree l l' w w' where
  record := (hs.records f.key h.key_ne).symm
  images p m i hi := (hs.images p m i (h.not_touches hi)).symm
  clock := hs.clock.symm
  uploadTime := (hs.continues.uploadTime?_eq f.spec.provider).symm

theorem Apart.fits (h : f.Apart g) (hf : f.Fits l w) (hg : g.Fits l' w') (hs : g.Spares l l' w w') :
    f.Fits l' w' where
  store := hg.store
  accepts := (hs.accepts f.key).mpr hf.accepts
  owns r hr := hf.owns r ((hs.records f.key h.key_ne).symm.trans hr)

end Footprint

/-- Two worlds with the same records and the same images, in which the same time is told. -/
structure World.Twins (l : Ledger) (w₁ w₂ : World) : Prop where
  left : w₁.store.Holds l
  right : w₂.store.Holds l
  accepts : ∀ n, w₁.store.Accepts n ↔ w₂.store.Accepts n
  shelves : w₁.shelves = w₂.shelves
  clock : w₁.clock = w₂.clock
  uploadTime : w₁.uploadTime? = w₂.uploadTime?

namespace World

theorem Twins.refl (h : w.store.Holds l) : Twins l w w :=
  ⟨h, h, fun _ => .rfl, rfl, rfl, rfl⟩

theorem Twins.symm (h : Twins l w₁ w₂) : Twins l w₂ w₁ :=
  ⟨h.right, h.left, fun n => (h.accepts n).symm, h.shelves.symm, h.clock.symm, h.uploadTime.symm⟩

theorem Twins.trans (h : Twins l w w₁) (h' : Twins l' w₁ w₂) : Twins l w w₂ where
  left := h.left
  right := by
    rw [h.right.unique h'.left]
    exact h'.right
  accepts n := (h.accepts n).trans (h'.accepts n)
  shelves := h.shelves.trans h'.shelves
  clock := h.clock.trans h'.clock
  uploadTime := h.uploadTime.trans h'.uploadTime

theorem Twins.fits (h : Twins l w₁ w₂) (hf : f.Fits l w₁) : f.Fits l w₂ :=
  ⟨h.right, (h.accepts f.key).mp hf.accepts, hf.owns⟩

end World

/-- Worlds are twins if they agree on a footprint, and on all else come from twins. -/
theorem Footprint.Agree.twins (h : f.Agree l₁ l₂ w₁ w₂) (htwins : World.Twins l w w')
    (h₁ : f.Fits l₁ w₁) (h₂ : f.Fits l₂ w₂) (hs₁ : f.Spares l l₁ w w₁) (hs₂ : f.Spares l l₂ w' w₂) :
    World.Twins l₁ w₁ w₂ where
  left := h₁.store
  right := by
    have hsame : l₁ = l₂ := by
      refine Ledger.ext_get? fun n => ?_
      by_cases hn : n = f.key
      · rw [hn, h.record]
      · rw [hs₁.records n hn, hs₂.records n hn]
    rw [hsame]
    exact h₂.store
  accepts n := by rw [hs₁.accepts, hs₂.accepts, htwins.accepts]
  shelves := by
    refine Shelves.ext_at? fun p m i => ?_
    by_cases hi : f.Touches p m i
    · exact h.images p m i hi
    · rw [hs₁.images p m i hi, hs₂.images p m i hi, htwins.shelves]
  clock := h.clock
  uploadTime := by
    funext p
    rw [hs₁.continues.uploadTime?_eq, hs₂.continues.uploadTime?_eq, htwins.uploadTime]

namespace Program

variable {p : Program α} {q : Program β} {P : α → Prop} {Q : β → Prop}

open Footprint

/-- **A program sees nothing outside of its footprint.** In two worlds that agree on the footprint
it comes to the same result, and leaves worlds that agree on it. -/
theorem Within.agree (hp : p.Within f P) (h : f.Agree l₁ l₂ w₁ w₂) (h₁ : f.Fits l₁ w₁)
    (h₂ : f.Fits l₂ w₂) (ht₁ : w₁.Tame) (ht₂ : w₂.Tame) (source : String → Except Failure Bool) :
    (w₁.runBy source p).1 = (w₂.runBy source p).1 ∧
      ∀ l₁' l₂', (w₁.runBy source p).2.store.Holds l₁' → (w₂.runBy source p).2.store.Holds l₂' →
        f.Agree l₁' l₂' (w₁.runBy source p).2 (w₂.runBy source p).2 := by
  induction p generalizing l₁ l₂ w₁ w₂ with
  | done a =>
    refine ⟨rfl, fun l₁' l₂' hl₁ hl₂ => ?_⟩
    rw [hl₁.unique h₁.store, hl₂.unique h₂.store]
    exact h
  | fail e =>
    refine ⟨rfl, fun l₁' l₂' hl₁ hl₂ => ?_⟩
    rw [hl₁.unique h₁.store, hl₂.unique h₂.store]
    exact h
  | ask r next ih =>
    obtain ⟨hanswer, hagree⟩ := h.answer h₁ h₂ ht₁ ht₂ source hp.1
    obtain ⟨hadmits, hfits₁, -⟩ := h₁.answer source hp.1
    obtain ⟨-, hfits₂, -⟩ := h₂.answer source hp.1
    have hnext := ih _ (hp.2 _ hadmits) hagree hfits₁ hfits₂ (ht₁.answerBy hp.1 source)
      (ht₂.answerBy hp.1 source)
    rw [World.runBy_ask, World.runBy_ask, ← hanswer]
    exact hnext

/-- A program comes to the same result in twins, and leaves twins. -/
theorem Within.twins (hp : p.Within f P) (h : World.Twins l w₁ w₂) (hf : f.Fits l w₁)
    (ht₁ : w₁.Tame) (ht₂ : w₂.Tame) (source : String → Except Failure Bool) :
    (w₁.runBy source p).1 = (w₂.runBy source p).1 ∧
      ∃ l', World.Twins l' (w₁.runBy source p).2 (w₂.runBy source p).2 ∧
        f.Fits l' (w₁.runBy source p).2 ∧ f.Spares l l' w₁ (w₁.runBy source p).2 := by
  have hagree : f.Agree l l w₁ w₂ :=
    ⟨rfl, fun _ _ _ _ => by rw [h.shelves], h.clock, by rw [h.uploadTime]⟩
  obtain ⟨l₁, hf₁, hs₁⟩ := hp.runBy hf source
  obtain ⟨l₂, hf₂, hs₂⟩ := hp.runBy (h.fits hf) source
  obtain ⟨hresult, hafter⟩ := hp.agree hagree hf (h.fits hf) ht₁ ht₂ source
  exact ⟨hresult, l₁, (hafter l₁ l₂ hf₁.store hf₂.store).twins h hf₁ hf₂ hs₁ hs₂, hf₁, hs₁⟩

/-- **Programs with disjoint footprints commute.** -/
theorem Within.commute (hp : p.Within f P) (hq : q.Within g Q) (hfg : f.Apart g)
    (hf : f.Fits l w) (hg : g.Fits l w) (ht : w.Tame) (source : String → Except Failure Bool) :
    ((w.runBy source q).2.runBy source p).1 = (w.runBy source p).1 ∧
      ((w.runBy source p).2.runBy source q).1 = (w.runBy source q).1 ∧
      ∃ l', World.Twins l' ((w.runBy source p).2.runBy source q).2
        ((w.runBy source q).2.runBy source p).2 := by
  obtain ⟨lp, hfp, hsp⟩ := hp.runBy hf source
  obtain ⟨lq, hgq, hsq⟩ := hq.runBy hg source
  have hfq := hfg.fits hf hgq hsq
  have hgp := hfg.symm.fits hg hfp hsp
  obtain ⟨lpq, hgpq, hspq⟩ := hq.runBy hgp source
  obtain ⟨lqp, hfqp, hsqp⟩ := hp.runBy hfq source
  obtain ⟨hresultp, hagreep⟩ :=
    hp.agree (hfg.agree hsq) hf hfq ht (ht.runBy hq hg source) source
  obtain ⟨hresultq, hagreeq⟩ :=
    hq.agree (hfg.symm.agree hsp) hg hgp ht (ht.runBy hp hf source) source
  have hagreep := hagreep lp lqp hfp.store hfqp.store
  have hagreeq := hagreeq lq lpq hgq.store hgpq.store
  refine ⟨hresultp.symm, hresultq.symm, lpq, hgpq.store, ?_, fun n => ?_, ?_, ?_, ?_⟩
  · have hsame : lqp = lpq := by
      refine Ledger.ext_get? fun n => ?_
      by_cases hnf : n = f.key
      · rw [hnf, ← hagreep.record, hspq.records _ hfg.key_ne]
      by_cases hng : n = g.key
      · rw [hng, ← hagreeq.record, hsqp.records _ hfg.key_ne.symm]
      rw [hsqp.records n hnf, hsq.records n hng, hspq.records n hng, hsp.records n hnf]
    rw [← hsame]
    exact hfqp.store
  · rw [hspq.accepts, hsp.accepts, hsqp.accepts, hsq.accepts]
  · refine Shelves.ext_at? fun m i j => ?_
    by_cases hif : f.Touches m i j
    · rw [← hagreep.images m i j hif, hspq.images m i j (hfg.not_touches hif)]
    by_cases hig : g.Touches m i j
    · rw [← hagreeq.images m i j hig, hsqp.images m i j (hfg.symm.not_touches hig)]
    rw [hsqp.images m i j hif, hsq.images m i j hig, hspq.images m i j hig, hsp.images m i j hif]
  · rw [hspq.clock, hsp.clock, hsqp.clock, hsq.clock]
  · funext m
    rw [hspq.continues.uploadTime?_eq, hsp.continues.uploadTime?_eq, hsqp.continues.uploadTime?_eq,
      hsq.continues.uploadTime?_eq]

end Program

end ImageCatalog
