import ImageCatalog.Proofs.Catalog.Withdrawal
import ImageCatalog.Proofs.Run.Results

/-!
# What an addition brings back

An addition brings back the record of its name as it is stored then. A record of another provider
is refused, but nobody looks at the image that the record is about. That makes a difference where
the two feeds meet: a consumer names its record like the image, and a release puts the provider in
front, so a consumer may ask for an image that is named like the record of a release. Then the one
that comes second gets the record of the first one, and with it another image than it has asked
for. This is the only way in which that comes about.

## Main definitions

* `Errand.Rivals` — additions of the two feeds that want different images under one name

## Main results

* `Errand.rivals_iff` — additions under one name want the same image unless they are rivals
* `granted_of_other_feed` — what an addition brings back
-/

namespace ImageCatalog

variable {s : Service} {g : Regime} {e e' : Errand} {name provider : String} {spec spec' : Spec}

/-! ### Rivals -/

/-- Additions of the two feeds that want images of one provider under one name. -/
inductive Errand.Rivals (s : Service) (name provider : String) : Errand → Errand → Prop where
  | consumer {consumer image : String} {release : Release} :
    release.request s.channel = .ok ⟨name, image, provider⟩ →
    Rivals s name provider (.consumerAdded consumer name provider) (.releaseAdded release)
  | release {consumer image : String} {release : Release} :
    release.request s.channel = .ok ⟨name, image, provider⟩ →
    Rivals s name provider (.releaseAdded release) (.consumerAdded consumer name provider)

/-- No image is named like its own record of the release feed. -/
theorem Spec.image_ne_record (spec : Spec) : spec.image ≠ spec.provider ++ "-" ++ spec.image := by
  intro h
  have hlength := congrArg String.length h
  simp only [String.length_append] at hlength
  have hhyphen : "-".length = 1 := rfl
  omega

/-- **Additions under one name want the same image, unless they are rivals.** -/
theorem Errand.rivals_iff (h : e.wants? s = some (name, spec))
    (h' : e'.wants? s = some (name, spec')) (hp : spec'.provider = spec.provider) :
    spec' ≠ spec ↔ Rivals s name spec.provider e e' := by
  obtain ⟨image, provider⟩ := spec
  obtain ⟨image', provider'⟩ := spec'
  obtain rfl : provider' = provider := hp
  obtain ⟨c, rfl, hname⟩ | ⟨release, rfl, hname, hreq⟩ := wants?_eq_some h <;>
    obtain ⟨c', rfl, hname'⟩ | ⟨release', rfl, hname', hreq'⟩ := wants?_eq_some h'
  · -- Both are consumers.
    obtain rfl : image' = image := hname'.symm.trans hname
    exact ⟨fun hne => absurd rfl hne, nofun⟩
  · refine ⟨fun _ => ?_, fun _ heq => ?_⟩
    · obtain rfl : name = image := hname
      exact .consumer hreq'
    · obtain rfl : image' = image := congrArg Spec.image heq
      exact Spec.image_ne_record ⟨image', provider'⟩ (hname.symm.trans hname')
  · refine ⟨fun _ => ?_, fun _ heq => ?_⟩
    · obtain rfl : name = image' := hname'
      exact .release hreq
    · obtain rfl : image' = image := congrArg Spec.image heq
      exact Spec.image_ne_record ⟨image', provider'⟩ (hname'.symm.trans hname)
  · -- Both are releases, with the same provider in front.
    obtain rfl : image' = image :=
      (String.append_right_inj (provider' ++ "-")).mp (hname'.symm.trans hname)
    exact ⟨fun hne => absurd rfl hne, nofun⟩

theorem Errand.wants?_eq_none_of_not_isDemand (h : e.isDemand = false) : e.wants? s = none := by
  cases e <;> first | rfl | cases h

/-! ### At the end of an addition -/

/-- What an addition brings back is granted. -/
def grantedNote (s : Service) : Note :=
  fun e x σ => ∀ a, x = .ok a → e.Grants s a σ

/-- **Additions bring back what is granted**, under every regime in which no pass lands in
another. -/
theorem bookkeeping_notes (s : Service) {g : Regime}
    (hg : ∀ q v, g.visitors q v → v.isPass = false) :
    (bookkeeping s g).Notes g s (grantedNote s) := by
  have hdemand : ∀ {e : Errand} {visitor : Bool} {σ : Stage} {t : Instant}, e.isDemand →
      Orderly s g σ → Role.Meets ⟨bookkeeping s g, g, e, visitor⟩ (e.program s)
        ((grantedNote s).AtEnd e) (σ.after (.began e) σ.ledger t) := by
    intro e visitor σ t he hσ
    have hbegan : HasBegun e (σ.after (.began e) σ.ledger t) := ⟨_, List.mem_cons_self, rfl⟩
    refine ((account (carried_hasBegun e) fun _ h => h).dealings.triple_grants he _
      ⟨hσ.began t, hbegan⟩).mono ?_
    rintro x σ' hx t' a rfl
    exact hx.2
  have hother : ∀ {e : Errand}, e.isDemand = false → ∀ x σ, (grantedNote s).AtEnd e x σ :=
    fun he _ _ _ a _ => Errand.grants_of_wants_nothing (Errand.wants?_eq_none_of_not_isDemand he) a _
  constructor
  · intro e σ t he hσ ht
    cases hd : e.isDemand with
    | true => exact hdemand hd hσ
    | false => exact ((bookkeeping_holds s hg).errand e σ t he hσ ht).2.mono fun x σ _ => hother hd x σ
  · intro q e σ t hv hσ ht
    cases hd : e.isDemand with
    | true => exact hdemand hd hσ
    | false =>
      exact ((bookkeeping_holds s hg).visitor q e σ t hv hσ ht).2.mono fun x σ _ => hother hd x σ

/-- Each record is what an errand that has begun has wanted it to be. -/
theorem Reachable.origin {c : Scene} (hg : ∀ q v, g.visitors q v → v.isPass = false)
    (h : Reachable s g c) {r : Record} (hr : c.stage.record? name = some r) :
    ∃ e, HasBegun e c.stage ∧ e.wants? s = some (name, r.spec) := by
  have horigin : ∀ {p}, Books s p c.stage → ∃ e, HasBegun e c.stage ∧
      e.wants? s = some (name, r.spec) := by
    intro p hbooks
    obtain ⟨m, hm, e, he, hwants⟩ := (hbooks name r hr).origin
    exact ⟨e, ⟨m, hm, he⟩, hwants⟩
  obtain hbooks | ⟨_, _, _, _, hbooks⟩ := (h.books hg).1
  · exact horigin hbooks
  · exact horigin hbooks

/-- **What an addition brings back** is the record that is stored under its name, of the provider
that was asked for. It is about another image than was asked for exactly if a rival of the other
feed has come first, and created the record for the image that it wants itself. -/
theorem granted_of_other_feed (s : Service) {c : Scene} (h : Reachable s .interleaved c)
    {e : Errand} {x : e.Result} {l : Ledger} {t : Instant} {past : List Entry}
    (hpast : c.stage.past = ⟨.ended e (.ok x), l, t⟩ :: past) {name : String} {spec : Spec}
    {r : Record} (hwants : e.wants? s = some (name, spec)) (hr : e.granted? x = some r) :
    c.stage.record? name = some r ∧ r.spec.provider = spec.provider ∧
      (r.spec ≠ spec ↔ ∃ e', HasBegun e' c.stage ∧ e'.wants? s = some (name, r.spec) ∧
        e.Rivals s name spec.provider e') := by
  have hg : ∀ q v, Regime.interleaved.visitors q v → v.isPass = false :=
    fun _ _ => Regime.isPass_of_interleaved
  have hnoted := h.noted (bookkeeping_holds s hg) (bookkeeping_notes s hg)
  obtain ⟨hstored, hprovider⟩ := hnoted e (.ok x) l t past hpast x rfl name spec r hwants hr
  refine ⟨hstored, hprovider, fun hne => ?_, ?_⟩
  · obtain ⟨e', hbegan, hwants'⟩ := h.origin hg hstored
    exact ⟨e', hbegan, hwants', (Errand.rivals_iff hwants hwants' hprovider).mp hne⟩
  · rintro ⟨e', -, hwants', hrivals⟩
    exact (Errand.rivals_iff hwants hwants' hprovider).mpr hrivals

/-- Whether the addition that ended last has brought back another spec than it wants. -/
def Scene.strays (s : Service) (c : Scene) : Bool :=
  match c.stage.past with
  | ⟨.ended e (.ok x), _, _⟩ :: _ =>
    (e.wants? s).any fun wanted => (e.granted? x).any fun r => r.spec != wanted.2
  | _ => false

theorem Scene.of_strays {c : Scene} (h : c.strays s) :
    ∃ e x l t past name spec r, c.stage.past = ⟨.ended e (.ok x), l, t⟩ :: past ∧
      e.wants? s = some (name, spec) ∧ e.granted? x = some r ∧ r.spec ≠ spec := by
  unfold strays at h
  split at h
  · rename_i e x l t past hpast
    obtain ⟨⟨name, spec⟩, hwants, hany⟩ := (Option.any_eq_true _ _).mp h
    obtain ⟨r, hr, hne⟩ := (Option.any_eq_true _ _).mp hany
    exact ⟨e, x, l, t, past, name, spec, r, hpast, hwants, hr, by simpa using hne⟩
  · cases h

/-- A cluster needs an image that is named like the record of a release, and then the release
comes. -/
theorem exists_strays :
    let s := Performance.smallService .zero
    ∃ c, Reachable s .oneByOne c ∧ c.strays s :=
  Performance.exists_reachable (fun _ _ _ => trivial) (t := .epoch) rfl
    [.begin (.consumerAdded "cluster" "capv-flatcar-stable-1-kube-2-tooling-3-gs" "capv"),
      .begin (.releaseAdded
        ⟨"vsphere-1.0.0", [⟨"flatcar", "1"⟩, ⟨"kubernetes", "2"⟩, ⟨"os-tooling", "3"⟩]⟩)]
    (Scene.strays (Performance.smallService .zero)) (by decide +kernel)

theorem Regime.oneByOne_within_interleaved : Regime.oneByOne.Within .interleaved where
  starts _ _ := rfl
  tick _ _ _ := rfl
  errands _ _ := rfl
  visitors _ _ h := by cases h
  answers _ _ _ _ := trivial

/-- The release gets the record of the cluster, which is about another image. -/
theorem granted_of_other_feed_release :
    let s := Performance.smallService .zero
    ∃ (c : Scene) (e e' : Errand) (x : e.Result) (l : Ledger) (t : Instant) (past : List Entry)
      (name : String) (spec : Spec) (r : Record), Reachable s .interleaved c ∧
      c.stage.past = ⟨.ended e (.ok x), l, t⟩ :: past ∧ e.wants? s = some (name, spec) ∧
      e.granted? x = some r ∧ r.spec ≠ spec ∧ r.spec.provider = spec.provider ∧
      HasBegun e' c.stage ∧ e.Rivals s name spec.provider e' := by
  intro s
  obtain ⟨c, honeByOne, hfound⟩ := exists_strays
  have hc : Reachable s .interleaved c := honeByOne.mono Regime.oneByOne_within_interleaved
  obtain ⟨e, x, l, t, past, name, spec, r, hpast, hwants, hr, hne⟩ := Scene.of_strays hfound
  obtain ⟨-, hprovider, hrivals⟩ := granted_of_other_feed s hc hpast hwants hr
  obtain ⟨e', hbegan, -, hrival⟩ := hrivals.mp hne
  exact ⟨c, e, e', x, l, t, past, name, spec, r, hc, hpast, hwants, hr, hne, hprovider, hbegan,
    hrival⟩

/-- So it is not true that an addition brings back a record of the image that it wants. -/
theorem not_granted_as_wanted :
    ¬ ∀ (s : Service) (c : Scene), Reachable s .oneByOne c → ∀ e x l t past name spec r,
      c.stage.past = ⟨.ended e (.ok x), l, t⟩ :: past → e.wants? s = some (name, spec) →
      e.granted? x = some r → r.spec = spec := by
  intro h
  obtain ⟨c, hc, hfound⟩ := exists_strays
  obtain ⟨e, x, l, t, past, name, spec, r, hpast, hwants, hr, hne⟩ := Scene.of_strays hfound
  exact hne (h _ c hc e x l t past name spec r hpast hwants hr)

end ImageCatalog
