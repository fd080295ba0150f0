import ImageCatalog.Proofs.Rehearsal.Sight
import ImageCatalog.Proofs.Run.Exchanges
import ImageCatalog.Proofs.Run.Performance

/-!
# What the catalogs hold in a run

A run leaves the answers of providers free. Here the look-ups are truthful: a provider with catalogs
says of an image whether it is there, unless the call fails. What is there follows from the run. It
is what was there at first, changed by the uploads and withdrawals that have ended well; nothing
else changes a catalog.

Providers without catalogs hold nothing here, and nothing is asked of what they answer.

## Main definitions

* `Shelves` — what each provider with catalogs holds
* `shelvesAfter` — what is held after some deeds
* `Regime.truthful` — the runs with truthful look-ups

## Main results

* `World.shelves_answer` — a world in memory keeps its shelves as a run does
* `World.truthful_answer` — its look-ups are truthful
-/

namespace ImageCatalog

/-- For each provider with catalogs, whether an image is at a location. -/
abbrev Shelves := String → Option (String → String → Bool)

namespace Shelves

/-- Whether a provider has catalogs that hold an image at a location. -/
def holds (H : Shelves) (provider location image : String) : Bool :=
  (H provider).any fun held => held location image

/-- The image of a call comes to its location, or goes from there. -/
def set (H : Shelves) (call : CatalogCall) (present : Bool) : Shelves := fun provider =>
  if provider = call.provider then
    (H provider).map fun held location image =>
      if location = call.location ∧ image = call.image then present else held location image
  else H provider

variable {H : Shelves} {call : CatalogCall} {present : Bool} {provider location image : String}

theorem isSome_set : (H.set call present provider).isSome = (H provider).isSome := by
  unfold set
  split <;> simp

theorem holds_set_of_ne (h : ¬ (provider = call.provider ∧ location = call.location ∧
    image = call.image)) :
    (H.set call present).holds provider location image = H.holds provider location image := by
  unfold holds set
  split
  · rename_i hp
    have hother : ¬ (location = call.location ∧ image = call.image) := fun h' => h ⟨hp, h'⟩
    cases H provider with
    | none => rfl
    | some held => simp [hother]
  · rfl

theorem holds_set_self :
    (H.set call present).holds call.provider call.location call.image =
      ((H call.provider).isSome && present) := by
  unfold holds set
  rw [if_pos rfl]
  cases H call.provider with
  | none => rfl
  | some held => simp

end Shelves

/-- What the providers of a registry hold. -/
def Provider.Registry.shelves (P : Provider.Registry) : Shelves := fun provider =>
  ((P.get? provider).bind Provider.catalog?).map Catalog.holds

/-- What a deed makes of what is held. -/
def Deed.shelve : Deed → Shelves → Shelves
  | answered _ (.upload call _) (.finished (.ok ())), H => H.set call true
  | answered _ (.withdraw call) (.finished (.ok ())), H => H.set call false
  | _, H => H

/-- What is held after some deeds. -/
def shelvesAfter (P : Provider.Registry) : List Entry → Shelves
  | [] => P.shelves
  | m :: past => m.deed.shelve (shelvesAfter P past)

theorem Deed.shelve_upload_of_ne {e : Errand} {call : CatalogCall} {url : String} {x : Attempt Unit}
    (h : x ≠ .finished (.ok ())) (H : Shelves) :
    (answered e (.upload call url) x).shelve H = H := by
  rcases x with (_ | ⟨⟨⟩⟩) | _ | _ <;> first | rfl | exact absurd rfl h

theorem Deed.shelve_withdraw_of_ne {e : Errand} {call : CatalogCall} {x : Attempt Unit}
    (h : x ≠ .finished (.ok ())) (H : Shelves) :
    (answered e (.withdraw call) x).shelve H = H := by
  rcases x with (_ | ⟨⟨⟩⟩) | _ | _ <;> first | rfl | exact absurd rfl h

/-- Only calls on providers change what is held. -/
theorem Deed.shelve_of_exchange? {d : Deed} (h : d.exchange? = none) (H : Shelves) :
    d.shelve H = H := by
  cases d with
  | began | issued | ended => rfl
  | answered e r x =>
    cases r with
    | upload | withdraw => cases h
    | _ => rfl

theorem Deed.isSome_shelve (d : Deed) (H : Shelves) (provider : String) :
    (d.shelve H provider).isSome = (H provider).isSome := by
  cases d with
  | began | issued | ended => rfl
  | answered e r x =>
    cases r with
    | upload call url =>
      by_cases hx : x = .finished (.ok ())
      · rw [hx]
        exact Shelves.isSome_set
      · rw [shelve_upload_of_ne hx]
    | withdraw call =>
      by_cases hx : x = .finished (.ok ())
      · rw [hx]
        exact Shelves.isSome_set
      · rw [shelve_withdraw_of_ne hx]
    | _ => rfl

/-- A provider with catalogs goes on to have them. -/
theorem isSome_shelvesAfter (P : Provider.Registry) (past : List Entry) (provider : String) :
    (shelvesAfter P past provider).isSome = (P.shelves provider).isSome := by
  induction past with
  | nil => rfl
  | cons m past ih => rw [shelvesAfter, Deed.isSome_shelve, ih]

theorem shelvesAfter_append_of_exchanges {newer : List Entry} (h : exchanges newer = [])
    (P : Provider.Registry) (older : List Entry) :
    shelvesAfter P (newer ++ older) = shelvesAfter P older := by
  induction newer with
  | nil => rfl
  | cons m newer ih =>
    rw [exchanges_cons, List.append_eq_nil_iff] at h
    obtain ⟨hnewer, hm⟩ := h
    have hnone : m.deed.exchange? = none := by
      cases hd : m.deed.exchange? with
      | none => rfl
      | some => simp [hd] at hm
    rw [List.cons_append, shelvesAfter, Deed.shelve_of_exchange? hnone, ih hnewer]

/-! ### Truthful look-ups -/

/-- The look-ups of providers with catalogs are truthful. -/
def Truthful (P : Provider.Registry) (past : List Entry) : (r : Request) → r.Answer → Prop
  | .lookUp call, .finished (.ok present) =>
    ∀ held, shelvesAfter P past call.provider = some held →
      present = held call.location call.image
  | _, _ => True

/-- Errands other than passes may land while a pass waits, and look-ups are truthful. All else that
a provider or the source answers is free. -/
def Regime.truthful (P : Provider.Registry) : Regime where
  starts _ := true
  tick _ _ := true
  errands _ := true
  visitors _ v := !v.isPass
  answers past r x := Truthful P past r x

/-! ### Worlds -/

namespace Catalog

variable (c : Catalog) (location image : String)

theorem holds_insert_eq : (c.insert location image).holds = fun l i =>
    if l = location ∧ i = image then true else c.holds l i := by
  funext l i
  rw [holds_insert]
  by_cases h : l = location ∧ i = image
  · simp [h]
  · have hother : (i == image && l == location) = false := by
      simpa using fun hi hl => h ⟨hl, hi⟩
    rw [hother, Bool.or_false, if_neg h]

theorem holds_erase_eq : (c.erase location image).holds = fun l i =>
    if l = location ∧ i = image then false else c.holds l i := by
  funext l i
  rw [holds_erase]
  by_cases h : l = location ∧ i = image
  · simp [h]
  · have hother : (i == image && l == location) = false := by
      simpa using fun hi hl => h ⟨hl, hi⟩
    rw [hother, Bool.not_false, Bool.and_true, if_neg h]

theorem holds_receive (verb : Verb) :
    (c.receive verb location image).2.holds = c.holds := by
  unfold receive
  dsimp only
  split <;> rfl

/-- A look-up changes nothing, and says whether the image is there unless it fails. -/
theorem lookUp_cases : (c.lookUp location image).2.holds = c.holds ∧
    ∀ present, (c.lookUp location image).1 = .ok present → present = c.holds location image := by
  have hreceive := c.holds_receive location image .lookUp
  unfold lookUp
  split
  · rename_i e c' h
    rw [h] at hreceive
    exact ⟨hreceive, fun _ h => by cases h⟩
  · rename_i c' h
    rw [h] at hreceive
    refine ⟨hreceive, ?_⟩
    rintro present ⟨⟩
    exact congrFun (congrFun hreceive location) image

/-- A withdrawal takes the image out unless it fails. -/
theorem withdraw_cases :
    ((c.withdraw location image).1 = .ok () ∧
      (c.withdraw location image).2.holds = fun l i =>
        if l = location ∧ i = image then false else c.holds l i) ∨
    (∃ e, (c.withdraw location image).1 = .error e) ∧
      (c.withdraw location image).2.holds = c.holds := by
  have hreceive := c.holds_receive location image .withdraw
  unfold withdraw
  split
  · rename_i e c' h
    rw [h] at hreceive
    exact .inr ⟨⟨e, rfl⟩, hreceive⟩
  · rename_i c' h
    rw [h] at hreceive
    exact .inl ⟨rfl, by rw [holds_erase_eq, ← hreceive]⟩

end Catalog

namespace World

variable {w : World} {P : Provider.Registry} {past : List Entry} {call : CatalogCall}
  {provider location image : String} {c c' : Catalog} {limit : Option Duration}

/-- What the providers of a world hold. -/
def shelves (w : World) : Shelves :=
  w.providers.shelves

theorem shelves_eq (w : World) (provider : String) :
    w.shelves provider = (w.catalog? provider).map Catalog.holds := rfl

theorem shelves_setCatalog (hc : w.catalog? provider = some c) (h : c'.holds = c.holds) :
    (w.setCatalog provider c').shelves = w.shelves := by
  funext p
  rw [shelves_eq, shelves_eq, catalog?_setCatalog]
  split
  · rename_i hp
    rw [hp, hc, Option.map_some, Option.map_some, h]
  · rfl

theorem shelves_setCatalog_call {present : Bool} (hc : w.catalog? call.provider = some c)
    (h : c'.holds = fun l i =>
      if l = call.location ∧ i = call.image then present else c.holds l i) :
    (w.setCatalog call.provider c').shelves = w.shelves.set call present := by
  funext p
  rw [shelves_eq, catalog?_setCatalog, Shelves.set]
  split
  · rename_i hp
    rw [shelves_eq, hp, hc, Option.map_some, Option.map_some, Option.map_some, h]
  · rfl

/-- A provider that receives a call has changed nothing yet. -/
theorem shelves_receive (w : World) (verb : Verb) (provider location image : String) :
    (w.onProvider provider () fun c => c.receive verb location image).2.shelves = w.shelves := by
  cases hc : w.catalog? provider with
  | none => rw [onProvider_of_none hc]
  | some c =>
    rw [onProvider_of_catalog hc]
    exact shelves_setCatalog hc (c.holds_receive location image verb)

theorem shelves_awaitUpload (w : World) (provider location image : String)
    (limit : Option Duration) :
    (w.awaitUpload provider location image limit).2.shelves = w.shelves := by
  unfold awaitUpload
  split
  · rfl
  · split <;> rfl

theorem shelves_mapCatalog (w : World) (call : CatalogCall) :
    (w.mapCatalog call.provider fun c => c.insert call.location call.image).shelves =
      w.shelves.set call true := by
  unfold mapCatalog
  split
  · rename_i p hp
    cases p with
    | idle tag locations =>
      funext q
      simp only [shelves, Provider.Registry.shelves, Shelves.set, Provider.mapCatalog,
        Dictionary.get?_insert]
      split
      · rename_i hq
        rw [hq, hp]
        rfl
      · rfl
    | catalog c =>
      have hc : w.catalog? call.provider = some c := by
        rw [catalog?, hp]
        rfl
      exact shelves_setCatalog_call hc (c.holds_insert_eq _ _)
  · rename_i hp
    funext q
    rw [Shelves.set]
    split
    · rename_i hq
      rw [hq, shelves_eq, catalog?, hp]
      rfl
    · rfl

/-- An upload brings the image if it ends well, and otherwise changes nothing. -/
theorem upload_cases (w : World) (call : CatalogCall) (limit : Option Duration) :
    let result := w.upload call.provider call.location call.image limit
    (result.1 = .finished (.ok ()) ∧ result.2.shelves = w.shelves.set call true) ∨
      (result.1 ≠ .finished (.ok ()) ∧ result.2.shelves = w.shelves) := by
  have hreceive := w.shelves_receive .upload call.provider call.location call.image
  intro result
  simp only [result, upload]
  split
  · rename_i e w₁ h
    rw [h] at hreceive
    exact .inr ⟨(fun h => by cases h), hreceive⟩
  · rename_i w₁ h
    rw [h] at hreceive
    have hwait := w₁.shelves_awaitUpload call.provider call.location call.image limit
    split
    · rename_i w₂ h
      rw [h] at hwait
      refine .inl ⟨rfl, ?_⟩
      rw [shelves_mapCatalog, hwait, hreceive]
    · rename_i hstopped
      exact .inr ⟨fun h => hstopped _ (Prod.ext h rfl), hwait.trans hreceive⟩

/-- A withdrawal takes the image out if it ends well, and otherwise changes nothing. -/
theorem withdraw_cases (w : World) (call : CatalogCall) :
    let result := w.withdraw call.provider call.location call.image
    (result.1 = .ok () ∧ result.2.shelves = w.shelves.set call false) ∨
      ((∃ e, result.1 = .error e) ∧ result.2.shelves = w.shelves) := by
  dsimp only
  rw [withdraw]
  cases hc : w.catalog? call.provider with
  | none =>
    rw [onProvider_of_none hc]
    refine .inl ⟨rfl, ?_⟩
    funext p
    rw [Shelves.set]
    split
    · rename_i hp
      rw [hp, shelves_eq, hc]
      rfl
    · rfl
  | some c =>
    rw [onProvider_of_catalog hc]
    rcases c.withdraw_cases call.location call.image with ⟨hx, hc'⟩ | ⟨hx, hc'⟩
    · exact .inl ⟨hx, shelves_setCatalog_call hc hc'⟩
    · exact .inr ⟨hx, shelves_setCatalog hc hc'⟩

/-- A look-up changes nothing, and is truthful. -/
theorem lookUp_cases (w : World) (call : CatalogCall) :
    let result := w.lookUp call.provider call.location call.image
    result.2.shelves = w.shelves ∧ ∀ present, result.1 = .ok present →
      ∀ held, w.shelves call.provider = some held → present = held call.location call.image := by
  dsimp only
  rw [lookUp]
  cases hc : w.catalog? call.provider with
  | none =>
    rw [onProvider_of_none hc, shelves_eq, hc]
    exact ⟨rfl, fun _ _ _ h => by cases h⟩
  | some c =>
    rw [onProvider_of_catalog hc, shelves_eq, hc]
    obtain ⟨hc', hx⟩ := c.lookUp_cases call.location call.image
    refine ⟨shelves_setCatalog hc hc', ?_⟩
    rintro present hpresent held ⟨⟩
    exact hx present hpresent

/-- **A world in memory keeps its shelves as a run does.** -/
theorem shelves_answer (w : World) (e : Errand) (r : Request) :
    (w.answer r).2.shelves = (Deed.answered e r (w.answer r).1).shelve w.shelves := by
  by_cases hi : w.timeline.interrupted
  · -- Nothing is started.
    cases r <;> simp [answer, probe, hi] <;> rfl
  cases r with
  | lookUp call =>
    have hanswer : w.answer (.lookUp call) =
      finish (w.lookUp call.provider call.location call.image) := if_neg hi
    rw [hanswer]
    exact (w.lookUp_cases call).1
  | upload call url =>
    have hanswer : w.answer (.upload call url) =
      w.upload call.provider call.location call.image (w.limitOf call) := if_neg hi
    rw [hanswer]
    rcases w.upload_cases call (w.limitOf call) with ⟨hx, hw⟩ | ⟨hx, hw⟩
    · rw [hw, hx]
      rfl
    · rw [hw, Deed.shelve_upload_of_ne hx]
  | withdraw call =>
    have hanswer : w.answer (.withdraw call) =
      finish (w.withdraw call.provider call.location call.image) := if_neg hi
    rw [hanswer]
    rcases w.withdraw_cases call with ⟨hx, hw⟩ | ⟨⟨reason, hx⟩, hw⟩
    · simp only [finish, hw, hx]
      rfl
    · simp only [finish, hw, hx]
      rfl
  | probe url =>
    simp only [answer, probe, hi, Bool.false_eq_true, if_false]
    rfl
  | _ => rfl

/-- **The look-ups of a world in memory are truthful.** -/
theorem truthful_answer (h : w.shelves = shelvesAfter P past) (r : Request) :
    Truthful P past r (w.answer r).1 := by
  cases r with
  | lookUp call =>
    by_cases hi : w.timeline.interrupted
    · have hanswer : w.answer (.lookUp call) = (.interrupted, w) := if_pos hi
      rw [hanswer]
      trivial
    · have hanswer : w.answer (.lookUp call) =
        finish (w.lookUp call.provider call.location call.image) := if_neg hi
      rw [hanswer]
      obtain ⟨-, hx⟩ := w.lookUp_cases call
      cases hresult : (w.lookUp call.provider call.location call.image).1 with
      | error e =>
        simp only [finish, hresult]
        trivial
      | ok present =>
        simp only [finish, hresult]
        rw [h] at hx
        exact hx present hresult
  | _ => trivial

end World

/-- What a world holds follows from the run that is performed in it. -/
theorem Performance.conforms_truthful (P : Provider.Registry) :
    Conforms (.truthful P) fun past w => w.shelves = shelvesAfter P past where
  admits r h := World.truthful_answer h r
  answered e r l t h := by
    rw [World.shelves_answer _ e, h]
    rfl
  began _ _ _ h := h
  issued _ _ _ _ h := h
  ended _ _ _ _ h := h
  clock _ h := h
  interrupt h := h

end ImageCatalog
