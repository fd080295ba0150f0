import ImageCatalog.Proofs.Run.Contract

/-!
# Results of errands

A contract speaks of the stage at every moment, and not of what an errand brings back. Here a note
about the result is added to a contract that is kept anyway: it is enough to show, errand by errand,
that the program ends in what is to be noted; that it keeps the contract has been shown before.

## Main definitions

* `Noted` — the note holds of the errand that has just ended
* `Contract.noting` — a contract with a note about results

## Main results

* `Role.Meets.and` — what two proofs say of the end of a program holds at once
* `Reachable.noted` — the note holds whenever an errand has ended
-/

namespace ImageCatalog

/-- What is to be noted of the result of an errand, right after its end. -/
abbrev Note :=
  (e : Errand) → Except Failure e.Result → Stage → Prop

/-- If an errand has just ended, the note holds of its result. -/
def Noted (N : Note) (σ : Stage) : Prop :=
  ∀ e x l t past, σ.past = ⟨.ended e x, l, t⟩ :: past → N e x σ

variable {N : Note} {K : Contract} {g : Regime} {s : Service} {e : Errand} {σ : Stage}

/-- There is nothing to note of other deeds. -/
theorem Noted.of_not_ended {d : Deed} (hd : ∀ e x, d ≠ .ended e x) (l : Ledger) (t : Instant) :
    Noted N (σ.after d l t) := by
  intro e x _ _ _ hpast
  exact absurd (congrArg Entry.deed (List.cons.inj hpast).1) (hd e x)

theorem Noted.ended {x : Except Failure e.Result} {l : Ledger} {t : Instant}
    (h : N e x (σ.after (.ended e x) l t)) : Noted N (σ.after (.ended e x) l t) := by
  intro e' x' _ _ _ hpast
  have hdeed : Deed.ended e x = .ended e' x' := congrArg Entry.deed (List.cons.inj hpast).1
  cases hdeed
  exact h

/-- The contract, and the note whenever an errand has ended. -/
def Contract.noting (K : Contract) (N : Note) : Contract where
  idle σ := K.idle σ ∧ Noted N σ
  during e σ := K.during e σ ∧ Noted N σ
  lull σ := K.lull σ ∧ Noted N σ
  may σ σ' := K.may σ σ' ∧ (Noted N σ → Noted N σ')
  may_refl σ := ⟨K.may_refl σ, id⟩
  may_trans h h' := ⟨K.may_trans h.1 h'.1, h'.2 ∘ h.2⟩

namespace Role

variable {α : Type} {R : Role} {p : Program α} {Q Q' : Except Failure α → Stage → Prop}

/-- Two proofs about one program are put together. -/
theorem Meets.and (h : R.Meets p Q σ) (h' : R.Meets p Q' σ) :
    R.Meets p (fun x σ => Q x σ ∧ Q' x σ) σ := by
  induction p generalizing σ with
  | done a => exact ⟨h, h'⟩
  | fail e => exact ⟨h, h'⟩
  | ask r k ih =>
    unfold Meets at h h' ⊢
    split at h
    · rename_i hw
      rw [if_pos hw] at h' ⊢
      refine ⟨h.1, fun t ht => ?_⟩
      obtain ⟨hl, hr⟩ := h.2 t ht
      obtain ⟨-, hr'⟩ := h'.2 t ht
      refine ⟨hl, fun σ' t' x l hm ht' ha hg => ?_⟩
      obtain ⟨hd, hk⟩ := hr σ' t' x l hm ht' ha hg
      obtain ⟨-, hk'⟩ := hr' σ' t' x l hm ht' ha hg
      exact ⟨hd, ih x hk hk'⟩
    · rename_i hw
      rw [if_neg hw] at h' ⊢
      intro t x l ht ha hg
      obtain ⟨hd, hk⟩ := h t x l ht ha hg
      obtain ⟨-, hk'⟩ := h' t x l ht ha hg
      exact ⟨hd, ih x hk hk'⟩

/-- A program ends no errand, so that there is nothing to note until it is through. -/
theorem Meets.noting {visitor : Bool} (h : Meets ⟨K, g, e, visitor⟩ p Q σ) :
    Meets ⟨K.noting N, g, e, visitor⟩ p Q σ := by
  induction p generalizing σ with
  | done a => exact h
  | fail e => exact h
  | ask r k ih =>
    have hanswered : ∀ (σ : Stage) (x : r.Answer) l t,
        Noted N (σ.after (.answered e r x) l t) := fun σ x l t =>
      Noted.of_not_ended (fun _ _ h => by cases h) l t
    unfold Meets at h ⊢
    split at h
    · rename_i hw
      rw [if_pos hw]
      refine ⟨h.1, fun t ht => ?_⟩
      obtain ⟨hl, hr⟩ := h.2 t ht
      refine ⟨⟨hl, Noted.of_not_ended (fun _ _ h => by cases h) _ t⟩, ?_⟩
      intro σ' t' x l hm ht' ha hg
      obtain ⟨hd, hk⟩ := hr σ' t' x l hm.1 ht' ha hg
      exact ⟨⟨hd, hanswered σ' x l t'⟩, ih x hk⟩
    · rename_i hw
      rw [if_neg hw]
      intro t x l ht ha hg
      obtain ⟨hd, hk⟩ := h t x l ht ha hg
      exact ⟨⟨hd, hanswered σ x l t⟩, ih x hk⟩

end Role

/-- What is to be noted of a result, at the end of the program. -/
def Note.AtEnd (N : Note) (e : Errand) (x : Except Failure e.Result) (σ : Stage) : Prop :=
  ∀ t, N e x (σ.after (.ended e x) σ.ledger t)

/-- Every errand and every visitor ends in what is to be noted. -/
structure Contract.Notes (K : Contract) (g : Regime) (s : Service) (N : Note) : Prop where
  errand : ∀ e σ t, g.errands e → K.idle σ → g.tick σ.clock t →
    Role.Meets ⟨K, g, e, false⟩ (e.program s) (N.AtEnd e) (σ.after (.began e) σ.ledger t)
  visitor : ∀ r e σ t, g.visitors r e → K.lull σ → g.tick σ.clock t →
    Role.Meets ⟨K, g, e, true⟩ (e.program s) (N.AtEnd e) (σ.after (.began e) σ.ledger t)

theorem Contract.Holds.noting (h : K.Holds g s) (hN : K.Notes g s N) :
    (K.noting N).Holds g s where
  start t ht := ⟨h.start t ht, fun _ _ _ _ _ hpast => by cases hpast⟩
  errand e σ t he hσ ht := by
    obtain ⟨hduring, hmeets⟩ := h.errand e σ t he hσ.1 ht
    refine ⟨⟨hduring, Noted.of_not_ended (fun _ _ h => by cases h) _ t⟩, ?_⟩
    refine ((hmeets.and (hN.errand e σ t he hσ.1 ht)).noting).mono ?_
    rintro x σ' ⟨hidle, hnote⟩ t' ht'
    exact ⟨hidle t' ht', Noted.ended (hnote t')⟩
  visitor r e σ t hv hσ ht := by
    obtain ⟨hduring, hmeets⟩ := h.visitor r e σ t hv hσ.1 ht
    refine ⟨⟨hduring, Noted.of_not_ended (fun _ _ h => by cases h) _ t⟩, ?_⟩
    refine ((hmeets.and (hN.visitor r e σ t hv hσ.1 ht)).noting).mono ?_
    rintro x σ' ⟨hleave, hnote⟩ t' ht'
    obtain ⟨hlull, hmay⟩ := hleave t' ht'
    exact ⟨⟨hlull, Noted.ended (hnote t')⟩, hmay, fun _ => Noted.ended (hnote t')⟩

/-- **The note holds whenever an errand has ended**, in every run. -/
theorem Reachable.noted {c : Scene} (hc : Reachable s g c) (h : K.Holds g s)
    (hN : K.Notes g s N) : Noted N c.stage := by
  cases hc.keeps (h.noting hN) with
  | idle hi => exact hi.2
  | atWork hd _ => exact hd.2
  | waiting _ hl _ => exact hl.2
  | visited _ hd _ _ => exact hd.2

end ImageCatalog
