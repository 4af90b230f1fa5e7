import MyCogni.Base.Outcome

/-! Two computations that agree: both raise the same error, or both return and a relation holds
between what they return. Where a computation also leaves a state, the states are related too. -/

namespace MyCogni
variable {ε σ τ α β γ δ : Type} {R : α → β → Prop} {Q : γ → δ → Prop} {S : σ → τ → Prop}

inductive Agree (R : α → β → Prop) : Except ε α → Except ε β → Prop where
  | ok {a : α} {b : β} : R a b → Agree R (.ok a) (.ok b)
  | error (e : ε) : Agree R (.error e) (.error e)

namespace Agree
variable {x : Except ε α} {y : Except ε β}

theorem refl (x : Except ε α) : Agree (· = ·) x x := by
  cases x with
  | error e => exact .error e
  | ok a => exact .ok rfl

theorem of_eq {x y : Except ε α} (h : x = y) : Agree (· = ·) x y := h ▸ refl x

theorem eq {x y : Except ε α} (h : Agree (· = ·) x y) : x = y := by
  cases h with
  | ok hab => rw [hab]
  | error e => rfl

theorem mono {R' : α → β → Prop} (h : Agree R x y) (hR : ∀ a b, R a b → R' a b) :
    Agree R' x y := by
  cases h with
  | ok hab => exact .ok (hR _ _ hab)
  | error e => exact .error e

theorem bind {f : α → Except ε γ} {g : β → Except ε δ} (h : Agree R x y)
    (hf : ∀ a b, R a b → Agree Q (f a) (g b)) : Agree Q (x >>= f) (y >>= g) := by
  cases h with
  | ok hab => exact hf _ _ hab
  | error e => exact .error e

theorem map {f : α → γ} {g : β → δ} (h : Agree R x y) (hf : ∀ a b, R a b → Q (f a) (g b)) :
    Agree Q (x.map f) (y.map g) := by
  cases h with
  | ok hab => exact .ok (hf _ _ hab)
  | error e => exact .error e

/-- The same check comes first on both sides. -/
theorem seq {check : Except ε γ} {f : γ → Except ε α} {g : γ → Except ε β}
    (h : ∀ c, Agree R (f c) (g c)) : Agree R (check >>= f) (check >>= g) := by
  refine (refl check).bind fun c c' hc => ?_
  subst hc
  exact h c

theorem ensure {c c' : Prop} [Decidable c] [Decidable c'] (hc : c ↔ c') {e : ε}
    {f : Unit → Except ε α} {g : Unit → Except ε β} (h : Agree R (f ()) (g ())) :
    Agree R (MyCogni.ensure c e >>= f) (MyCogni.ensure c' e >>= g) := by
  have hsame : MyCogni.ensure c e = MyCogni.ensure c' e := by
    unfold MyCogni.ensure
    simp only [hc]
  rw [hsame]
  exact seq fun _ => h

end Agree

/-- Outcomes that agree, with states that are related. -/
structure AgreeAfter (R : α → β → Prop) (S : σ → τ → Prop) (p : Except ε α × σ)
    (q : Except ε β × τ) : Prop where
  outcome : Agree R p.1 q.1
  state : S p.2 q.2

namespace AgreeAfter

theorem attempt {s : σ} {t : τ} {x : Except ε α} {y : Except ε β} {k : α → Except ε γ × σ}
    {l : β → Except ε δ × τ} (hs : S s t) (h : Agree R x y)
    (hk : ∀ a b, R a b → AgreeAfter Q S (k a) (l b)) :
    AgreeAfter Q S (MyCogni.attempt s x k) (MyCogni.attempt t y l) := by
  cases h with
  | ok hab => exact hk _ _ hab
  | error e => exact ⟨.error e, hs⟩

theorem mono {R' : α → β → Prop} {S' : σ → τ → Prop} {p : Except ε α × σ} {q : Except ε β × τ}
    (h : AgreeAfter R S p q) (hR : ∀ a b, R a b → R' a b) (hS : ∀ s t, S s t → S' s t) :
    AgreeAfter R' S' p q :=
  ⟨h.outcome.mono hR, hS _ _ h.state⟩

end AgreeAfter

end MyCogni
