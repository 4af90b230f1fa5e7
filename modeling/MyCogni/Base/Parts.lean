import MyCogni.Base.Command

/-! A command on a part of a state: the other part is left alone, and so the conditions on the command
are those on its part. And rules that put conditions on a command together. -/

namespace MyCogni.Command
variable {σ τ ε ε' α : Type}

/-- The command on the first part, whose errors are raised as `f` makes them. -/
def onFirst (f : ε → ε') (c : Command σ ε α) : Command (σ × τ) ε' α := fun p =>
  ((c p.1).1.mapError f, ((c p.1).2, p.2))

def onSecond (f : ε → ε') (c : Command τ ε α) : Command (σ × τ) ε' α := fun p =>
  ((c p.2).1.mapError f, (p.1, (c p.2).2))

variable {f : ε → ε'} {post : α → σ × τ → Prop} {halt : ε' → σ × τ → Prop} {p : σ × τ}

theorem wp_onFirst {c : Command σ ε α} :
    wp (onFirst f c) post halt p ↔
      wp c (fun a s => post a (s, p.2)) (fun e s => halt (f e) (s, p.2)) p.1 := by
  unfold wp onFirst
  rcases c p.1 with ⟨e | a, s⟩ <;> rfl

theorem wp_onSecond {c : Command τ ε α} :
    wp (onSecond f c) post halt p ↔
      wp c (fun a t => post a (p.1, t)) (fun e t => halt (f e) (p.1, t)) p.2 := by
  unfold wp onSecond
  rcases c p.2 with ⟨e | a, t⟩ <;> rfl

theorem wp_self (c : Command σ ε α) (s : σ) :
    wp c (fun a s' => c s = (.ok a, s')) (fun e s' => c s = (.error e, s')) s := by
  unfold wp
  rcases c s with ⟨e | a, s'⟩ <;> rfl

theorem wp_and {c : Command σ ε α} {post post' : α → σ → Prop} {halt halt' : ε → σ → Prop} {s : σ}
    (h : wp c post halt s) (h' : wp c post' halt' s) :
    wp c (fun a s' => post a s' ∧ post' a s') (fun e s' => halt e s' ∧ halt' e s') s := by
  rw [wp_iff] at h h' ⊢
  exact ⟨fun a ha => ⟨h.1 a ha, h'.1 a ha⟩, fun e he => ⟨h.2 e he, h'.2 e he⟩⟩

/-- Conditions that each hold where the command ends hold there together. -/
theorem wp_forall {ι : Type} {q : ι → Prop} {post : ι → α → σ → Prop} {halt : ι → ε → σ → Prop}
    {c : Command σ ε α} {s : σ} (h : ∀ i, q i → wp c (post i) (halt i) s) :
    wp c (fun a s' => ∀ i, q i → post i a s') (fun e s' => ∀ i, q i → halt i e s') s := by
  refine wp_iff.mpr ⟨fun a ha i hi => ?_, fun e he i hi => ?_⟩
  · exact (wp_iff.mp (h i hi)).1 a ha
  · exact (wp_iff.mp (h i hi)).2 e he

/-! ### Relations between the states before and after -/

theorem Respects.handle {r : σ → σ → Prop} (htrans : ∀ a b c, r a b → r b c → r a c)
    {c : Command σ ε α} {handler : ε → Command σ ε α} (hc : Respects r c)
    (hhandler : ∀ e, Respects r (handler e)) : Respects r (handle c handler) := by
  intro s
  have hs : r s (c s).2 := hc s
  unfold Command.handle
  generalize c s = q at hs ⊢
  rcases q with ⟨e | a, s'⟩
  · exact htrans _ _ _ hs (hhandler e s')
  · exact hs

/-- What a command respects holds of the states that it ends in, however it ends. -/
theorem Respects.wp {r : σ → σ → Prop} {c : Command σ ε α} (h : Respects r c) (s : σ) :
    wp c (fun _ s' => r s s') (fun _ s' => r s s') s :=
  wp_iff.mpr ⟨fun _ _ => h s, fun _ _ => h s⟩

/-- A command on the first part leaves the second one alone. -/
theorem respects_onFirst (c : Command σ ε α) :
    Respects (fun p p' : σ × τ => p'.2 = p.2) (onFirst f c) := fun _ => rfl

end MyCogni.Command
