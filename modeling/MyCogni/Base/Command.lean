import MyCogni.Base.Outcome

/-! Commands: programs that read and change a state and end with a value or stop early, keeping
the changes made so far; and the rules of pre- and postconditions for them. -/

namespace MyCogni

def Command (σ ε α : Type) : Type := σ → Except ε α × σ

namespace Command
variable {σ ε α β : Type}

instance : Monad (Command σ ε) where
  pure a := fun s => (.ok a, s)
  bind c f := fun s =>
    match c s with
    | (.ok a, s') => f a s'
    | (.error e, s') => (.error e, s')

def read : Command σ ε σ := fun s => (.ok s, s)

def write (f : σ → σ) : Command σ ε Unit := fun s => (.ok (), f s)

def stop (e : ε) : Command σ ε α := fun s => (.error e, s)

/-- Stop with `e` unless the condition holds. -/
def require (c : Prop) [Decidable c] (e : ε) : Command σ ε Unit := if c then pure () else stop e

/-- The value that is there, or stop with `e`. -/
def demand (o : Option α) (e : ε) : Command σ ε α :=
  match o with
  | some a => pure a
  | none => stop e

/-- `try: c except e: handler e` -/
def handle (c : Command σ ε α) (handler : ε → Command σ ε α) : Command σ ε α := fun s =>
  match c s with
  | (.ok a, s') => (.ok a, s')
  | (.error e, s') => handler e s'

/-- `try: c finally: last` -/
def lastly (c : Command σ ε α) (last : Command σ ε Unit) : Command σ ε α := fun s =>
  match c s with
  | (r, s') =>
    match last s' with
    | (.ok _, s'') => (r, s'')
    | (.error e, s'') => (.error e, s'')

/-! ### Running a command step by step -/

theorem bind_ok {c : Command σ ε β} {s s' : σ} {b : β} (h : c s = (.ok b, s'))
    (f : β → Command σ ε α) : (c >>= f) s = f b s' := by
  simp only [bind, h]

theorem bind_error {c : Command σ ε β} {s s' : σ} {e : ε} (h : c s = (.error e, s'))
    (f : β → Command σ ε α) : (c >>= f) s = (.error e, s') := by
  simp only [bind, h]

/-- A command that returns a value has parts that do. -/
theorem bind_eq_ok {c : Command σ ε β} {f : β → Command σ ε α} {s s'' : σ} {a : α}
    (h : (c >>= f) s = (.ok a, s'')) : ∃ b s', c s = (.ok b, s') ∧ f b s' = (.ok a, s'') := by
  rcases hc : c s with ⟨e | b, s'⟩
  · rw [bind_error hc] at h
    exact nomatch h
  · rw [bind_ok hc] at h
    exact ⟨b, s', rfl, h⟩

theorem require_eq_ok {c : Prop} [Decidable c] {e : ε} {s s' : σ} {u : Unit}
    (h : require c e s = (.ok u, s')) : c ∧ s' = s := by
  unfold require at h
  split_ifs at h with hc
  · cases h
    exact ⟨hc, rfl⟩
  · exact nomatch h

theorem demand_eq_ok {o : Option α} {e : ε} {s s' : σ} {a : α} (h : demand o e s = (.ok a, s')) :
    o = some a ∧ s' = s := by
  cases o with
  | none => exact nomatch h
  | some b =>
    cases h
    exact ⟨rfl, rfl⟩

theorem require_pos {c : Prop} [Decidable c] (h : c) (e : ε) (s : σ) :
    require c e s = (.ok (), s) := by
  rw [require, if_pos h]
  rfl

theorem require_neg {c : Prop} [Decidable c] (h : ¬c) (e : ε) (s : σ) :
    require c e s = (.error e, s) := by
  rw [require, if_neg h]
  rfl

theorem demand_some {o : Option α} {a : α} (h : o = some a) (e : ε) (s : σ) :
    demand o e s = (.ok a, s) := by
  rw [h]
  rfl

/-- Run from `s`, the command ends in `post` with a value, or stops in `halt`. -/
def wp (c : Command σ ε α) (post : α → σ → Prop) (halt : ε → σ → Prop) (s : σ) : Prop :=
  match c s with
  | (.ok a, s') => post a s'
  | (.error e, s') => halt e s'

variable {post : α → σ → Prop} {halt : ε → σ → Prop} {s : σ}

theorem wp_iff {c : Command σ ε α} :
    wp c post halt s ↔
      (∀ a, (c s).1 = .ok a → post a (c s).2) ∧ ∀ e, (c s).1 = .error e → halt e (c s).2 := by
  unfold wp
  rcases c s with ⟨e | a, s'⟩ <;> simp

theorem wp_mono {c : Command σ ε α} {post' : α → σ → Prop} {halt' : ε → σ → Prop}
    (h : wp c post halt s) (hpost : ∀ a s', post a s' → post' a s')
    (hhalt : ∀ e s', halt e s' → halt' e s') : wp c post' halt' s := by
  rw [wp_iff] at h ⊢
  exact ⟨fun a ha => hpost a _ (h.1 a ha), fun e he => hhalt e _ (h.2 e he)⟩

theorem wp_true (c : Command σ ε α) : wp c (fun _ _ => True) (fun _ _ => True) s :=
  wp_iff.mpr ⟨fun _ _ => True.intro, fun _ _ => True.intro⟩

/-! ### Rules, as equations between conditions on the state -/

@[simp] theorem wp_pure (a : α) : wp (pure a : Command σ ε α) post halt = post a := rfl

@[simp] theorem wp_bind (c : Command σ ε β) (f : β → Command σ ε α) :
    wp (c >>= f) post halt = wp c (fun b => wp (f b) post halt) halt := by
  funext s
  unfold wp
  simp only [bind]
  rcases c s with ⟨e | b, s'⟩ <;> rfl

@[simp] theorem wp_read {post : σ → σ → Prop} :
    wp (read : Command σ ε σ) post halt = fun s => post s s := rfl

@[simp] theorem wp_write {post : Unit → σ → Prop} (f : σ → σ) :
    wp (write f : Command σ ε Unit) post halt = fun s => post () (f s) := rfl

@[simp] theorem wp_stop (e : ε) : wp (stop e : Command σ ε α) post halt = halt e := rfl

@[simp] theorem wp_require {post : Unit → σ → Prop} (c : Prop) [Decidable c] (e : ε) :
    wp (require c e : Command σ ε Unit) post halt =
      fun s => (c → post () s) ∧ (¬c → halt e s) := by
  funext s
  unfold require
  by_cases h : c <;> simp [h]

@[simp] theorem wp_demand (o : Option α) (e : ε) :
    wp (demand o e : Command σ ε α) post halt =
      fun s => (∀ a, o = some a → post a s) ∧ (o = none → halt e s) := by
  funext s
  cases o <;> simp [demand]

@[simp] theorem wp_handle (c : Command σ ε α) (handler : ε → Command σ ε α) :
    wp (handle c handler) post halt = wp c post fun e => wp (handler e) post halt := by
  funext s
  unfold wp handle
  rcases c s with ⟨e | a, s'⟩ <;> rfl

@[simp] theorem wp_lastly (c : Command σ ε α) (last : Command σ ε Unit) :
    wp (lastly c last) post halt = wp c (fun a => wp last (fun _ => post a) halt)
      fun e => wp last (fun _ => halt e) halt := by
  funext s
  unfold wp lastly
  rcases c s with ⟨e | a, s'⟩ <;> dsimp only <;> rcases last s' with ⟨e' | u, s''⟩ <;> rfl

@[simp] theorem wp_ite {c : Prop} [Decidable c] (x y : Command σ ε α) :
    wp (if c then x else y) post halt =
      fun s => (c → wp x post halt s) ∧ (¬c → wp y post halt s) := by
  funext s
  by_cases h : c <;> simp [h]

/-! ### Rules, from what is known of the first part -/

section Parts
variable {known : β → σ → Prop} {stopped : ε → σ → Prop}

theorem wp_seq {c : Command σ ε β} {f : β → Command σ ε α} (hc : wp c known stopped s)
    (hpost : ∀ b s', known b s' → wp (f b) post halt s') (hhalt : ∀ e s', stopped e s' → halt e s') :
    wp (c >>= f) post halt s := by
  rw [wp_bind]
  exact wp_mono hc hpost hhalt

theorem wp_try {known : α → σ → Prop} {c : Command σ ε α} {handler : ε → Command σ ε α}
    (hc : wp c known stopped s) (hpost : ∀ a s', known a s' → post a s')
    (hhandler : ∀ e s', stopped e s' → wp (handler e) post halt s') :
    wp (handle c handler) post halt s := by
  rw [wp_handle]
  exact wp_mono hc hpost hhandler

theorem wp_last {known : α → σ → Prop} {c : Command σ ε α} {last : Command σ ε Unit}
    (hc : wp c known stopped s) (hpost : ∀ a s', known a s' → wp last (fun _ => post a) halt s')
    (hhalt : ∀ e s', stopped e s' → wp last (fun _ => halt e) halt s') :
    wp (lastly c last) post halt s := by
  rw [wp_lastly]
  exact wp_mono hc hpost hhalt

theorem wp_reading {f : σ → Command σ ε α} (h : wp (f s) post halt s) :
    wp (read >>= f) post halt s := by
  rw [wp_bind]
  exact h

theorem wp_writing {g : σ → σ} {f : Unit → Command σ ε α} (h : wp (f ()) post halt (g s)) :
    wp (write g >>= f) post halt s := by
  rw [wp_bind]
  exact h

end Parts

/-- The state that a command leaves, by the state that its first part leaves. -/
theorem bind_state {c : Command σ ε β} {f : β → Command σ ε α} {p : σ → Prop}
    (h : wp c (fun b s' => p (f b s').2) (fun _ => p) s) : p ((c >>= f) s).2 := by
  unfold wp at h
  simp only [Bind.bind]
  generalize c s = q at h ⊢
  rcases q with ⟨e | b, s'⟩ <;> exact h

/-! ### Relations between the states before and after -/

/-- However the command ends, the state it leaves is related to the one it started from. -/
def Respects (r : σ → σ → Prop) (c : Command σ ε α) : Prop := ∀ s, r s (c s).2

section Respects
variable {r : σ → σ → Prop}

theorem Respects.bind (htrans : ∀ a b c, r a b → r b c → r a c) {c : Command σ ε β}
    {f : β → Command σ ε α} (hc : Respects r c) (hf : ∀ b, Respects r (f b)) :
    Respects r (c >>= f) := by
  intro s
  have hs : r s (c s).2 := hc s
  simp only [Bind.bind]
  generalize c s = p at hs ⊢
  rcases p with ⟨e | b, s'⟩
  · exact hs
  · exact htrans _ _ _ hs (hf b s')

theorem respects_of_wp {c : Command σ ε α}
    (h : ∀ s, wp c (fun _ s' => r s s') (fun _ s' => r s s') s) : Respects r c := by
  intro s
  obtain ⟨hpost, hhalt⟩ := wp_iff.mp (h s)
  rcases hc : (c s).1 with e | a
  · exact hhalt e hc
  · exact hpost a hc

theorem respects_write {f : σ → σ} (h : ∀ s, r s (f s)) :
    Respects r (write f : Command σ ε Unit) := h

variable (hrefl : ∀ s, r s s)
include hrefl

theorem respects_pure (a : α) : Respects r (pure a : Command σ ε α) := hrefl

theorem respects_read : Respects r (read : Command σ ε σ) := hrefl

theorem respects_stop (e : ε) : Respects r (stop e : Command σ ε α) := hrefl

theorem respects_require (c : Prop) [Decidable c] (e : ε) :
    Respects r (require c e : Command σ ε Unit) := by
  intro s
  unfold require
  split_ifs <;> exact hrefl s

theorem respects_demand (o : Option α) (e : ε) : Respects r (demand o e : Command σ ε α) := by
  intro s
  cases o <;> exact hrefl s

end Respects

end Command
end MyCogni
