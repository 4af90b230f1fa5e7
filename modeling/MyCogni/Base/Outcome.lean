import Mathlib.Data.List.Forall2
import Mathlib.Order.Basic

/-! Fallible steps on a state. The checks of a step run in `Except`; a step pairs the result
with the state it leaves, so a failure keeps whatever was changed before it was raised. -/

namespace MyCogni
variable {ε σ ι ω α β : Type}

theorem bind_eq_ok_iff {x : Except ε α} {f : α → Except ε β} {b : β} :
    (x >>= f) = .ok b ↔ ∃ a, x = .ok a ∧ f a = .ok b := by
  rcases x with e | a <;> simp [bind, Except.bind]

theorem bind_eq_error_iff {x : Except ε α} {f : α → Except ε β} {e : ε} :
    (x >>= f) = .error e ↔ x = .error e ∨ ∃ a, x = .ok a ∧ f a = .error e := by
  rcases x with e' | a <;> simp [bind, Except.bind]

@[simp] theorem pure_eq_ok_iff {a b : α} : (pure a : Except ε α) = .ok b ↔ a = b :=
  Except.ok.injEq a b ▸ Iff.rfl

@[simp] theorem pure_ne_error {a : α} {e : ε} : (pure a : Except ε α) ≠ .error e :=
  fun h => nomatch h

theorem exists_ok_of_isOk {x : Except ε α} (h : x.isOk = true) : ∃ a, x = .ok a := by
  cases x with
  | error e => exact nomatch h
  | ok a => exact ⟨a, rfl⟩

theorem mapM_eq_ok_iff {f : α → Except ε β} {l : List α} {bs : List β} :
    l.mapM f = .ok bs ↔ List.Forall₂ (fun a b => f a = .ok b) l bs := by
  induction l generalizing bs with
  | nil =>
    rw [List.mapM_nil, pure_eq_ok_iff, List.forall₂_nil_left_iff]
    exact eq_comm
  | cons a l ih =>
    simp only [List.mapM_cons, bind_eq_ok_iff, pure_eq_ok_iff, ih, List.forall₂_cons_left_iff]
    constructor
    · rintro ⟨b, hb, bs', hbs, rfl⟩
      exact ⟨b, bs', hb, hbs, rfl⟩
    · rintro ⟨b, bs', hb, hbs, rfl⟩
      exact ⟨b, hb, bs', hbs, rfl⟩

theorem mapM_mem {f : α → Except ε β} {l : List α} {bs : List β} (h : l.mapM f = .ok bs) {a : α}
    (ha : a ∈ l) : ∃ b ∈ bs, f a = .ok b := by
  have hall := mapM_eq_ok_iff.mp h
  clear h
  induction hall with
  | nil => exact nomatch ha
  | @cons a' b _ bs hab _ ih =>
    rcases List.mem_cons.mp ha with rfl | ha
    · exact ⟨b, List.mem_cons_self, hab⟩
    · obtain ⟨b', hb', hf⟩ := ih ha
      exact ⟨b', List.mem_cons_of_mem _ hb', hf⟩

theorem exists_mapM_ok {f : α → Except ε β} {l : List α} (h : ∀ a ∈ l, ∃ b, f a = .ok b) :
    ∃ bs, l.mapM f = .ok bs := by
  induction l with
  | nil => exact ⟨[], rfl⟩
  | cons a l ih =>
    obtain ⟨⟨b, hb⟩, h⟩ := List.forall_mem_cons.mp h
    obtain ⟨bs, hbs⟩ := ih h
    exact ⟨b :: bs, mapM_eq_ok_iff.mpr (.cons hb (mapM_eq_ok_iff.mp hbs))⟩

/-- Raise `e` unless the condition holds. -/
def ensure (c : Prop) [Decidable c] (e : ε) : Except ε Unit := if c then .ok () else .error e

@[simp] theorem ensure_eq_ok {c : Prop} [Decidable c] {e : ε} {u : Unit} :
    ensure c e = .ok u ↔ c := by
  unfold ensure
  split_ifs with h <;> simp [h]

@[simp] theorem ensure_eq_error {c : Prop} [Decidable c] {e e' : ε} :
    ensure c e = .error e' ↔ ¬c ∧ e = e' := by
  unfold ensure
  split_ifs with h <;> simp [h]

theorem ok_bind (a : α) (f : α → Except ε β) : ((.ok a : Except ε α) >>= f) = f a := rfl

theorem ensure_ok {c : Prop} [Decidable c] (h : c) (e : ε) : ensure c e = .ok () := if_pos h

theorem ensure_bind {c : Prop} [Decidable c] (h : c) (e : ε) (f : Unit → Except ε β) :
    (ensure c e >>= f) = f () := by
  rw [ensure_ok h, ok_bind]

/-- Continue with the value of a check that changes nothing, or fail and keep the state. -/
def attempt (s : σ) (x : Except ε α) (k : α → Except ε β × σ) : Except ε β × σ :=
  match x with
  | .error e => (.error e, s)
  | .ok a => k a

theorem attempt_cases {s : σ} {x : Except ε α} {k : α → Except ε β × σ} {p : Except ε β × σ}
    (h : attempt s x k = p) :
    (∃ e, x = .error e ∧ p = (.error e, s)) ∨ ∃ a, x = .ok a ∧ k a = p := by
  cases x with
  | error e => exact Or.inl ⟨e, rfl, h.symm⟩
  | ok a => exact Or.inr ⟨a, rfl, h⟩

@[simp] theorem attempt_ok (s : σ) (a : α) (k : α → Except ε β × σ) : attempt s (.ok a) k = k a :=
  rfl

theorem attempt_pure (s : σ) (a : α) (k : α → Except ε β × σ) : attempt s (pure a) k = k a := rfl

/-- Two splits of a list at different places: one element comes before the other. -/
theorem split_cases {pre pre' post post' : List α} {a a' : α}
    (h : pre ++ a :: post = pre' ++ a' :: post') :
    pre = pre' ∨ (∃ mid, pre' = pre ++ a :: mid ∧ post = mid ++ a' :: post') ∨
      ∃ mid, pre = pre' ++ a' :: mid ∧ post' = mid ++ a :: post := by
  rcases List.append_eq_append_iff.mp h with ⟨l, rfl, hl⟩ | ⟨l, rfl, hl⟩
  · cases l with
    | nil => exact Or.inl (by simp)
    | cons b l =>
      obtain ⟨rfl, hrest⟩ := List.cons.inj hl
      exact Or.inr (Or.inl ⟨l, rfl, hrest⟩)
  · cases l with
    | nil => exact Or.inl (by simp)
    | cons b l =>
      obtain ⟨rfl, hrest⟩ := List.cons.inj hl
      exact Or.inr (Or.inr ⟨l, rfl, hrest⟩)

/-! ### Runs of a machine -/

section Machine
variable (step : σ → ι → ω × σ)

def run (s : σ) (is : List ι) : σ := is.foldl (fun s i => (step s i).2) s

@[simp] theorem run_nil (s : σ) : run step s [] = s := rfl

@[simp] theorem run_cons (s : σ) (i : ι) (is : List ι) :
    run step s (i :: is) = run step (step s i).2 is := rfl

theorem run_append (s : σ) (is js : List ι) :
    run step s (is ++ js) = run step (run step s is) js := List.foldl_append ..

variable {step}

/-- What every step preserves, every run preserves. -/
theorem run_invariant {inv : σ → Prop} (hstep : ∀ s i, inv s → inv (step s i).2) (is : List ι)
    {s : σ} (hs : inv s) : inv (run step s is) := by
  induction is generalizing s with
  | nil => exact hs
  | cons i is ih => exact ih (hstep s i hs)

/-- A reflexive and transitive relation between the states around each step relates the states
around each run, given an invariant under which the steps are taken. -/
theorem run_relation {v : σ → Prop} {r : σ → σ → Prop} (hrefl : ∀ s, r s s)
    (htrans : ∀ a b c, r a b → r b c → r a c)
    (hstep : ∀ s i, v s → v (step s i).2 ∧ r s (step s i).2) (is : List ι) {s : σ}
    (hs : v s) : r s (run step s is) := by
  induction is generalizing s with
  | nil => exact hrefl s
  | cons i is ih => exact htrans _ _ _ (hstep s i hs).2 (ih (hstep s i hs).1)

/-- What every step preserves unless it is a step of a second kind holds at the end of a run,
or the run has a step of that kind. -/
theorem run_until {v p : σ → Prop} {q : σ → ι → Prop} (hv : ∀ s i, v s → v (step s i).2)
    (hstep : ∀ s i, v s → p s → p (step s i).2 ∨ q s i) (is : List ι) {s : σ} (hs : v s)
    (hp : p s) :
    p (run step s is) ∨
      ∃ is₁ i is₂, is = is₁ ++ i :: is₂ ∧ p (run step s is₁) ∧ q (run step s is₁) i := by
  induction is generalizing s with
  | nil => exact Or.inl hp
  | cons i is ih =>
    rcases hstep s i hs hp with hnext | hq
    · rcases ih (hv s i hs) hnext with h | ⟨is₁, j, is₂, rfl, h, hj⟩
      · exact Or.inl h
      · exact Or.inr ⟨i :: is₁, j, is₂, rfl, h, hj⟩
    · exact Or.inr ⟨[], i, is, rfl, hp, hq⟩

variable (step) in
/-- No step of the run is of the given kind. -/
def Never (q : σ → ι → Prop) (s : σ) (is : List ι) : Prop :=
  ∀ is₁ i is₂, is = is₁ ++ i :: is₂ → ¬q (run step s is₁) i

theorem never_nil (q : σ → ι → Prop) (s : σ) : Never step q s [] :=
  fun _ _ _ h => absurd h (by simp)

theorem never_cons {q : σ → ι → Prop} {s : σ} {i : ι} {is : List ι} :
    Never step q s (i :: is) ↔ ¬q s i ∧ Never step q (step s i).2 is := by
  constructor
  · intro h
    exact ⟨h [] i is rfl, fun is₁ j is₂ hsplit => h (i :: is₁) j is₂ (by rw [hsplit]; rfl)⟩
  · rintro ⟨hfirst, h⟩ is₁ j is₂ hsplit
    cases is₁ with
    | nil =>
      obtain ⟨rfl, -⟩ := List.cons.inj hsplit
      exact hfirst
    | cons k is₁ =>
      obtain ⟨rfl, hrest⟩ := List.cons.inj hsplit
      exact h is₁ j is₂ hrest

instance decidableNever {q : σ → ι → Prop} [∀ s i, Decidable (q s i)] :
    (is : List ι) → (s : σ) → Decidable (Never step q s is)
  | [], s => isTrue (never_nil q s)
  | i :: is, s =>
    have := decidableNever (q := q) is (step s i).2
    decidable_of_iff _ never_cons.symm

/-- What every step but those of a second kind preserves, runs without such steps preserve. -/
theorem run_of_never {v p : σ → Prop} {q : σ → ι → Prop} (hv : ∀ s i, v s → v (step s i).2)
    (hstep : ∀ s i, v s → p s → p (step s i).2 ∨ q s i) {is : List ι} {s : σ} (hs : v s)
    (hp : p s) (hnever : Never step q s is) : p (run step s is) := by
  rcases run_until hv hstep is hs hp with h | ⟨is₁, i, is₂, hsplit, -, hq⟩
  · exact h
  · exact absurd hq (hnever is₁ i is₂ hsplit)

end Machine
end MyCogni
