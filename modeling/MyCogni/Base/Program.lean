import MyCogni.Base.Outcome

/-! Programs that make calls into a world they share: one call is one step of the world, and between
two calls of a program the world moves as others move it. What is known of the world between two
calls is what the moves of all keep. -/

namespace MyCogni

/-- A program that has ended, or the call it makes next with what it does on each reply. -/
inductive Program (ω : Type) (ρ : ω → Type) (α : Type) where
  | done (a : α)
  | call (o : ω) (next : ρ o → Program ω ρ α)

namespace Program

variable {ω : Type} {ρ : ω → Type} {α β : Type}

def bind : Program ω ρ α → (α → Program ω ρ β) → Program ω ρ β
  | .done a, f => f a
  | .call o next, f => .call o fun r => (next r).bind f

instance : Monad (Program ω ρ) where
  pure := .done
  bind := bind

/-- The program that makes one call. -/
def lift (o : ω) : Program ω ρ (ρ o) := .call o .done

theorem pure_eq (a : α) : (pure a : Program ω ρ α) = .done a := rfl

theorem done_bind (a : α) (f : α → Program ω ρ β) : (Program.done a >>= f) = f a := rfl

theorem call_bind (o : ω) (next : ρ o → Program ω ρ α) (f : α → Program ω ρ β) :
    (Program.call o next >>= f) = .call o fun r => next r >>= f := rfl

theorem lift_bind (o : ω) (f : ρ o → Program ω ρ β) : (lift o >>= f) = .call o f := rfl

section Worlds
variable {σ φ : Type} (exec : (o : ω) → φ → σ → ρ o × σ)

/-- The program alone in the world, where each call has its fate. -/
def alone : Program ω ρ α → (Nat → ω → φ) → σ → α × σ
  | .done a, _, s => (a, s)
  | .call o next, fates, s =>
    let (r, s') := exec o (fates 0 o) s
    (next r).alone (fun n => fates (n + 1)) s'

/-- What is expected of programs in one world: the moves of others between two calls, the moves of a
call, what is true of the world at all times, what has to be true at a call, and the fates that a
call can have. -/
structure Discipline (ω φ σ : Type) where
  rely : σ → σ → Prop
  guarantee : σ → σ → Prop
  inv : σ → Prop
  requires : ω → σ → Prop
  allowed : ω → φ → σ → Prop
  refl : ∀ s, rely s s
  trans : ∀ a b c, rely a b → rely b c → rely a c

variable (D : Discipline ω φ σ)

/-- In every world that others can make of this one, the calls of the program are moves as they should
be, and in the end its result is as it should be. -/
def Holds : Program ω ρ α → (α → σ → Prop) → σ → Prop
  | .done a, post, s => post a s
  | .call o next, post, s => ∀ s', D.rely s s' → D.inv s' → D.requires o s' ∧
      ∀ f, D.allowed o f s' → (D.guarantee s' (exec o f s').2 ∧ D.inv (exec o f s').2) ∧
        (next (exec o f s').1).Holds post (exec o f s').2

variable {exec D} {post post' : α → σ → Prop} {s : σ}

theorem Holds.mono {p : Program ω ρ α} (h : p.Holds exec D post s)
    (hpost : ∀ a s, post a s → post' a s) : p.Holds exec D post' s := by
  induction p generalizing s with
  | done a => exact hpost a s h
  | call o next ih =>
    intro s' hrely hinv
    obtain ⟨hrequires, hcall⟩ := h s' hrely hinv
    refine ⟨hrequires, fun f hallowed => ?_⟩
    obtain ⟨hmove, hnext⟩ := hcall f hallowed
    exact ⟨hmove, ih _ hnext⟩

theorem Holds.bind {p : Program ω ρ α} {f : α → Program ω ρ β} {post : β → σ → Prop}
    (h : p.Holds exec D (fun a s => (f a).Holds exec D post s) s) :
    (p >>= f).Holds exec D post s := by
  induction p generalizing s with
  | done a => exact h
  | call o next ih =>
    intro s' hrely hinv
    obtain ⟨hrequires, hcall⟩ := h s' hrely hinv
    refine ⟨hrequires, fun g hallowed => ?_⟩
    obtain ⟨hmove, hnext⟩ := hcall g hallowed
    exact ⟨hmove, ih _ hnext⟩

/-- What holds in a world still holds when others have moved it. -/
theorem Holds.moved (hstable : ∀ a s s', D.rely s s' → D.inv s' → post a s → post a s')
    {p : Program ω ρ α} {s' : σ} (hrely : D.rely s s') (hinv : D.inv s')
    (h : p.Holds exec D post s) : p.Holds exec D post s' := by
  cases p with
  | done a => exact hstable a s s' hrely hinv h
  | call o next => exact fun s'' hrely' => h s'' (D.trans _ _ _ hrely hrely')

/-- A program that is alone ends as it should. -/
theorem Holds.alone {p : Program ω ρ α} {fates : Nat → ω → φ}
    (hfates : ∀ n o s, D.allowed o (fates n o) s) (hinv : D.inv s) (h : p.Holds exec D post s) :
    post (p.alone exec fates s).1 (p.alone exec fates s).2 := by
  induction p generalizing s fates with
  | done a => exact h
  | call o next ih =>
    obtain ⟨-, hcall⟩ := h s (D.refl s) hinv
    obtain ⟨⟨-, hinv'⟩, hnext⟩ := hcall (fates 0 o) (hfates 0 o s)
    exact ih _ (fun n => hfates (n + 1)) hinv' hnext

end Worlds

end Program

/-! ### Many programs in one world -/

/-- A program that was started: it makes a call next, it has ended, or it has died. -/
inductive Running (ω : Type) (ρ : ω → Type) (α : Type) where
  | calling (o : ω) (next : ρ o → Program ω ρ α)
  | ended (a : α)
  | dead

namespace Program

variable {ω : Type} {ρ : ω → Type} {α : Type}

def started : Program ω ρ α → Running ω ρ α
  | .done a => .ended a
  | .call o next => .calling o next

end Program

/-- The program makes a call next. -/
def Running.active {ω : Type} {ρ : ω → Type} {α : Type} : Running ω ρ α → Bool
  | .calling _ _ => true
  | _ => false

/-- The world with all programs that were started in it. -/
structure Pool (ω : Type) (ρ : ω → Type) (α σ : Type) where
  world : σ
  programs : List (Running ω ρ α) := []

/-- A program starts, one makes its call, which has a fate, or one dies. -/
inductive Turn (ι φ : Type) where
  | start (i : ι)
  | act (n : Nat) (fate : φ)
  | die (n : Nat)

/-- An element of a list with one more element. -/
theorem getElem?_append_cases {α : Type} {l : List α} {a b : α} {m : Nat}
    (h : (l ++ [a])[m]? = some b) : l[m]? = some b ∨ m = l.length ∧ b = a := by
  rw [List.getElem?_append] at h
  split_ifs at h with hm
  · exact Or.inl h
  · rw [List.getElem?_singleton] at h
    split_ifs at h with hzero
    exact Or.inr ⟨by omega, (Option.some.inj h).symm⟩

namespace Pool

variable {ω : Type} {ρ : ω → Type} {α ι σ φ : Type} (exec : (o : ω) → φ → σ → ρ o × σ)
  (program : ι → Nat → Program ω ρ α)

def step (s : Pool ω ρ α σ) : Turn ι φ → Unit × Pool ω ρ α σ
  | .start i => ((), { s with programs := s.programs ++ [(program i s.programs.length).started] })
  | .act n fate =>
    match s.programs[n]? with
    | some (.calling o next) =>
      let (r, world) := exec o fate s.world
      ((), ⟨world, s.programs.set n (next r).started⟩)
    | _ => ((), s)
  | .die n =>
    match s.programs[n]? with
    | some (.calling _ _) => ((), { s with programs := s.programs.set n .dead })
    | _ => ((), s)

/-- The turn is a call whose fate is not among those allowed. -/
def Breaks (D : Nat → Program.Discipline ω φ σ) (s : Pool ω ρ α σ) : Turn ι φ → Prop
  | .act n fate => ∃ o next, s.programs[n]? = some (.calling o next) ∧ ¬(D n).allowed o fate s.world
  | _ => False

/-- The call that the program of this number makes next. -/
def next (s : Pool ω ρ α σ) (n : Nat) : Option ω :=
  match s.programs[n]? with
  | some (.calling o _) => some o
  | _ => none

/-- Nothing runs. -/
def Quiet (s : Pool ω ρ α σ) : Prop := ∀ p ∈ s.programs, p.active = false

instance (s : Pool ω ρ α σ) : Decidable s.Quiet :=
  inferInstanceAs (Decidable (∀ p ∈ s.programs, p.active = false))

/-- What a turn does. -/
theorem step_cases (s : Pool ω ρ α σ) (t : Turn ι φ) :
    (∃ i, t = .start i ∧ (step exec program s t).2 =
      { s with programs := s.programs ++ [(program i s.programs.length).started] }) ∨
    (∃ n fate o next, t = .act n fate ∧ s.programs[n]? = some (.calling o next) ∧
      (step exec program s t).2 = ⟨(exec o fate s.world).2,
        s.programs.set n (next (exec o fate s.world).1).started⟩) ∨
    (∃ n o next, t = .die n ∧ s.programs[n]? = some (.calling o next) ∧
      (step exec program s t).2 = { s with programs := s.programs.set n .dead }) ∨
    (step exec program s t).2 = s := by
  cases t with
  | start i => exact Or.inl ⟨i, rfl, rfl⟩
  | act n fate =>
    refine Or.inr ?_
    simp only [step]
    split
    · next o next hn => exact Or.inl ⟨n, fate, o, next, rfl, hn, rfl⟩
    · exact Or.inr (Or.inr rfl)
  | die n =>
    refine Or.inr (Or.inr ?_)
    simp only [step]
    split
    · next o next hn => exact Or.inl ⟨n, o, next, rfl, hn, rfl⟩
    · exact Or.inr rfl

variable (D : Nat → Program.Discipline ω φ σ) (post : Nat → α → σ → Prop)

/-- The program of this number is as it should be in this world. -/
def Sound (n : Nat) (s : σ) : Running ω ρ α → Prop
  | .calling o next => (Program.call o next).Holds exec (D n) (post n) s
  | .ended a => post n a s
  | .dead => True

/-- The world is as it should be, and so is each program in it. -/
def AllSound (s : Pool ω ρ α σ) : Prop :=
  (∀ n, (D n).inv s.world) ∧ ∀ n p, s.programs[n]? = some p → Sound exec D post n s.world p

/-- What one program may do to the world is what all others can rely on, and results stay as they
should be. -/
structure Agree (D : Nat → Program.Discipline ω φ σ) (post : Nat → α → σ → Prop) : Prop where
  shared : ∀ m n s, (D m).inv s → (D n).inv s
  safe : ∀ m n s s', m ≠ n → (D m).guarantee s s' → (D n).rely s s'
  stable : ∀ n a s s', (D n).rely s s' → (D n).inv s' → post n a s → post n a s'

variable {exec program D post}

theorem sound_started {n : Nat} {p : Program ω ρ α} {s : σ} (h : p.Holds exec (D n) (post n) s) :
    Sound exec D post n s p.started := by
  cases p with
  | done a => exact h
  | call o next => exact h

theorem Sound.moved (hagree : Agree D post) {n : Nat} {s s' : σ} {p : Running ω ρ α}
    (hrely : (D n).rely s s') (hinv : (D n).inv s') (h : Sound exec D post n s p) :
    Sound exec D post n s' p := by
  cases p with
  | calling o next => exact Program.Holds.moved (hagree.stable n) hrely hinv h
  | ended a => exact hagree.stable n a s s' hrely hinv h
  | dead => trivial

theorem AllSound.requires {s : Pool ω ρ α σ} (h : AllSound exec D post s) {n : Nat} {o : ω}
    {next : ρ o → Program ω ρ α} (hn : s.programs[n]? = some (.calling o next)) :
    (D n).requires o s.world :=
  (h.2 n _ hn s.world ((D n).refl _) (h.1 n)).1

theorem AllSound.move {s : Pool ω ρ α σ} (h : AllSound exec D post s) {n : Nat} {o : ω}
    {next : ρ o → Program ω ρ α} (hn : s.programs[n]? = some (.calling o next)) {fate : φ}
    (hfate : (D n).allowed o fate s.world) :
    (D n).guarantee s.world (exec o fate s.world).2 ∧ (D n).inv (exec o fate s.world).2 :=
  ((h.2 n _ hn s.world ((D n).refl _) (h.1 n)).2 fate hfate).1

/-- Programs that hold each for itself hold together, whoever has the turn. -/
theorem AllSound.step (hagree : Agree D post) {s : Pool ω ρ α σ} (t : Turn ι φ)
    (hstart : ∀ i, t = .start i → (program i s.programs.length).Holds exec (D s.programs.length)
      (post s.programs.length) s.world) (h : AllSound exec D post s) :
    AllSound exec D post (Pool.step exec program s t).2 ∨ Breaks D s t := by
  obtain ⟨hinv, hsound⟩ := h
  rcases step_cases exec program s t with ⟨i, ht, hs⟩ | ⟨n, fate, o, next, rfl, hn, hs⟩ |
    ⟨n, o, next, -, hn, hs⟩ | hs
  · left
    rw [hs]
    refine ⟨hinv, fun m p hp => ?_⟩
    rcases getElem?_append_cases hp with hp | ⟨rfl, rfl⟩
    · exact hsound m p hp
    · exact sound_started (hstart i ht)
  · by_cases hallowed : (D n).allowed o fate s.world
    · left
      have hcall := (hsound n _ hn s.world ((D n).refl _) (hinv n)).2
      obtain ⟨⟨hmove, hinv'⟩, hnext⟩ := hcall fate hallowed
      rw [hs]
      refine ⟨fun m => hagree.shared n m _ hinv', fun m p hp => ?_⟩
      -- the program that acted goes on from here; all others rely on its move
      by_cases hm : m = n
      · subst hm
        rw [List.getElem?_set_self (List.getElem?_eq_some_iff.mp hn).1] at hp
        obtain rfl := Option.some.inj hp
        exact sound_started hnext
      · rw [List.getElem?_set_ne (Ne.symm hm)] at hp
        exact (hsound m p hp).moved hagree (hagree.safe n m _ _ (Ne.symm hm) hmove)
          (hagree.shared n m _ hinv')
    · exact Or.inr ⟨o, next, hn, hallowed⟩
  · left
    rw [hs]
    refine ⟨hinv, fun m p hp => ?_⟩
    by_cases hm : m = n
    · subst hm
      rw [List.getElem?_set_self (List.getElem?_eq_some_iff.mp hn).1] at hp
      obtain rfl := Option.some.inj hp
      trivial
    · rw [List.getElem?_set_ne (Ne.symm hm)] at hp
      exact hsound m p hp
  · left
    rw [hs]
    exact ⟨hinv, hsound⟩

/-- All programs are as they should be, and so are those that may still start. -/
def Ready (exec : (o : ω) → φ → σ → ρ o × σ) (program : ι → Nat → Program ω ρ α)
    (D : Nat → Program.Discipline ω φ σ) (post : Nat → α → σ → Prop) (s : Pool ω ρ α σ) : Prop :=
  AllSound exec D post s ∧ ∀ n, s.programs.length ≤ n → ∀ i,
    (program i n).Holds exec (D n) (post n) s.world

theorem Ready.step (hagree : Agree D post) {s : Pool ω ρ α σ} (t : Turn ι φ)
    (h : Ready exec program D post s) :
    Ready exec program D post (Pool.step exec program s t).2 ∨ Breaks D s t := by
  obtain ⟨hsound, hready⟩ := h
  by_cases hbreaks : Breaks D s t
  · exact Or.inr hbreaks
  have hsound' : AllSound exec D post (Pool.step exec program s t).2 :=
    (hsound.step hagree t fun i _ => hready _ (Nat.le_refl _) i).resolve_right hbreaks
  refine Or.inl ⟨hsound', ?_⟩
  rcases step_cases exec program s t with ⟨i, -, hs⟩ | ⟨n, fate, o, next, rfl, hn, hs⟩ |
    ⟨n, o, next, -, hn, hs⟩ | hs
  · rw [hs]
    intro m hm i
    rw [List.length_append] at hm
    exact hready m (by omega) i
  · have hallowed : (D n).allowed o fate s.world := by
      by_contra hnot
      exact hbreaks ⟨o, next, hn, hnot⟩
    have hmove := (hsound.move hn hallowed).1
    have hlength := (List.getElem?_eq_some_iff.mp hn).1
    rw [hs] at hsound' ⊢
    intro m hm i
    rw [List.length_set] at hm
    -- the program that may still start relies on the move of the one that acts
    exact (hready m hm i).moved (hagree.stable m) (hagree.safe n m _ _ (by omega) hmove) (hsound'.1 m)
  · rw [hs]
    intro m hm i
    rw [List.length_set] at hm
    exact hready m hm i
  · rw [hs]
    exact hready

/-- In a run in which no turn breaks the discipline, all programs stay as they should be. -/
theorem Ready.run (hagree : Agree D post) {turns : List (Turn ι φ)} {s : Pool ω ρ α σ}
    (h : Ready exec program D post s)
    (hnever : Never (Pool.step exec program) (Breaks D) s turns) :
    Ready exec program D post (MyCogni.run (Pool.step exec program) s turns) :=
  run_of_never (v := fun _ => True) (fun _ _ _ => trivial) (fun _ t _ h => h.step hagree t) trivial h
    hnever

end Pool

end MyCogni
