import MyCogni.Persistence.Work

/-! The reservation of application work: one party at a time holds it, every unit of work and every
reader gives it back once, and no failure of a cleanup goes unnoticed. -/

namespace MyCogni.Persistence.Work

/-! ### What is told by the history -/

/-- What a party has done, the latest first. -/
def own (p : Nat) (w : World) : List Deed :=
  (w.history.filter fun e => e.party = p).map Event.deed

/-- The party has the reservation. -/
def Holding (h : List Deed) : Prop := .acquired ∈ h ∧ .released ∉ h

/-- No call has left the object terminal. -/
def NotTerminated (h : List Deed) : Prop := ∀ call returned, .ended call returned true ∉ h

/-- A rollback or a close has failed. -/
def Failed (h : List Deed) : Prop := .rollbackFailed ∈ h ∨ .closeFailed ∈ h

def Deed.isEnd : Deed → Bool
  | .ended _ _ _ => true
  | _ => false

/-- What was done in the present call. -/
def current (h : List Deed) : List Deed := h.takeWhile fun d => !d.isEnd

def World.Paused (w : World) : Prop :=
  w.readiness.acceptingNewWork = false ∧ w.readiness.externalActionsMustRemainPaused = true

/-- What is true when a call ends. -/
structure EndsWell (paused : Prop) (call : CallName) (returned terminal : Bool) (older : List Deed) :
    Prop where
  released : terminal = true → (.acquired ∈ older ↔ .released ∈ older)
  leaves : .acquired ∈ older → call ≠ .enter → call ≠ .statement → terminal = true
  entry : call = .enter → returned = false → .acquired ∈ current older → terminal = true
  entered : call = .enter → returned = true → Holding older
  refused : returned = true → call = .enter ∨ call = .statement ∨ call = .commit → NotTerminated older
  committed : call = .commit → (returned = true ↔ .committed ∈ current older)
  undone : call = .commit → returned = false →
    current older = [] ∨ .rolledBack ∈ current older ∨ paused
  failed : Failed older → paused

/-- What is true when a deed is done. -/
def Legit (paused : Prop) (older : List Deed) : Deed → Prop
  | .acquired => NotTerminated older ∧ .acquired ∉ older ∧ .released ∉ older
  | .ended call returned terminal => EndsWell paused call returned terminal older
  | _ => NotTerminated older ∧ Holding older

theorem EndsWell.mono {paused paused' : Prop} (h : paused → paused') {call : CallName}
    {returned terminal : Bool} {older : List Deed} (hends : EndsWell paused call returned terminal older) :
    EndsWell paused' call returned terminal older where
  released := hends.released
  leaves := hends.leaves
  entry := hends.entry
  entered := hends.entered
  refused := hends.refused
  committed := hends.committed
  undone := fun hcall hreturned => (hends.undone hcall hreturned).imp_right (Or.imp_right h)
  failed := fun hfailed => h (hends.failed hfailed)

theorem Legit.mono {paused paused' : Prop} (h : paused → paused') {older : List Deed} {d : Deed}
    (hd : Legit paused older d) : Legit paused' older d := by
  cases d with
  | ended call returned terminal => exact EndsWell.mono h hd
  | _ => exact hd

/-! ### The discipline -/

/-- The party whose deeds an operation can note, and these deeds. -/
def Op.deeds : Op → Option (Nat × List Deed)
  | .acquire p => some (p, [.acquired])
  | .release p => some (p, [.released])
  | .begin p => some (p, [.begun])
  | .statement p => some (p, [.stated])
  | .commit p => some (p, [.committed])
  | .rollback p => some (p, [.rolledBack, .rollbackFailed])
  | .close p => some (p, [.closed, .closeFailed])
  | .ended p call returned terminal => some (p, [.ended call returned terminal])
  | _ => none

structure World.Inv (w : World) : Prop where
  single : ∀ p q, Holding (own p w) → Holding (own q w) → p = q
  locked : ∀ p, Holding (own p w) → w.locked = true
  legit : ∀ p newer d older, own p w = newer ++ d :: older → Legit w.Paused older d

/-- The deeds of the operation are legitimate for the party. -/
def Requires (p : Nat) (o : Op) (w : World) : Prop :=
  ∀ q ds, o.deeds = some (q, ds) → q = p ∧ ∀ d ∈ ds, Legit w.Paused (own p w) d

def discipline (p : Nat) : Program.Discipline Op Fate World where
  rely w w' := own p w' = own p w ∧ (w.Paused → w'.Paused)
  guarantee w w' := (∀ q, q ≠ p → own q w' = own q w) ∧ (w.Paused → w'.Paused)
  inv := World.Inv
  requires := Requires p
  allowed _ _ _ := True
  refl _ := ⟨rfl, id⟩
  trans _ _ _ h h' := ⟨h'.1.trans h.1, fun hp => h'.2 (h.2 hp)⟩

/-! ### What a step changes -/

section Moves
variable {p : Nat} {w w' : World} {d : Deed}

theorem own_of_history (h : w'.history = w.history) (p : Nat) : own p w' = own p w := by
  rw [own, own, h]

theorem own_cons_self (h : w'.history = ⟨p, d⟩ :: w.history) : own p w' = d :: own p w := by
  simp [own, h]

theorem own_cons_ne (h : w'.history = ⟨p, d⟩ :: w.history) {q : Nat} (hq : q ≠ p) :
    own q w' = own q w := by
  simp [own, h, Ne.symm hq]

theorem driverFailure_history (code : Option Nat) (w : World) :
    (w.driverFailure code).history = w.history := by
  unfold World.driverFailure
  split <;> rfl

theorem driverFailure_locked (code : Option Nat) (w : World) :
    (w.driverFailure code).locked = w.locked := by
  unfold World.driverFailure
  split <;> rfl

theorem driverFailure_paused (code : Option Nat) (h : w.Paused) : (w.driverFailure code).Paused := by
  unfold World.driverFailure
  split
  · exact ⟨rfl, rfl⟩
  · exact h

theorem note_readiness (p : Nat) (d : Option Deed) (w : World) : (w.note p d).readiness = w.readiness := by
  cases d <;> rfl

theorem note_locked (p : Nat) (d : Option Deed) (w : World) : (w.note p d).locked = w.locked := by
  cases d <;> rfl

/-- What a step of the driver notes, and that it changes nothing of the reservation. -/
theorem driver_cases (p : Nat) (done failed : Option Deed) (fate : Fate) (w : World) :
    ((w.driver p done failed fate).2.history = w.history ∨ ∃ d, (done = some d ∨ failed = some d) ∧
      (w.driver p done failed fate).2.history = ⟨p, d⟩ :: w.history) ∧
    (w.driver p done failed fate).2.locked = w.locked ∧
    (w.Paused → (w.driver p done failed fate).2.Paused) := by
  cases fate with
  | returns =>
    refine ⟨?_, note_locked p done w, ?_⟩
    · cases done with
      | none => exact Or.inl rfl
      | some d => exact Or.inr ⟨d, Or.inl rfl, rfl⟩
    · intro h
      rw [World.driver, World.Paused, note_readiness]
      exact h
  | raises code =>
    refine ⟨?_, (note_locked p failed _).trans (driverFailure_locked code w), ?_⟩
    · cases failed with
      | none => exact Or.inl (driverFailure_history code w)
      | some d => exact Or.inr ⟨d, Or.inr rfl, congrArg _ (driverFailure_history code w)⟩
    · intro h
      rw [World.driver, World.Paused, note_readiness]
      exact driverFailure_paused code h

/-- What a step notes is among the deeds of its operation. -/
theorem exec_history (o : Op) (fate : Fate) (w : World) :
    (exec o fate w).2.history = w.history ∨ ∃ p ds d, o.deeds = some (p, ds) ∧ d ∈ ds ∧
      (exec o fate w).2.history = ⟨p, d⟩ :: w.history := by
  have hdriver : ∀ (p : Nat) (done failed : Option Deed) (ds : List Deed),
      (∀ d, done = some d ∨ failed = some d → d ∈ ds) →
      (w.driver p done failed fate).2.history = w.history ∨ ∃ d ∈ ds,
        (w.driver p done failed fate).2.history = ⟨p, d⟩ :: w.history := by
    intro p done failed ds hds
    rcases (driver_cases p done failed fate w).1 with h | ⟨d, hd, h⟩
    · exact Or.inl h
    · exact Or.inr ⟨d, hds d hd, h⟩
  have hplain : ∀ p : Nat, (w.driver p none none fate).2.history = w.history := by
    intro p
    rcases (driver_cases p none none fate w).1 with h | ⟨d, hd, -⟩
    · exact h
    · simp at hd
  cases o with
  | assertAccepting => left; cases fate <;> rfl
  | assertReconciliation => left; cases fate <;> rfl
  | acquire p =>
    cases fate with
    | raises code => exact Or.inl rfl
    | returns =>
      simp only [exec]
      split_ifs
      · exact Or.inl rfl
      · exact Or.inr ⟨p, _, _, rfl, List.mem_singleton_self _, rfl⟩
  | release p =>
    right
    refine ⟨p, _, .released, rfl, List.mem_singleton_self _, ?_⟩
    cases fate with
    | raises code => rfl
    | returns =>
      simp only [exec]
      split_ifs <;> rfl
  | begin p =>
    rcases hdriver p (some .begun) none [.begun] (by simp) with h | ⟨d, hd, h⟩
    · exact Or.inl h
    · exact Or.inr ⟨p, _, d, rfl, hd, h⟩
  | statement p =>
    rcases hdriver p (some .stated) (some .stated) [.stated] (by simp) with h | ⟨d, hd, h⟩
    · exact Or.inl h
    · exact Or.inr ⟨p, _, d, rfl, hd, h⟩
  | commit p =>
    rcases hdriver p (some .committed) none [.committed] (by simp) with h | ⟨d, hd, h⟩
    · exact Or.inl h
    · exact Or.inr ⟨p, _, d, rfl, hd, h⟩
  | rollback p =>
    rcases hdriver p (some .rolledBack) (some .rollbackFailed) [.rolledBack, .rollbackFailed]
      (by simp [eq_comm]) with h | ⟨d, hd, h⟩
    · exact Or.inl h
    · exact Or.inr ⟨p, _, d, rfl, hd, h⟩
  | close p =>
    rcases hdriver p (some .closed) (some .closeFailed) [.closed, .closeFailed]
      (by simp [eq_comm]) with h | ⟨d, hd, h⟩
    · exact Or.inl h
    · exact Or.inr ⟨p, _, d, rfl, hd, h⟩
  | ended p call returned terminal =>
    exact Or.inr ⟨p, _, _, rfl, List.mem_singleton_self _, rfl⟩
  | acquireLifecycle =>
    left
    simp only [exec]
    split_ifs <;> rfl
  | connect p => exact Or.inl (hplain p)
  | queryOnly p => exact Or.inl (hplain p)
  | maintain => exact Or.inl (hplain 0)
  | _ => exact Or.inl rfl

/-- The runtime stays paused. -/
theorem exec_paused (o : Op) (fate : Fate) (h : w.Paused) : (exec o fate w).2.Paused := by
  have hdriver : ∀ (p : Nat) (done failed : Option Deed), (w.driver p done failed fate).2.Paused :=
    fun p done failed => (driver_cases p done failed fate w).2.2 h
  cases o with
  | assertAccepting | assertReconciliation => cases fate <;> exact h
  | acquire p =>
    cases fate with
    | raises code => exact h
    | returns =>
      simp only [exec]
      split_ifs <;> exact h
  | release p =>
    cases fate with
    | raises code => exact h
    | returns =>
      simp only [exec]
      split_ifs <;> exact h
  | acquireLifecycle =>
    simp only [exec]
    split_ifs <;> exact h
  | pause state => exact ⟨rfl, rfl⟩
  | denyNewWork => exact ⟨rfl, h.2⟩
  | connect p | queryOnly p | begin p | statement p | commit p | rollback p | close p | maintain =>
    exact hdriver _ _ _
  | _ => exact h

/-- Only the reservation and its return touch the lock. -/
theorem exec_locked {o : Op} (ho : ∀ p, o ≠ .acquire p ∧ o ≠ .release p) (fate : Fate) :
    (exec o fate w).2.locked = w.locked := by
  have hdriver : ∀ (p : Nat) (done failed : Option Deed),
      (w.driver p done failed fate).2.locked = w.locked :=
    fun p done failed => (driver_cases p done failed fate w).2.1
  cases o with
  | assertAccepting | assertReconciliation => cases fate <;> rfl
  | acquire p => exact absurd rfl (ho p).1
  | release p => exact absurd rfl (ho p).2
  | acquireLifecycle =>
    simp only [exec]
    split_ifs <;> rfl
  | connect p | queryOnly p | begin p | statement p | commit p | rollback p | close p | maintain =>
    exact hdriver _ _ _
  | _ => rfl

theorem exec_acquire (p : Nat) (fate : Fate) (w : World) :
    (exec (.acquire p) fate w).2 = w ∨ w.locked = false ∧
      (exec (.acquire p) fate w).2 = { w with locked := true }.note p (some .acquired) := by
  cases fate with
  | raises code => exact Or.inl rfl
  | returns =>
    simp only [exec]
    split_ifs with hlocked
    · exact Or.inl rfl
    · exact Or.inr ⟨Bool.eq_false_of_not_eq_true hlocked, rfl⟩

theorem Requires.legit {o : Op} {ds : List Deed} (h : Requires p o w) (ho : o.deeds = some (p, ds))
    (hd : d ∈ ds) : Legit w.Paused (own p w) d := (h p ds ho).2 d hd

/-- The invariant, where the party notes a deed that is legitimate. -/
theorem World.Inv.noted (h : w.Inv) (hhistory : w'.history = ⟨p, d⟩ :: w.history)
    (hpaused : w.Paused → w'.Paused) (hd : Legit w.Paused (own p w) d)
    (hsingle : ∀ q r, Holding (own q w') → Holding (own r w') → q = r)
    (hlocked : ∀ q, Holding (own q w') → w'.locked = true) : w'.Inv := by
  refine ⟨hsingle, hlocked, fun q newer e older hsplit => ?_⟩
  by_cases hq : q = p
  · subst hq
    rw [own_cons_self hhistory] at hsplit
    cases newer with
    | nil =>
      obtain ⟨rfl, rfl⟩ := List.cons.inj hsplit
      exact hd.mono hpaused
    | cons e' newer =>
      obtain ⟨-, hrest⟩ := List.cons.inj hsplit
      exact (h.legit q newer e older hrest).mono hpaused
  · rw [own_cons_ne hhistory hq] at hsplit
    exact (h.legit q newer e older hsplit).mono hpaused

theorem holding_cons {h : List Deed} (hacquired : d ≠ .acquired) (hreleased : d ≠ .released) :
    Holding (d :: h) ↔ Holding h := by
  simp [Holding, hacquired.symm, hreleased.symm]

theorem deeds_ne {o : Op} {ds : List Deed} (ho : ∀ p, o ≠ .acquire p ∧ o ≠ .release p)
    (hds : o.deeds = some (p, ds)) (hd : d ∈ ds) : d ≠ .acquired ∧ d ≠ .released := by
  cases o with
  | acquire q => exact absurd rfl (ho q).1
  | release q => exact absurd rfl (ho q).2
  | begin q | statement q | commit q | rollback q | close q | ended q call returned terminal =>
    simp only [Op.deeds, Option.some.injEq, Prod.mk.injEq] at hds
    obtain ⟨-, rfl⟩ := hds
    constructor <;> rintro rfl <;> simp at hd
  | _ => exact nomatch hds

/-- A step that is required keeps the discipline. -/
theorem exec_moves {o : Op} (fate : Fate) (hinv : w.Inv) (hrequires : Requires p o w) :
    (discipline p).guarantee w (exec o fate w).2 ∧ (exec o fate w).2.Inv := by
  have hpaused : w.Paused → (exec o fate w).2.Paused := exec_paused o fate
  have hguarantee : (discipline p).guarantee w (exec o fate w).2 := by
    refine ⟨fun q hq => ?_, hpaused⟩
    rcases exec_history o fate w with h | ⟨r, ds, d, ho, -, h⟩
    · exact own_of_history h q
    · obtain ⟨rfl, -⟩ := hrequires r ds ho
      exact own_cons_ne h hq
  refine ⟨hguarantee, ?_⟩
  by_cases hacquire : ∃ q, o = .acquire q
  · obtain ⟨q, rfl⟩ := hacquire
    obtain ⟨rfl, hlegit⟩ := hrequires q [.acquired] rfl
    rcases exec_acquire q fate w with hsame | ⟨hfree, hnext⟩
    · rw [hsame]
      exact hinv
    · -- nobody has the reservation, so the party is the only one
      have hhistory : (exec (.acquire q) fate w).2.history = ⟨q, .acquired⟩ :: w.history := by
        rw [hnext]
        rfl
      have hnobody : ∀ r, ¬Holding (own r w) := by
        intro r hr
        exact nomatch hfree.symm.trans (hinv.locked r hr)
      have honly : ∀ r, Holding (own r (exec (.acquire q) fate w).2) → r = q := by
        intro r hr
        by_contra hne
        rw [own_cons_ne hhistory hne] at hr
        exact hnobody r hr
      refine hinv.noted hhistory hpaused (hlegit _ (List.mem_singleton_self _)) ?_ ?_
      · exact fun r r' hr hr' => (honly r hr).trans (honly r' hr').symm
      · intro r _
        rw [hnext]
        rfl
  by_cases hrelease : ∃ q, o = .release q
  · obtain ⟨q, rfl⟩ := hrelease
    obtain ⟨rfl, hlegit⟩ := hrequires q [.released] rfl
    have hhistory : (exec (.release q) fate w).2.history = ⟨q, .released⟩ :: w.history := by
      cases fate with
      | raises code => rfl
      | returns =>
        simp only [exec]
        split_ifs <;> rfl
    have hd := hlegit _ (List.mem_singleton_self _)
    have hnobody : ∀ r, ¬Holding (own r (exec (.release q) fate w).2) := by
      intro r hr
      by_cases hr' : r = q
      · subst hr'
        rw [own_cons_self hhistory] at hr
        exact hr.2 List.mem_cons_self
      · rw [own_cons_ne hhistory hr'] at hr
        exact hr' (hinv.single r q hr hd.2)
    exact hinv.noted hhistory hpaused hd (fun r _ hr => absurd hr (hnobody r))
      fun r hr => absurd hr (hnobody r)
  · have ho : ∀ q, o ≠ .acquire q ∧ o ≠ .release q :=
      fun q => ⟨fun h => hacquire ⟨q, h⟩, fun h => hrelease ⟨q, h⟩⟩
    have hlocked : (exec o fate w).2.locked = w.locked := exec_locked ho fate
    rcases exec_history o fate w with h | ⟨r, ds, d, hds, hd, h⟩
    · refine ⟨fun q r hq hr => ?_, fun q hq => ?_, fun q newer e older hsplit => ?_⟩
      · rw [own_of_history h] at hq hr
        exact hinv.single q r hq hr
      · rw [own_of_history h] at hq
        rw [hlocked]
        exact hinv.locked q hq
      · rw [own_of_history h] at hsplit
        exact (hinv.legit q newer e older hsplit).mono hpaused
    · obtain ⟨rfl, hlegit⟩ := hrequires r ds hds
      obtain ⟨hacquired, hreleased⟩ := deeds_ne ho hds hd
      have hholding : ∀ q, Holding (own q (exec o fate w).2) ↔ Holding (own q w) := by
        intro q
        by_cases hq : q = r
        · subst hq
          rw [own_cons_self h]
          exact holding_cons hacquired hreleased
        · rw [own_cons_ne h hq]
      refine hinv.noted h hpaused (hlegit d hd) (fun q q' hq hq' => ?_) fun q hq => ?_
      · exact hinv.single q q' ((hholding q).mp hq) ((hholding q').mp hq')
      · rw [hlocked]
        exact hinv.locked q ((hholding q).mp hq)

end Moves

end MyCogni.Persistence.Work
