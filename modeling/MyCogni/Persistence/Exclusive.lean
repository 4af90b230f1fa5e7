import MyCogni.Persistence.Entries

/-! The work of one runtime, over all runs: whatever is raised, and whichever thread goes next. -/

namespace MyCogni.Persistence.Work

variable {α : Type} {p : Nat} {self : WorkObject} {w : World} {h : List Deed}

/-! ### Shutdowns -/

/-- The method notes nothing for its party. -/
def Quiet (p : Nat) (m : Method α) : Prop :=
  ∀ self h w, Clean p h w → Does p m self w fun _ self' w' => self' = self ∧ Clean p h w'

theorem quiet_step {o : Op} (ho : o.deeds = none) : Quiet p (step o) :=
  fun _ _ _ hw => does_quiet ho hw fun _ _ hw' => ⟨rfl, hw'⟩

theorem quiet_pure {a : α} : Quiet p (pure a) := fun _ _ _ hw => does_pure ⟨rfl, hw⟩

theorem quiet_throw {e : Fault} : Quiet p (throw e : Method α) := fun _ _ _ hw => does_throw ⟨rfl, hw⟩

theorem quiet_bind {β : Type} {m : Method α} {f : α → Method β} (hm : Quiet p m)
    (hf : ∀ a, Quiet p (f a)) : Quiet p (m >>= f) := by
  intro self h w hw
  refine does_bind ((hm self h w hw).mono ?_)
  rintro r self' w' ⟨rfl, hw'⟩
  exact ⟨fun a _ => hf a self' h w' hw', fun _ _ => ⟨rfl, hw'⟩⟩

theorem quiet_except {m : Method α} {handler : Fault → Method α} (hm : Quiet p m)
    (hhandler : ∀ e, Quiet p (handler e)) : Quiet p (except m handler) := by
  intro self h w hw
  refine does_except ((hm self h w hw).mono ?_)
  rintro r self' w' ⟨rfl, hw'⟩
  exact ⟨fun _ _ => ⟨rfl, hw'⟩, fun e _ => hhandler e self' h w' hw'⟩

theorem quiet_andFinally {m : Method α} {f : Method Unit} (hm : Quiet p m) (hf : Quiet p f) :
    Quiet p (andFinally m f) := by
  intro self h w hw
  refine does_andFinally ((hm self h w hw).mono ?_)
  rintro r self' w' ⟨rfl, hw'⟩
  refine (hf self' h w' hw').mono ?_
  rintro r' self'' w'' ⟨rfl, hw''⟩
  exact ⟨fun _ _ => ⟨rfl, hw''⟩, fun _ _ => ⟨rfl, hw''⟩⟩

theorem quiet_closeReserved : Quiet p closeReserved := by
  refine quiet_bind (quiet_except (quiet_step rfl) fun e => ?_) fun _ =>
    quiet_bind (quiet_except (quiet_step rfl) fun e => ?_) fun _ => quiet_step rfl
  · refine quiet_bind (quiet_andFinally (quiet_step rfl) ?_) fun _ => quiet_throw
    exact quiet_bind (quiet_step rfl) fun _ => quiet_step rfl
  · refine quiet_bind (quiet_step rfl) fun _ => quiet_bind ?_ fun _ => quiet_throw
    exact quiet_andFinally (quiet_step rfl) (quiet_step rfl)

theorem quiet_abandonReserved : Quiet p abandonReserved := by
  refine quiet_bind (quiet_step rfl) fun _ => quiet_bind (quiet_step rfl) fun _ =>
    quiet_bind (quiet_except (quiet_step rfl) fun e => ?_) fun _ => quiet_step rfl
  exact quiet_bind (quiet_step rfl) fun _ => quiet_throw

theorem quiet_blockShutdown : Quiet p blockShutdown :=
  quiet_bind (quiet_andFinally (quiet_step rfl) (quiet_step rfl)) fun _ => quiet_throw

/-- A shutdown that returns from the reservation with true has it. -/
theorem does_denyNewWork (hw : Clean p [] w) :
    Does p (denyNewWorkAndReserveShutdown p) self w fun r _ w' =>
      if r = .ok true then Clean p [.acquired] w' else Clean p [] w' := by
  have hfresh : Deed.acquired ∉ ([] : List Deed) ∧ Deed.released ∉ ([] : List Deed) := ⟨nofun, nofun⟩
  refine does_bind (does_quiet rfl hw fun r w₁ hw₁ => ⟨fun _ _ => ?_, fun e _ => hw₁⟩)
  refine does_bind (does_acquire hw₁ (fun _ _ => nofun) hfresh (fun w₂ hw₂ => ?_) fun r w₂ hr hw₂ => ?_)
  · refine ⟨fun reserved h => ?_, nofun⟩
    obtain rfl := Except.ok.inj h
    exact does_pure (hw₂.clean nofun nofun)
  · refine ⟨fun reserved h => ?_, fun e _ => hw₂⟩
    subst h
    cases reserved with
    | true => exact absurd rfl hr
    | false =>
      exact does_bind (does_quiet rfl hw₂ fun r w₃ hw₃ => ⟨fun _ _ => does_pure hw₃, fun e _ => hw₃⟩)

/-- A shutdown takes the reservation as all others do. -/
theorem does_shutdown {reserved : Method Unit} (hreserved : Quiet p reserved) (hw : Clean p [] w) :
    Does p (shutdown p reserved) {} w fun _ _ _ => True := by
  have hfreed : ∀ (r : Except Fault Unit) (self' : WorkObject) (w' : World),
      (∃ h, Clean p h w') → Does p (step .releaseLifecycle) self' w' fun r' self w =>
        (∀ u, r' = .ok u → True) ∧ ∀ e, r' = .error e → True := by
    rintro r self' w' ⟨h, hw'⟩
    exact does_quiet rfl hw' fun _ _ _ => ⟨fun _ _ => trivial, fun _ _ => trivial⟩
  refine does_bind (does_quiet rfl hw fun r w₁ hw₁ => ⟨fun exclusive _ => ?_, fun _ _ => trivial⟩)
  split_ifs
  · refine does_andFinally (Does.mono ?_ hfreed)
    refine does_bind (does_quiet rfl hw₁ fun r w₂ hw₂ => ⟨fun closed _ => ?_, fun _ _ => ⟨_, hw₂⟩⟩)
    split_ifs
    · exact does_pure ⟨_, hw₂⟩
    · refine does_bind ((does_denyNewWork hw₂).mono fun r self₃ w₃ hw₃ => ⟨fun reservation hr => ?_, ?_⟩)
      · subst hr
        cases reservation with
        | true =>
          -- the work under the reservation notes nothing, and then the reservation is given back
          have hlive : Live [.acquired] := ⟨by simp [NotTerminated], by simp [Holding]⟩
          refine does_andFinally ((hreserved self₃ _ w₃ hw₃).mono ?_)
          rintro r self₄ w₄ ⟨-, hw₄⟩
          refine does_release hw₄ hlive fun r w₅ hw₅ => ?_
          have hw₅' := hw₅.clean (fun h => by cases h) (fun h => by cases h)
          exact ⟨fun _ _ => ⟨_, hw₅'⟩, fun _ _ => ⟨_, hw₅'⟩⟩
        | false => exact (quiet_blockShutdown self₃ [] w₃ hw₃).mono fun _ _ _ h => ⟨[], h.2⟩
      · rintro e rfl
        exact ⟨[], hw₃⟩
  · have hquiet : Quiet p (step (.pause .shutdownBlocked) >>= fun _ => (throw .recoveryError : Method Unit)) :=
      quiet_bind (quiet_step rfl) fun _ => quiet_throw
    exact (hquiet {} [] w₁ hw₁).mono fun _ _ _ _ => trivial

/-! ### All threads -/

theorem obeys_unitOfWork (c : UnitOfWorkCall) : Obeys p (c.run p).1 (c.run p).2 := by
  cases c with
  | enter => exact obeys_enter
  | statement => exact obeys_statement
  | commit => exact obeys_commit
  | rollback => exact obeys_rollback
  | exit => exact obeys_exit

theorem obeys_reader (c : ReaderCall) : Obeys p (c.run p).1 (c.run p).2 := by
  cases c with
  | enter => exact obeys_reader_enter
  | execute s => exact obeys_execute
  | exit => exact obeys_reader_exit

theorem atRest_new : AtRest {} [] :=
  ⟨⟨fun _ _ _ => nofun, fun _ _ => ⟨nofun, nofun⟩, nofun, fun _ => rfl, nofun⟩, rfl⟩

/-- An object that is there once its check has passed. -/
theorem holds_object {o : Op} (ho : o.deeds = none) (script : List (CallName × Method Unit))
    (hscript : ∀ c ∈ script, Obeys p c.1 c.2) (hw : Clean p [] w) {next : Reply o → Program Op Reply Unit}
    (hnext : ∀ r, next r = calls p script {} ∨ next r = pure ()) :
    Program.Holds exec (discipline p) (Program.lift o >>= next) (fun _ _ => True) w := by
  have hdoes : Does p (step o) {} w fun _ _ w' => Clean p [] w' := does_quiet ho hw fun _ _ hw' => hw'
  rintro w' hrely hinv
  obtain ⟨hrequires, hstep⟩ := hdoes w' hrely hinv
  refine ⟨hrequires, fun fate hallowed => ⟨(hstep fate hallowed).1, ?_⟩⟩
  show Program.Holds _ _ (next _) _ _
  rcases hnext (exec o fate w').1 with h | h
  · rw [h]
    exact holds_calls hscript atRest_new (hstep fate hallowed).2
  · rw [h]
    trivial

/-- Every client keeps the discipline, in a world in which it has not done anything. -/
theorem holds_client (c : Client) (hw : own p w = []) :
    Program.Holds exec (discipline p) (c.program p) (fun _ _ => True) w := by
  have hclean : Clean p [] w := ⟨hw, fun h => absurd h (by simp [Failed])⟩
  cases c with
  | unitOfWork script =>
    refine holds_object rfl (script.map (UnitOfWorkCall.run p)) ?_ hclean fun r => ?_
    · intro c hc
      obtain ⟨c, -, rfl⟩ := List.mem_map.mp hc
      exact obeys_unitOfWork c
    · cases r with
      | ok a => exact Or.inl rfl
      | error e => exact Or.inr rfl
  | reader script =>
    refine holds_object rfl (script.map (ReaderCall.run p)) ?_ hclean fun r => ?_
    · intro c hc
      obtain ⟨c, -, rfl⟩ := List.mem_map.mp hc
      exact obeys_reader c
    · cases r with
      | ok a => exact Or.inl rfl
      | error e => exact Or.inr rfl
  | closeCleanly => exact Program.Holds.bind (does_shutdown quiet_closeReserved hclean)
  | abandon => exact Program.Holds.bind (does_shutdown quiet_abandonReserved hclean)

/-- A runtime before any work. -/
def System.initial (readiness : SQLiteReadiness) (requiresReconciliation : Bool) : System :=
  ⟨{ readiness, requiresReconciliation }, []⟩

theorem agree : Pool.Agree discipline fun _ (_ : Unit) _ => True where
  shared := fun _ _ _ h => h
  safe := fun _ _ _ _ hne h => ⟨h.1 _ (Ne.symm hne), h.2⟩
  stable := fun _ _ _ _ _ _ h => h

/-- The invariant holds in every run. -/
theorem inv_run (readiness : SQLiteReadiness) (requiresReconciliation : Bool)
    (turns : List (Turn Client Fate)) :
    (run System.step (System.initial readiness requiresReconciliation) turns).world.Inv := by
  have hinitial : (System.initial readiness requiresReconciliation).world.Inv := by
    refine ⟨fun _ _ h => absurd h.1 (fun h => by cases h), fun _ h => absurd h.1 (fun h => by cases h), fun q newer d older h => ?_⟩
    exact absurd h (by simp [own, System.initial])
  have hready : Pool.Ready exec Client.program discipline (fun _ _ _ => True)
      (System.initial readiness requiresReconciliation) :=
    ⟨⟨fun _ => hinitial, (fun _ _ h => by cases h)⟩, fun n _ c => holds_client c rfl⟩
  have hnever : Never System.step (Pool.Breaks discipline)
      (System.initial readiness requiresReconciliation) turns := by
    intro _ t _ _ hbreaks
    cases t with
    | act n fate =>
      obtain ⟨o, next, -, hnot⟩ := hbreaks
      exact hnot trivial
    | start c => exact hbreaks
    | die n => exact hbreaks
  exact (hready.run agree hnever).1.1 0

/-! ### What is promised -/

/-- What one party has done is lawful. -/
def Lawful (paused : Prop) (h : List Deed) : Prop :=
  ∀ newer d older, h = newer ++ d :: older → Legit paused older d

theorem Lawful.cons {paused : Prop} {d : Deed} (hlawful : Lawful paused (d :: h)) :
    Legit paused h d ∧ Lawful paused h := by
  refine ⟨hlawful [] d h rfl, fun newer e older hsplit => hlawful (d :: newer) e older ?_⟩
  rw [hsplit]
  rfl

theorem Lawful.append {paused : Prop} {newer older : List Deed}
    (hlawful : Lawful paused (newer ++ older)) : Lawful paused older := by
  induction newer with
  | nil => exact hlawful
  | cons d newer ih => exact ih hlawful.cons.2

/-- The reservation is taken once and given back once. -/
theorem Lawful.once {paused : Prop} (hlawful : Lawful paused h) :
    h.count .acquired ≤ 1 ∧ h.count .released ≤ h.count .acquired := by
  induction h with
  | nil => exact ⟨Nat.zero_le _, Nat.le_refl _⟩
  | cons d h ih =>
    obtain ⟨hd, hrest⟩ := hlawful.cons
    obtain ⟨hacquired, hreleased⟩ := ih hrest
    cases d with
    | acquired =>
      have hnone : h.count .acquired = 0 := List.count_eq_zero_of_not_mem hd.2.1
      rw [List.count_cons_self, List.count_cons_of_ne (by simp), hnone]
      omega
    | released =>
      have hnone : h.count .released = 0 := List.count_eq_zero_of_not_mem hd.2.2
      have hsome : 0 < h.count .acquired := List.count_pos_iff.mpr hd.2.1
      rw [List.count_cons_self, List.count_cons_of_ne (by simp), hnone]
      omega
    | _ =>
      rw [List.count_cons_of_ne (by simp), List.count_cons_of_ne (by simp)]
      exact ⟨hacquired, hreleased⟩

/-- A call has ended, after these deeds of its object. -/
def Ended (h : List Deed) (call : CallName) (returned terminal : Bool) (older : List Deed) : Prop :=
  ∃ newer, h = newer ++ .ended call returned terminal :: older

/-- What is promised of the work of one object. -/
structure Promised (paused : Prop) (h : List Deed) : Prop where
  /-- It is admitted at most once, and it gives the reservation back at most once. -/
  once : h.count .acquired ≤ 1 ∧ h.count .released ≤ h.count .acquired
  /-- A call that leaves it terminal has given back what was taken. -/
  released : ∀ call returned older, Ended h call returned true older →
    older.count .released = older.count .acquired
  /-- Every call on an admitted object leaves it terminal, if it is not a statement. -/
  leaves : ∀ call returned terminal older, Ended h call returned terminal older → .acquired ∈ older →
    call ≠ .enter → call ≠ .statement → terminal = true
  /-- So does an entry that is admitted and raises. -/
  entry : ∀ terminal older, Ended h .enter false terminal older → .acquired ∈ current older →
    terminal = true
  /-- A commit returns exactly where the database commit has returned. -/
  committed : ∀ returned terminal older, Ended h .commit returned terminal older →
    (returned = true ↔ .committed ∈ current older)
  /-- Otherwise there was nothing to commit, or it is rolled back, or the runtime is paused. -/
  undone : ∀ terminal older, Ended h .commit false terminal older →
    current older = [] ∨ .rolledBack ∈ current older ∨ paused
  /-- A terminal object does nothing more, and it is not entered. -/
  terminated : ∀ newer call returned older, h = newer ++ .ended call returned true :: older →
    ∀ d ∈ newer, ∃ call' returned' terminal', d = .ended call' returned' terminal' ∧
      (call' = .enter ∨ call' = .statement ∨ call' = .commit → returned' = false)
  /-- Where a rollback or a close has failed, the runtime is paused when the call ends. -/
  paused : ∀ call returned terminal older, Ended h call returned terminal older → Failed older → paused

theorem Lawful.ended {paused : Prop} (hlawful : Lawful paused h) {call : CallName}
    {returned terminal : Bool} {older : List Deed} (hended : Ended h call returned terminal older) :
    EndsWell paused call returned terminal older ∧ Lawful paused older := by
  obtain ⟨newer, rfl⟩ := hended
  exact hlawful.append.cons

/-- After a call that has left the object terminal only calls that do nothing end. -/
theorem Lawful.terminated {paused : Prop} {newer older : List Deed} {call : CallName} {returned : Bool}
    (hlawful : Lawful paused (newer ++ .ended call returned true :: older)) :
    ∀ d ∈ newer, ∃ call' returned' terminal', d = .ended call' returned' terminal' ∧
      (call' = .enter ∨ call' = .statement ∨ call' = .commit → returned' = false) := by
  induction newer with
  | nil => exact nofun
  | cons d newer ih =>
    obtain ⟨hd, hrest⟩ := hlawful.cons
    refine List.forall_mem_cons.mpr ⟨?_, ih hrest⟩
    have hover : ¬NotTerminated (newer ++ .ended call returned true :: older) := fun hnot =>
      hnot call returned (List.mem_append_right _ List.mem_cons_self)
    cases d with
    | ended call' returned' terminal' =>
      refine ⟨call', returned', terminal', rfl, fun hcall => ?_⟩
      cases returned' with
      | false => rfl
      | true => exact absurd (hd.refused rfl hcall) hover
    | _ => exact absurd hd.1 hover

theorem Lawful.promised {paused : Prop} (hlawful : Lawful paused h) : Promised paused h where
  once := hlawful.once
  released := by
    intro call returned older hended
    obtain ⟨hends, hrest⟩ := hlawful.ended hended
    have hbalanced := hends.released rfl
    obtain ⟨hacquired, hreleased⟩ := hrest.once
    rw [← List.count_pos_iff, ← List.count_pos_iff] at hbalanced
    omega
  leaves := fun call returned terminal older hended => (hlawful.ended hended).1.leaves
  entry := fun terminal older hended => (hlawful.ended hended).1.entry rfl rfl
  committed := fun returned terminal older hended => (hlawful.ended hended).1.committed rfl
  undone := fun terminal older hended => (hlawful.ended hended).1.undone rfl rfl
  terminated := by
    rintro newer call returned older rfl
    exact hlawful.terminated
  paused := fun call returned terminal older hended => (hlawful.ended hended).1.failed

/-- In every run of all threads, at most one unit of work, reader or shutdown has the reservation, and
for each of them everything promised holds. -/
theorem admitted_work (readiness : SQLiteReadiness) (requiresReconciliation : Bool)
    (turns : List (Turn Client Fate)) :
    let w := (run System.step (System.initial readiness requiresReconciliation) turns).world
    (∀ p q, Holding (own p w) → Holding (own q w) → p = q) ∧ ∀ p, Promised w.Paused (own p w) := by
  have hinv := inv_run readiness requiresReconciliation turns
  exact ⟨hinv.single, fun p => Lawful.promised (hinv.legit p)⟩

-- The close raises after a commit: the commit returns, and the runtime is paused.
example :
    let turns := [Turn.start (Client.unitOfWork [.enter, .commit])] ++
      List.replicate 8 (.act 0 .returns) ++ [.act 0 (.raises none)] ++ List.replicate 3 (.act 0 .returns)
    let w := (run System.step (System.initial ⟨true, false, .ready⟩ false) turns).world
    own 0 w = [.ended .commit true true, .released, .closeFailed, .committed, .ended .enter true false,
      .begun, .acquired] ∧ w.readiness.operatorState = .storageIoFailure := by decide

end MyCogni.Persistence.Work
