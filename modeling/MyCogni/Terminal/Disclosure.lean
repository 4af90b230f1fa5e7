import MyCogni.Terminal.Rules

/-! A disclosure is reported honestly exactly where no signal arrives at an unprotected place and the
drain does not fail with an error that no clause catches. -/

namespace MyCogni.Terminal

open Command

/-! ### What is promised, and what breaks it -/

/-- A disclosure that returns has written the whole payload in order, and drained it. One that raises an
error of the terminal says whether a secret write was tried. Nothing else is raised. -/
def Honest (payload : Option Bytes) (w w' : Tty) : Except Exn Unit → Prop
  | .ok _ => ∃ bytes, payload = some bytes ∧ w'.output = w.output ++ bytes ∧ w'.drained = true
  | .error (.operator e) => (e.delivery = .notStarted → .secretWrite ∉ w'.history) ∧
    (.secretWrite ∈ w'.history → e.delivery = .mayHaveDisclosed)
  | .error _ => False

/-- An event of which no clause gives the right report. -/
def Misreported (older : List Event) : Event → Prop
  | .termiosError => True
  | .cancelled .unguarded => True
  | .cancelled .passedOn => .secretWrite ∈ older
  | _ => False

/-- All events are such that they are reported rightly. -/
def Reportable : List Event → Prop
  | [] => True
  | e :: older => ¬Misreported older e ∧ Reportable older

instance (older : List Event) (e : Event) : Decidable (Misreported older e) :=
  decidable_of_iff (e = .termiosError ∨ e = .cancelled .unguarded ∨
      e = .cancelled .passedOn ∧ .secretWrite ∈ older) <| by
    unfold Misreported
    split <;> simp_all

instance decidableReportable : (h : List Event) → Decidable (Reportable h)
  | [] => isTrue trivial
  | e :: older =>
    have := decidableReportable older
    inferInstanceAs (Decidable (¬Misreported older e ∧ Reportable older))

/-! ### Steps that write nothing -/

/-- What a disclosure is about is as it was. -/
structure Kept (w w' : Tty) : Prop where
  output : w'.output = w.output
  drained : w'.drained = w.drained
  locals : w'.locals = w.locals
  tried : .secretWrite ∈ w'.history ↔ .secretWrite ∈ w.history
  reportable : Reportable w'.history ↔ Reportable w.history

theorem Kept.refl (w : Tty) : Kept w w := ⟨rfl, rfl, rfl, Iff.rfl, Iff.rfl⟩

theorem Kept.trans {a b c : Tty} (h : Kept a b) (h' : Kept b c) : Kept a c :=
  ⟨h'.output.trans h.output, h'.drained.trans h.drained, h'.locals.trans h.locals, h'.tried.trans h.tried,
    h'.reportable.trans h.reportable⟩

/-- A signal has arrived at this place. -/
def Struck (place : Place) (w w' : Tty) : Prop := ∃ w₁, Kept w w₁ ∧ w' = w₁.note (.cancelled place)

theorem Struck.of_kept {place : Place} {a b c : Tty} (h : Kept a b) (h' : Struck place b c) :
    Struck place a c := by
  obtain ⟨w, hw, rfl⟩ := h'
  exact ⟨w, h.trans hw, rfl⟩

theorem Struck.kept {w w' : Tty} {place : Place} (hplace : place = .guarded ∨ place = .blocking)
    (h : Struck place w w') : Kept w w' := by
  obtain ⟨w₁, hw, rfl⟩ := h
  refine hw.trans ⟨rfl, rfl, rfl, by simp [Tty.note], ?_⟩
  rcases hplace with rfl | rfl <;> simp [Tty.note, Reportable, Misreported]

theorem Struck.unguarded {w w' : Tty} (h : Struck .unguarded w w') : ¬Reportable w'.history := by
  obtain ⟨w₁, -, rfl⟩ := h
  exact fun h => h.1 trivial

theorem Struck.passedOn {w w' : Tty} (h : Struck .passedOn w w') :
    (.secretWrite ∈ w'.history ↔ .secretWrite ∈ w.history) ∧
    (Reportable w'.history ↔ .secretWrite ∉ w.history ∧ Reportable w.history) := by
  obtain ⟨w₁, hw, rfl⟩ := h
  simp only [Tty.note, Reportable, Misreported, List.mem_cons, reduceCtorEq, false_or]
  rw [hw.tried, hw.reportable]
  exact ⟨Iff.rfl, Iff.rfl⟩

/-- A call that neither writes nor is one of `termios`. -/
def Op.isQuiet : Op → Bool
  | .write _ _ => false
  | o => !o.isTermios

theorem kept_fates (w : Tty) (fates : List Fate) : Kept w { w with fates } :=
  ⟨rfl, rfl, rfl, Iff.rfl, Iff.rfl⟩

theorem kept_effect {o : Op} (ho : o.isQuiet = true) (w : Tty) (f : Fate) : Kept w (effect w o f).2 := by
  cases o with
  | write payload secret => exact nomatch ho
  | tcgetattr | tcsetattr a | tcdrain => exact nomatch ho
  | _ => exact ⟨rfl, rfl, rfl, Iff.rfl, Iff.rfl⟩

theorem kept_failed {o : Op} (ho : o.isQuiet = true) (w : Tty) : Kept w (failedEffect w o) := by
  cases o with
  | write payload secret => exact nomatch ho
  | _ => exact ⟨rfl, rfl, rfl, Iff.rfl, Iff.rfl⟩

section Steps
variable {place : Place} {o : Op} {w w₁ : Tty}

theorem kept_seq {α β : Type} {c : Method β} {f : β → Method α} {post : α → Tty → Prop}
    {halt : Exn → Tty → Prop} (hc : wp c (fun _ w' => Kept w w') halt w₁)
    (hf : ∀ b w', Kept w w' → wp (f b) post halt w') : wp (c >>= f) post halt w₁ :=
  wp_seq hc hf fun _ _ h => h

theorem kept_try {α : Type} {c : Method α} {handler : Exn → Method α} {post : α → Tty → Prop}
    {halt : Exn → Tty → Prop} (hc : wp c (fun _ w' => Kept w w') (fun _ w' => Kept w w') w₁)
    (hpost : ∀ a w', Kept w w' → post a w')
    (hhandler : ∀ e w', Kept w w' → wp (handler e) post halt w') : wp (handle c handler) post halt w₁ :=
  wp_try hc hpost hhandler

theorem wp_quiet (ho : o.isQuiet = true) (h : Kept w w₁) :
    wp (step place o) (fun _ w' => Kept w w') (fun e w' =>
      (∃ k, e = .osError k ∧ o.isSafe = false ∧ Kept w w') ∨ e = .cancelled ∧ Struck place w w') w₁ := by
  have hfates : ∀ fates, Kept w { w₁ with fates } := fun fates => h.trans (kept_fates w₁ fates)
  refine wp_step (fun fates f => (hfates fates).trans (kept_effect ho _ f))
    (fun fates k hsafe => Or.inl ⟨k, rfl, hsafe, (hfates fates).trans (kept_failed ho _)⟩)
    (fun fates htermios => ?_) fun w' fates f hw' => Or.inr ⟨rfl, w', ?_, rfl⟩
  · have hnot : o.isTermios = false := by
      cases o with
      | write payload secret => rfl
      | _ => simpa [Op.isQuiet] using ho
    exact nomatch hnot.symm.trans htermios
  · rcases hw' with rfl | rfl
    · exact hfates fates
    · exact (hfates fates).trans (kept_effect ho _ f)

theorem wp_tick (h : Kept w w₁) : wp (tick place) (fun _ w' => Kept w w')
    (fun e w' => e = .cancelled ∧ Struck place w w') w₁ := by
  refine wp_mono (wp_quiet rfl h) (fun _ _ h => h) fun e w' h => ?_
  rcases h with ⟨k, -, hsafe, -⟩ | h
  · exact nomatch hsafe
  · exact h

/-- Where a signal is contained, everything is as it was, however the step ends. -/
theorem wp_contained (hplace : place = .guarded ∨ place = .blocking) (ho : o.isQuiet = true)
    (h : Kept w w₁) : wp (step place o) (fun _ w' => Kept w w') (fun _ w' => Kept w w') w₁ := by
  refine wp_mono (wp_quiet ho h) (fun _ _ h => h) fun e w' h => ?_
  rcases h with ⟨k, -, -, hk⟩ | ⟨-, hstruck⟩
  · exact hk
  · exact hstruck.kept hplace

/-- An error of the terminal, after which everything is as it was. -/
def Refused (w : Tty) (e : Exn) (w' : Tty) : Prop :=
  ∃ x : OperatorTerminalError, e = .operator x ∧ x.delivery = .notStarted ∧ Kept w w'

theorem wp_raise {α : Type} {failure : OperatorTerminalFailure} {post : α → Tty → Prop}
    {halt : Exn → Tty → Prop} (h : Kept w w₁) (hhalt : ∀ e, Refused w e w₁ → halt e w₁) :
    wp (raise failure : Method α) post halt w₁ := hhalt _ ⟨_, rfl, rfl, h⟩

/-- A method that writes nothing, and that raises an error of the terminal or lets a signal pass. -/
def Tame {α : Type} (place : Place) (m : Method α) : Prop :=
  ∀ w w₁, Kept w w₁ → wp m (fun _ w' => Kept w w')
    (fun e w' => Refused w e w' ∨ e = .cancelled ∧ Struck place w w') w₁

theorem wp_checkDescriptor (h : Kept w w₁) :
    wp (checkDescriptor place) (fun _ w' => Kept w w') (fun e w' =>
      (∃ k, e = .osError k ∧ Kept w w') ∨ Refused w e w' ∨ e = .cancelled ∧ Struck place w w') w₁ := by
  have hstep : ∀ {o : Op} {w₁ : Tty}, o.isQuiet = true → Kept w w₁ →
      wp (step place o) (fun _ w' => Kept w w') (fun e w' =>
        (∃ k, e = .osError k ∧ Kept w w') ∨ Refused w e w' ∨ e = .cancelled ∧ Struck place w w') w₁ := by
    intro o w₁ ho h
    refine wp_mono (wp_quiet ho h) (fun _ _ h => h) fun e w' h => ?_
    rcases h with ⟨k, rfl, -, hk⟩ | hstruck
    · exact Or.inl ⟨k, rfl, hk⟩
    · exact Or.inr (Or.inr hstruck)
  refine wp_seq (hstep rfl h) (fun isCharacterDevice w₂ h₂ => ?_) fun _ _ h => h
  refine kept_seq ?_ fun isTerminal w₃ (h₃ : Kept w w₃) => ?_
  · split_ifs
    · exact hstep rfl h₂
    · exact h₂
  · split_ifs
    · exact wp_raise h₃ fun _ h => Or.inr (Or.inl h)
    · refine wp_seq (hstep rfl h₃) (fun inForeground w₄ h₄ => ?_) fun _ _ h => h
      split_ifs
      · exact wp_raise h₄ fun _ h => Or.inr (Or.inl h)
      · exact h₄

theorem tame_checkedFd : Tame place (checkedFd place) := by
  intro w w₁ h
  refine wp_seq (wp_tick h) (fun _ w₂ h₂ => wp_reading ?_) fun _ _ h => Or.inr h
  split_ifs
  · exact wp_raise h₂ fun _ h => Or.inl h
  · exact wp_raise h₂ fun _ h => Or.inl h
  · refine wp_try (wp_checkDescriptor h₂) (fun _ _ h => h) fun e w₃ h₃ => ?_
    rcases h₃ with ⟨k, rfl, hk⟩ | ⟨x, rfl, hx, hk⟩ | ⟨rfl, hstruck⟩
    · refine wp_seq (wp_tick hk) (fun _ w₄ h₄ => ?_) fun _ _ h => Or.inr h
      exact wp_raise h₄ fun _ h => Or.inl h
    · exact Or.inl ⟨x, rfl, hx, hk⟩
    · exact Or.inr ⟨rfl, hstruck⟩

/-! ### Cancel sessions -/

theorem wp_restoreHandler {i : CancelSignal} {handler : Handler} {attempts : Nat} (h : Kept w w₁) :
    wp (restoreHandler place i handler attempts) (fun _ w' => Kept w w')
      (fun e w' => e = .cancelled ∧ Struck place w w') w₁ := by
  induction attempts generalizing w₁ with
  | zero => exact h
  | succ attempts ih =>
    refine kept_try ?_ (fun _ _ h => h) fun e w₂ (h₂ : Kept w w₂) => ?_
    · exact wp_seq (wp_contained (Or.inl rfl) rfl h) (fun _ _ h => h) fun _ _ h => h
    · exact wp_seq (wp_tick h₂) (fun _ _ h₃ => ih h₃) fun _ _ h => h

theorem wp_restoreCancelHandlers {previous : List (CancelSignal × Handler)} (h : Kept w w₁) :
    wp (restoreCancelHandlers place previous) (fun _ w' => Kept w w')
      (fun e w' => e = .cancelled ∧ Struck place w w') w₁ := by
  induction previous generalizing w₁ with
  | nil => exact h
  | cons first previous ih =>
    refine wp_seq (wp_tick h) (fun _ w₂ h₂ => ?_) fun _ _ h => h
    refine wp_seq (wp_restoreHandler h₂) (fun restored w₃ h₃ => ?_) fun _ _ h => h
    exact wp_seq (ih h₃) (fun _ _ h => h) fun _ _ h => h

/-- What is raised has escaped: it is no error of the terminal, and a signal or a failure was such that
no clause gives the right report. -/
def Escaped (e : Exn) (w' : Tty) : Prop := (∀ x, e ≠ .operator x) ∧ ¬Reportable w'.history

theorem escaped_of_struck {e : Exn} {w' : Tty} (h : e = .cancelled ∧ Struck .unguarded w w') :
    Escaped e w' := by
  obtain ⟨rfl, hstruck⟩ := h
  exact ⟨nofun, hstruck.unguarded⟩

/-- A method that writes nothing, and that raises an error of the terminal or lets something escape. -/
def Orderly {α : Type} (m : Method α) : Prop :=
  ∀ w w₁, Kept w w₁ → wp m (fun _ w' => Kept w w') (fun e w' => Refused w e w' ∨ Escaped e w') w₁

theorem Tame.orderly {α : Type} {m : Method α} (h : Tame .unguarded m) : Orderly m := by
  intro w w₁ hw
  refine wp_mono (h w w₁ hw) (fun _ _ h => h) fun e w' h => ?_
  exact h.imp_right escaped_of_struck

theorem wp_tick_unguarded {halt : Exn → Tty → Prop} (h : Kept w w₁)
    (hhalt : ∀ e w', Escaped e w' → halt e w') :
    wp (tick .unguarded) (fun _ w' => Kept w w') halt w₁ :=
  wp_mono (wp_tick h) (fun _ _ h => h) fun e w' h => hhalt e w' (escaped_of_struck h)

theorem kept_restoreFailed (h : Kept w w₁) : Kept w { w₁ with restoreFailed := true } :=
  h.trans ⟨rfl, rfl, rfl, Iff.rfl, Iff.rfl⟩

theorem orderly_abandonInstall {previous : List (CancelSignal × Handler)} {oldMask : Mask} :
    Orderly (abandonInstall previous oldMask) := by
  intro w w₁ h
  have hescaped : ∀ e w', Escaped e w' → Refused w e w' ∨ Escaped e w' := fun _ _ h => Or.inr h
  refine wp_seq (wp_restoreCancelHandlers h) (fun restored w₂ h₂ => ?_)
    fun e w' h => Or.inr (escaped_of_struck h)
  split_ifs
  · refine kept_seq ?_ fun maskRestored w₃ (h₃ : Kept w w₃) => ?_
    · refine kept_try ?_ (fun _ _ h => h) fun e w₃ (h₃ : Kept w w₃) => ?_
      · exact wp_seq (wp_contained (Or.inl rfl) rfl h₂) (fun _ _ h => h) fun _ _ h => h
      · refine wp_seq (wp_tick_unguarded h₃ hescaped) (fun _ w₄ h₄ => ?_) fun _ _ h => h
        exact wp_writing (kept_restoreFailed h₄)
    · refine wp_seq (wp_tick_unguarded h₃ hescaped) (fun _ w₄ h₄ => ?_) fun _ _ h => h
      exact wp_raise h₄ fun _ h => Or.inl h
  · refine wp_writing (wp_seq (wp_tick_unguarded (kept_restoreFailed h₂) hescaped) (fun _ w₃ h₃ => ?_)
      fun _ _ h => h)
    exact wp_raise h₃ fun _ h => Or.inl h

theorem wp_installCancelHandlers {signals : List CancelSignal} {previous : List (CancelSignal × Handler)}
    (h : Kept w w₁) : wp (installCancelHandlers signals previous) (fun _ w' => Kept w w')
      (fun e w' => (∃ previous, e = .installFailed previous) ∧ Kept w w') w₁ := by
  induction signals generalizing w₁ previous with
  | nil => exact h
  | cons i signals ih =>
    refine kept_seq ?_ fun handler w₂ (h₂ : Kept w w₂) => ?_
    · refine wp_try (wp_contained (Or.inl rfl) rfl h) (fun _ _ h => h) fun e w' h => ⟨⟨_, rfl⟩, h⟩
    · refine kept_seq ?_ fun _ w₃ (h₃ : Kept w w₃) => ih h₃
      refine wp_try (wp_contained (Or.inl rfl) rfl h₂) (fun _ _ h => h) fun e w' h => ⟨⟨_, rfl⟩, h⟩

theorem orderly_beginCancelSession : Orderly beginCancelSession := by
  intro w w₁ h
  have hescaped : ∀ e w', Escaped e w' → Refused w e w' ∨ Escaped e w' := fun _ _ h => Or.inr h
  refine wp_seq (wp_tick_unguarded h hescaped) (fun _ w₂ h₂ => ?_) fun _ _ h => h
  refine kept_seq ?_ fun oldMask w₃ (h₃ : Kept w w₃) => ?_
  · refine wp_try (wp_contained (Or.inr rfl) rfl h₂) (fun _ _ h => h) fun e w₃ h₃ => ?_
    refine wp_seq (wp_tick_unguarded h₃ hescaped) (fun _ w₄ h₄ => ?_) fun _ _ h => h
    exact wp_raise h₄ fun _ h => Or.inl h
  · refine kept_seq ?_ fun _ w' (h : Kept w w') => h
    refine wp_try (wp_installCancelHandlers h₃) (fun _ _ h => h) fun e w₄ h₄ => ?_
    obtain ⟨⟨previous, rfl⟩, hk⟩ := h₄
    exact orderly_abandonInstall w w₄ hk

theorem tame_activateCancelSession {session : CancelSession} :
    Tame .passedOn (activateCancelSession session) := by
  intro w w₁ h
  refine wp_seq (wp_tick h) (fun _ w₂ h₂ => ?_) fun _ _ h => Or.inr h
  refine wp_try (wp_quiet rfl h₂) (fun _ _ h => h) fun e w₃ h₃ => ?_
  rcases h₃ with ⟨k, rfl, -, hk⟩ | ⟨rfl, hstruck⟩
  · refine wp_seq (wp_tick hk) (fun _ w₄ h₄ => ?_) fun _ _ h => Or.inr h
    exact wp_raise h₄ fun _ h => Or.inl h
  · exact Or.inr ⟨rfl, hstruck⟩

theorem orderly_endCancelSession {session : CancelSession} : Orderly (endCancelSession session) := by
  intro w w₁ h
  have hescaped : ∀ e w', Escaped e w' → Refused w e w' ∨ Escaped e w' := fun _ _ h => Or.inr h
  refine wp_seq (wp_tick_unguarded h hescaped) (fun _ w₂ h₂ => ?_) fun _ _ h => h
  refine kept_seq ?_ fun blocked w₃ (h₃ : Kept w w₃) => ?_
  · refine kept_try ?_ (fun _ _ h => h) fun e w₃ (h₃ : Kept w w₃) => ?_
    · exact wp_seq (wp_contained (Or.inl rfl) rfl h₂) (fun _ _ h => h) fun _ _ h => h
    · exact wp_seq (wp_tick_unguarded h₃ hescaped) (fun _ _ h => h) fun _ _ h => h
  refine wp_seq (wp_tick_unguarded h₃ hescaped) (fun _ w₄ h₄ => ?_) fun _ _ h => h
  refine kept_seq ?_ fun restored w₅ (h₅ : Kept w w₅) => ?_
  · refine wp_try (wp_restoreCancelHandlers h₄) (fun _ _ h => h) ?_
    rintro e w₅ ⟨rfl, hstruck⟩
    exact wp_seq (wp_tick_unguarded (hstruck.kept (Or.inl rfl)) hescaped) (fun _ _ h => h) fun _ _ h => h
  refine wp_seq (wp_tick_unguarded h₅ hescaped) (fun _ w₆ h₆ => ?_) fun _ _ h => h
  refine kept_seq ?_ fun _ w₇ (h₇ : Kept w w₇) => ?_
  · cases restored with
    | true => exact h₆
    | false => exact kept_restoreFailed h₆
  refine kept_seq ?_ fun unmasked w₈ (h₈ : Kept w w₈) => ?_
  · refine kept_try ?_ (fun _ _ h => h) fun e w₈ (h₈ : Kept w w₈) => ?_
    · split_ifs
      · exact wp_seq (wp_contained (Or.inl rfl) rfl h₇) (fun _ _ h => h) fun _ _ h => h
      · exact h₇
    · refine wp_seq (wp_tick_unguarded h₈ hescaped) (fun _ w₉ h₉ => ?_) fun _ _ h => h
      exact wp_writing (kept_restoreFailed h₉)
  refine wp_seq (wp_tick_unguarded h₈ hescaped) (fun _ w₉ h₉ => ?_) fun _ _ h => h
  split_ifs
  · exact h₉
  · exact wp_reading (wp_raise h₉ fun _ h => Or.inl h)

end Steps

/-! ### The write -/

/-- In a secret write that has begun in `w`: so much of the payload was accepted, what is known of the
attempt is right, and everything that happened is reported rightly. -/
structure Writing (w : Tty) (accepted : Bytes) (w' : Tty) : Prop where
  output : w'.output = w.output ++ accepted
  tried : .secretWrite ∈ w'.history → w'.locals.secretWriteAttempted = true
  failure : w'.locals.failure = w.locals.failure
  cleanupFailure : w'.locals.cleanupFailure = w.locals.cleanupFailure
  reportable : Reportable w'.history

section Write
variable {place : Place} {w w₁ w₂ : Tty} {accepted : Bytes}

theorem Writing.kept {a b c : Tty} {bytes : Bytes} (h : Writing a bytes b) (h' : Kept b c) :
    Writing a bytes c where
  output := h'.output.trans h.output
  tried := fun htried => h'.locals ▸ h.tried (h'.tried.mp htried)
  failure := (congrArg _ h'.locals).trans h.failure
  cleanupFailure := (congrArg _ h'.locals).trans h.cleanupFailure
  reportable := h'.reportable.mpr h.reportable

/-- What the `try` of a secret write stops with. -/
def WriteStopped (w : Tty) (e : Exn) (w' : Tty) : Prop :=
  (∃ x : OperatorTerminalError, e = .operator x ∧ x.delivery = .notStarted ∧
    ∃ bytes, Writing w bytes w') ∨
  ((e = .cancelled ∨ ∃ k, e = .osError k) ∧ ∃ bytes, Writing w bytes w') ∨
  e = .termiosError ∧ ¬Reportable w'.history

theorem writeStopped_check {e : Exn} {w' : Tty} (h : Writing w accepted w₁)
    (hstop : Refused w₁ e w' ∨ e = .cancelled ∧ Struck .guarded w₁ w') : WriteStopped w e w' := by
  rcases hstop with ⟨x, rfl, hx, hk⟩ | ⟨rfl, hstruck⟩
  · exact Or.inl ⟨x, rfl, hx, accepted, h.kept hk⟩
  · exact Or.inr (Or.inl ⟨Or.inl rfl, accepted, h.kept (hstruck.kept (Or.inl rfl))⟩)

/-- One system call of a secret write. -/
theorem wp_secretWrite {bytes : Bytes} (h : Writing w accepted w₁)
    (hflag : w₁.locals.secretWriteAttempted = true) :
    wp (step .guarded (.write bytes true))
      (fun n w' => n ≤ bytes.length ∧ Writing w (accepted ++ bytes.take n) w') (WriteStopped w) w₁ := by
  have hstopped : ∀ (e : Exn) (w' : Tty) (bytes : Bytes), (e = .cancelled ∨ ∃ k, e = .osError k) →
      Writing w bytes w' → WriteStopped w e w' := fun e w' bytes he hw' => Or.inr (Or.inl ⟨he, bytes, hw'⟩)
  have hdone : ∀ fates f, Writing w (accepted ++ bytes.take (moved bytes.length f))
      (effect { w₁ with fates } (.write bytes true) f).2 := by
    intro fates f
    refine ⟨?_, fun _ => hflag, h.failure, h.cleanupFailure, ?_⟩
    · rw [← List.append_assoc, ← h.output]
      rfl
    · exact ⟨nofun, h.reportable⟩
  refine wp_step (fun fates f => ⟨?_, hdone fates f⟩) (fun fates e _ => ?_) (fun _ h => nomatch h)
    fun w' fates f hw' => ?_
  · show moved bytes.length f ≤ bytes.length
    unfold moved
    split <;> omega
  · refine hstopped _ _ accepted (Or.inr ⟨e, rfl⟩) ⟨h.output, fun _ => hflag, h.failure, h.cleanupFailure, ?_⟩
    exact ⟨nofun, h.reportable⟩
  · have hnote : ∀ {w' : Tty} {bytes : Bytes}, Writing w bytes w' →
        Writing w bytes (w'.note (.cancelled .guarded)) := by
      intro w' bytes h
      refine ⟨h.output, fun hmem => h.tried ?_, h.failure, h.cleanupFailure, nofun, h.reportable⟩
      simpa [Tty.note] using hmem
    rcases hw' with rfl | rfl
    · have hw' : Writing w accepted { w₁ with fates } := h.kept (kept_fates w₁ fates)
      exact hstopped _ _ accepted (Or.inl rfl) (hnote hw')
    · exact hstopped _ _ _ (Or.inl rfl) (hnote (hdone fates f))

/-- The induction is on what is left of the payload. -/
theorem wp_writeLoop {rest : Bytes} {skip : Nat} (h : Writing w accepted w₁) :
    wp (writeLoop true rest skip) (fun _ w' => Writing w (accepted ++ rest.drop skip) w')
      (WriteStopped w) w₁ := by
  induction rest generalizing skip accepted w₁ with
  | nil =>
    rw [List.drop_nil, List.append_nil]
    exact h
  | cons b rest ih =>
    cases skip with
    | succ skip => exact ih h
    | zero =>
      refine wp_seq (tame_checkedFd w₁ w₁ (Kept.refl w₁)) (fun _ w₂ h₂ => ?_)
        fun _ _ hstop => writeStopped_check h hstop
      have hw₂ : Writing w accepted w₂ := h.kept h₂
      -- the attempt is noted before the call
      refine wp_writing ?_
      have hflag : Writing w accepted
          { w₂ with locals := { w₂.locals with secretWriteAttempted := true } } :=
        ⟨hw₂.output, fun _ => rfl, hw₂.failure, hw₂.cleanupFailure, hw₂.reportable⟩
      refine wp_seq (wp_secretWrite hflag rfl) ?_ fun _ _ h => h
      rintro count w₃ ⟨hcount, hw₃⟩
      split_ifs with hzero
      · exact Or.inr (Or.inl ⟨Or.inr ⟨_, rfl⟩, _, hw₃⟩)
      · have hbytes : b :: rest = (b :: rest).take count ++ rest.drop (count - 1) := by
          obtain ⟨n, rfl⟩ := Nat.exists_eq_succ_of_ne_zero hzero
          simp
        rw [List.drop_zero, hbytes, ← List.append_assoc]
        exact ih hw₃

/-- The error says rightly whether a secret write was tried. -/
def Reported (w : Tty) (x : OperatorTerminalError) (w' : Tty) : Prop :=
  (∃ bytes, Writing w bytes w') ∧
  (x.delivery = .notStarted ∧ .secretWrite ∉ w'.history ∨ x.delivery = .mayHaveDisclosed)

/-- A signal has passed to the caller, whose report is right only if no secret write was tried. -/
def Missed (w w' : Tty) : Prop :=
  w'.locals.failure = w.locals.failure ∧ w'.locals.cleanupFailure = w.locals.cleanupFailure ∧
  (Reportable w'.history ↔ .secretWrite ∉ w'.history)

/-- What a secret write raises. -/
def WriteHalted (place : Place) (w : Tty) (e : Exn) (w' : Tty) : Prop :=
  (∃ x, e = .operator x ∧ Reported w x w') ∨ (place = .passedOn ∧ e = .cancelled ∧ Missed w w') ∨
    (Escaped e w' ∧ (e = .termiosError ∨ place = .unguarded))

/-- A signal outside of the `try` of a secret write. -/
theorem writeHalted_struck (hplace : place = .passedOn ∨ place = .unguarded) (h : Writing w accepted w₁)
    {e : Exn} {w' : Tty} (hstruck : e = .cancelled ∧ Struck place w₁ w') : WriteHalted place w e w' := by
  obtain ⟨rfl, hstruck⟩ := hstruck
  rcases hplace with rfl | rfl
  · refine Or.inr (Or.inl ⟨rfl, rfl, ?_⟩)
    obtain ⟨htried, hreportable⟩ := hstruck.passedOn
    have hlocals : w'.locals = w₁.locals := by
      obtain ⟨w₂, hw₂, rfl⟩ := hstruck
      exact hw₂.locals
    refine ⟨hlocals ▸ h.failure, hlocals ▸ h.cleanupFailure, ?_⟩
    rw [hreportable, htried]
    exact ⟨And.left, fun hnot => ⟨hnot, h.reportable⟩⟩
  · exact Or.inr (Or.inr ⟨escaped_of_struck ⟨rfl, hstruck⟩, Or.inr rfl⟩)

/-- The errors of the clauses, which look at the attempt. -/
theorem reported_clause (h : Writing w accepted w₁) {x : OperatorTerminalError}
    (hx : x.delivery = .notStarted) : (w₁.locals.secretWriteAttempted = true →
      Reported w ⟨.outputUncertain, .mayHaveDisclosed⟩ w₁) ∧
    (¬w₁.locals.secretWriteAttempted = true → Reported w x w₁) := by
  refine ⟨fun _ => ⟨⟨_, h⟩, Or.inr rfl⟩, fun hnot => ⟨⟨_, h⟩, Or.inl ⟨hx, fun htried => ?_⟩⟩⟩
  exact hnot (h.tried htried)

theorem wp_writeError {failure : OperatorTerminalFailure} (h : Writing w accepted w₁) :
    wp (writeError true failure) (fun _ _ => False) (WriteHalted place w) w₁ := by
  obtain ⟨hattempted, hnot⟩ := reported_clause h (x := ⟨failure, .notStarted⟩) rfl
  refine wp_reading ?_
  split_ifs with hflag
  · exact Or.inl ⟨_, rfl, hattempted hflag.2⟩
  · exact Or.inl ⟨_, rfl, hnot fun h => hflag ⟨rfl, h⟩⟩

theorem wp_writeAndDrain {bytes : Bytes} (h : Writing w [] w₁) :
    wp (writeAndDrain bytes true) (fun _ w' => Writing w bytes w' ∧ w'.drained = true)
      (WriteStopped w) w₁ := by
  refine wp_seq (wp_writeLoop h) (fun _ w₂ h₂ => ?_) fun _ _ h => h
  rw [List.nil_append, List.drop_zero] at h₂
  refine wp_seq (tame_checkedFd w₂ w₂ (Kept.refl w₂)) (fun _ w₃ h₃ => ?_)
    fun _ _ hstop => writeStopped_check h₂ hstop
  have hw₃ : Writing w bytes w₃ := h₂.kept h₃
  have hdone : ∀ fates f, Writing w bytes (effect { w₃ with fates } .tcdrain f).2 := fun _ _ =>
    ⟨hw₃.output, hw₃.tried, hw₃.failure, hw₃.cleanupFailure, hw₃.reportable⟩
  refine wp_step (fun fates f => ⟨hdone fates f, rfl⟩) (fun fates e _ => ?_) (fun fates _ => ?_)
    fun w' fates f hw' => ?_
  · exact Or.inr (Or.inl ⟨Or.inr ⟨e, rfl⟩, bytes, hw₃.kept (kept_fates w₃ fates)⟩)
  · exact Or.inr (Or.inr ⟨rfl, fun h => h.1 trivial⟩)
  · refine Or.inr (Or.inl ⟨Or.inl rfl, bytes, ?_⟩)
    have hw : Writing w bytes w' := by
      rcases hw' with rfl | rfl
      · exact hw₃.kept (kept_fates w₃ fates)
      · exact hdone fates f
    refine ⟨hw.output, fun hmem => hw.tried ?_, hw.failure, hw.cleanupFailure, nofun, hw.reportable⟩
    simpa [Tty.note] using hmem

theorem wp_writeClauses (hplace : place = .passedOn ∨ place = .unguarded) {e : Exn}
    (h : WriteStopped w e w₁) :
    wp (writeClauses true place e) (fun _ _ => False) (WriteHalted place w) w₁ := by
  -- a clause begins between two steps, and it looks at the attempt
  have hclause : ∀ {bytes : Bytes} {failure : OperatorTerminalFailure}, Writing w bytes w₁ →
      wp (tick place >>= fun _ => writeError true failure) (fun _ _ => False) (WriteHalted place w) w₁ := by
    intro bytes failure hw
    refine wp_seq (wp_tick (Kept.refl w₁)) (fun _ w₂ h₂ => wp_writeError (hw.kept h₂)) fun e w' hs => ?_
    exact writeHalted_struck hplace hw hs
  rcases h with ⟨x, rfl, hx, bytes, hw⟩ | ⟨rfl | ⟨k, rfl⟩, bytes, hw⟩ | ⟨rfl, hnot⟩
  · refine wp_seq (wp_tick (Kept.refl w₁)) (fun _ w₂ h₂ => wp_reading ?_)
      fun e w' hs => writeHalted_struck hplace hw hs
    obtain ⟨hattempted, hnot⟩ := reported_clause (hw.kept h₂) hx
    split_ifs with hflag
    · exact Or.inl ⟨_, rfl, hattempted hflag.2⟩
    · exact Or.inl ⟨_, rfl, hnot fun h => hflag ⟨rfl, h⟩⟩
  · exact hclause hw
  · cases k with
    | interrupted => exact hclause hw
    | permission | noDevice | other => exact hclause hw
  · exact Or.inr (Or.inr ⟨⟨nofun, hnot⟩, Or.inl rfl⟩)

theorem wp_writeUnlocked {bytes : Bytes} (hplace : place = .passedOn ∨ place = .unguarded)
    (h : Kept w w₁) (htried : .secretWrite ∉ w.history) (hreportable : Reportable w.history) :
    wp (writeUnlocked bytes true place)
      (fun _ w' => Writing w bytes w' ∧ w'.drained = true) (WriteHalted place w) w₁ := by
  have hstart : ∀ w', Kept w w' → Writing w [] w' := by
    intro w' h
    refine ⟨by rw [h.output, List.append_nil], fun hmem => absurd (h.tried.mp hmem) htried,
      congrArg _ h.locals, congrArg _ h.locals, h.reportable.mpr hreportable⟩
  refine wp_seq (wp_tick (Kept.refl w₁)) (fun _ w₂ h₂ => wp_writing ?_)
    fun e w' hs => writeHalted_struck hplace (hstart w₁ h) hs
  have hw₂ : Writing w []
      { w₂ with locals := { w₂.locals with secretWriteAttempted := false } } := by
    have hw := hstart w₂ (h.trans h₂)
    refine ⟨hw.output, fun hmem => absurd ?_ htried, hw.failure, hw.cleanupFailure, hw.reportable⟩
    exact (h.trans h₂).tried.mp hmem
  have hwritten : ∀ w₃, Writing w bytes w₃ ∧ w₃.drained = true →
      wp (tick place) (fun _ w' => Writing w bytes w' ∧ w'.drained = true) (WriteHalted place w) w₃ := by
    rintro w₃ ⟨hw₃, hdrained⟩
    refine wp_mono (wp_tick (Kept.refl w₃)) (fun _ w' h' => ⟨hw₃.kept h', h'.drained.trans hdrained⟩) ?_
    exact fun e w' hs => writeHalted_struck hplace hw₃ hs
  rw [wp_bind]
  refine wp_try (wp_writeAndDrain hw₂) (fun _ w₃ h₃ => hwritten w₃ h₃) fun e w₃ h₃ => ?_
  exact wp_mono (wp_writeClauses hplace h₃) (fun _ _ h => h.elim) fun _ _ h => h

end Write

/-! ### The disclosure -/

section Disclosure
variable {w w₁ w₂ : Tty} {bytes : Bytes}

/-- The error is right about the secret write, or something was misreported and it is wrong. -/
def Told (x : OperatorTerminalError) (h : List Event) : Prop :=
  Reportable h ∧ (x.delivery = .notStarted ∧ .secretWrite ∉ h ∨ x.delivery = .mayHaveDisclosed) ∨
  ¬Reportable h ∧ .secretWrite ∈ h ∧ x.delivery = .notStarted

/-- What a disclosure raises. -/
def Halted (e : Exn) (w' : Tty) : Prop := (∃ x, e = .operator x ∧ Told x w'.history) ∨ Escaped e w'

/-- What a disclosure that returns has done. -/
def Shown (w : Tty) (bytes : Bytes) (w' : Tty) : Prop :=
  w'.output = w.output ++ bytes ∧ w'.drained = true ∧ Reportable w'.history

theorem Told.kept {x : OperatorTerminalError} (h : Told x w₁.history) (hk : Kept w₁ w₂) :
    Told x w₂.history := by
  rw [Told, hk.tried, hk.reportable]
  exact h

theorem Escaped.kept {e : Exn} (h : Escaped e w₁) (hk : Kept w₁ w₂) : Escaped e w₂ :=
  ⟨h.1, fun hreportable => h.2 (hk.reportable.mp hreportable)⟩

theorem Halted.kept {e : Exn} (h : Halted e w₁) (hk : Kept w₁ w₂) : Halted e w₂ := by
  rcases h with ⟨x, rfl, hx⟩ | h
  · exact Or.inl ⟨x, rfl, hx.kept hk⟩
  · exact Or.inr (h.kept hk)

theorem Shown.kept (h : Shown w bytes w₁) (hk : Kept w₁ w₂) : Shown w bytes w₂ :=
  ⟨hk.output.trans h.1, hk.drained.trans h.2.1, hk.reportable.mpr h.2.2⟩

/-- A refusal before anything was tried is told rightly. -/
theorem halted_refused {e : Exn} (h : Refused w e w₁) (htried : .secretWrite ∉ w.history)
    (hreportable : Reportable w.history) : Halted e w₁ := by
  obtain ⟨x, rfl, hx, hk⟩ := h
  refine Or.inl ⟨x, rfl, Or.inl ⟨hk.reportable.mpr hreportable, Or.inl ⟨hx, fun h => ?_⟩⟩⟩
  exact htried (hk.tried.mp h)

theorem halted_written {place : Place} {e : Exn} (h : WriteHalted place w e w₁)
    (hplace : place ≠ .passedOn) : Halted e w₁ := by
  rcases h with ⟨x, rfl, ⟨bytes, hw⟩, hx⟩ | ⟨hpassed, -⟩ | h
  · exact Or.inl ⟨x, rfl, Or.inl ⟨hw.reportable, hx⟩⟩
  · exact absurd hpassed hplace
  · exact Or.inr h.1

/-- The local variables after the write: no failure where everything was shown, and otherwise a failure
that tells what happened. -/
structure Settled (w : Tty) (bytes : Bytes) (w' : Tty) : Prop where
  shown : w'.locals.failure = none → Shown w bytes w'
  told : ∀ x, w'.locals.failure = some x → Told x w'.history
  cleanup : ∀ x, w'.locals.cleanupFailure = some x → x.delivery = .notStarted

theorem Settled.kept (h : Settled w bytes w₁) (hk : Kept w₁ w₂) : Settled w bytes w₂ where
  shown := fun hnone => (h.shown (hk.locals ▸ hnone)).kept hk
  told := fun x hx => (h.told x (hk.locals ▸ hx)).kept hk
  cleanup := fun x hx => h.cleanup x (hk.locals ▸ hx)

/-- A clause that records the failure. -/
theorem wp_record {x : OperatorTerminalError} (htold : Told x w₁.history)
    (hcleanup : w₁.locals.cleanupFailure = none) :
    wp (tick .unguarded >>= fun _ => setFailure x) (fun _ w' => Settled w bytes w') Escaped w₁ := by
  refine wp_seq (wp_tick_unguarded (Kept.refl w₁) fun _ _ h => h) (fun _ w₂ h₂ => ?_) fun _ _ h => h
  refine ⟨nofun, fun y hy => ?_, fun y hy => ?_⟩
  · obtain rfl := Option.some.inj hy
    have htold' : Told x w₂.history := htold.kept h₂
    exact htold'
  · have hnone : w₂.locals.cleanupFailure = none := h₂.locals ▸ hcleanup
    exact nomatch hnone.symm.trans hy

/-- The write with the clauses around it. -/
theorem wp_discloseBody {session : CancelSession} (h : Kept w w₁) (hfailure : w.locals.failure = none)
    (hcleanup : w.locals.cleanupFailure = none) (htried : .secretWrite ∉ w.history)
    (hreportable : Reportable w.history) :
    wp (handle (activateCancelSession session >>= fun _ => writeUnlocked bytes true .passedOn)
      discloseClauses) (fun _ w' => Settled w bytes w') Escaped w₁ := by
  have hpassed : ∀ {w' : Tty}, Missed w w' → Told { failure := .cancelled } w'.history := by
    rintro w' ⟨-, -, hmissed⟩
    by_cases hr : Reportable w'.history
    · exact Or.inl ⟨hr, Or.inl ⟨rfl, hmissed.mp hr⟩⟩
    · exact Or.inr ⟨hr, not_not.mp fun hnot => hr (hmissed.mpr hnot), rfl⟩
  have hbody : wp (activateCancelSession session >>= fun _ => writeUnlocked bytes true .passedOn)
      (fun _ w' => Writing w bytes w' ∧ w'.drained = true) (WriteHalted .passedOn w) w₁ := by
    refine wp_seq (tame_activateCancelSession w w₁ h)
      (fun _ w₂ h₂ => wp_writeUnlocked (Or.inl rfl) h₂ htried hreportable) fun e w' hstop => ?_
    have hw : Writing w [] w := ⟨(List.append_nil _).symm, fun h => absurd h htried, rfl, rfl, hreportable⟩
    rcases hstop with ⟨x, rfl, hx, hk⟩ | hstruck
    · exact Or.inl ⟨x, rfl, ⟨[], hw.kept hk⟩, Or.inl ⟨hx, fun h => htried (hk.tried.mp h)⟩⟩
    · exact writeHalted_struck (Or.inl rfl) hw hstruck
  refine wp_try hbody ?_ fun e w₂ h₂ => ?_
  · rintro _ w₂ ⟨hw, hdrained⟩
    refine ⟨fun _ => ⟨hw.output, hdrained, hw.reportable⟩, fun x hx => ?_, fun x hx => ?_⟩
    · exact nomatch (hw.failure.trans hfailure).symm.trans hx
    · exact nomatch (hw.cleanupFailure.trans hcleanup).symm.trans hx
  · rcases h₂ with ⟨x, rfl, ⟨_, hw⟩, hx⟩ | ⟨-, rfl, hmissed⟩ | ⟨hescaped, rfl | hplace⟩
    · exact wp_record (Or.inl ⟨hw.reportable, hx⟩) (hw.cleanupFailure.trans hcleanup)
    · exact wp_record (hpassed hmissed) (hmissed.2.1.trans hcleanup)
    · exact hescaped
    · exact nomatch hplace

theorem wp_discloseFinally {session : CancelSession} (h : Settled w bytes w₁) :
    wp (discloseFinally session) (fun _ w' => Settled w bytes w') Escaped w₁ := by
  refine wp_seq (wp_tick_unguarded (Kept.refl w₁) fun _ _ h => h) (fun _ w₂ h₂ => ?_) fun _ _ h => h
  refine wp_try (orderly_endCancelSession w₁ w₂ h₂) (fun _ _ hk => h.kept hk) fun e w₃ h₃ => ?_
  rcases h₃ with ⟨x, rfl, hx, hk⟩ | hescaped
  · refine wp_seq (wp_tick_unguarded hk fun _ _ h => h) (fun _ w₄ h₄ => ?_) fun _ _ h => h
    have hw₄ : Settled w bytes w₄ := h.kept h₄
    refine ⟨hw₄.shown, hw₄.told, fun y hy => ?_⟩
    obtain rfl := Option.some.inj hy
    exact hx
  · cases e with
    | operator x => exact absurd rfl (hescaped.1 x)
    | cancelled | osError k | installFailed previous | termiosError | unicodeError => exact hescaped

/-- What has escaped goes on through the `finally`. -/
theorem wp_discloseFinally_escaped {session : CancelSession} {e : Exn} (h : Escaped e w₁) :
    wp (discloseFinally session) (fun _ w' => Escaped e w') Escaped w₁ := by
  refine wp_seq (wp_tick_unguarded (Kept.refl w₁) fun _ _ h => h) (fun _ w₂ h₂ => ?_) fun _ _ h => h
  refine wp_try (orderly_endCancelSession w₁ w₂ h₂) (fun _ _ hk => h.kept hk) fun e' w₃ h₃ => ?_
  rcases h₃ with ⟨x, rfl, hx, hk⟩ | hescaped
  · refine wp_seq (wp_tick_unguarded hk fun _ _ h => h) (fun _ w₄ h₄ => ?_) fun _ _ h => h
    exact ⟨h.1, fun hreportable => h.2 (h₄.reportable.mp hreportable)⟩
  · cases e' with
    | operator x => exact absurd rfl (hescaped.1 x)
    | cancelled | osError k | installFailed previous | termiosError | unicodeError => exact hescaped

/-- The write with its clauses and its `finally`. -/
theorem wp_disclosing {session : CancelSession} (h : Kept w w₁) (hfailure : w.locals.failure = none)
    (hcleanup : w.locals.cleanupFailure = none) (htried : .secretWrite ∉ w.history)
    (hreportable : Reportable w.history) :
    wp (lastly (handle (activateCancelSession session >>= fun _ => writeUnlocked bytes true .passedOn)
      discloseClauses) (discloseFinally session)) (fun _ w' => Settled w bytes w') Escaped w₁ :=
  wp_last (wp_discloseBody h hfailure hcleanup htried hreportable)
    (fun _ _ h₂ => wp_discloseFinally h₂) fun _ _ h₂ => wp_discloseFinally_escaped h₂

/-- What is made of the failures. -/
theorem wp_discloseResult (h : Settled w bytes w₁) :
    wp (discloseResult w₁.locals.failure w₁.locals.cleanupFailure) (fun _ w' => Shown w bytes w') Halted
      w₁ := by
  -- after a failure that says that nothing was tried, the cleanup can only take its place
  have hnot : ∀ {x y : OperatorTerminalError}, Told x w₁.history → x.delivery = .notStarted →
      y.delivery = .notStarted → Halted (.operator y) w₁ := by
    rintro x y (⟨hr, ⟨-, hmem⟩ | hmay⟩ | ⟨hr, hmem, -⟩) hx hy
    · exact Or.inl ⟨y, rfl, Or.inl ⟨hr, Or.inl ⟨hy, hmem⟩⟩⟩
    · exact nomatch hmay.symm.trans hx
    · exact Or.inl ⟨y, rfl, Or.inr ⟨hr, hmem, hy⟩⟩
  have hmay : ∀ {x : OperatorTerminalError}, Told x w₁.history → x.delivery ≠ .notStarted →
      Halted (.operator ⟨.outputUncertain, .mayHaveDisclosed⟩) w₁ := by
    rintro x (⟨hr, -⟩ | ⟨-, -, hx⟩) hne
    · exact Or.inl ⟨_, rfl, Or.inl ⟨hr, Or.inr rfl⟩⟩
    · exact absurd hx hne
  cases hfailure : w₁.locals.failure with
  | none =>
    cases hcleanup : w₁.locals.cleanupFailure with
    | none => exact h.shown hfailure
    | some c => exact Or.inl ⟨_, rfl, Or.inl ⟨(h.shown hfailure).2.2, Or.inr rfl⟩⟩
  | some x =>
    have htold : Told x w₁.history := h.told x hfailure
    cases hcleanup : w₁.locals.cleanupFailure with
    | none =>
      simp only [discloseResult]
      split_ifs with hx
      · exact hmay htold hx
      · exact hnot htold (not_not.mp hx) (not_not.mp hx)
    | some c =>
      simp only [discloseResult]
      split_ifs with hx
      · exact hmay htold hx
      · exact hnot htold (not_not.mp hx) (h.cleanup c hcleanup)
      · exact hnot htold (not_not.mp hx) (not_not.mp hx)

theorem wp_discloseMain (htried : .secretWrite ∉ w.history) (hreportable : Reportable w.history) :
    wp (discloseMain bytes) (fun _ w' => Shown w bytes w') Halted w := by
  refine wp_writing ?_
  have hescaped : ∀ e w', Escaped e w' → Halted e w' := fun _ _ h => Or.inr h
  -- the local variables are new
  refine wp_seq (orderly_beginCancelSession _ _ (Kept.refl _)) (fun session w₁ h₁ => ?_) fun e w' h => ?_
  · refine wp_seq (wp_disclosing h₁ rfl rfl htried hreportable) (fun _ w₂ h₂ => ?_) hescaped
    refine wp_seq (wp_tick_unguarded (Kept.refl w₂) hescaped) (fun _ w₃ h₃ => wp_reading ?_) fun _ _ h => h
    exact wp_mono (wp_discloseResult (h₂.kept h₃)) (fun _ _ h => h) fun _ _ h => h
  · rcases h with hrefused | h
    · exact halted_refused hrefused htried hreportable
    · exact Or.inr h

theorem wp_discloseUnlocked {fields : List SecretField} (htried : .secretWrite ∉ w.history)
    (hreportable : Reportable w.history) :
    wp (discloseUnlocked fields)
      (fun _ w' => ∃ bytes, payload fields = some bytes ∧ Shown w bytes w') Halted w := by
  unfold discloseUnlocked
  cases hpayload : payload fields with
  | none => exact halted_refused ⟨_, rfl, rfl, Kept.refl w⟩ htried hreportable
  | some bytes =>
    refine wp_reading ?_
    split_ifs
    · exact wp_mono (wp_discloseMain htried hreportable) (fun _ _ h => ⟨bytes, rfl, h⟩) fun _ _ h => h
    · -- no signal is handled in a thread that is not the main one
      refine wp_mono (wp_writeUnlocked (Or.inr rfl) (Kept.refl w) htried hreportable) ?_
        fun e w' h => halted_written h nofun
      rintro _ w' ⟨hw, hdrained⟩
      exact ⟨bytes, rfl, hw.output, hdrained, hw.reportable⟩

/-- What an operation adds to its body. -/
theorem wp_operation {mainThread : Bool} {body : Method Unit} {bytes : Option Bytes}
    (htried : .secretWrite ∉ w.history) (hreportable : Reportable w.history)
    (hbody : ∀ w', Kept w w' → wp body (fun _ w'' => ∃ b, bytes = some b ∧ Shown w' b w'') Halted w') :
    wp (operation mainThread body) (fun _ w' => ∃ b, bytes = some b ∧ Shown w b w') Halted w := by
  have hescaped : ∀ e w', Escaped e w' → Halted e w' := fun _ _ h => Or.inr h
  have hstopped : ∀ e w', Refused w e w' ∨ Escaped e w' → Halted e w' := by
    rintro e w' (h | h)
    · exact halted_refused h htried hreportable
    · exact Or.inr h
  have hunlock : ∀ {w' : Tty} (b : Bool), Kept w' { w' with operationLock := b } :=
    fun _ => ⟨rfl, rfl, rfl, Iff.rfl, Iff.rfl⟩
  refine wp_seq (tame_checkedFd.orderly w w (Kept.refl w)) (fun _ w₁ h₁ => wp_reading ?_) hstopped
  split_ifs
  · exact wp_raise h₁ fun e h => hstopped e w₁ (Or.inl h)
  · exact wp_raise h₁ fun e h => hstopped e w₁ (Or.inl h)
  · refine wp_writing ?_
    refine wp_seq (wp_tick_unguarded (h₁.trans (hunlock true)) hescaped) (fun _ w₂ h₂ => ?_) fun _ _ h => h
    refine wp_last (hbody w₂ h₂) (fun _ w₃ h₃ => ?_) fun e w₃ h₃ => ?_
    · obtain ⟨b, hb, hshown⟩ := h₃
      refine wp_seq (wp_tick_unguarded (Kept.refl w₃) hescaped) (fun _ w₄ h₄ => ?_) fun _ _ h => h
      have hw₄ : Shown w₂ b { w₄ with operationLock := false } := hshown.kept (h₄.trans (hunlock false))
      refine ⟨b, hb, ?_, hw₄.2⟩
      rw [← h₂.output]
      exact hw₄.1
    · refine wp_seq (wp_tick_unguarded (Kept.refl w₃) hescaped) (fun _ w₄ h₄ => ?_) fun _ _ h => h
      exact h₃.kept (h₄.trans (hunlock false))

/-- A disclosure is reported honestly exactly where everything that happened in it is reportable. -/
theorem disclosure_honest (w : Tty) (fields : List SecretField) :
    let w₀ := { w with history := [] }
    let r := disclose fields w₀
    Honest (payload fields) w₀ r.2 r.1 ↔ Reportable r.2.history := by
  intro w₀ r
  have htried : .secretWrite ∉ w₀.history := nofun
  have hreportable : Reportable w₀.history := trivial
  have hwp : wp (disclose fields) (fun _ w' => ∃ b, payload fields = some b ∧ Shown w₀ b w') Halted w₀ := by
    refine wp_operation htried hreportable fun w' hw' => ?_
    exact wp_discloseUnlocked (fun h => htried (hw'.tried.mp h)) (hw'.reportable.mpr hreportable)
  obtain ⟨hpost, hhalt⟩ := wp_iff.mp hwp
  show Honest (payload fields) w₀ (disclose fields w₀).2 (disclose fields w₀).1 ↔
    Reportable (disclose fields w₀).2.history
  rcases hr : (disclose fields w₀).1 with e | u
  · rcases hhalt e hr with ⟨x, rfl, htold⟩ | ⟨hnot, hescaped⟩
    · rcases htold with ⟨hrep, ⟨hx, hmem⟩ | hx⟩ | ⟨hrep, hmem, hx⟩
      · exact ⟨fun _ => hrep, fun _ => ⟨fun _ => hmem, fun h => absurd h hmem⟩⟩
      · exact ⟨fun _ => hrep, fun _ => ⟨fun h => absurd (hx.symm.trans h) nofun, fun _ => hx⟩⟩
      · exact ⟨fun h => absurd hmem (h.1 hx), fun h => absurd h hrep⟩
    · refine ⟨fun h => ?_, fun h => absurd h hescaped⟩
      cases e with
      | operator x => exact absurd rfl (hnot x)
      | cancelled | osError k | installFailed previous | termiosError | unicodeError => exact h.elim
  · obtain ⟨b, hb, houtput, hdrained, hrep⟩ := hpost u hr
    exact ⟨fun _ => hrep, fun _ => ⟨b, hb, houtput, hdrained⟩⟩

end Disclosure

/-- An error that wrongly says that nothing was tried. -/
theorem not_honest {bytes : Option Bytes} {w w' : Tty} {r : Except Exn Unit} {x : OperatorTerminalError}
    (hr : r = .error (.operator x)) (hx : x.delivery = .notStarted) (htried : .secretWrite ∈ w'.history) :
    ¬Honest bytes w w' r := by
  subst hr
  exact fun honest => honest.1 hx htried

namespace Sample

/-- A terminal that was entered, in a process that handles no signals. -/
def entered (fates : List Fate) : Tty where
  processLock := true
  handlers := fun _ => .other 0
  mask := fun _ => false
  attributes := ⟨true, false, 0⟩
  descriptorOpen := true
  fd := true
  ownsLock := true
  fates := fates

def code : SecretField := ⟨['c', 'o', 'd', 'e'], ['7']⟩

/-- A signal arrives once the payload is written and drained, before the signals are blocked. -/
def late : List Fate := List.replicate 28 .returns ++ [.cancelled .sigterm none]

/-- All is disclosed, and the error says that nothing was started. -/
theorem disclosed_not_started :
    let r := disclose [code] (entered late)
    r.2.output = ascii "code: 7" ++ [newline] ∧ r.2.drained = true ∧
    ¬Honest (payload [code]) (entered late) r.2 r.1 := by
  have hresult : (disclose [code] (entered late)).1 = .error (.operator { failure := .cancelled }) := by
    decide +kernel
  have htried : .secretWrite ∈ (disclose [code] (entered late)).2.history := by decide +kernel
  exact ⟨by decide +kernel, by decide +kernel, not_honest hresult rfl htried⟩

end Sample

end MyCogni.Terminal
