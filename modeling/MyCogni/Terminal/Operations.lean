import MyCogni.Terminal.Restored

/-! The operations of a session leave the terminal, the handlers and the mask as they were, or the session
latched, and they raise nothing but the operator's errors. -/

namespace MyCogni.Terminal

open Command

section Operations
variable {w : Tty}

/-! ### The attributes -/

/-- Handlers and mask are as they were, and no fates were added. -/
structure Steady (w w' : Tty) : Prop where
  still : Still w w'
  handlers : w'.handlers = w.handlers
  mask : w'.mask = w.mask
  fates : w'.fates.length ≤ w.fates.length

theorem Steady.refl (w : Tty) : Steady w w := ⟨Still.refl w, rfl, rfl, le_rfl⟩

theorem Steady.trans {a b c : Tty} (h : Steady a b) (h' : Steady b c) : Steady a c :=
  ⟨h.still.trans h'.still, h'.handlers.trans h.handlers, h'.mask.trans h.mask, h'.fates.trans h.fates⟩

theorem steady_fates (w : Tty) : Steady w { w with fates := w.fates.tail } :=
  ⟨⟨rfl, rfl, rfl, rfl, rfl, id⟩, rfl, rfl, w.fates.tail_sublist.length_le⟩

theorem ends_tick_steady : Ends (tick .unguarded) w fun r w' =>
    (Steady w w' ∧ w'.attributes = w.attributes) ∧ r = .ok () := by
  refine ends_step (fun f => ⟨⟨steady_fates w, rfl⟩, rfl⟩) (fun e hsafe => nomatch hsafe) ?_
  rintro w' f (hplace | hplace)
  · exact nomatch hplace
  · exact nomatch hplace

/-- A cancelled attempt has used up one of the fates. -/
theorem ends_tcsetattr {a : Attributes} : Ends (step .guarded (.tcsetattr a)) w fun r w' => Steady w w' ∧
    (∀ u, r = .ok u → w'.attributes = a) ∧ (∀ e, r = .error e → StepRaises .guarded e) ∧
    (r = .error .cancelled → w'.fates.length < w.fates.length) := by
  have hset : Steady w { w with fates := w.fates.tail, attributes := a } :=
    (steady_fates w).trans ⟨⟨rfl, rfl, rfl, rfl, rfl, id⟩, rfl, rfl, le_rfl⟩
  refine ends_step (fun f => ⟨hset, fun _ _ => rfl, nofun, nofun⟩) (fun e _ _ => ?_) ?_
  · exact ⟨steady_fates w, nofun, fun e' he => Or.inl ⟨e, (Except.error.inj he).symm⟩, nofun⟩
  · intro w' f hplace hne hw'
    have hlt : w.fates.tail.length < w.fates.length := by
      rw [List.length_tail]
      exact Nat.sub_lt (List.length_pos_of_ne_nil hne) one_pos
    have hw : Steady w w' ∧ w'.fates.length < w.fates.length := by
      rcases hw' with rfl | rfl
      · exact ⟨steady_fates w, hlt⟩
      · exact ⟨hset, hlt⟩
    refine ⟨hw.1.trans ⟨⟨rfl, rfl, rfl, rfl, rfl, id⟩, rfl, rfl, le_rfl⟩, nofun, fun e he => Or.inr ⟨?_, hplace⟩,
      fun _ => hw.2⟩
    exact (Except.error.inj he).symm

theorem ends_setFailure_steady {failure : OperatorTerminalError} : Ends (setFailure failure) w fun r w' =>
    Steady w w' ∧ w'.attributes = w.attributes ∧ w'.restoreFailed = w.restoreFailed ∧ r = .ok () :=
  ends_write rfl ⟨⟨⟨rfl, rfl, rfl, rfl, rfl, id⟩, rfl, rfl, le_rfl⟩, rfl, rfl, rfl⟩

/-- One attempt restores the attributes, latches the session, or is cancelled. -/
theorem ends_restoreAttempt {original : Attributes} :
    Ends (handle (step .guarded (.tcsetattr original) >>= fun _ => pure true) fun
      | .cancelled => do
        tick .unguarded
        setFailure { failure := .cancelled }
        pure false
      | .osError _ => do
        tick .unguarded
        setRestoreFailed
        setFailure { failure := .restoreFailed }
        pure true
      | e => stop e) w fun r w' => Steady w w' ∧ (∃ b, r = .ok b) ∧
        (r = .ok true → w'.attributes = original ∨ w'.restoreFailed = true) ∧
        (r = .ok false → w'.fates.length < w.fates.length) := by
  have hset : Ends (step .guarded (.tcsetattr original) >>= fun _ => (pure true : Method Bool)) w
      fun r w' => Steady w w' ∧ (∀ b, r = .ok b → b = true ∧ w'.attributes = original) ∧
        (∀ e, r = .error e → StepRaises .guarded e) ∧
        (r = .error .cancelled → w'.fates.length < w.fates.length) := by
    refine ends_seq ends_tcsetattr (fun u w₁ => ends_pure fun h => ⟨h.1, fun b hb => ?_, nofun, nofun⟩) ?_
    · exact ⟨(Except.ok.inj hb).symm, h.2.1 u rfl⟩
    · refine fun e w₁ h => ⟨h.1, nofun, fun e' he => ?_, fun hc => ?_⟩
      · obtain rfl := Except.error.inj he
        exact h.2.2.1 e rfl
      · obtain rfl := Except.error.inj hc
        exact h.2.2.2 rfl
  refine ends_handle hset (fun b w₁ h => ?_) fun e w₁ => ?_
  · obtain ⟨rfl, hattributes⟩ := h.2.1 b rfl
    exact ⟨h.1, ⟨true, rfl⟩, fun _ => Or.inl hattributes, nofun⟩
  · cases e with
    | cancelled =>
      refine ends_seq ends_tick_steady (fun _ w₂ => ?_) fun e w₂ h => nomatch h.2
      refine ends_seq ends_setFailure_steady (fun _ w₃ => ends_pure fun hfailure htick h => ?_) fun e w₃ h =>
        nomatch h.2.2.2
      have hlt := h.2.2.2 rfl
      refine ⟨(h.1.trans htick.1.1).trans hfailure.1, ⟨false, rfl⟩, nofun, fun _ => ?_⟩
      exact (hfailure.1.fates.trans htick.1.1.fates).trans_lt hlt
    | osError k =>
      refine ends_seq ends_tick_steady (fun _ w₂ => ends_writing rfl ?_) fun e w₂ h => nomatch h.2
      refine ends_seq ends_setFailure_steady (fun _ w₃ => ends_pure fun hfailure htick h => ?_) fun e w₃ h =>
        nomatch h.2.2.2
      have hlatch : Steady w₂ { w₂ with restoreFailed := true } :=
        ⟨still_setRestoreFailed w₂, rfl, rfl, le_rfl⟩
      refine ⟨((h.1.trans htick.1.1).trans hlatch).trans hfailure.1, ⟨true, rfl⟩, fun _ => Or.inr ?_, nofun⟩
      exact hfailure.2.2.1
    | operator x | installFailed previous | termiosError | unicodeError =>
      refine ends_stop fun h => ?_
      rcases h.2.2.1 _ rfl with ⟨k, hk⟩ | ⟨hk, -⟩
      · exact nomatch hk
      · exact nomatch hk

/-- The induction is on the attempts, of which there are more than fates to come. -/
theorem ends_restoreAttributes {original : Attributes} {attempts : Nat} :
    Ends (restoreAttributes original attempts) w fun r w' => w.fates.length < attempts →
      Steady w w' ∧ r = .ok () ∧ (w'.attributes = original ∨ w'.restoreFailed = true) := by
  induction attempts generalizing w with
  | zero => exact ends_pure fun h => absurd h (Nat.not_lt_zero _)
  | succ attempts ih =>
    refine ends_seq ends_tick_steady (fun _ w₁ => ?_) fun e w₁ h => nomatch h.2
    refine ends_seq ends_restoreAttempt (fun restored w₂ => ?_) fun e w₂ h => nomatch h.2.1
    cases restored with
    | true => exact ends_pure fun h htick _ => ⟨htick.1.1.trans h.1, rfl, h.2.2.1 rfl⟩
    | false =>
      refine ih.mono fun r w₃ hrest h htick hlt => ?_
      have hfates : w₂.fates.length < attempts :=
        (h.2.2.2 rfl).trans_le (htick.1.1.fates.trans (Nat.le_of_lt_succ hlt))
      obtain ⟨hsteady, hr⟩ := hrest hfates
      exact ⟨(htick.1.1.trans h.1).trans hsteady, hr⟩

/-! ### Secret input -/

/-- What the clauses of `_read_secret_unlocked` catch. -/
def Handled (e : Exn) : Prop :=
  (∃ x, e = .operator x) ∨ e = .cancelled ∨ (∃ k, e = .osError k) ∨ e = .unicodeError

theorem Passes.handled {place : Place} {e : Exn} (h : Passes place e) : Handled e := by
  rcases h with h | ⟨h, -⟩
  · exact Or.inl h
  · exact Or.inr (Or.inl h)

theorem Caught.handled {place : Place} {e : Exn} (h : Caught place e) : Handled e := by
  rcases h with h | h
  · exact h.handled
  · exact Or.inr (Or.inr (Or.inl h))

theorem StepRaises.handled {place : Place} {e : Exn} (h : StepRaises place e) : Handled e := by
  rcases h with h | ⟨h, -⟩
  · exact Or.inr (Or.inr (Or.inl h))
  · exact Or.inr (Or.inl h)

/-- The input is hidden, and what is raised is caught. -/
theorem ends_readHidden {session : CancelSession} {prompt : Bytes} {maxBytes : Nat} {hidden : Attributes} :
    Ends (readHidden session prompt maxBytes hidden) w fun r w' =>
      Still w w' ∧ ∀ e, r = .error e → Handled e := by
  have hrest : Simple Handled (do
      writeUnlocked prompt false .guarded
      checkedFd .guarded
      let w ← read
      readLine maxBytes (w.input.length + 1)
      let w ← read
      tick .guarded
      parseSecret maxBytes w.locals.data) := by
    refine simple_bind (simple_writeUnlocked.mono fun _ h => h.handled) fun _ => ?_
    refine simple_bind (simple_checkedFd.mono fun _ h => h.handled) fun _ => simple_reading fun w₁ => ?_
    refine simple_bind (simple_readLine.mono fun _ h => h.handled) fun _ => simple_reading fun w₂ => ?_
    refine simple_bind (simple_tick_passes.mono fun _ h => h.handled) fun _ => ?_
    refine simple_parseSecret.mono fun e h => ?_
    rcases h with h | h
    · exact h.handled
    · exact Or.inr (Or.inr (Or.inr h))
  have hraised : ∀ {e : Exn}, Handled e → ∀ e', (.error e : Except Exn Text) = .error e' → Handled e' := by
    intro e h e' he
    exact Except.error.inj he ▸ h
  refine ends_seq ends_activateCancelSession (fun _ w₁ => ?_) fun e w₁ h =>
    ⟨h.1.still, hraised (h.2 e rfl).handled⟩
  refine ends_seq (simple_checkedFd w₁) (fun _ w₂ => ?_) fun e w₂ h hactive =>
    ⟨hactive.1.still.trans h.1.still, hraised (h.2 e rfl).handled⟩
  refine ends_seq ends_tcsetattr (fun _ w₃ => ?_) fun e w₃ h hcheck hactive =>
    ⟨(hactive.1.still.trans hcheck.1.still).trans h.1.still, hraised (h.2.2.1 e rfl).handled⟩
  refine (hrest w₃).mono fun r w₄ h hset hcheck hactive => ⟨?_, h.2⟩
  exact ((hactive.1.still.trans hcheck.1.still).trans hset.1.still).trans h.1.still

/-- The newline after the input, with what is made of its failures. -/
theorem ends_writeNewline : Ends (handle (writeUnlocked [newline] false .guarded) fun
      | .operator e => do
        tick .unguarded
        setLocals fun l => { l with failure := l.failure.or (some e) }
      | .cancelled => do
        tick .unguarded
        setLocals fun l => { l with failure := l.failure.or (some { failure := .cancelled }) }
      | e => stop e) w fun r w' => Calm w w' ∧ r = .ok () := by
  refine ends_handle (simple_writeUnlocked w) (fun _ w₁ h => ⟨h.1, rfl⟩) fun e w₁ => ?_
  have hclause : ∀ f, Ends (tick .unguarded >>= fun _ => setLocals f) w₁ fun r w' =>
      Calm w₁ w' ∧ r = .ok () := fun f =>
    ends_after_tick fun w₂ => ends_write rfl fun htick =>
      ⟨htick.trans ⟨rfl, rfl, rfl, rfl, rfl, rfl, rfl, rfl, rfl⟩, rfl⟩
  cases e with
  | operator x => exact (hclause _).mono fun r w₂ h hwrite => ⟨hwrite.1.trans h.1, h.2⟩
  | cancelled => exact (hclause _).mono fun r w₂ h hwrite => ⟨hwrite.1.trans h.1, h.2⟩
  | osError k | installFailed previous | termiosError | unicodeError =>
    refine ends_stop fun h => ?_
    rcases h.2 _ rfl with ⟨x, hx⟩ | ⟨hx, -⟩
    · exact nomatch hx
    · exact nomatch hx

/-- The end of a session whose failure is a value of its own. -/
theorem ends_endCaught {session : CancelSession} {clause : OperatorTerminalError → Locals → Locals} :
    Ends (handle (endCancelSession session) fun
      | .operator e => do
        tick .unguarded
        setLocals (clause e)
      | e => stop e) w fun r w' => (Still w w' ∧ r = .ok ()) ∧ w'.attributes = w.attributes ∧
        ∀ handlers mask, session.Saves handlers mask → Back w.attributes handlers mask w' := by
  refine ends_handle ends_endCancelSession (fun _ w₁ h => ⟨⟨h.1, rfl⟩, h.2.1, h.2.2.2⟩) fun e w₁ => ?_
  cases e with
  | operator x =>
    refine ends_after_tick fun w₂ => ends_write rfl fun htick h => ?_
    have hcalm : Calm w₁ { w₂ with locals := clause x w₂.locals } :=
      htick.trans ⟨rfl, rfl, rfl, rfl, rfl, rfl, rfl, rfl, rfl⟩
    refine ⟨⟨h.1.trans hcalm.still, rfl⟩, hcalm.attributes.trans h.2.1, fun handlers mask hsaves => ?_⟩
    exact (h.2.2.2 handlers mask hsaves).calm hcalm
  | cancelled | osError k | installFailed previous | termiosError | unicodeError =>
    exact ends_stop fun h => absurd (h.2.2.1 _ rfl) nofun

/-- The `finally` of the secret input restores all, or the session is latched. -/
theorem ends_showAgain {session : CancelSession} {original : Attributes} :
    Ends (showAgain session original) w fun r w' => Still w w' ∧ r = .ok () ∧
      ∀ handlers mask, session.Saves handlers mask → Back original handlers mask w' := by
  refine ends_reading (ends_seq ends_restoreAttributes (fun _ w₁ => ?_) fun e w₁ h => ?_)
  · refine ends_after_tick fun w₂ => ends_seq ends_writeNewline (fun _ w₃ => ?_) fun e w₃ h => nomatch h.2
    refine ends_after_tick fun w₄ => ends_seq ends_endCaught (fun _ w₅ => ?_) fun e w₅ h => nomatch h.1.2
    refine ends_after_tick fun w₆ => ends_write rfl fun h6 h5 h4 h3 h2 h1 => ?_
    obtain ⟨hsteady, -, hattributes⟩ := h1 (Nat.lt_succ_self _)
    have hcalm : Calm w₁ w₄ := (h2.trans h3.1).trans h4
    have hlast : Calm w₅ { w₆ with locals := { w₆.locals with data := w₆.locals.data.map fun _ => 0 } } :=
      h6.trans ⟨rfl, rfl, rfl, rfl, rfl, rfl, rfl, rfl, rfl⟩
    refine ⟨((hsteady.still.trans hcalm.still).trans h5.1.1).trans hlast.still, rfl, fun handlers mask hsaves => ?_⟩
    have hback := (h5.2.2 handlers mask hsaves).calm hlast
    rcases hattributes with hattributes | hlatched
    · rw [hcalm.attributes, hattributes] at hback
      exact hback
    · exact Or.inr (hlast.still.latched (h5.1.1.latched (hcalm.still.latched hlatched)))
  · obtain ⟨-, hr, -⟩ := h (Nat.lt_succ_self _)
    exact nomatch hr

/-- A method that leaves all as it was, or the session latched, and raises the operator's errors only. -/
def Restoring {α : Type} (m : Method α) : Prop :=
  ∀ w, Ends m w fun r w' => Still w w' ∧ OnlyOperator r ∧ Back w.attributes w.handlers w.mask w'

theorem back_refl (w : Tty) : Back w.attributes w.handlers w.mask w := Or.inl ⟨rfl, rfl, rfl⟩

theorem restoring_raise {α : Type} {failure : OperatorTerminalFailure} {delivery : SecretDeliveryState} :
    Restoring (raise failure delivery : Method α) :=
  fun w => ends_raise ⟨Still.refl w, onlyOperator_raise _, back_refl w⟩

/-- What is raised where nothing catches a signal is an error of the operator. -/
theorem restoring_of_simple {α : Type} {m : Method α} (h : Simple (Passes .unguarded) m) : Restoring m := by
  refine fun w => (h w).mono fun r w' h => ⟨h.1.still, fun e he => ?_, (back_refl w).calm h.1⟩
  rcases h.2 e he with hx | ⟨-, hplace | hplace⟩
  · exact hx
  · exact nomatch hplace
  · exact nomatch hplace

/-- A calm method before a restoring one. -/
theorem restoring_bind {α β : Type} {m : Method β} {f : β → Method α} (hm : Simple (Passes .unguarded) m)
    (hf : ∀ b, Restoring (f b)) : Restoring (m >>= f) := by
  intro w
  refine ends_seq (hm w) (fun b w₁ => ?_) fun e w₁ h => ?_
  · refine (hf b w₁).mono fun r w₂ h hcalm => ⟨hcalm.1.still.trans h.1, h.2.1, ?_⟩
    rw [← hcalm.1.attributes, ← hcalm.1.handlers, ← hcalm.1.mask]
    exact h.2.2
  · refine ⟨h.1.still, onlyOperator_error ?_, (back_refl w).calm h.1⟩
    rcases h.2 e rfl with hx | ⟨-, hplace | hplace⟩
    · exact hx
    · exact nomatch hplace
    · exact nomatch hplace

/-- An restoring method before one that only answers. -/
theorem restoring_then {α β : Type} {m : Method β} {f : β → Method α} (hm : Restoring m)
    (hf : ∀ b, Simple (Passes .unguarded) (f b)) : Restoring (m >>= f) := by
  intro w
  refine ends_seq (hm w) (fun b w₁ => ?_) fun e w₁ h => ⟨h.1, onlyOperator_error (h.2.1 e rfl), h.2.2⟩
  refine (restoring_of_simple (hf b) w₁).mono fun r w₂ h hfirst => ⟨hfirst.1.trans h.1, h.2.1, ?_⟩
  rcases h.2.2 with ⟨ha, hh, hm⟩ | hlatched
  · rcases hfirst.2.2 with ⟨ha', hh', hm'⟩ | hlatched
    · exact Or.inl ⟨ha.trans ha', hh.trans hh', hm.trans hm'⟩
    · exact Or.inr (h.1.latched hlatched)
  · exact Or.inr hlatched

theorem ends_tcgetattr : Ends (step .unguarded .tcgetattr) w fun r w' =>
    Calm w w' ∧ (∀ a, r = .ok a → a = w.attributes) ∧ ∀ e, r = .error e → ∃ k, e = .osError k := by
  have hfates : Calm w { w with fates := w.fates.tail } := ⟨rfl, rfl, rfl, rfl, rfl, rfl, rfl, rfl, rfl⟩
  refine ends_step (fun f => ⟨hfates, fun a ha => (Except.ok.inj ha).symm, nofun⟩)
    (fun e _ _ => ⟨hfates, nofun, fun e' he => ⟨e, (Except.error.inj he).symm⟩⟩) ?_
  rintro w' f (hplace | hplace)
  · exact nomatch hplace
  · exact nomatch hplace

/-- The attributes are read twice before the input is hidden. -/
theorem ends_readAttributes : Ends (handle
      (do
        let original ← step .unguarded .tcgetattr
        let other ← step .unguarded .tcgetattr
        pure (original, other))
      fun
        | .osError _ => do
          tick .unguarded
          raise .ioFailed
        | e => stop e : Method (Attributes × Attributes)) w fun r w' => Calm w w' ∧ OnlyOperator r ∧
          ∀ p, r = .ok p → p.1 = w.attributes := by
  have hread : Ends (do
        let original ← step .unguarded .tcgetattr
        let other ← step .unguarded .tcgetattr
        pure (original, other) : Method (Attributes × Attributes)) w fun r w' => Calm w w' ∧
          (∀ p, r = .ok p → p.1 = w.attributes) ∧ ∀ e, r = .error e → ∃ k, e = .osError k := by
    refine ends_seq ends_tcgetattr (fun original w₁ => ?_) fun e w₁ h => ⟨h.1, nofun, fun e' he => ?_⟩
    · refine ends_seq ends_tcgetattr (fun other w₂ => ends_pure fun h hfirst => ?_) fun e w₂ h hfirst => ?_
      · refine ⟨hfirst.1.trans h.1, fun p hp => ?_, nofun⟩
        obtain rfl := Except.ok.inj hp
        exact hfirst.2.1 original rfl
      · refine ⟨hfirst.1.trans h.1, nofun, fun e' he => ?_⟩
        obtain rfl := Except.error.inj he
        exact h.2.2 e rfl
    · obtain rfl := Except.error.inj he
      exact h.2.2 e rfl
  refine ends_handle hread (fun p w₁ h => ⟨h.1, nofun, h.2.1⟩) fun e w₁ => ?_
  cases e with
  | osError k =>
    refine ends_after_tick fun w₂ => ends_raise fun htick h => ?_
    exact ⟨h.1.trans htick, onlyOperator_raise _, nofun⟩
  | operator x | cancelled | installFailed previous | termiosError | unicodeError =>
    refine ends_stop fun h => ?_
    obtain ⟨k, hk⟩ := h.2.2 _ rfl
    exact nomatch hk

/-- The part with the input hidden and its clauses, which record a failure. -/
theorem ends_readCaught {session : CancelSession} {prompt : Bytes} {maxBytes : Nat} {hidden : Attributes} :
    Ends (handle (readHidden session prompt maxBytes hidden) fun
        | .operator e => do
          tick .unguarded
          setFailure e
          pure []
        | .cancelled | .osError .interrupted => do
          tick .unguarded
          setFailure { failure := .cancelled }
          pure []
        | .osError _ | .unicodeError => do
          tick .unguarded
          setFailure { failure := .ioFailed }
          pure []
        | e => stop e) w fun r w' => Still w w' ∧ ∃ value, r = .ok value := by
  refine ends_handle ends_readHidden (fun value w₁ h => ⟨h.1, value, rfl⟩) fun e w₁ => ?_
  have hclause : ∀ x, Ends (do
      tick .unguarded
      setFailure x
      pure [] : Method Text) w₁ fun r w' => Still w₁ w' ∧ ∃ value, r = .ok value := by
    intro x
    refine ends_after_tick fun w₂ => ends_seq ends_setFailure_steady (fun _ w₃ => ends_pure fun h htick => ?_)
      fun e w₃ h => nomatch h.2.2.2
    exact ⟨htick.still.trans h.1.still, [], rfl⟩
  have hcaught : ∀ x, Ends (do
      tick .unguarded
      setFailure x
      pure [] : Method Text) w₁ fun r w' => (Still w w₁ ∧ ∀ e', (Except.error e : Except Exn Text) =
        .error e' → Handled e') → Still w w' ∧ ∃ value, r = .ok value :=
    fun x => (hclause x).mono fun r w' h hread => ⟨hread.1.trans h.1, h.2⟩
  cases e with
  | operator x => exact hcaught x
  | cancelled => exact hcaught _
  | unicodeError => exact hcaught _
  | osError k =>
    cases k with
    | interrupted => exact hcaught _
    | permission | noDevice | other => exact hcaught _
  | installFailed previous | termiosError =>
    refine ends_stop fun h => ?_
    rcases h.2 _ rfl with ⟨x, hx⟩ | hx | ⟨k, hk⟩ | hx
    · exact nomatch hx
    · exact nomatch hx
    · exact nomatch hk
    · exact nomatch hx

/-- All is restored after a part that ends with a value. -/
theorem ends_shownAgain {α : Type} {m : Method α} {session : CancelSession} {original : Attributes}
    (hm : Ends m w fun r w' => Still w w' ∧ ∃ value, r = .ok value) :
    Ends (lastly m (showAgain session original)) w fun r w' => Still w w' ∧ (∃ value, r = .ok value) ∧
      ∀ handlers mask, session.Saves handlers mask → Back original handlers mask w' := by
  refine ends_lastly hm fun r w₁ => ends_showAgain.mono fun r' w₂ h hread => ⟨hread.1.trans h.1, ?_, h.2.2⟩
  obtain ⟨-, value, rfl⟩ := hread
  obtain ⟨-, rfl, -⟩ := h
  exact ⟨value, rfl⟩

theorem restoring_readSecretUnlocked {prompt : Text} {maxBytes : Nat} :
    Restoring (readSecretUnlocked prompt maxBytes) := by
  unfold readSecretUnlocked
  split_ifs
  swap
  · exact restoring_raise
  refine restoring_bind simple_publicBytes fun promptBytes => restoring_bind simple_checkedFd fun _ w => ?_
  refine ends_seq ends_readAttributes (fun p w₁ => ?_) fun e w₁ h =>
    ⟨h.1.still, onlyOperator_error (h.2.1 e rfl), (back_refl w).calm h.1⟩
  obtain ⟨original, other⟩ := p
  refine ends_writing rfl (ends_seq ends_beginCancelSession (fun session w₂ => ?_)
    fun e w₂ h hattributes => ?_)
  · refine ends_seq (ends_shownAgain ends_readCaught) (fun value w₄ => ?_) fun e w₄ h => nomatch h.2.1
    refine ends_after_tick fun w₅ => ends_reading ?_
    have hdone : ∀ {r : Except Exn Text}, OnlyOperator r → Calm w₄ w₅ →
        (Still w₂ w₄ ∧ (∃ v, (Except.ok value : Except Exn Text) = .ok v) ∧
          ∀ handlers mask, session.Saves handlers mask → Back original handlers mask w₄) →
        (Still w₁ w₂ ∧ ∀ s, (Except.ok session : Except Exn CancelSession) = .ok s →
          s.Saves w₁.handlers w₁.mask) →
        (Calm w w₁ ∧ original = w.attributes) →
        Still w w₅ ∧ OnlyOperator r ∧ Back w.attributes w.handlers w.mask w₅ := by
      intro r hr htick hlast hbegin hread
      refine ⟨((hread.1.still.trans hbegin.1).trans hlast.1).trans htick.still, hr, ?_⟩
      have hback := (hlast.2.2 _ _ (hbegin.2 session rfl)).calm htick
      rw [hread.2, hread.1.handlers, hread.1.mask] at hback
      exact hback
    split
    · refine ends_stop fun htick hlast hbegin hread => ?_
      refine hdone (onlyOperator_raise _) htick hlast ⟨?_, hbegin.2.2.2.1⟩ ⟨hread.1, hread.2.2 _ rfl⟩
      exact ⟨hbegin.1.1, hbegin.1.2, hbegin.1.3, hbegin.1.4, hbegin.1.5, hbegin.1.6⟩
    · refine ends_pure fun htick hlast hbegin hread => ?_
      refine hdone nofun htick hlast ⟨?_, hbegin.2.2.2.1⟩ ⟨hread.1, hread.2.2 _ rfl⟩
      exact ⟨hbegin.1.1, hbegin.1.2, hbegin.1.3, hbegin.1.4, hbegin.1.5, hbegin.1.6⟩
  · have hstill : Still w₁ w₂ := ⟨h.1.1, h.1.2, h.1.3, h.1.4, h.1.5, h.1.6⟩
    refine ⟨hattributes.1.still.trans hstill, onlyOperator_error (h.2.2.1 e rfl), ?_⟩
    have hback : Back w₁.attributes w₁.handlers w₁.mask w₂ := h.2.2.2.2 e rfl
    rw [hattributes.1.attributes, hattributes.1.handlers, hattributes.1.mask] at hback
    exact hback

/-! ### Disclosure -/

/-- The cancellable write, with what is made of its failures. -/
theorem ends_discloseCaught {session : CancelSession} {payload : Bytes} :
    Ends (handle (activateCancelSession session >>= fun _ => writeUnlocked payload true .passedOn)
      discloseClauses) w fun r w' => (Still w w' ∧ w'.attributes = w.attributes) ∧ r = .ok () := by
  have hwrite : Ends (activateCancelSession session >>= fun _ => writeUnlocked payload true .passedOn) w
      fun r w' => (Still w w' ∧ w'.attributes = w.attributes) ∧ ∀ e, r = .error e → Passes .passedOn e := by
    refine ends_seq ends_activateCancelSession (fun _ w₁ => ?_) fun e w₁ h =>
      ⟨⟨h.1.still, h.1.attributes⟩, h.2⟩
    refine (simple_writeUnlocked w₁).mono fun r w₂ h hactive => ⟨?_, h.2⟩
    exact ⟨hactive.1.still.trans h.1.still, h.1.attributes.trans hactive.1.attributes⟩
  refine ends_handle hwrite (fun _ w₁ h => ⟨h.1, rfl⟩) fun e w₁ => ?_
  have hclause : ∀ x, Ends (tick .unguarded >>= fun _ => setFailure x) w₁ fun r w' =>
      Calm w₁ w' ∧ r = .ok () := fun x =>
    ends_after_tick fun w₂ => ends_write rfl fun htick =>
      ⟨htick.trans ⟨rfl, rfl, rfl, rfl, rfl, rfl, rfl, rfl, rfl⟩, rfl⟩
  have hcalm : ∀ {w'}, Still w w₁ ∧ w₁.attributes = w.attributes → Calm w₁ w' →
      Still w w' ∧ w'.attributes = w.attributes := fun h hcalm =>
    ⟨h.1.trans hcalm.still, hcalm.attributes.trans h.2⟩
  have hstop : (¬Passes .passedOn e) → Ends (stop e : Method Unit) w₁ fun r w' =>
      ((Still w w₁ ∧ w₁.attributes = w.attributes) ∧ ∀ e', (Except.error e : Except Exn Unit) = .error e' →
        Passes .passedOn e') → (Still w w' ∧ w'.attributes = w.attributes) ∧ r = .ok () :=
    fun hne => ends_stop fun h => absurd (h.2 e rfl) hne
  cases e with
  | operator x => exact (hclause x).mono fun r w₂ h hknown => ⟨hcalm hknown.1 h.1, h.2⟩
  | cancelled => exact (hclause _).mono fun r w₂ h hknown => ⟨hcalm hknown.1 h.1, h.2⟩
  | osError k =>
    cases k with
    | interrupted => exact (hclause _).mono fun r w₂ h hknown => ⟨hcalm hknown.1 h.1, h.2⟩
    | permission | noDevice | other => exact hstop (by simp [Passes])
  | installFailed previous | termiosError | unicodeError => exact hstop (by simp [Passes])

/-- The `finally` of a disclosure. -/
theorem ends_discloseFinally {session : CancelSession} :
    Ends (discloseFinally session) w fun r w' => (Still w w' ∧ r = .ok ()) ∧
      ∀ handlers mask, session.Saves handlers mask → Back w.attributes handlers mask w' := by
  refine ends_after_tick fun w₁ => ends_endCaught.mono fun r w₂ h htick => ?_
  refine ⟨⟨htick.still.trans h.1.1, h.1.2⟩, fun handlers mask hsaves => ?_⟩
  rw [← htick.attributes]
  exact h.2.2 handlers mask hsaves

theorem simple_discloseResult {failure cleanup : Option OperatorTerminalError} :
    Simple (Passes .unguarded) (discloseResult failure cleanup) := by
  cases failure with
  | none =>
    cases cleanup with
    | none => exact simple_pure
    | some y => exact simple_raise (passes_operator _)
  | some x =>
    cases cleanup with
    | none => exact simple_ite (simple_raise (passes_operator _)) (simple_stop (passes_operator _))
    | some y =>
      refine simple_ite (simple_raise (passes_operator _)) (simple_ite ?_ ?_)
      · exact simple_stop (passes_operator _)
      · exact simple_stop (passes_operator _)

theorem restoring_discloseMain {payload : Bytes} : Restoring (discloseMain payload) := by
  intro w
  refine ends_writing rfl (ends_seq ends_beginCancelSession (fun session w₁ => ?_) fun e w₁ h => ?_)
  · have hprotected : Ends (lastly
        (handle (activateCancelSession session >>= fun _ => writeUnlocked payload true .passedOn)
          discloseClauses) (discloseFinally session)) w₁ fun r w' => (Still w₁ w' ∧ r = .ok ()) ∧
          ∀ handlers mask, session.Saves handlers mask → Back w₁.attributes handlers mask w' := by
      refine ends_lastly ends_discloseCaught fun r w₂ =>
        ends_discloseFinally.mono fun r' w₃ h hwrite => ?_
      obtain ⟨⟨hstill, hattributes⟩, rfl⟩ := hwrite
      obtain ⟨⟨hstill', rfl⟩, hback⟩ := h
      refine ⟨⟨hstill.trans hstill', rfl⟩, fun handlers mask hsaves => ?_⟩
      rw [← hattributes]
      exact hback handlers mask hsaves
    refine ends_seq hprotected (fun _ w₂ => ?_) fun e w₂ h => nomatch h.1.2
    refine ends_after_tick fun w₃ => ends_reading ?_
    refine (simple_discloseResult w₃).mono fun r w₄ h htick hlast hbegin => ?_
    have hcalm : Calm w₂ w₄ := htick.trans h.1
    have hstill : Still w w₁ :=
      ⟨hbegin.1.1, hbegin.1.2, hbegin.1.3, hbegin.1.4, hbegin.1.5, hbegin.1.6⟩
    refine ⟨(hstill.trans hlast.1.1).trans hcalm.still, fun e he => ?_, ?_⟩
    · rcases h.2 e he with hx | ⟨-, hplace | hplace⟩
      · exact hx
      · exact nomatch hplace
      · exact nomatch hplace
    · have hback := (hlast.2 _ _ (hbegin.2.2.2.1 session rfl)).calm hcalm
      rw [hbegin.2.1] at hback
      exact hback
  · exact ⟨⟨h.1.1, h.1.2, h.1.3, h.1.4, h.1.5, h.1.6⟩, onlyOperator_error (h.2.2.1 e rfl), h.2.2.2.2 e rfl⟩

theorem restoring_discloseUnlocked {fields : List SecretField} : Restoring (discloseUnlocked fields) := by
  unfold discloseUnlocked
  cases payload fields with
  | none => exact restoring_raise
  | some payload =>
    intro w
    refine ends_reading ?_
    split_ifs
    · exact restoring_discloseMain w
    · exact restoring_of_simple simple_writeUnlocked w

/-! ### The operations of a session -/

/-- The part of an operation after its first check frees the lock that it takes. -/
theorem restoring_locked {α : Type} {mainThread : Bool} {body : Method α} (hbody : Restoring body) :
    Restoring (do
      let w ← read
      if mainThread = true ∧ w.mainThread = false then raise .busy
      else if w.operationLock = true then raise .busy
      else do
        write fun w => { w with operationLock := true }
        tick .unguarded
        lastly body (do
          tick .unguarded
          write fun w => { w with operationLock := false })) := by
  refine fun w => ends_reading ?_
  split_ifs with hthread hlocked
  · exact restoring_raise w
  · exact restoring_raise w
  · refine ends_writing rfl (ends_after_tick fun w₁ => ?_)
    have hunlock : ∀ (r : Except Exn α) w₂, Ends (do
        tick .unguarded
        write fun w => { w with operationLock := false }) w₂ fun r' w' =>
          (Still w₁ w₂ ∧ OnlyOperator r ∧ Back w₁.attributes w₁.handlers w₁.mask w₂) →
            Still w₁ { w' with operationLock := w₁.operationLock } ∧ w'.operationLock = false ∧
              OnlyOperator (afterLast r r') ∧ Back w₁.attributes w₁.handlers w₁.mask w' := by
      refine fun r w₂ => ends_after_tick fun w₃ => ends_write rfl fun htick h => ?_
      have hstill : Still w₁ w₃ := h.1.trans htick.still
      have hback : Back w₁.attributes w₁.handlers w₁.mask w₃ := h.2.2.calm htick
      exact ⟨⟨hstill.1, rfl, hstill.3, hstill.4, hstill.5, hstill.6⟩, rfl, h.2.1, hback⟩
    have hlastly : Ends (lastly body (do
        tick .unguarded
        write fun w => { w with operationLock := false })) w₁ fun r w' =>
          Still w₁ { w' with operationLock := w₁.operationLock } ∧ w'.operationLock = false ∧
            OnlyOperator r ∧ Back w₁.attributes w₁.handlers w₁.mask w' := ends_lastly (hbody w₁) hunlock
    refine hlastly.mono fun r w' h htick => ?_
    obtain ⟨hstill, hunlocked, hr, hback⟩ := h
    refine ⟨⟨hstill.1.trans htick.processLock, ?_, hstill.3.trans htick.descriptorOpen,
      hstill.4.trans htick.fd, hstill.5.trans htick.ownsLock, fun hl => hstill.6 ?_⟩, hr, ?_⟩
    · exact hunlocked.trans (Bool.eq_false_iff.mpr hlocked).symm
    · exact htick.still.latched hl
    · rw [htick.attributes, htick.handlers, htick.mask] at hback
      exact hback

/-- Every operation is restoring. -/
theorem restoring_operation {α : Type} {mainThread : Bool} {body : Method α} (hbody : Restoring body) :
    Restoring (operation mainThread body) := restoring_bind simple_checkedFd fun _ => restoring_locked hbody

/-- A latched session refuses its operations. -/
theorem ends_operation_latched {α : Type} {mainThread : Bool} {body : Method α} (hbody : Restoring body)
    (hlatched : w.restoreFailed = true) : Ends (operation mainThread body) w fun r _ =>
      r = .error (.operator { failure := .restoreFailed }) := by
  have hchecked : Ends (checkedFd .unguarded) w fun r _ =>
      r = .error (.operator { failure := .restoreFailed }) := by
    refine ends_after_tick fun w₁ => ends_reading ?_
    split_ifs with hrestore hfd
    · exact ends_raise fun _ => rfl
    · exact ends_raise fun htick => absurd (htick.still.latched hlatched) hrestore
    · exact (simple_checkedCall w₁).mono fun r w₂ _ htick =>
        absurd (htick.still.latched hlatched) hrestore
  refine ends_seq hchecked (fun _ w₁ => ?_) fun e w₁ h => ?_
  · exact (restoring_locked hbody w₁).mono fun r w₂ _ h => nomatch h
  · rw [Except.error.inj h]

end Operations

end MyCogni.Terminal
