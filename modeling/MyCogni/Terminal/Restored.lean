import MyCogni.Terminal.Contained

/-! The handlers, the mask and the attributes are restored, or the session is latched. -/

namespace MyCogni.Terminal

open Command

/-! ### What stays, and what is restored -/

/-- The locks and the descriptor are as they were, and a latch is not taken back. -/
structure Still (w w' : Tty) : Prop where
  processLock : w'.processLock = w.processLock
  operationLock : w'.operationLock = w.operationLock
  descriptorOpen : w'.descriptorOpen = w.descriptorOpen
  fd : w'.fd = w.fd
  ownsLock : w'.ownsLock = w.ownsLock
  latched : w.restoreFailed = true → w'.restoreFailed = true

theorem Still.refl (w : Tty) : Still w w := ⟨rfl, rfl, rfl, rfl, rfl, id⟩

theorem Still.trans {a b c : Tty} (h : Still a b) (h' : Still b c) : Still a c :=
  ⟨h'.processLock.trans h.processLock, h'.operationLock.trans h.operationLock,
    h'.descriptorOpen.trans h.descriptorOpen, h'.fd.trans h.fd, h'.ownsLock.trans h.ownsLock,
    h'.latched ∘ h.latched⟩

theorem Calm.still {w w' : Tty} (h : Calm w w') : Still w w' :=
  ⟨h.processLock, h.operationLock, h.descriptorOpen, h.fd, h.ownsLock, fun hl => h.restoreFailed ▸ hl⟩

theorem still_setRestoreFailed (w : Tty) : Still w { w with restoreFailed := true } :=
  ⟨rfl, rfl, rfl, rfl, rfl, fun _ => rfl⟩

/-- The attributes, the handlers and the mask are these, or the session is latched. -/
def Back (attributes : Attributes) (handlers : Handlers) (mask : Mask) (w' : Tty) : Prop :=
  w'.attributes = attributes ∧ w'.handlers = handlers ∧ w'.mask = mask ∨ w'.restoreFailed = true

theorem Back.calm {a : Attributes} {h : Handlers} {m : Mask} {w w' : Tty} (hback : Back a h m w)
    (hcalm : Calm w w') : Back a h m w' := by
  rcases hback with ⟨ha, hh, hm⟩ | hl
  · exact Or.inl ⟨hcalm.attributes.trans ha, hcalm.handlers.trans hh, hcalm.mask.trans hm⟩
  · exact Or.inr (hcalm.still.latched hl)

/-- The saved handlers are those given, for each signal once. -/
def Saved (handlers : Handlers) (previous : List (CancelSignal × Handler)) : Prop :=
  (previous.map Prod.fst).Nodup ∧ ∀ p ∈ previous, p.2 = handlers p.1

/-- All handlers but the saved ones are as given. -/
def Others (handlers : Handlers) (previous : List (CancelSignal × Handler)) (w : Tty) : Prop :=
  ∀ j, j ∉ previous.map Prod.fst → w.handlers j = handlers j

section Sessions
variable {place : Place} {w : Tty}

/-! ### Steps of a cancel session -/

theorem ends_tick_unguarded : Ends (tick .unguarded) w fun r w' => Calm w w' ∧ r = .ok () := by
  refine (simple_tick w).mono ?_
  rintro r w' ⟨hcalm, hraises⟩
  cases r with
  | ok u => exact ⟨hcalm, rfl⟩
  | error e =>
    obtain ⟨-, hplace | hplace⟩ := hraises e rfl
    · exact nomatch hplace
    · exact nomatch hplace

/-- Between two steps where nothing catches a signal, none arrives. -/
theorem ends_after_tick {α : Type} {m : Method α} {q : Except Exn α → Tty → Prop}
    (hm : ∀ w', Ends m w' fun r w'' => Calm w w' → q r w'') :
    Ends (tick .unguarded >>= fun _ => m) w q := by
  refine ends_seq ends_tick_unguarded (fun _ w' => ?_) fun e w' h => nomatch h.2
  exact (hm w').mono fun r w'' h hknown => h hknown.1

/-- What the call for one handler changes. -/
structure Reset (i : CancelSignal) (w w' : Tty) : Prop where
  still : Still w w'
  mask : w'.mask = w.mask
  attributes : w'.attributes = w.attributes
  others : ∀ j, j ≠ i → w'.handlers j = w.handlers j

theorem Reset.trans {i : CancelSignal} {a b c : Tty} (h : Reset i a b) (h' : Reset i b c) : Reset i a c :=
  ⟨h.still.trans h'.still, h'.mask.trans h.mask, h'.attributes.trans h.attributes,
    fun j hj => (h'.others j hj).trans (h.others j hj)⟩

theorem Calm.reset {i : CancelSignal} {w w' : Tty} (h : Calm w w') : Reset i w w' :=
  ⟨h.still, h.mask, h.attributes, fun _ _ => congrFun h.handlers _⟩

theorem ends_signal {i : CancelSignal} {handler : Handler} :
    Ends (step place (.signal i handler)) w fun r w' =>
      Reset i w w' ∧ (∀ u, r = .ok u → w'.handlers i = handler) := by
  have hset : ∀ f, Reset i w (effect { w with fates := w.fates.tail } (.signal i handler) f).2 := by
    intro f
    exact ⟨⟨rfl, rfl, rfl, rfl, rfl, id⟩, rfl, rfl, fun j hj => Function.update_of_ne hj _ _⟩
  refine ends_step (fun f => ⟨hset f, fun _ _ => Function.update_self _ _ _⟩) (fun e _ _ => ?_) ?_
  · exact ⟨⟨⟨rfl, rfl, rfl, rfl, rfl, id⟩, rfl, rfl, fun _ _ => rfl⟩, nofun⟩
  · intro w' f _ _ hw'
    have hw : Reset i w w' := by
      rcases hw' with rfl | rfl
      · exact ⟨⟨rfl, rfl, rfl, rfl, rfl, id⟩, rfl, rfl, fun _ _ => rfl⟩
      · exact hset f
    exact ⟨hw.trans ⟨⟨rfl, rfl, rfl, rfl, rfl, id⟩, rfl, rfl, fun _ _ => rfl⟩, nofun⟩

theorem ends_restoreHandler {i : CancelSignal} {handler : Handler} {attempts : Nat} :
    Ends (restoreHandler place i handler attempts) w fun r w' => Reset i w w' ∧
      (r = .ok true → w'.handlers i = handler) ∧
      ∀ e, r = .error e → e = .cancelled ∧ (place = .guarded ∨ place = .passedOn) := by
  induction attempts generalizing w with
  | zero => exact ends_pure ⟨(Calm.refl w).reset, by simp, nofun⟩
  | succ attempts ih =>
    have hset : Ends (step .guarded (.signal i handler) >>= fun _ => pure true) w fun r w' =>
        Reset i w w' ∧ ∀ b, r = .ok b → w'.handlers i = handler := by
      refine ends_seq ends_signal (fun u w₁ => ends_pure fun h => ⟨h.1, fun _ _ => h.2 u rfl⟩) ?_
      exact fun e w₁ h => ⟨h.1, nofun⟩
    refine ends_handle hset (fun b w₁ h => ⟨h.1, fun _ => h.2 b rfl, nofun⟩) fun e w₁ => ?_
    refine ends_seq (simple_tick w₁) (fun _ w₂ => ?_) fun e' w₂ htick h => ?_
    · refine ih.mono fun r w₃ h htick hknown => ?_
      exact ⟨(hknown.1.trans htick.1.reset).trans h.1, h.2⟩
    · refine ⟨h.1.trans htick.1.reset, nofun, fun e'' he => ?_⟩
      obtain rfl := Except.error.inj he
      exact htick.2 e' rfl

/-- What the restoration of many handlers changes. -/
structure ResetAll (signals : List CancelSignal) (w w' : Tty) : Prop where
  still : Still w w'
  mask : w'.mask = w.mask
  attributes : w'.attributes = w.attributes
  others : ∀ j, j ∉ signals → w'.handlers j = w.handlers j

theorem ResetAll.trans {signals : List CancelSignal} {a b c : Tty} (h : ResetAll signals a b)
    (h' : ResetAll signals b c) : ResetAll signals a c :=
  ⟨h.still.trans h'.still, h'.mask.trans h.mask, h'.attributes.trans h.attributes,
    fun j hj => (h'.others j hj).trans (h.others j hj)⟩

theorem Calm.resetAll {signals : List CancelSignal} {w w' : Tty} (h : Calm w w') : ResetAll signals w w' :=
  ⟨h.still, h.mask, h.attributes, fun _ _ => congrFun h.handlers _⟩

/-- The induction is on the saved handlers; one that is restored is not touched by the later ones. -/
theorem ends_restoreCancelHandlers {previous : List (CancelSignal × Handler)} :
    Ends (restoreCancelHandlers place previous) w fun r w' =>
      ResetAll (previous.map Prod.fst) w w' ∧
      (r = .ok true → (previous.map Prod.fst).Nodup → ∀ p ∈ previous, w'.handlers p.1 = p.2) ∧
      ∀ e, r = .error e → e = .cancelled ∧ (place = .guarded ∨ place = .passedOn) := by
  induction previous generalizing w with
  | nil => exact ends_pure ⟨(Calm.refl w).resetAll, fun _ _ _ h => (List.not_mem_nil h).elim, nofun⟩
  | cons first previous ih =>
    obtain ⟨i, handler⟩ := first
    have hreset : ∀ {a b : Tty}, Reset i a b → ResetAll (i :: previous.map Prod.fst) a b := fun h =>
      ⟨h.still, h.mask, h.attributes, fun j hj => h.others j (List.ne_of_not_mem_cons hj)⟩
    have hrest : ∀ {a b : Tty}, ResetAll (previous.map Prod.fst) a b →
        ResetAll (i :: previous.map Prod.fst) a b := fun h =>
      ⟨h.still, h.mask, h.attributes, fun j hj => h.others j (List.not_mem_of_not_mem_cons hj)⟩
    refine ends_seq (simple_tick w) (fun _ w₁ => ?_) fun e w₁ h => ⟨h.1.resetAll, nofun, ?_⟩
    · refine ends_seq ends_restoreHandler (fun restored w₂ => ?_) fun e w₂ h htick => ?_
      · refine ends_seq ih (fun succeeded w₃ => ?_) fun e w₃ h hone htick => ?_
        · refine ends_pure fun h hone htick => ⟨?_, fun hr hnodup p hp => ?_, nofun⟩
          · exact (htick.1.resetAll.trans (hreset hone.1)).trans (hrest h.1)
          · obtain ⟨rfl, rfl⟩ : restored = true ∧ succeeded = true := by simpa using hr
            obtain ⟨hi, hnodup⟩ := List.nodup_cons.mp hnodup
            rcases List.mem_cons.mp hp with rfl | hp
            · rw [h.1.others i hi]
              exact hone.2.1 rfl
            · exact h.2.1 rfl hnodup p hp
        · refine ⟨(htick.1.resetAll.trans (hreset hone.1)).trans (hrest h.1), nofun, fun e' he => ?_⟩
          obtain rfl := Except.error.inj he
          exact h.2.2 e rfl
      · refine ⟨htick.1.resetAll.trans (hreset h.1), nofun, fun e' he => ?_⟩
        obtain rfl := Except.error.inj he
        exact h.2.2 e rfl
    · intro e' he
      obtain rfl := Except.error.inj he
      exact h.2 e rfl

/-- Once the saved handlers are restored, all handlers are as they were. -/
theorem handlers_restored {handlers : Handlers} {previous : List (CancelSignal × Handler)} {w' : Tty}
    (hsaved : Saved handlers previous) (hothers : Others handlers previous w)
    (h : ResetAll (previous.map Prod.fst) w w') (hall : ∀ p ∈ previous, w'.handlers p.1 = p.2) :
    w'.handlers = handlers := by
  funext j
  by_cases hj : j ∈ previous.map Prod.fst
  · obtain ⟨p, hp, rfl⟩ := List.mem_map.mp hj
    rw [hall p hp, hsaved.2 p hp]
  · rw [h.others j hj]
    exact hothers j hj

/-- What a call for the mask changes. -/
structure Remasked (w w' : Tty) : Prop where
  still : Still w w'
  handlers : w'.handlers = w.handlers
  attributes : w'.attributes = w.attributes

theorem Remasked.trans {a b c : Tty} (h : Remasked a b) (h' : Remasked b c) : Remasked a c :=
  ⟨h.still.trans h'.still, h'.handlers.trans h.handlers, h'.attributes.trans h.attributes⟩

theorem Calm.remasked {w w' : Tty} (h : Calm w w') : Remasked w w' := ⟨h.still, h.handlers, h.attributes⟩

theorem ends_setMask {m : Mask} :
    Ends (step place (.setMask m)) w fun r w' => Remasked w w' ∧ (∀ u, r = .ok u → w'.mask = m) ∧
      ∀ e, r = .error e → StepRaises place e := by
  have hfates : Remasked w { w with fates := w.fates.tail } :=
    ⟨⟨rfl, rfl, rfl, rfl, rfl, id⟩, rfl, rfl⟩
  have hset : Remasked w { w with fates := w.fates.tail, mask := m } :=
    ⟨⟨rfl, rfl, rfl, rfl, rfl, id⟩, rfl, rfl⟩
  refine ends_step (fun f => ⟨hset, fun _ _ => rfl, nofun⟩) (fun e _ _ => ?_) ?_
  · refine ⟨hfates, nofun, fun e' he => Or.inl ⟨e, (Except.error.inj he).symm⟩⟩
  · intro w' f hplace _ hw'
    have hw : Remasked w w' := by
      rcases hw' with rfl | rfl
      · exact hfates
      · exact hset
    refine ⟨hw.trans ⟨⟨rfl, rfl, rfl, rfl, rfl, id⟩, rfl, rfl⟩, nofun, fun e' he => Or.inr ⟨?_, hplace⟩⟩
    exact (Except.error.inj he).symm

theorem ends_block : Ends (step place .block) w fun r w' => Remasked w w' ∧
    (∀ m, r = .ok m → m = w.mask) ∧ ∀ e, r = .error e →
      (∃ k, e = .osError k ∧ w'.mask = w.mask) ∨
        e = .cancelled ∧ (place = .guarded ∨ place = .passedOn) := by
  have hblock : Remasked w { w with fates := w.fates.tail, mask := fun _ => true } :=
    ⟨⟨rfl, rfl, rfl, rfl, rfl, id⟩, rfl, rfl⟩
  have hfates : Remasked w { w with fates := w.fates.tail } :=
    ⟨⟨rfl, rfl, rfl, rfl, rfl, id⟩, rfl, rfl⟩
  refine ends_step (fun f => ⟨hblock, fun m hm => (Except.ok.inj hm).symm, nofun⟩) (fun e _ _ => ?_) ?_
  · exact ⟨hfates, nofun, fun e' he => Or.inl ⟨e, (Except.error.inj he).symm, rfl⟩⟩
  · intro w' f hplace _ hw'
    have hw : Remasked w w' := by
      rcases hw' with rfl | rfl
      · exact hfates
      · exact hblock
    refine ⟨hw.trans ⟨⟨rfl, rfl, rfl, rfl, rfl, id⟩, rfl, rfl⟩, nofun, fun e' he => Or.inr ⟨?_, hplace⟩⟩
    exact (Except.error.inj he).symm

theorem ends_getsignal {i : CancelSignal} :
    Ends (step place (.getsignal i)) w fun r w' => Calm w w' ∧ ∀ h, r = .ok h → h = w.handlers i := by
  have hfates : Calm w { w with fates := w.fates.tail } := ⟨rfl, rfl, rfl, rfl, rfl, rfl, rfl, rfl, rfl⟩
  refine ends_step (fun f => ⟨hfates, fun h hh => (Except.ok.inj hh).symm⟩) (fun e _ _ => ⟨hfates, nofun⟩) ?_
  intro w' f _ _ hw'
  have hw : Calm w w' := by rcases hw' with rfl | rfl <;> exact hfates
  exact ⟨hw.trans ⟨rfl, rfl, rfl, rfl, rfl, rfl, rfl, rfl, rfl⟩, nofun⟩

/-! ### Cancel sessions -/

/-- What is known after the handlers of some signals have been installed. -/
def Installed (handlers : Handlers) (signals : List CancelSignal)
    (r : Except Exn (List (CancelSignal × Handler))) (w' : Tty) : Prop :=
  (∀ p, r = .ok p → p.map Prod.fst = signals ∧ Saved handlers p) ∧
  ∀ e, r = .error e → ∃ p, e = .installFailed p ∧ Saved handlers p ∧ Others handlers p w'

/-- What is raised carries the handlers of all signals whose handler may have been replaced. -/
theorem ends_installCancelHandlers (handlers : Handlers) {signals : List CancelSignal}
    {previous : List (CancelSignal × Handler)} :
    Ends (installCancelHandlers signals previous) w fun r w' =>
      Still w w' ∧ w'.mask = w.mask ∧ w'.attributes = w.attributes ∧
        (Saved handlers previous → Others handlers previous w →
          (previous.map Prod.fst ++ signals).Nodup →
          Installed handlers (previous.map Prod.fst ++ signals) r w') := by
  induction signals generalizing previous w with
  | nil =>
    refine ends_pure ⟨Still.refl w, rfl, rfl, fun hsaved _ _ => ⟨fun p hp => ?_, nofun⟩⟩
    obtain rfl := Except.ok.inj hp
    exact ⟨(List.append_nil _).symm, hsaved⟩
  | cons i signals ih =>
    -- the handler that is there is seen before it is replaced
    have hget : Ends (handle (step .guarded (.getsignal i)) fun _ => stop (.installFailed previous)) w
        fun r w' => Calm w w' ∧ (∀ h, r = .ok h → h = w.handlers i) ∧
          ∀ e, r = .error e → e = .installFailed previous := by
      refine ends_handle ends_getsignal (fun h w₁ hk => ⟨hk.1, hk.2, nofun⟩) fun e w₁ => ends_stop ?_
      exact fun hk => ⟨hk.1, nofun, fun e' he => (Except.error.inj he).symm⟩
    refine ends_seq hget (fun handler w₁ => ?_) fun e w₁ h => ?_
    · have hset : Ends (handle (step .guarded (.signal i .cancelHandler)) fun _ =>
          stop (.installFailed (previous ++ [(i, handler)]))) w₁ fun r w' => Reset i w₁ w' ∧
            ∀ e, r = .error e → e = .installFailed (previous ++ [(i, handler)]) := by
        refine ends_handle ends_signal (fun u w₂ hk => ⟨hk.1, nofun⟩) fun e w₂ => ends_stop ?_
        exact fun hk => ⟨hk.1, fun e' he => (Except.error.inj he).symm⟩
      have hkeys : (previous ++ [(i, handler)]).map Prod.fst = previous.map Prod.fst ++ [i] := by simp
      -- what was saved so far, with this handler
      have hnext : ∀ {w₂ : Tty}, Calm w w₁ → Reset i w₁ w₂ → handler = w.handlers i →
          Saved handlers previous → Others handlers previous w →
          (previous.map Prod.fst ++ i :: signals).Nodup →
          Saved handlers (previous ++ [(i, handler)]) ∧ Others handlers (previous ++ [(i, handler)]) w₂ := by
        intro w₂ hcalm hreset hhandler hsaved hothers hnodup
        have hdone : (previous.map Prod.fst ++ [i]).Nodup := by
          rw [List.append_cons] at hnodup
          exact hnodup.of_append_left
        have hi : i ∉ previous.map Prod.fst := fun hmem =>
          (List.nodup_append.mp hdone).2.2 i hmem i (by simp) rfl
        refine ⟨⟨hkeys ▸ hdone, fun p hp => ?_⟩, fun j hj => ?_⟩
        · rcases List.mem_append.mp hp with hp | hp
          · exact hsaved.2 p hp
          · obtain rfl := List.mem_singleton.mp hp
            exact hhandler.trans (hothers i hi)
        · rw [hkeys, List.mem_append, List.mem_singleton, not_or] at hj
          rw [hreset.others j hj.2, hcalm.handlers]
          exact hothers j hj.1
      refine ends_seq hset (fun _ w₂ => ?_) fun e w₂ h hknown => ?_
      · refine ih.mono fun r w₃ h hset hknown => ?_
        refine ⟨(hknown.1.still.trans hset.1.still).trans h.1,
          (h.2.1.trans hset.1.mask).trans hknown.1.mask,
          (h.2.2.1.trans hset.1.attributes).trans hknown.1.attributes, ?_⟩
        intro hsaved hothers hnodup
        obtain ⟨hsaved', hothers'⟩ :=
          hnext hknown.1 hset.1 (hknown.2.1 handler rfl) hsaved hothers hnodup
        have hinstalled := h.2.2.2 hsaved' hothers'
        rw [hkeys, List.append_assoc, List.singleton_append] at hinstalled
        exact hinstalled hnodup
      · refine ⟨hknown.1.still.trans h.1.still, h.1.mask.trans hknown.1.mask,
          h.1.attributes.trans hknown.1.attributes, ?_⟩
        intro hsaved hothers hnodup
        obtain ⟨hsaved', hothers'⟩ := hnext hknown.1 h.1 (hknown.2.1 handler rfl) hsaved hothers hnodup
        refine ⟨nofun, fun e' he => ⟨_, ?_, hsaved', hothers'⟩⟩
        obtain rfl := Except.error.inj he
        exact h.2 e rfl
    · refine ⟨h.1.still, h.1.mask, h.1.attributes, fun hsaved hothers _ => ⟨nofun, fun e' he => ?_⟩⟩
      obtain rfl := Except.error.inj he
      refine ⟨previous, h.2.2 e rfl, hsaved, fun j hj => ?_⟩
      rw [h.1.handlers]
      exact hothers j hj

/-- Only errors of the terminal are raised. -/
def OnlyOperator {α : Type} (r : Except Exn α) : Prop := ∀ e, r = .error e → ∃ x, e = .operator x

theorem onlyOperator_error {α : Type} {e : Exn} (h : ∃ x, e = .operator x) :
    OnlyOperator (.error e : Except Exn α) := fun _ he => Except.error.inj he ▸ h

theorem onlyOperator_raise {α : Type} (x : OperatorTerminalError) :
    OnlyOperator (.error (.operator x) : Except Exn α) := onlyOperator_error ⟨x, rfl⟩

/-- The restoration of the mask, after which the terminal is latched where it has failed. -/
theorem ends_unmask {m : Mask} :
    Ends (handle (step .guarded (.setMask m) >>= fun _ => pure true) fun _ => do
      tick .unguarded
      setRestoreFailed
      pure false) w fun r w' => Still w w' ∧ w'.attributes = w.attributes ∧ (∃ b, r = .ok b) ∧
        (r = .ok true → w'.handlers = w.handlers ∧ w'.mask = m) ∧
        (r = .ok false → w'.restoreFailed = true) := by
  have hset : Ends (step .guarded (.setMask m) >>= fun _ => pure true) w fun r w' =>
      Remasked w w' ∧ ∀ b, r = .ok b → b = true ∧ w'.mask = m := by
    refine ends_seq ends_setMask (fun u w₁ => ends_pure fun h => ⟨h.1, fun b hb => ?_⟩) ?_
    · exact ⟨(Except.ok.inj hb).symm, h.2.1 u rfl⟩
    · exact fun e w₁ h => ⟨h.1, nofun⟩
  refine ends_handle hset (fun b w₁ h => ?_) fun e w₁ => ?_
  · obtain ⟨rfl, hmask⟩ := h.2 b rfl
    exact ⟨h.1.still, h.1.attributes, ⟨_, rfl⟩, fun _ => ⟨h.1.handlers, hmask⟩, nofun⟩
  · refine ends_after_tick fun w₂ => ends_writing rfl (ends_pure fun htick h => ?_)
    exact ⟨(h.1.still.trans htick.still).trans (still_setRestoreFailed w₂),
      htick.attributes.trans h.1.attributes, ⟨_, rfl⟩, nofun, fun _ => rfl⟩

/-- A session that could not begin is undone, or the terminal is latched. -/
theorem ends_abandonInstall {previous : List (CancelSignal × Handler)} {oldMask : Mask} :
    Ends (abandonInstall previous oldMask) w fun r w' => Still w w' ∧
      w'.attributes = w.attributes ∧ OnlyOperator r ∧ (∀ s, r ≠ .ok s) ∧
      ∀ handlers, Saved handlers previous → Others handlers previous w →
        Back w.attributes handlers oldMask w' := by
  refine ends_seq ends_restoreCancelHandlers (fun restored w₁ => ?_) fun e w₁ h => ?_
  · split_ifs with hrestored
    · refine ends_seq ends_unmask (fun maskRestored w₂ => ?_) fun e w₂ h => absurd h.2.2.1 nofun
      refine ends_after_tick fun w₃ => ends_raise fun htick h hreset => ?_
      have hattributes := (htick.attributes.trans h.2.1).trans hreset.1.attributes
      refine ⟨(hreset.1.still.trans h.1).trans htick.still, hattributes, onlyOperator_raise _, nofun, ?_⟩
      intro handlers hsaved hothers
      cases maskRestored with
      | true =>
        obtain ⟨hhandlers, hmask⟩ := h.2.2.2.1 rfl
        refine Or.inl ⟨hattributes, ?_, htick.mask.trans hmask⟩
        rw [htick.handlers, hhandlers]
        exact handlers_restored hsaved hothers hreset.1 (hreset.2.1 (congrArg _ hrestored) hsaved.1)
      | false => exact Or.inr (htick.still.latched (h.2.2.2.2 rfl))
    · refine ends_writing rfl (ends_after_tick fun w₂ => ends_raise fun htick hreset => ?_)
      refine ⟨(hreset.1.still.trans (still_setRestoreFailed w₁)).trans htick.still,
        htick.attributes.trans hreset.1.attributes, onlyOperator_raise _, nofun, fun _ _ _ => Or.inr ?_⟩
      exact htick.still.latched rfl
  · obtain ⟨-, hplace | hplace⟩ := h.2.2 e rfl
    · exact nomatch hplace
    · exact nomatch hplace

theorem ends_installClauses {oldMask : Mask} {e : Exn} :
    Ends (installClauses oldMask e) w fun r w' => Still w w' ∧ w'.attributes = w.attributes ∧
      OnlyOperator r ∧ (∀ s, r ≠ .ok s) ∧ ∀ previous, e = .installFailed previous → ∀ handlers,
        Saved handlers previous → Others handlers previous w → Back w.attributes handlers oldMask w' := by
  have hother : (∀ previous, e ≠ .installFailed previous) → Ends (do
      handle (step .guarded (.setMask oldMask)) fun _ => pure ()
      raise .ioFailed : Method (List (CancelSignal × Handler))) w fun r w' => Still w w' ∧
        w'.attributes = w.attributes ∧ OnlyOperator r ∧ (∀ s, r ≠ .ok s) ∧ ∀ previous,
        e = .installFailed previous → ∀ handlers, Saved handlers previous → Others handlers previous w →
          Back w.attributes handlers oldMask w' := by
    intro hne
    have hset : Ends (handle (step .guarded (.setMask oldMask)) fun _ => pure ()) w fun r w' =>
        Remasked w w' ∧ ∃ u, r = .ok u := by
      refine ends_handle ends_setMask (fun u w₁ h => ⟨h.1, ⟨u, rfl⟩⟩) fun e w₁ => ends_pure fun h => ?_
      exact ⟨h.1, ⟨_, rfl⟩⟩
    refine ends_seq hset (fun u w₁ => ends_raise fun h => ?_) fun e w₁ h => absurd h.2 nofun
    exact ⟨h.1.still, h.1.attributes, onlyOperator_raise _, nofun, fun p hp => absurd hp (hne p)⟩
  cases e with
  | installFailed previous =>
    refine ends_abandonInstall.mono fun r w' h => ⟨h.1, h.2.1, h.2.2.1, h.2.2.2.1, fun p hp => ?_⟩
    obtain rfl := Exn.installFailed.inj hp
    exact h.2.2.2.2
  | operator x => exact hother nofun
  | cancelled => exact hother nofun
  | osError k => exact hother nofun
  | termiosError => exact hother nofun
  | unicodeError => exact hother nofun

/-- The session saves these handlers, of all signals, and this mask. -/
structure CancelSession.Saves (s : CancelSession) (handlers : Handlers) (mask : Mask) : Prop where
  signals : s.previous.map Prod.fst = CancelSignal.all
  saved : Saved handlers s.previous
  oldMask : s.oldMask = mask

/-- A session that has begun knows what to restore; one that has not is undone, or the terminal is
latched. -/
theorem ends_beginCancelSession : Ends beginCancelSession w fun r w' => Still w w' ∧
    w'.attributes = w.attributes ∧ OnlyOperator r ∧
    (∀ s, r = .ok s → s.Saves w.handlers w.mask) ∧
    (∀ e, r = .error e → Back w.attributes w.handlers w.mask w') := by
  refine ends_after_tick fun w₁ => ?_
  have hblock : Ends (handle (step .blocking .block) fun _ => do
      tick .unguarded
      raise .ioFailed) w₁ fun r w' => Remasked w₁ w' ∧ OnlyOperator r ∧
        (∀ m, r = .ok m → m = w₁.mask) ∧ ∀ e, r = .error e → w'.mask = w₁.mask := by
    refine ends_handle ends_block (fun m w₂ h => ⟨h.1, nofun, h.2.1, nofun⟩) fun e w₂ => ?_
    refine ends_after_tick fun w₃ => ends_raise fun htick h => ?_
    refine ⟨h.1.trans htick.remasked, onlyOperator_raise _, nofun, fun _ _ => ?_⟩
    rcases h.2.2 e rfl with ⟨k, -, hmask⟩ | ⟨-, hplace | hplace⟩
    · exact htick.mask.trans hmask
    · exact nomatch hplace
    · exact nomatch hplace
  refine ends_seq hblock (fun oldMask w₂ => ?_) fun e w₂ h htick => ?_
  · have hinstall : Ends (installCancelHandlers CancelSignal.all []) w₂ fun r w' => Still w₂ w' ∧
        w'.attributes = w₂.attributes ∧ Installed w₂.handlers CancelSignal.all r w' := by
      refine (ends_installCancelHandlers w₂.handlers).mono fun r w' h => ⟨h.1, h.2.2.1, ?_⟩
      exact h.2.2.2 ⟨List.nodup_nil, nofun⟩ (fun _ _ => rfl) (by decide)
    have hhandled : Ends (handle (installCancelHandlers CancelSignal.all []) (installClauses oldMask)) w₂
        fun r w' => Still w₂ w' ∧ w'.attributes = w₂.attributes ∧ OnlyOperator r ∧
          (∀ p, r = .ok p → p.map Prod.fst = CancelSignal.all ∧ Saved w₂.handlers p) ∧
          ∀ e, r = .error e → Back w₂.attributes w₂.handlers oldMask w' :=
      ends_handle hinstall (fun p w₃ h => ⟨h.1, h.2.1, nofun, h.2.2.1, nofun⟩) fun e w₃ =>
        ends_installClauses.mono fun r w' h hinstalled => by
          obtain ⟨p, rfl, hsaved, hothers⟩ := hinstalled.2.2.2 e rfl
          refine ⟨hinstalled.1.trans h.1, h.2.1.trans hinstalled.2.1, h.2.2.1, ?_, fun _ _ => ?_⟩
          · exact fun q hq => absurd hq (h.2.2.2.1 q)
          · rw [← hinstalled.2.1]
            exact h.2.2.2.2 p rfl w₂.handlers hsaved hothers
    refine ends_seq hhandled (fun p w₃ => ends_pure fun h hb htick => ?_) fun e w₃ h hb htick => ?_
    · refine ⟨(htick.still.trans hb.1.still).trans h.1,
        (h.2.1.trans hb.1.attributes).trans htick.attributes, nofun, fun s hs => ?_, nofun⟩
      obtain rfl := Except.ok.inj hs
      obtain ⟨hsignals, hsaved⟩ := h.2.2.2.1 p rfl
      refine ⟨hsignals, ?_, (hb.2.2.1 oldMask rfl).trans htick.mask⟩
      rw [← htick.handlers, ← hb.1.handlers]
      exact hsaved
    · have hattributes := (h.2.1.trans hb.1.attributes).trans htick.attributes
      refine ⟨(htick.still.trans hb.1.still).trans h.1, hattributes, ?_, nofun, fun _ _ => ?_⟩
      · exact onlyOperator_error (h.2.2.1 e rfl)
      · have hback := h.2.2.2.2 e rfl
        rw [hb.1.attributes, hb.1.handlers, htick.attributes, htick.handlers, hb.2.2.1 oldMask rfl,
          htick.mask] at hback
        exact hback
  · refine ⟨htick.still.trans h.1.still, h.1.attributes.trans htick.attributes, ?_, nofun, ?_⟩
    · exact onlyOperator_error (h.2.1 e rfl)
    · intro e' he
      refine Or.inl ⟨h.1.attributes.trans htick.attributes, h.1.handlers.trans htick.handlers, ?_⟩
      exact (h.2.2.2 e rfl).trans htick.mask

theorem ends_activateCancelSession {session : CancelSession} :
    Ends (activateCancelSession session) w fun r w' => Remasked w w' ∧
      ∀ e, r = .error e → Passes .passedOn e := by
  refine ends_seq (simple_tick w) (fun _ w₁ => ?_) fun e w₁ h => ⟨h.1.remasked, fun e' he => ?_⟩
  · refine ends_handle ends_setMask (fun u w₂ h htick => ⟨htick.1.remasked.trans h.1, nofun⟩) fun e w₂ => ?_
    have hfailed : Ends (tick .passedOn >>= fun _ => (raise .ioFailed : Method Unit)) w₂
        fun r w' => Remasked w₂ w' ∧ ∀ e, r = .error e → Passes .passedOn e := by
      have htick : Simple (Passes .passedOn) (tick .passedOn) := simple_tick_passes
      have hsimple := simple_bind htick fun _ => (simple_raise (passes_operator _) :
        Simple (Passes .passedOn) (raise .ioFailed : Method Unit))
      exact (hsimple w₂).mono fun r w' h => ⟨h.1.remasked, h.2⟩
    cases e with
    | cancelled =>
      refine ends_stop fun h htick => ⟨htick.1.remasked.trans h.1, fun e' he => ?_⟩
      obtain rfl := Except.error.inj he
      exact Or.inr ⟨rfl, Or.inr rfl⟩
    | operator x | osError k | installFailed previous | termiosError | unicodeError =>
      exact hfailed.mono fun r w' h hset htick => ⟨(htick.1.remasked.trans hset.1).trans h.1, h.2⟩
  · obtain rfl := Except.error.inj he
    exact Or.inr (h.2 e rfl)

/-- The first `try` of the end of a session, which does not depend on its outcome. -/
theorem ends_blockAgain : Ends (handle (step .guarded .block >>= fun _ => pure true) fun _ => do
    tick .unguarded
    pure false) w fun r w' => Remasked w w' ∧ ∃ b, r = .ok b := by
  have hblock : Ends (step .guarded .block >>= fun _ => (pure true : Method Bool)) w fun _ w' =>
      Remasked w w' := ends_seq ends_block (fun m w₁ => ends_pure fun h => h.1) fun e w₁ h => h.1
  refine ends_handle (hblock.mono fun r w' h => (⟨h, trivial⟩ : Remasked w w' ∧ True))
    (fun b w₁ h => ⟨h.1, b, rfl⟩) fun e w₁ => ?_
  exact ends_after_tick fun w₂ => ends_pure fun htick h => ⟨h.1.trans htick.remasked, _, rfl⟩

/-- The second, which contains a signal. -/
theorem ends_restoreAgain {previous : List (CancelSignal × Handler)} :
    Ends (handle (restoreCancelHandlers .guarded previous) fun
      | .cancelled => do
        tick .unguarded
        pure false
      | e => stop e) w fun r w' => ResetAll (previous.map Prod.fst) w w' ∧ (∃ b, r = .ok b) ∧
        (r = .ok true → (previous.map Prod.fst).Nodup → ∀ p ∈ previous, w'.handlers p.1 = p.2) := by
  refine ends_handle ends_restoreCancelHandlers (fun b w₁ h => ⟨h.1, ⟨b, rfl⟩, h.2.1⟩) fun e w₁ => ?_
  cases e with
  | cancelled =>
    exact ends_after_tick fun w₂ => ends_pure fun htick h => ⟨h.1.trans htick.resetAll, ⟨_, rfl⟩, nofun⟩
  | operator x | osError k | installFailed previous' | termiosError | unicodeError =>
    exact ends_stop fun h => nomatch (h.2.2 _ rfl).1

theorem ends_latchUnless {restored : Bool} : Ends (latchUnless restored) w fun r w' => Still w w' ∧
    w'.attributes = w.attributes ∧ w'.handlers = w.handlers ∧ w'.mask = w.mask ∧ (∃ u, r = .ok u) ∧
    (restored = false → w'.restoreFailed = true) := by
  cases restored with
  | true => exact ends_pure ⟨Still.refl w, rfl, rfl, rfl, ⟨_, rfl⟩, nofun⟩
  | false => exact ends_write rfl ⟨still_setRestoreFailed w, rfl, rfl, rfl, ⟨_, rfl⟩, fun _ => rfl⟩

/-- The last one, which is for the mask. -/
theorem ends_unmaskIf {restored : Bool} {m : Mask} :
    Ends (handle (if restored = true then step .guarded (.setMask m) >>= fun _ => pure true
      else pure true) fun _ => do
        tick .unguarded
        setRestoreFailed
        pure false) w fun r w' => Still w w' ∧ w'.attributes = w.attributes ∧ (∃ b, r = .ok b) ∧
          (restored = true → w'.handlers = w.handlers ∧ w'.mask = m ∨ w'.restoreFailed = true) := by
  cases restored with
  | true =>
    refine ends_unmask.mono fun r w' h => ⟨h.1, h.2.1, h.2.2.1, fun _ => ?_⟩
    obtain ⟨b, rfl⟩ := h.2.2.1
    cases b with
    | true => exact Or.inl (h.2.2.2.1 rfl)
    | false => exact Or.inr (h.2.2.2.2 rfl)
  | false =>
    have hpure : Ends (pure true : Method Bool) w fun r w' => w' = w ∧ ∃ b, r = .ok b :=
      ends_pure ⟨rfl, _, rfl⟩
    refine ends_handle hpure (fun b w₁ h => ?_) fun e w₁ => ?_
    · obtain ⟨rfl, -⟩ := h
      exact ⟨Still.refl _, rfl, ⟨b, rfl⟩, nofun⟩
    · exact ends_after_tick fun w₂ => ends_writing rfl (ends_pure fun _ h => absurd h.2 nofun)

/-- The end of a session restores the handlers and the mask, or it latches the terminal. -/
theorem ends_endCancelSession {session : CancelSession} :
    Ends (endCancelSession session) w fun r w' => Still w w' ∧ w'.attributes = w.attributes ∧
      OnlyOperator r ∧ ∀ handlers mask, session.Saves handlers mask →
        Back w.attributes handlers mask w' := by
  refine ends_after_tick fun w₁ => ?_
  refine ends_seq ends_blockAgain (fun blocked w₂ => ?_) fun e w₂ h => absurd h.2 nofun
  refine ends_after_tick fun w₃ => ?_
  refine ends_seq ends_restoreAgain (fun restored w₄ => ?_) fun e w₄ h => absurd h.2.1 nofun
  refine ends_after_tick fun w₅ => ?_
  refine ends_seq ends_latchUnless (fun _ w₆ => ?_) fun e w₆ h => absurd h.2.2.2.2.1 nofun
  refine ends_seq ends_unmaskIf (fun unmasked w₇ => ?_) fun e w₇ h => absurd h.2.2.1 nofun
  refine ends_after_tick fun w₈ => ?_
  -- all steps have been taken, and what is left is the answer
  have hdone : ∀ (r : Except Exn Unit), OnlyOperator r → Calm w₇ w₈ →
      (Still w₆ w₇ ∧ w₇.attributes = w₆.attributes ∧ (∃ b, Except.ok unmasked = .ok (ε := Exn) b) ∧
        (restored = true → w₇.handlers = w₆.handlers ∧ w₇.mask = session.oldMask ∨
          w₇.restoreFailed = true)) →
      (Still w₅ w₆ ∧ w₆.attributes = w₅.attributes ∧ w₆.handlers = w₅.handlers ∧ w₆.mask = w₅.mask ∧
        (restored = false → w₆.restoreFailed = true)) → Calm w₄ w₅ →
      (ResetAll (session.previous.map Prod.fst) w₃ w₄ ∧ (restored = true →
        (session.previous.map Prod.fst).Nodup → ∀ p ∈ session.previous, w₄.handlers p.1 = p.2)) →
      Calm w₂ w₃ → Remasked w₁ w₂ → Calm w w₁ →
      Still w w₈ ∧ w₈.attributes = w.attributes ∧ OnlyOperator r ∧ ∀ handlers mask,
        session.Saves handlers mask → Back w.attributes handlers mask w₈ := by
    intro r hr h8 h7 h6 h5 h4 h3 h2 h1
    have hattributes : w₈.attributes = w.attributes := by
      rw [h8.attributes, h7.2.1, h6.2.1, h5.attributes, h4.1.attributes, h3.attributes, h2.attributes,
        h1.attributes]
    refine ⟨?_, hattributes, hr, fun handlers mask hsaves => ?_⟩
    · exact ((((((h1.still.trans h2.still).trans h3.still).trans h4.1.still).trans h5.still).trans
        h6.1).trans h7.1).trans h8.still
    · cases restored with
      | false => exact Or.inr (h8.still.latched (h7.1.latched (h6.2.2.2.2 rfl)))
      | true =>
        rcases h7.2.2.2 rfl with ⟨hhandlers, hmask⟩ | hlatched
        · refine Or.inl ⟨hattributes, ?_, h8.mask.trans (hmask.trans hsaves.oldMask)⟩
          rw [h8.handlers, hhandlers, h6.2.2.1, h5.handlers]
          refine handlers_restored hsaves.saved (fun j hj => ?_) h4.1 (h4.2 rfl hsaves.saved.1)
          exact absurd (hsaves.signals ▸ j.mem_all) hj
        · exact Or.inr (h8.still.latched hlatched)
  split_ifs
  · refine ends_pure fun h8 h7 h6 h5 h4 h3 h2 h1 => ?_
    exact hdone _ nofun h8 h7 ⟨h6.1, h6.2.1, h6.2.2.1, h6.2.2.2.1, h6.2.2.2.2.2⟩ h5
      ⟨h4.1, fun h => h4.2.2 (congrArg _ h)⟩ h3 h2.1 h1
  · refine ends_reading (ends_raise fun h8 h7 h6 h5 h4 h3 h2 h1 => ?_)
    exact hdone _ (onlyOperator_raise _) h8 h7 ⟨h6.1, h6.2.1, h6.2.2.1, h6.2.2.2.1, h6.2.2.2.2.2⟩ h5
      ⟨h4.1, fun h => h4.2.2 (congrArg _ h)⟩ h3 h2.1 h1

end Sessions

end MyCogni.Terminal
