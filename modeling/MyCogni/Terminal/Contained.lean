import MyCogni.Terminal.Rules

/-! The methods of the terminal in calls of which all events are contained: no call fails with
`termios.error`, and no signal is handled where nothing catches it. -/

namespace MyCogni.Terminal

open Command

/-- No clause is missing for any of the events. -/
def Event.IsContained : Event → Prop
  | .termiosError => False
  | .cancelled .unguarded => False
  | .cancelled .blocking => False
  | _ => True

instance (e : Event) : Decidable e.IsContained := by
  unfold Event.IsContained
  split <;> infer_instance

def Contained (h : List Event) : Prop := ∀ e ∈ h, e.IsContained

instance (h : List Event) : Decidable (Contained h) := inferInstanceAs (Decidable (∀ e ∈ h, e.IsContained))

theorem contained_cons {e : Event} {h : List Event} :
    Contained (e :: h) ↔ e.IsContained ∧ Contained h := List.forall_mem_cons

/-! ### The judgement -/

/-- If all events are contained, the method ends as it should. -/
def Ends {α : Type} (m : Method α) (w : Tty) (q : Except Exn α → Tty → Prop) : Prop :=
  wp m (fun a w' => Contained w'.history → Contained w.history ∧ q (.ok a) w')
    (fun e w' => Contained w'.history → Contained w.history ∧ q (.error e) w') w

section Rules
variable {α β : Type} {w : Tty} {q : Except Exn α → Tty → Prop}

theorem Ends.mono {m : Method α} {q' : Except Exn α → Tty → Prop} (h : Ends m w q)
    (hq : ∀ r w', q r w' → q' r w') : Ends m w q' :=
  wp_mono h (fun _ _ h hc => (h hc).imp_right (hq _ _)) fun _ _ h hc => (h hc).imp_right (hq _ _)

theorem ends_pure {a : α} (h : q (.ok a) w) : Ends (pure a) w q := fun hc => ⟨hc, h⟩

theorem ends_stop {e : Exn} (h : q (.error e) w) : Ends (stop e) w q := fun hc => ⟨hc, h⟩

theorem ends_raise {failure : OperatorTerminalFailure} {delivery : SecretDeliveryState}
    (h : q (.error (.operator { failure, delivery })) w) : Ends (raise failure delivery) w q := ends_stop h

theorem ends_seq {m : Method β} {f : β → Method α} {known : Except Exn β → Tty → Prop}
    (hm : Ends m w known)
    (hf : ∀ b w', Ends (f b) w' fun r w'' => known (.ok b) w' → q r w'')
    (he : ∀ e w', known (.error e) w' → q (.error e) w') : Ends (m >>= f) w q := by
  refine wp_seq hm (fun b w' hb => ?_) fun e w' h hc => (h hc).imp_right (he e w')
  refine wp_mono (hf b w') (fun a w'' h hc => ?_) fun e w'' h hc => ?_
  · obtain ⟨hc', hq⟩ := h hc
    exact (hb hc').imp_right hq
  · obtain ⟨hc', hq⟩ := h hc
    exact (hb hc').imp_right hq

theorem ends_reading {f : Tty → Method α} (h : Ends (f w) w q) : Ends (read >>= f) w q := wp_reading h

/-- A change that adds no event. -/
theorem ends_writing {g : Tty → Tty} {f : Unit → Method α} (hg : (g w).history = w.history)
    (h : Ends (f ()) (g w) q) : Ends (write g >>= f) w q := by
  refine wp_writing ?_
  unfold Ends at h
  rw [hg] at h
  exact h

theorem ends_write {g : Tty → Tty} {q : Except Exn Unit → Tty → Prop} (hg : (g w).history = w.history)
    (h : q (.ok ()) (g w)) : Ends (write g) w q := by
  show Contained (g w).history → _
  rw [hg]
  exact fun hc => ⟨hc, h⟩

theorem ends_handle {m : Method α} {handler : Exn → Method α} {known : Except Exn α → Tty → Prop}
    (hm : Ends m w known) (hok : ∀ a w', known (.ok a) w' → q (.ok a) w')
    (hhandler : ∀ e w', Ends (handler e) w' fun r w'' => known (.error e) w' → q r w'') :
    Ends (handle m handler) w q := by
  refine wp_try hm (fun a w' h hc => (h hc).imp_right (hok a w')) fun e w' he => ?_
  refine wp_mono (hhandler e w') (fun a w'' h hc => ?_) fun e w'' h hc => ?_
  · obtain ⟨hc', hq⟩ := h hc
    exact (he hc').imp_right hq
  · obtain ⟨hc', hq⟩ := h hc
    exact (he hc').imp_right hq

/-- What is left of a method when its `finally` has ended. -/
def afterLast (r : Except Exn α) : Except Exn Unit → Except Exn α
  | .ok _ => r
  | .error e => .error e

theorem ends_lastly {m : Method α} {last : Method Unit} {known : Except Exn α → Tty → Prop}
    (hm : Ends m w known)
    (hlast : ∀ r w', Ends last w' fun r' w'' => known r w' → q (afterLast r r') w'') :
    Ends (lastly m last) w q := by
  have hend : ∀ (r : Except Exn α) (w' : Tty), (Contained w'.history → Contained w.history ∧ known r w') →
      wp last (fun _ w'' => Contained w''.history → Contained w.history ∧ q r w'')
        (fun e w'' => Contained w''.history → Contained w.history ∧ q (.error e) w'') w' := by
    intro r w' hr
    refine wp_mono (hlast r w') (fun u w'' h hc => ?_) fun e w'' h hc => ?_
    · obtain ⟨hc', hq⟩ := h hc
      exact (hr hc').imp_right hq
    · obtain ⟨hc', hq⟩ := h hc
      exact (hr hc').imp_right hq
  exact wp_last hm (fun a w' h => hend (.ok a) w' h) fun e w' h => hend (.error e) w' h

end Rules

/-! ### Steps -/

/-- What is raised at a place, if all events are contained. -/
def Passes (place : Place) (e : Exn) : Prop :=
  (∃ x, e = .operator x) ∨ e = .cancelled ∧ (place = .guarded ∨ place = .passedOn)

/-- Older events are still there. -/
def Grows (w w' : Tty) : Prop := ∃ newer, w'.history = newer ++ w.history

theorem contained_of_grows {w w' : Tty} (h : Grows w w') (hc : Contained w'.history) :
    Contained w.history := by
  obtain ⟨newer, hnewer⟩ := h
  rw [hnewer] at hc
  exact fun e he => hc e (List.mem_append_right newer he)

theorem effect_grows (w : Tty) (o : Op) (f : Fate) : Grows w (effect w o f).2 := by
  cases o with
  | write payload secret =>
    cases secret with
    | true => exact ⟨[.secretWrite], rfl⟩
    | false => exact ⟨[], rfl⟩
  | _ => exact ⟨[], rfl⟩

theorem failedEffect_grows (w : Tty) (o : Op) : Grows w (failedEffect w o) := by
  cases o with
  | write payload secret =>
    cases secret with
    | true => exact ⟨[.secretWrite], rfl⟩
    | false => exact ⟨[], rfl⟩
  | _ => exact ⟨[], rfl⟩

/-- A step, whatever its fate, where `w.fates.tail` is what is left of the fates. -/
theorem ends_step {place : Place} {o : Op} {w : Tty} {q : Except Exn (Reply o) → Tty → Prop}
    (hok : ∀ f, q (.ok (effect { w with fates := w.fates.tail } o f).1)
      (effect { w with fates := w.fates.tail } o f).2)
    (hos : ∀ e, o.isSafe = false → w.fates ≠ [] →
      q (.error (.osError e)) (failedEffect { w with fates := w.fates.tail } o))
    (hcancel : ∀ w' f, place = .guarded ∨ place = .passedOn → w.fates ≠ [] →
      w' = { w with fates := w.fates.tail } ∨ w' = (effect { w with fates := w.fates.tail } o f).2 →
      q (.error .cancelled) (w'.note (.cancelled place))) :
    Ends (step place o) w q := by
  obtain ⟨f, hstep, hnil⟩ := step_cases place o w
  have hfates : f ≠ .returns → w.fates ≠ [] := fun hne hnil' => hne (hnil hnil')
  have hperform : Ends (perform place o f) { w with fates := w.fates.tail } q := by
    refine wp_perform (fun hc => ⟨contained_of_grows (effect_grows _ o f) hc, hok f⟩)
      (fun e hne hsafe hc => ⟨contained_of_grows (failedEffect_grows _ o) hc, hos e hsafe (hfates hne)⟩)
      (fun _ hc => (contained_cons.mp hc).1.elim) fun w' hne hw' hc => ?_
    obtain ⟨hplace, hc'⟩ := contained_cons.mp hc
    refine ⟨?_, hcancel w' f ?_ (hfates hne) hw'⟩
    · rcases hw' with rfl | rfl
      · exact hc'
      · exact contained_of_grows (effect_grows _ o f) hc'
    · cases place with
      | guarded => exact Or.inl rfl
      | passedOn => exact Or.inr rfl
      | blocking | unguarded => exact hplace.elim
  unfold Ends wp at hperform ⊢
  rw [hstep]
  exact hperform

/-! ### Methods that leave the process and the terminal as they are -/

/-- The locks, the descriptor, the latch, the handlers, the mask and the attributes are as they were. -/
structure Calm (w w' : Tty) : Prop where
  processLock : w'.processLock = w.processLock
  operationLock : w'.operationLock = w.operationLock
  descriptorOpen : w'.descriptorOpen = w.descriptorOpen
  fd : w'.fd = w.fd
  ownsLock : w'.ownsLock = w.ownsLock
  restoreFailed : w'.restoreFailed = w.restoreFailed
  handlers : w'.handlers = w.handlers
  mask : w'.mask = w.mask
  attributes : w'.attributes = w.attributes

theorem Calm.refl (w : Tty) : Calm w w := ⟨rfl, rfl, rfl, rfl, rfl, rfl, rfl, rfl, rfl⟩

theorem Calm.trans {a b c : Tty} (h : Calm a b) (h' : Calm b c) : Calm a c :=
  ⟨h'.processLock.trans h.processLock, h'.operationLock.trans h.operationLock,
    h'.descriptorOpen.trans h.descriptorOpen, h'.fd.trans h.fd, h'.ownsLock.trans h.ownsLock,
    h'.restoreFailed.trans h.restoreFailed, h'.handlers.trans h.handlers, h'.mask.trans h.mask,
    h'.attributes.trans h.attributes⟩

/-- The method is calm, and it raises nothing else. -/
def Simple {α : Type} (raises : Exn → Prop) (m : Method α) : Prop :=
  ∀ w, Ends m w fun r w' => Calm w w' ∧ ∀ e, r = .error e → raises e

section Simple
variable {α β : Type} {raises : Exn → Prop}

theorem Simple.mono {raises' : Exn → Prop} {m : Method α} (h : Simple raises m)
    (hraises : ∀ e, raises e → raises' e) : Simple raises' m :=
  fun w => (h w).mono fun _ _ h => ⟨h.1, fun e he => hraises e (h.2 e he)⟩

theorem simple_pure {a : α} : Simple raises (pure a : Method α) :=
  fun w => ends_pure ⟨Calm.refl w, nofun⟩

theorem simple_stop {e : Exn} (h : raises e) : Simple raises (stop e : Method α) := by
  refine fun w => ends_stop ⟨Calm.refl w, fun e' he => ?_⟩
  obtain rfl := Except.error.inj he
  exact h

theorem simple_bind {m : Method β} {f : β → Method α} (hm : Simple raises m)
    (hf : ∀ b, Simple raises (f b)) : Simple raises (m >>= f) := by
  intro w
  refine ends_seq (hm w) (fun b w₁ => ?_) fun e w' h => ⟨h.1, fun e' he => ?_⟩
  · exact (hf b w₁).mono fun r w' h hknown => ⟨hknown.1.trans h.1, h.2⟩
  · obtain rfl := Except.error.inj he
    exact h.2 _ rfl

theorem simple_reading {f : Tty → Method α} (h : ∀ w, Simple raises (f w)) : Simple raises (read >>= f) :=
  fun w => ends_reading (h w w)

theorem simple_setLocals (f : Locals → Locals) : Simple raises (setLocals f) :=
  fun _ => ends_write rfl ⟨⟨rfl, rfl, rfl, rfl, rfl, rfl, rfl, rfl, rfl⟩, nofun⟩

theorem simple_handle {raised : Exn → Prop} {m : Method α} {handler : Exn → Method α}
    (hm : Simple raised m) (hhandler : ∀ e, Simple (fun e' => raised e → raises e') (handler e)) :
    Simple raises (handle m handler) := by
  intro w
  refine ends_handle (hm w) (fun a w' h => ⟨h.1, nofun⟩) fun e w₁ => ?_
  refine (hhandler e w₁).mono fun r w' h hknown => ⟨hknown.1.trans h.1, fun e' he => ?_⟩
  exact h.2 e' he (hknown.2 e rfl)

/-- A call that changes nothing but the input, the output and the records. -/
def Op.isCalm : Op → Bool
  | .openTty _ | .tcsetattr _ | .block | .setMask _ | .signal _ _ | .close => false
  | _ => true

/-- What a step raises. -/
def StepRaises (place : Place) (e : Exn) : Prop :=
  (∃ k, e = .osError k) ∨ e = .cancelled ∧ (place = .guarded ∨ place = .passedOn)

theorem calm_effect {o : Op} (ho : o.isCalm = true) (w : Tty) (f : Fate) : Calm w (effect w o f).2 := by
  cases o with
  | openTty n => exact nomatch ho
  | tcsetattr a => exact nomatch ho
  | block => exact nomatch ho
  | setMask m => exact nomatch ho
  | signal i h => exact nomatch ho
  | close => exact nomatch ho
  | _ => exact ⟨rfl, rfl, rfl, rfl, rfl, rfl, rfl, rfl, rfl⟩

theorem calm_failed {o : Op} (ho : o.isCalm = true) (w : Tty) : Calm w (failedEffect w o) := by
  cases o with
  | close => exact nomatch ho
  | _ => exact ⟨rfl, rfl, rfl, rfl, rfl, rfl, rfl, rfl, rfl⟩

theorem simple_step {place : Place} {o : Op} (ho : o.isCalm = true) :
    Simple (StepRaises place) (step place o) := by
  intro w
  have hfates : Calm w { w with fates := w.fates.tail } := ⟨rfl, rfl, rfl, rfl, rfl, rfl, rfl, rfl, rfl⟩
  refine ends_step (fun f => ⟨hfates.trans (calm_effect ho _ f), nofun⟩)
    (fun e _ _ => ⟨hfates.trans (calm_failed ho _), fun e' he => ?_⟩) fun w' f hplace _ hw' => ?_
  · obtain rfl := Except.error.inj he
    exact Or.inl ⟨e, rfl⟩
  · have hw : Calm w w' := by
      rcases hw' with rfl | rfl
      · exact hfates
      · exact hfates.trans (calm_effect ho _ f)
    refine ⟨hw.trans ⟨rfl, rfl, rfl, rfl, rfl, rfl, rfl, rfl, rfl⟩, fun e' he => ?_⟩
    obtain rfl := Except.error.inj he
    exact Or.inr ⟨rfl, hplace⟩

theorem simple_tick {place : Place} :
    Simple (fun e => e = .cancelled ∧ (place = .guarded ∨ place = .passedOn)) (tick place) := by
  intro w
  have hfates : Calm w { w with fates := w.fates.tail } := ⟨rfl, rfl, rfl, rfl, rfl, rfl, rfl, rfl, rfl⟩
  refine ends_step (fun f => ⟨hfates, nofun⟩) (fun e hsafe => nomatch hsafe) fun w' f hplace _ hw' => ?_
  have hw : Calm w w' := by rcases hw' with rfl | rfl <;> exact hfates
  refine ⟨hw.trans ⟨rfl, rfl, rfl, rfl, rfl, rfl, rfl, rfl, rfl⟩, fun e' he => ?_⟩
  obtain rfl := Except.error.inj he
  exact ⟨rfl, hplace⟩

theorem simple_raise {failure : OperatorTerminalFailure} {delivery : SecretDeliveryState}
    (h : raises (.operator { failure, delivery })) : Simple raises (raise failure delivery : Method α) :=
  simple_stop h

theorem simple_ite {c : Prop} [Decidable c] {m m' : Method α} (hm : Simple raises m)
    (hm' : Simple raises m') : Simple raises (if c then m else m') := by
  split_ifs
  · exact hm
  · exact hm'

end Simple

/-- What is raised in a `try` with a clause for `OSError`. -/
def Caught (place : Place) (e : Exn) : Prop := Passes place e ∨ ∃ k, e = .osError k

section Methods
variable {place : Place}

theorem passes_operator (x : OperatorTerminalError) : Passes place (.operator x) := Or.inl ⟨x, rfl⟩

theorem caught_operator (x : OperatorTerminalError) : Caught place (.operator x) := Or.inl (passes_operator x)

theorem simple_tick_passes : Simple (Passes place) (tick place) := simple_tick.mono fun _ h => Or.inr h

theorem simple_step_caught {o : Op} (ho : o.isCalm = true) : Simple (Caught place) (step place o) := by
  refine (simple_step ho).mono fun e h => ?_
  rcases h with h | h
  · exact Or.inr h
  · exact Or.inl (Or.inr h)

theorem simple_checkDescriptor : Simple (Caught place) (checkDescriptor place) := by
  refine simple_bind (simple_step_caught rfl) fun isCharacterDevice => simple_bind ?_ fun isTerminal => ?_
  · exact simple_ite (simple_step_caught rfl) simple_pure
  · refine simple_ite (simple_raise (caught_operator _)) (simple_bind (simple_step_caught rfl) fun _ => ?_)
    exact simple_ite (simple_raise (caught_operator _)) simple_pure

/-- The checks of the descriptor with the clauses of `_checked_fd`. -/
theorem simple_checkedCall : Simple (Passes place) (handle (checkDescriptor place) fun
      | .osError e => do
        tick place
        raise (descriptorFailure e)
      | e => stop e) := by
  refine simple_handle simple_checkDescriptor fun e => ?_
  have hstop : (∀ k, e ≠ .osError k) → Simple (fun e' => Caught place e → Passes place e')
      (stop e : Method Unit) := fun hne => simple_stop fun h => h.resolve_right fun ⟨k, hk⟩ => hne k hk
  cases e with
  | osError k =>
    refine simple_bind (simple_tick_passes.mono fun _ h _ => h) fun _ => ?_
    exact simple_raise fun _ => passes_operator _
  | operator x => exact hstop nofun
  | cancelled => exact hstop nofun
  | installFailed previous => exact hstop nofun
  | termiosError => exact hstop nofun
  | unicodeError => exact hstop nofun

theorem simple_checkedFd : Simple (Passes place) (checkedFd place) := by
  refine simple_bind simple_tick_passes fun _ => simple_reading fun w => ?_
  refine simple_ite (simple_raise (passes_operator _)) (simple_ite (simple_raise (passes_operator _)) ?_)
  exact simple_checkedCall

theorem simple_checked : Simple (Caught place) (checkedFd place) := simple_checkedFd.mono fun _ h => Or.inl h

theorem simple_writeLoop {secret : Bool} {rest : Bytes} {skip : Nat} :
    Simple (Caught .guarded) (writeLoop secret rest skip) := by
  induction rest generalizing skip with
  | nil => exact simple_pure
  | cons b rest ih =>
    cases skip with
    | succ skip => exact ih
    | zero =>
      refine simple_bind simple_checked fun _ => simple_bind ?_ fun _ => ?_
      · exact simple_ite (simple_setLocals _) simple_pure
      · refine simple_bind (simple_step_caught rfl) fun count => simple_ite (simple_stop ?_) ih
        exact Or.inr ⟨_, rfl⟩

theorem simple_writeAndDrain {payload : Bytes} {secret : Bool} :
    Simple (Caught .guarded) (writeAndDrain payload secret) :=
  simple_bind simple_writeLoop fun _ => simple_bind simple_checked fun _ => simple_step_caught rfl

theorem simple_writeError {secret : Bool} {failure : OperatorTerminalFailure} :
    Simple (Passes place) (writeError secret failure) :=
  simple_reading fun _ => simple_ite (simple_raise (passes_operator _)) (simple_raise (passes_operator _))

theorem simple_writeClauses {secret : Bool} (e : Exn) :
    Simple (fun e' => Caught .guarded e → Passes place e') (writeClauses secret place e) := by
  have hclause : ∀ failure, Simple (fun e' => Caught .guarded e → Passes place e')
      (tick place >>= fun _ => writeError secret failure) := fun failure =>
    (simple_bind simple_tick_passes fun _ => simple_writeError).mono fun _ h _ => h
  have hstop : ¬Caught .guarded e → Simple (fun e' => Caught .guarded e → Passes place e')
      (stop e : Method Unit) := fun hne => simple_stop fun h => absurd h hne
  cases e with
  | operator x =>
    refine Simple.mono (simple_bind simple_tick_passes fun _ => simple_reading fun w => ?_) fun _ h _ => h
    exact simple_ite (simple_raise (passes_operator _)) (simple_stop (passes_operator _))
  | cancelled => exact hclause _
  | osError k =>
    cases k with
    | interrupted => exact hclause _
    | permission | noDevice | other => exact hclause _
  | installFailed previous => exact hstop (by simp [Caught, Passes])
  | termiosError => exact hstop (by simp [Caught, Passes])
  | unicodeError => exact hstop (by simp [Caught, Passes])

theorem simple_writeUnlocked {payload : Bytes} {secret : Bool} :
    Simple (Passes place) (writeUnlocked payload secret place) := by
  refine simple_bind simple_tick_passes fun _ => simple_bind (simple_setLocals _) fun _ => ?_
  exact simple_bind (simple_handle simple_writeAndDrain simple_writeClauses) fun _ => simple_tick_passes

theorem simple_publicBytes {value : Text} : Simple (Passes place) (publicBytes value) :=
  simple_ite (simple_raise (passes_operator _)) simple_pure

theorem simple_drainLine {maxBytes reads : Nat} : Simple (Caught .guarded) (drainLine maxBytes reads) := by
  induction reads with
  | zero => exact simple_pure
  | succ reads ih =>
    refine simple_bind simple_checked fun _ => simple_bind (simple_step_caught rfl) fun chunk => ?_
    exact simple_ite simple_pure ih

theorem simple_readLine {maxBytes reads : Nat} : Simple (Caught .guarded) (readLine maxBytes reads) := by
  induction reads with
  | zero => exact simple_pure
  | succ reads ih =>
    refine simple_bind (simple_step_caught rfl) fun chunk => ?_
    refine simple_ite (simple_raise (caught_operator _)) (simple_bind (simple_setLocals _) fun _ => ?_)
    refine simple_ite simple_pure (simple_reading fun w => simple_ite ?_ ih)
    exact simple_bind simple_drainLine fun _ => simple_raise (caught_operator _)

theorem simple_parseSecret {maxBytes : Nat} {data : Bytes} :
    Simple (fun e => Caught .guarded e ∨ e = .unicodeError) (parseSecret maxBytes data) := by
  unfold parseSecret
  refine simple_ite (simple_raise (Or.inl (caught_operator _))) ?_
  split
  · exact simple_stop (Or.inr rfl)
  · exact simple_ite (simple_raise (Or.inl (caught_operator _))) simple_pure

end Methods

end MyCogni.Terminal
