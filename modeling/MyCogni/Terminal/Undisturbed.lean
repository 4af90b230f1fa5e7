import MyCogni.Terminal.Rules

/-! The methods of the terminal where no call fails and no signal arrives: all but the reads of a secret
return, and they leave alone what the reads have found. -/

namespace MyCogni.Terminal

open Command

/-- The call returns; a read or a write moves at least one byte. -/
def Fate.IsBenign : Fate → Prop
  | .returns => True
  | .moves n => 0 < n
  | _ => False

instance (f : Fate) : Decidable f.IsBenign := by
  unfold Fate.IsBenign
  split <;> infer_instance

/-- The terminal is entered, and nothing fails on it. -/
structure Tty.Undisturbed (w : Tty) : Prop where
  fd : w.fd = true
  restoreFailed : w.restoreFailed = false
  fates : ∀ f ∈ w.fates, f.IsBenign

/-- What a read may change is as it was, and so is what the calls are checked for. -/
structure Aside (w w' : Tty) : Prop where
  mainThread : w'.mainThread = w.mainThread
  operationLock : w'.operationLock = w.operationLock
  input : w'.input = w.input
  chunks : w'.chunks = w.chunks
  data : w'.locals.data = w.locals.data
  failure : w'.locals.failure = w.locals.failure

theorem Aside.refl (w : Tty) : Aside w w := ⟨rfl, rfl, rfl, rfl, rfl, rfl⟩

theorem Aside.trans {a b c : Tty} (h : Aside a b) (h' : Aside b c) : Aside a c :=
  ⟨h'.mainThread.trans h.mainThread, h'.operationLock.trans h.operationLock, h'.input.trans h.input,
    h'.chunks.trans h.chunks, h'.data.trans h.data, h'.failure.trans h.failure⟩

/-- Undisturbed, the method returns such a value. -/
def Smooth {α : Type} (known : α → Prop) (m : Method α) : Prop :=
  ∀ w : Tty, w.Undisturbed →
    wp m (fun a w' => w'.Undisturbed ∧ Aside w w' ∧ known a) (fun _ _ => False) w

section Rules
variable {α β : Type} {known : α → Prop}

theorem Smooth.mono {known' : α → Prop} {m : Method α} (h : Smooth known m) (hknown : ∀ a, known a → known' a) :
    Smooth known' m :=
  fun w hw => wp_mono (h w hw) (fun a _ h => ⟨h.1, h.2.1, hknown a h.2.2⟩) fun _ _ => id

theorem smooth_pure {a : α} (h : known a) : Smooth known (pure a) := fun w hw => ⟨hw, Aside.refl w, h⟩

theorem smooth_bind {knownb : β → Prop} {m : Method β} {f : β → Method α} (hm : Smooth knownb m)
    (hf : ∀ b, knownb b → Smooth known (f b)) : Smooth known (m >>= f) := by
  intro w hw
  refine wp_seq (hm w hw) (fun b w₁ ⟨hw₁, haside, hb⟩ => ?_) fun _ _ => id
  exact wp_mono (hf b hb w₁ hw₁) (fun a w' h => ⟨h.1, haside.trans h.2.1, h.2.2⟩) fun _ _ => id

theorem smooth_reading {f : Tty → Method α} (h : ∀ w : Tty, w.Undisturbed → Smooth known (f w)) :
    Smooth known (read >>= f) :=
  fun w hw => wp_reading (h w hw w hw)

/-- A method before another one, where `w` is a state before it. -/
theorem wp_aside {knownb : β → Prop} {post : α → Tty → Prop} {halt : Exn → Tty → Prop} {m : Method β}
    {f : β → Method α} {w w₁ : Tty} (hm : Smooth knownb m) (hw₁ : w₁.Undisturbed) (haside : Aside w w₁)
    (hf : ∀ b w₂, w₂.Undisturbed → Aside w w₂ → knownb b → wp (f b) post halt w₂) :
    wp (m >>= f) post halt w₁ :=
  wp_seq (hm w₁ hw₁) (fun b w₂ h => hf b w₂ h.1 (haside.trans h.2.1) h.2.2) fun _ _ => False.elim

/-- The clauses of a `try` are not reached. -/
theorem smooth_handle {m : Method α} {handler : Exn → Method α} (hm : Smooth known m) :
    Smooth known (handle m handler) :=
  fun w hw => wp_try (hm w hw) (fun _ _ => id) fun _ _ => False.elim

/-- A change that is put aside. -/
theorem smooth_write {known : Unit → Prop} {g : Tty → Tty} (hg : ∀ w : Tty, w.Undisturbed → (g w).Undisturbed)
    (haside : ∀ w, Aside w (g w)) (h : known ()) : Smooth known (write g) :=
  fun w hw => ⟨hg w hw, haside w, h⟩

/-- What a call that returns may answer. -/
def Answer : (o : Op) → Reply o → Prop
  | .lstat, b | .fstat, b | .isatty, b | .inForeground, b => b = true
  | .write payload _, n => payload ≠ [] → n ≠ 0
  | _, _ => True

end Rules

/-! ### Steps -/

theorem perform_benign {f : Fate} (hf : f.IsBenign) (place : Place) (o : Op) (w : Tty) :
    perform place o f w = (.ok (effect w o f).1, (effect w o f).2) := by
  cases f with
  | returns => rfl
  | moves n => rfl
  | denies => exact hf.elim
  | osError e => exact hf.elim
  | termiosError => exact hf.elim
  | cancelled i after => exact hf.elim

/-- A step takes the next fate, which is benign. -/
theorem step_benign {w : Tty} (hw : w.Undisturbed) (place : Place) (o : Op) :
    ∃ f : Fate, f.IsBenign ∧ step place o w =
      (.ok (effect { w with fates := w.fates.tail } o f).1, (effect { w with fates := w.fates.tail } o f).2) := by
  unfold step
  split
  · next h =>
    have hstate : { w with fates := w.fates.tail } = w := by rw [h, List.tail_nil, ← h]
    have hf : Fate.returns.IsBenign := True.intro
    rw [hstate]
    exact ⟨.returns, hf, perform_benign hf place o w⟩
  · next f fates h =>
    have hf : f.IsBenign := hw.fates f (h ▸ List.mem_cons_self ..)
    rw [h]
    exact ⟨f, hf, perform_benign hf place o _⟩

theorem undisturbed_effect {w : Tty} (hw : w.Undisturbed) (o : Op) (f : Fate) :
    (effect { w with fates := w.fates.tail } o f).2.Undisturbed := by
  have hfates : ∀ f ∈ w.fates.tail, f.IsBenign := fun f hf => hw.fates f (List.mem_of_mem_tail hf)
  cases o with
  | _ => exact ⟨hw.fd, hw.restoreFailed, hfates⟩

theorem moved_pos {f : Fate} (hf : f.IsBenign) {limit : Nat} (hlimit : 0 < limit) : 0 < moved limit f := by
  cases f with
  | moves n => exact Nat.lt_min.mpr ⟨hf, hlimit⟩
  | returns => exact hlimit
  | denies => exact hf.elim
  | osError e => exact hf.elim
  | termiosError => exact hf.elim
  | cancelled i after => exact hf.elim

theorem answer_effect {f : Fate} (hf : f.IsBenign) (o : Op) (w : Tty) : Answer o (effect w o f).1 := by
  have hyes : (f != .denies) = true := by
    cases f with
    | denies => exact hf.elim
    | _ => rfl
  cases o with
  | lstat => exact hyes
  | fstat => exact hyes
  | isatty => exact hyes
  | inForeground => exact hyes
  | write payload secret =>
    intro hne
    exact (moved_pos hf (List.length_pos_iff.mpr hne)).ne'
  | _ => exact True.intro

/-- The calls that do not read. -/
def Op.isAside : Op → Bool
  | .read _ => false
  | _ => true

theorem aside_effect {o : Op} (ho : o.isAside = true) (w : Tty) (f : Fate) : Aside w (effect w o f).2 := by
  cases o with
  | read n => exact nomatch ho
  | _ => exact ⟨rfl, rfl, rfl, rfl, rfl, rfl⟩

theorem smooth_step {place : Place} {o : Op} (ho : o.isAside = true) : Smooth (Answer o) (step place o) := by
  intro w hw
  obtain ⟨f, hf, hstep⟩ := step_benign hw place o
  unfold wp
  rw [hstep]
  have haside : Aside w { w with fates := w.fates.tail } := ⟨rfl, rfl, rfl, rfl, rfl, rfl⟩
  exact ⟨undisturbed_effect hw o f, haside.trans (aside_effect ho _ f), answer_effect hf o _⟩

theorem smooth_tick {place : Place} : Smooth (fun _ => True) (tick place) := smooth_step rfl

/-! ### Methods -/

section Methods
variable {place : Place}

theorem smooth_checkDescriptor : Smooth (fun _ => True) (checkDescriptor place) := by
  refine smooth_bind (smooth_step rfl) fun isCharacterDevice hdevice => ?_
  obtain rfl : isCharacterDevice = true := hdevice
  refine smooth_bind (smooth_step rfl) fun isTerminal hterminal => ?_
  obtain rfl : isTerminal = true := hterminal
  refine smooth_bind (smooth_step rfl) fun inForeground hforeground => ?_
  obtain rfl : inForeground = true := hforeground
  exact smooth_pure True.intro

theorem smooth_checkedFd : Smooth (fun _ => True) (checkedFd place) := by
  refine smooth_bind smooth_tick fun _ _ => smooth_reading fun w hw => ?_
  rw [if_neg (by rw [hw.restoreFailed]; decide), if_neg (by rw [hw.fd]; decide)]
  exact smooth_handle smooth_checkDescriptor

theorem smooth_setLocals {f : Locals → Locals} (hdata : ∀ l, (f l).data = l.data)
    (hfailure : ∀ l, (f l).failure = l.failure) : Smooth (fun _ => True) (setLocals f) :=
  smooth_write (fun _ hw => ⟨hw.fd, hw.restoreFailed, hw.fates⟩)
    (fun w => ⟨rfl, rfl, rfl, rfl, hdata w.locals, hfailure w.locals⟩) True.intro

theorem smooth_writeLoop {secret : Bool} {rest : Bytes} {skip : Nat} :
    Smooth (fun _ => True) (writeLoop secret rest skip) := by
  induction rest generalizing skip with
  | nil => exact smooth_pure True.intro
  | cons b rest ih =>
    cases skip with
    | succ skip => exact ih
    | zero =>
      refine smooth_bind smooth_checkedFd fun _ _ => ?_
      have hnote : Smooth (fun _ => True) (noteAttempt secret) := by
        unfold noteAttempt
        split_ifs
        · exact smooth_setLocals (fun _ => rfl) fun _ => rfl
        · exact smooth_pure True.intro
      refine smooth_bind hnote fun _ _ => smooth_bind (smooth_step rfl) fun count hcount => ?_
      -- a write moves at least one of the bytes that are left
      rw [if_neg (hcount nofun)]
      exact ih

theorem smooth_writeAndDrain {payload : Bytes} {secret : Bool} :
    Smooth (fun _ => True) (writeAndDrain payload secret) := by
  refine smooth_bind smooth_writeLoop fun _ _ => smooth_bind smooth_checkedFd fun _ _ => ?_
  exact smooth_step rfl

theorem smooth_writeUnlocked {payload : Bytes} {secret : Bool} :
    Smooth (fun _ => True) (writeUnlocked payload secret place) := by
  refine smooth_bind smooth_tick fun _ _ => ?_
  refine smooth_bind (smooth_setLocals (fun _ => rfl) fun _ => rfl) fun _ _ => ?_
  exact smooth_bind (smooth_handle smooth_writeAndDrain) fun _ _ => smooth_tick

theorem smooth_answered {o : Op} {handler : Exn → Method Bool} (ho : o.isAside = true) :
    Smooth (· = true) (handle (step place o >>= fun _ => pure true) handler) :=
  smooth_handle (smooth_bind (smooth_step ho) fun _ _ => smooth_pure rfl)

theorem smooth_restoreHandler {i : CancelSignal} {handler : Handler} {attempts : Nat} :
    Smooth (· = true) (restoreHandler place i handler (attempts + 1)) :=
  smooth_answered rfl

theorem smooth_restoreCancelHandlers {previous : List (CancelSignal × Handler)} :
    Smooth (· = true) (restoreCancelHandlers place previous) := by
  induction previous with
  | nil => exact smooth_pure rfl
  | cons entry previous ih =>
    refine smooth_bind smooth_tick fun _ _ => smooth_bind smooth_restoreHandler fun restored hrestored => ?_
    refine smooth_bind ih fun succeeded hsucceeded => smooth_pure ?_
    rw [hrestored, hsucceeded]
    rfl

theorem smooth_installCancelHandlers {signals : List CancelSignal} {previous : List (CancelSignal × Handler)} :
    Smooth (fun _ => True) (installCancelHandlers signals previous) := by
  induction signals generalizing previous with
  | nil => exact smooth_pure True.intro
  | cons i signals ih =>
    refine smooth_bind (smooth_handle (smooth_step rfl)) fun handler _ => ?_
    exact smooth_bind (smooth_handle (smooth_step rfl)) fun _ _ => ih

theorem smooth_beginCancelSession : Smooth (fun _ => True) beginCancelSession := by
  refine smooth_bind smooth_tick fun _ _ => smooth_bind (smooth_handle (smooth_step rfl)) fun oldMask _ => ?_
  exact smooth_bind (smooth_handle smooth_installCancelHandlers) fun previous _ => smooth_pure True.intro

theorem smooth_activateCancelSession {session : CancelSession} :
    Smooth (fun _ => True) (activateCancelSession session) :=
  smooth_bind smooth_tick fun _ _ => smooth_handle (smooth_step rfl)

theorem smooth_latchUnless : Smooth (fun _ => True) (latchUnless true) := smooth_pure True.intro

theorem smooth_endCancelSession {session : CancelSession} :
    Smooth (fun _ => True) (endCancelSession session) := by
  refine smooth_bind smooth_tick fun _ _ => smooth_bind (smooth_answered rfl) fun blocked hblocked => ?_
  refine smooth_bind smooth_tick fun _ _ => ?_
  refine smooth_bind (smooth_handle smooth_restoreCancelHandlers) fun restored hrestored => ?_
  obtain rfl : restored = true := hrestored
  refine smooth_bind smooth_tick fun _ _ => smooth_bind smooth_latchUnless fun _ _ => ?_
  refine smooth_bind (smooth_answered rfl) fun unmasked hunmasked => ?_
  refine smooth_bind smooth_tick fun _ _ => ?_
  rw [if_pos ⟨hblocked, rfl, hunmasked⟩]
  exact smooth_pure True.intro

end Methods

end MyCogni.Terminal
