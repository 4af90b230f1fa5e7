import MyCogni.Terminal.Operations

/-! The session on the terminal: how it is entered and closed, and runs of its operations, with what
happens outside of them between two calls. -/

namespace MyCogni.Terminal

open Command

section Session
variable {w : Tty}

/-! ### The end of a session -/

/-- What a close leaves: nothing is kept open or locked that belongs to the session. -/
structure Closed (w w' : Tty) : Prop where
  descriptorOpen : w'.descriptorOpen = (w.descriptorOpen && !w.fd)
  fd : w'.fd = false
  ownsLock : w'.ownsLock = false
  processLock : w'.processLock = (w.processLock && !w.ownsLock)
  operationLock : w'.operationLock = w.operationLock
  restoreFailed : w'.restoreFailed = w.restoreFailed
  handlers : w'.handlers = w.handlers
  mask : w'.mask = w.mask
  attributes : w'.attributes = w.attributes

/-- The descriptor is closed, also where its close fails. -/
theorem ends_closeDescriptor {isOpen : Bool} : Ends (closeDescriptor isOpen) w fun r w' =>
    Calm { w with descriptorOpen := w.descriptorOpen && !isOpen } w' ∧ r = .ok () := by
  cases isOpen with
  | false =>
    refine ends_pure ⟨⟨rfl, rfl, ?_, rfl, rfl, rfl, rfl, rfl, rfl⟩, rfl⟩
    exact (Bool.and_true _).symm
  | true =>
    have hclosed : Calm { w with descriptorOpen := w.descriptorOpen && !true }
        { w with fates := w.fates.tail, descriptorOpen := false } :=
      ⟨rfl, rfl, (Bool.and_false _).symm, rfl, rfl, rfl, rfl, rfl, rfl⟩
    have hstep : Ends (step .unguarded .close) w fun r w' =>
        Calm { w with descriptorOpen := w.descriptorOpen && !true } w' ∧
          (∀ u, r = .ok u → r = .ok ()) ∧ ∀ e, r = .error e → ∃ k, e = .osError k := by
      refine ends_step (fun f => ⟨hclosed, fun _ _ => rfl, nofun⟩)
        (fun e _ _ => ⟨hclosed, nofun, fun e' he => ⟨e, (Except.error.inj he).symm⟩⟩) ?_
      rintro w' f (hplace | hplace)
      · exact nomatch hplace
      · exact nomatch hplace
    refine ends_handle hstep (fun u w₁ h => ⟨h.1, h.2.1 u rfl⟩) fun e w₁ => ?_
    cases e with
    | osError k => exact ends_pure fun h => ⟨h.1, rfl⟩
    | operator x | cancelled | installFailed previous | termiosError | unicodeError =>
      refine ends_stop fun h => ?_
      obtain ⟨k, hk⟩ := h.2.2 _ rfl
      exact nomatch hk

/-- A close, where no operation is going on. -/
theorem ends_close : Ends close w fun r w' => w.operationLock = false → Closed w w' ∧ r = .ok () := by
  refine ends_reading ?_
  split_ifs with hlocked
  · exact ends_raise fun hfree => absurd (hfree.symm.trans hlocked) nofun
  refine ends_writing rfl ?_
  have hbody : Ends (do
      let w ← read
      write fun w => { w with fd := false }
      closeDescriptor w.fd
      write fun w =>
        if w.ownsLock = true then { w with ownsLock := false, processLock := false } else w)
      { w with operationLock := true } fun r w' =>
        Closed w { w' with operationLock := w.operationLock } ∧ r = .ok () := by
    refine ends_reading (ends_writing rfl (ends_seq ends_closeDescriptor (fun _ w₁ => ?_) fun e w₁ h =>
      nomatch h.2))
    refine ends_write ?_ fun h => ⟨?_, rfl⟩
    · split_ifs <;> rfl
    · have howns : w₁.ownsLock = w.ownsLock := h.1.ownsLock
      have hprocess : w₁.processLock = w.processLock := h.1.processLock
      split_ifs with howned
      · refine ⟨h.1.descriptorOpen, h.1.fd, rfl, ?_, rfl, h.1.restoreFailed, h.1.handlers, h.1.mask,
          h.1.attributes⟩
        simp [← howns, howned]
      · refine ⟨h.1.descriptorOpen, h.1.fd, by simpa using howned, ?_, rfl, h.1.restoreFailed, h.1.handlers,
          h.1.mask, h.1.attributes⟩
        simp [← howns, howned, hprocess]
  refine ends_lastly hbody fun r w₁ => ends_write rfl fun h hfree => ?_
  obtain ⟨hclosed, rfl⟩ := h
  rw [hfree] at hclosed
  exact ⟨hclosed, rfl⟩

/-! ### The start of a session -/

theorem stepRaises_unguarded {e : Exn} (h : StepRaises .unguarded e) : ∃ k, e = .osError k := by
  rcases h with h | ⟨-, hplace | hplace⟩
  · exact h
  · exact nomatch hplace
  · exact nomatch hplace

theorem Calm.opened {w w' : Tty} (h : Calm w w') :
    Calm { w with descriptorOpen := true } { w' with descriptorOpen := true } :=
  ⟨h.processLock, h.operationLock, rfl, h.fd, h.ownsLock, h.restoreFailed, h.handlers, h.mask, h.attributes⟩

/-- The descriptor is open and nothing else has changed, or the open has failed. -/
def Opened (w : Tty) (r : Except Exn Unit) (w' : Tty) : Prop :=
  (∀ u, r = .ok u → Calm { w with descriptorOpen := true } w') ∧
  ∀ e, r = .error e → Calm w w' ∧ ∃ k, e = .osError k

theorem ends_openTty {noFollow : Bool} : Ends (step .unguarded (.openTty noFollow)) w (Opened w) := by
  refine ends_step (fun f => ⟨fun _ _ => ⟨rfl, rfl, rfl, rfl, rfl, rfl, rfl, rfl, rfl⟩, nofun⟩)
    (fun e _ _ => ⟨nofun, fun e' he => ⟨⟨rfl, rfl, rfl, rfl, rfl, rfl, rfl, rfl, rfl⟩, e, ?_⟩⟩) ?_
  · exact (Except.error.inj he).symm
  · rintro w' f (hplace | hplace)
    · exact nomatch hplace
    · exact nomatch hplace

theorem ends_openDescriptor : Ends openDescriptor w (Opened w) := by
  refine ends_handle ends_openTty (fun u w₁ h => ⟨fun _ _ => h.1 u rfl, nofun⟩) fun e w₁ => ?_
  have hstop : ∀ k, Ends (stop (.osError k) : Method Unit) w₁ fun r w' => Calm w w₁ → Opened w r w' :=
    fun k => ends_stop fun h => ⟨nofun, fun e' he => ⟨h, k, (Except.error.inj he).symm⟩⟩
  cases e with
  | osError k =>
    cases k with
    | permission =>
      refine ends_reading ?_
      split_ifs with hdarwin
      · exact (hstop _).mono fun r w' h hopen => h (hopen.2 _ rfl).1
      · refine ends_seq ((simple_step (o := .lstat) rfl) w₁) (fun isRootDevice w₂ => ?_) fun e w₂ h hopen => ?_
        · split_ifs
          · exact ends_stop fun h hopen =>
              ⟨nofun, fun e' he => ⟨(hopen.2 _ rfl).1.trans h.1, _, (Except.error.inj he).symm⟩⟩
          · refine ends_openTty.mono fun r w₃ h hstat hopen => ?_
            have hbefore : Calm w w₂ := (hopen.2 _ rfl).1.trans hstat.1
            refine ⟨fun u hu => (Calm.opened hbefore).trans (h.1 u hu), fun e he => ?_⟩
            exact (h.2 e he).imp_left hbefore.trans
        · refine ⟨nofun, fun e' he => ⟨(hopen.2 _ rfl).1.trans h.1, ?_⟩⟩
          rw [← Except.error.inj he]
          exact stepRaises_unguarded (h.2 e rfl)
    | noDevice | interrupted | other => exact (hstop _).mono fun r w' h hopen => h (hopen.2 _ rfl).1
  | operator x | cancelled | installFailed previous | termiosError | unicodeError =>
    refine ends_stop fun h => ?_
    obtain ⟨-, k, hk⟩ := h.2 _ rfl
    exact nomatch hk

/-- The session has taken the lock of the process. -/
structure Taken (w w' : Tty) : Prop where
  descriptor : w'.descriptorOpen = w'.fd
  ownsLock : w'.ownsLock = true
  processLock : w'.processLock = true
  operationLock : w'.operationLock = false
  restoreFailed : w'.restoreFailed = w.restoreFailed
  handlers : w'.handlers = w.handlers
  mask : w'.mask = w.mask
  attributes : w'.attributes = w.attributes

theorem Taken.calm {a b c : Tty} (h : Taken a b) (h' : Calm b c) : Taken a c :=
  ⟨h'.descriptorOpen.trans (h.descriptor.trans h'.fd.symm), h'.ownsLock.trans h.ownsLock,
    h'.processLock.trans h.processLock, h'.operationLock.trans h.operationLock,
    h'.restoreFailed.trans h.restoreFailed, h'.handlers.trans h.handlers, h'.mask.trans h.mask,
    h'.attributes.trans h.attributes⟩

/-- The locks and the descriptor of a session between two calls. -/
structure Tty.Settled (w : Tty) : Prop where
  operationLock : w.operationLock = false
  descriptor : w.descriptorOpen = w.fd
  opened : w.fd = true → w.ownsLock = true
  owned : w.ownsLock = true → w.processLock = true

theorem Tty.Settled.calm {w w' : Tty} (h : w.Settled) (hcalm : Calm w w') : w'.Settled :=
  ⟨hcalm.operationLock.trans h.operationLock, by rw [hcalm.descriptorOpen, hcalm.fd, h.descriptor],
    by rw [hcalm.fd, hcalm.ownsLock]; exact h.opened,
    by rw [hcalm.ownsLock, hcalm.processLock]; exact h.owned⟩

/-- What is known when a session was entered, or could not be. -/
structure Entered (w : Tty) (r : Except Exn Unit) (w' : Tty) : Prop where
  settled : w'.Settled
  operator : OnlyOperator r
  restoreFailed : w'.restoreFailed = w.restoreFailed
  handlers : w'.handlers = w.handlers
  mask : w'.mask = w.mask
  attributes : w'.attributes = w.attributes
  /-- A session that could not be entered is closed again. -/
  released : ∀ e, r = .error e → w.processLock = false → w'.descriptorOpen = false ∧ w'.processLock = false
  /-- A terminal that is busy is not touched. -/
  busy : w.processLock = true → r = .error (.operator { failure := .busy }) ∧ Calm w w'

/-- The close of a session that could not be entered. -/
theorem ends_closeTaken {w₀ : Tty} {x : OperatorTerminalError} (hfree : w₀.processLock = false) :
    Ends (close >>= fun _ => (stop (.operator x) : Method Unit)) w fun r w' =>
      Taken w₀ w → Entered w₀ r w' := by
  refine ends_seq ends_close (fun _ w₁ => ends_stop fun hclosed h => ?_) fun e w₁ hclosed h =>
    nomatch (hclosed h.operationLock).2
  obtain ⟨hclosed, -⟩ := hclosed h.operationLock
  have hdescriptor : w₁.descriptorOpen = false := by
    rw [hclosed.descriptorOpen, h.descriptor]
    exact Bool.and_not_self _
  have hprocess : w₁.processLock = false := by
    rw [hclosed.processLock, h.ownsLock]
    exact Bool.and_false _
  have hsettled : w₁.Settled := by
    refine ⟨hclosed.operationLock.trans h.operationLock, hdescriptor.trans hclosed.fd.symm, fun hfd => ?_,
      fun howns => ?_⟩
    · rw [hclosed.fd] at hfd
      exact nomatch hfd
    · rw [hclosed.ownsLock] at howns
      exact nomatch howns
  refine ⟨hsettled, onlyOperator_raise _, hclosed.restoreFailed.trans h.restoreFailed,
    hclosed.handlers.trans h.handlers, hclosed.mask.trans h.mask, hclosed.attributes.trans h.attributes,
    fun _ _ _ => ⟨hdescriptor, hprocess⟩, fun hbusy => ?_⟩
  rw [hfree] at hbusy
  exact nomatch hbusy

/-- The part of an entry that is made with the lock of the process. -/
theorem ends_enterBody {w₀ : Tty} (h : Taken w₀ w) : Ends (do
      openDescriptor
      write fun w => { w with fd := true }
      checkDescriptor .unguarded
      let _ ← step .unguarded .tcgetattr) w fun r w' => Taken w₀ w' ∧ (r = .ok () → w'.fd = true) ∧
        ∀ e, r = .error e → (∃ x, e = .operator x) ∨ ∃ k, e = .osError k := by
  have hopened : ∀ {w₁ : Tty}, Calm { w with descriptorOpen := true } w₁ → Taken w₀ { w₁ with fd := true } :=
    fun hopen => ⟨hopen.descriptorOpen, hopen.ownsLock.trans h.ownsLock, hopen.processLock.trans h.processLock,
      hopen.operationLock.trans h.operationLock, hopen.restoreFailed.trans h.restoreFailed,
      hopen.handlers.trans h.handlers, hopen.mask.trans h.mask, hopen.attributes.trans h.attributes⟩
  refine ends_seq ends_openDescriptor (fun _ w₁ => ?_) fun e w₁ hopen => ?_
  · refine ends_writing rfl (ends_seq (simple_checkDescriptor _) (fun _ w₂ => ?_) fun e w₂ hcheck hopen => ?_)
    · refine ends_seq ends_tcgetattr (fun _ w₃ => ends_pure fun hget hcheck hopen => ?_)
        fun e w₃ hget hcheck hopen => ?_
      · refine ⟨((hopened (hopen.1 _ rfl)).calm hcheck.1).calm hget.1, fun _ => ?_, nofun⟩
        exact (hcheck.1.trans hget.1).fd
      · refine ⟨((hopened (hopen.1 _ rfl)).calm hcheck.1).calm hget.1, nofun, fun e' he => Or.inr ?_⟩
        rw [← Except.error.inj he]
        exact hget.2.2 e rfl
    · refine ⟨(hopened (hopen.1 _ rfl)).calm hcheck.1, nofun, fun e' he => ?_⟩
      rw [← Except.error.inj he]
      rcases hcheck.2 e rfl with hpasses | hos
      · rcases hpasses with hx | ⟨-, hplace | hplace⟩
        · exact Or.inl hx
        · exact nomatch hplace
        · exact nomatch hplace
      · exact Or.inr hos
  · obtain ⟨hcalm, hos⟩ := hopen.2 e rfl
    refine ⟨h.calm hcalm, nofun, fun e' he => Or.inr ?_⟩
    rw [← Except.error.inj he]
    exact hos

/-- Between two steps where nothing catches a signal, nothing happens. -/
theorem ends_after_still {α : Type} {m : Method α} {q : Except Exn α → Tty → Prop}
    (hm : Ends m { w with fates := w.fates.tail } q) : Ends (tick .unguarded >>= fun _ => m) w q := by
  unfold Ends
  rw [wp_bind]
  obtain ⟨f, hstep, -⟩ := step_cases .unguarded .tick w
  have hperform : wp (perform .unguarded .tick f) (fun _ => wp m (fun a w' => Contained w'.history →
      Contained w.history ∧ q (.ok a) w') fun e w' => Contained w'.history → Contained w.history ∧
        q (.error e) w') (fun e w' => Contained w'.history → Contained w.history ∧ q (.error e) w')
      { w with fates := w.fates.tail } :=
    wp_perform hm (fun e _ hsafe => nomatch hsafe) (fun _ hc => (contained_cons.mp hc).1.elim)
      fun w' _ _ hc => (contained_cons.mp hc).1.elim
  have htick : (tick .unguarded : Method Unit) w =
      perform .unguarded .tick f { w with fates := w.fates.tail } := hstep
  unfold wp at hperform ⊢
  rw [htick]
  exact hperform

/-- A session is entered, or nothing is kept of the attempt. -/
theorem ends_enter (h : w.Settled) : Ends enter w fun r w' => Entered w r w' := by
  have hcalm : Calm w { w with fates := w.fates.tail } := ⟨rfl, rfl, rfl, rfl, rfl, rfl, rfl, rfl, rfl⟩
  refine ends_after_still (ends_reading ?_)
  split_ifs with hbusy
  · refine ends_raise ⟨h.calm hcalm, onlyOperator_raise _, rfl, rfl, rfl, rfl, fun _ _ hfree => ?_, fun _ =>
      ⟨rfl, hcalm⟩⟩
    exact absurd (hfree.symm.trans hbusy) nofun
  · have hfree : w.processLock = false := by simpa using hbusy
    have htaken : Taken w { w with fates := w.fates.tail, processLock := true, ownsLock := true } :=
      ⟨h.descriptor, rfl, rfl, h.operationLock, rfl, rfl, rfl, rfl⟩
    refine ends_writing rfl (ends_handle (ends_enterBody htaken) (fun _ w₁ hbody => ?_) fun e w₁ => ?_)
    · obtain ⟨htaken, hfd, -⟩ := hbody
      refine ⟨⟨htaken.operationLock, htaken.descriptor, fun _ => htaken.ownsLock, fun _ => htaken.processLock⟩,
        nofun, htaken.restoreFailed, htaken.handlers, htaken.mask, htaken.attributes, nofun, fun hlocked => ?_⟩
      exact absurd (hfree.symm.trans hlocked) nofun
    · cases e with
      | operator x => exact (ends_closeTaken hfree).mono fun r w₂ h hbody => h hbody.1
      | osError k => exact (ends_closeTaken hfree).mono fun r w₂ h hbody => h hbody.1
      | cancelled | installFailed previous | termiosError | unicodeError =>
        refine ends_stop fun hbody => ?_
        rcases hbody.2.2 _ rfl with ⟨x, hx⟩ | ⟨k, hk⟩
        · exact nomatch hx
        · exact nomatch hk

end Session

end MyCogni.Terminal
