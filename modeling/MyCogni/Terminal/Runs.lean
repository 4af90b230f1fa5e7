import MyCogni.Terminal.Session

/-! Runs of the operations of one terminal: each ends with the terminal, the handlers and the mask as they
were, or the session is latched for all operations that follow. -/

namespace MyCogni.Terminal

open Command

/-! ### Calls and turns -/

inductive Operation where
  | enter
  | checkReady
  | writePublic (value : Text)
  | confirm (prompt : Text)
  | readSecret (prompt : Text) (maxBytes : Nat)
  | disclose (fields : List SecretField)
  | close

namespace Operation

abbrev Answer : Operation → Type
  | .confirm _ => Bool
  | .readSecret _ _ => Text
  | _ => Unit

def run : (o : Operation) → Method o.Answer
  | .enter => Terminal.enter
  | .checkReady => Terminal.checkReady
  | .writePublic value => Terminal.writePublic value
  | .confirm prompt => Terminal.confirm prompt
  | .readSecret prompt maxBytes => Terminal.readSecret prompt maxBytes
  | .disclose fields => Terminal.disclose fields
  | .close => Terminal.close

/-- An operation within the session, which its start and its end are not. -/
def InSession : Operation → Prop
  | .enter | .close => False
  | _ => True

instance (o : Operation) : Decidable o.InSession := by
  unfold InSession
  split <;> infer_instance

end Operation

/-- A call of an operation, by the thread, with what becomes of the calls into the system and what is
typed meanwhile. -/
structure Call where
  operation : Operation
  mainThread : Bool
  fates : List Fate
  typed : Bytes

namespace Call

/-- The records are those of this call. -/
def start (c : Call) (w : Tty) : Tty :=
  { w with
    mainThread := c.mainThread
    fates := c.fates
    input := w.input ++ c.typed
    locals := {}
    history := []
    chunks := [] }

def answer (c : Call) (w : Tty) : Except Exn c.operation.Answer := (c.operation.run (c.start w)).1

def after (c : Call) (w : Tty) : Tty := (c.operation.run (c.start w)).2

end Call

inductive Turn where
  | call (c : Call)
  /-- Other code of the process sets handlers, mask and attributes, and another session is entered or
  closed where this one is not open. -/
  | outside (handlers : Handlers) (mask : Mask) (attributes : Attributes) (entered : Bool)

def Turn.after : Turn → Tty → Tty
  | .call c, w => c.after w
  | .outside handlers mask attributes entered, w =>
    { w with handlers, mask, attributes, processLock := if w.ownsLock = true then w.processLock else entered }

def afterAll (turns : List Turn) (w : Tty) : Tty := turns.foldl (fun w t => t.after w) w

/-- It holds of every call of a run, in the state that the call finds. -/
def AtCalls (p : Call → Tty → Prop) : List Turn → Tty → Prop
  | [], _ => True
  | .call c :: turns, w => p c w ∧ AtCalls p turns (c.after w)
  | .outside handlers mask attributes entered :: turns, w =>
    AtCalls p turns ((Turn.outside handlers mask attributes entered).after w)

instance AtCalls.decidable (p : Call → Tty → Prop) [∀ c w, Decidable (p c w)] (turns : List Turn) (w : Tty) :
    Decidable (AtCalls p turns w) :=
  match turns with
  | [] => isTrue trivial
  | .call c :: turns =>
    have := AtCalls.decidable p turns (c.after w)
    inferInstanceAs (Decidable (p c w ∧ AtCalls p turns (c.after w)))
  | .outside handlers mask attributes entered :: turns =>
    AtCalls.decidable p turns ((Turn.outside handlers mask attributes entered).after w)

theorem AtCalls.split {p : Call → Tty → Prop} {before after : List Turn} {w : Tty}
    (h : AtCalls p (before ++ after) w) : AtCalls p after (afterAll before w) := by
  induction before generalizing w with
  | nil => exact h
  | cons t before ih =>
    cases t with
    | call c => exact ih h.2
    | outside handlers mask attributes entered => exact ih h

/-! ### What each call keeps -/

/-- What a call leaves, however it has ended. -/
structure Call.Restores (c : Call) (w : Tty) : Prop where
  operator : OnlyOperator (c.answer w)
  unlocked : (c.after w).operationLock = false
  back : Back w.attributes w.handlers w.mask (c.after w)
  /-- An entry that has failed leaves nothing behind. -/
  released : c.operation = .enter → (∀ u, c.answer w ≠ .ok u) → w.processLock = false →
    (c.after w).descriptorOpen = false ∧ (c.after w).processLock = false
  /-- Where a session is open already, an entry is refused and changes nothing of it. -/
  busy : c.operation = .enter → w.processLock = true →
    (c.after w).descriptorOpen = w.descriptorOpen ∧ (c.after w).processLock = true

/-- The call is refused. -/
def Call.Refused (c : Call) (w : Tty) : Prop :=
  c.operation.InSession → c.answer w = .error (.operator { failure := .restoreFailed })

/-- No call into the system fails with `termios.error`, and no signal is handled where nothing catches
it. -/
def Call.IsContained (c : Call) (w : Tty) : Prop := Contained (c.after w).history

instance (c : Call) (w : Tty) : Decidable (c.IsContained w) := inferInstanceAs (Decidable (Contained _))

theorem Ends.result {α : Type} {m : Method α} {w : Tty} {q : Except Exn α → Tty → Prop} (h : Ends m w q)
    (hc : Contained (m w).2.history) : q (m w).1 (m w).2 := by
  obtain ⟨hok, herror⟩ := wp_iff.mp h
  rcases hm : (m w).1 with e | a
  · exact (herror e hm hc).2
  · exact (hok a hm hc).2

/-- Each operation of a session holds its lock around an restoring method. -/
theorem run_eq_operation {o : Operation} (ho : o.InSession) :
    ∃ (mainThread : Bool) (body : Method o.Answer), o.run = operation mainThread body ∧ Restoring body := by
  cases o with
  | enter => exact ho.elim
  | checkReady => exact ⟨_, _, rfl, restoring_of_simple simple_checkedFd⟩
  | writePublic value =>
    exact ⟨_, _, rfl, restoring_bind simple_publicBytes fun _ => restoring_of_simple simple_writeUnlocked⟩
  | confirm prompt => exact ⟨_, _, rfl, restoring_then restoring_readSecretUnlocked fun _ => simple_pure⟩
  | readSecret prompt maxBytes => exact ⟨_, _, rfl, restoring_readSecretUnlocked⟩
  | disclose fields => exact ⟨_, _, rfl, restoring_discloseUnlocked⟩
  | close => exact ho.elim

theorem Tty.Settled.still {w w' : Tty} (h : w.Settled) (hstill : Still w w') : w'.Settled :=
  ⟨hstill.operationLock.trans h.operationLock, by rw [hstill.descriptorOpen, hstill.fd, h.descriptor],
    by rw [hstill.fd, hstill.ownsLock]; exact h.opened,
    by rw [hstill.ownsLock, hstill.processLock]; exact h.owned⟩

theorem Tty.Settled.closed {w w' : Tty} (h : w.Settled) (hclosed : Closed w w') : w'.Settled := by
  refine ⟨hclosed.operationLock.trans h.operationLock, ?_, fun hfd => ?_, fun howns => ?_⟩
  · rw [hclosed.descriptorOpen, h.descriptor, hclosed.fd]
    exact Bool.and_not_self _
  · exact absurd (hclosed.fd.symm.trans hfd) nofun
  · exact absurd (hclosed.ownsLock.symm.trans howns) nofun

section Call
variable {c : Call} {w : Tty}

/-- A call keeps the invariant of the session and the latch, and it restores what it has changed. -/
theorem restores_call (h : w.Settled) (hc : c.IsContained w) :
    (c.after w).Settled ∧ (w.restoreFailed = true → (c.after w).restoreFailed = true) ∧ c.Restores w := by
  have hstart : (c.start w).Settled := ⟨h.operationLock, h.descriptor, h.opened, h.owned⟩
  by_cases hsession : c.operation.InSession
  · obtain ⟨mainThread, body, hrun, hbody⟩ := run_eq_operation hsession
    have hrestoring : Restoring c.operation.run := hrun ▸ restoring_operation hbody
    obtain ⟨hstill, hoperator, hback⟩ := (hrestoring (c.start w)).result hc
    have hsettled : (c.after w).Settled := hstart.still hstill
    have hne : c.operation ≠ .enter := by
      intro henter
      rw [henter] at hsession
      exact hsession
    exact ⟨hsettled, hstill.latched, hoperator, hsettled.operationLock, hback, fun henter => absurd henter hne,
      fun henter => absurd henter hne⟩
  · obtain ⟨operation, mainThread, fates, typed⟩ := c
    cases operation with
    | enter =>
      have hentered := (ends_enter hstart).result hc
      refine ⟨hentered.settled, fun hl => hentered.restoreFailed.trans hl, hentered.operator,
        hentered.settled.operationLock, ?_, fun _ hfailed hfree => ?_, fun _ hheld => ?_⟩
      · exact Or.inl ⟨hentered.attributes, hentered.handlers, hentered.mask⟩
      · rcases hr : enter (Call.start ⟨.enter, mainThread, fates, typed⟩ w) with ⟨e | u, w'⟩
        · exact hentered.released e (congrArg Prod.fst hr) hfree
        · exact absurd (congrArg Prod.fst hr) (hfailed u)
      · obtain ⟨-, hcalm⟩ := hentered.busy hheld
        exact ⟨hcalm.descriptorOpen, hcalm.processLock.trans hheld⟩
    | close =>
      obtain ⟨hclosed, hr⟩ := ends_close.result hc h.operationLock
      have hsettled := hstart.closed hclosed
      refine ⟨hsettled, fun hl => hclosed.restoreFailed.trans hl, fun e he => ?_, hsettled.operationLock, ?_,
        nofun, nofun⟩
      · exact absurd (hr.symm.trans he) nofun
      · exact Or.inl ⟨hclosed.attributes, hclosed.handlers, hclosed.mask⟩
    | checkReady => exact absurd trivial hsession
    | writePublic value => exact absurd trivial hsession
    | confirm prompt => exact absurd trivial hsession
    | readSecret prompt maxBytes => exact absurd trivial hsession
    | disclose fields => exact absurd trivial hsession

/-- Once the session is latched, its operations are refused. -/
theorem refused_call (hlatched : w.restoreFailed = true) (hc : c.IsContained w) : c.Refused w := by
  intro hsession
  obtain ⟨mainThread, body, hrun, hbody⟩ := run_eq_operation hsession
  have hrefused : Ends c.operation.run (c.start w) fun r _ =>
      r = .error (.operator { failure := .restoreFailed }) := by
    rw [hrun]
    exact ends_operation_latched hbody hlatched
  exact hrefused.result hc

end Call

/-! ### Runs -/

/-- A terminal that was never entered, in a process where another session may be open. -/
def Tty.fresh (handlers : Handlers) (mask : Mask) (attributes : Attributes) (darwin busy : Bool) : Tty :=
  { handlers, mask, attributes, darwin, processLock := busy }

theorem settled_outside {w : Tty} (h : w.Settled) {handlers : Handlers} {mask : Mask}
    {attributes : Attributes} {entered : Bool} :
    ((Turn.outside handlers mask attributes entered).after w).Settled := by
  refine ⟨h.operationLock, h.descriptor, h.opened, fun howns => ?_⟩
  have howns' : w.ownsLock = true := howns
  show (if w.ownsLock = true then w.processLock else entered) = true
  rw [if_pos howns']
  exact h.owned howns'

/-- The induction is on the turns, with the invariant of the session. -/
theorem restores_run {turns : List Turn} {w : Tty} (h : w.Settled)
    (hcontained : AtCalls Call.IsContained turns w) :
    AtCalls Call.Restores turns w ∧ (w.restoreFailed = true → AtCalls Call.Refused turns w) ∧
      (afterAll turns w).Settled := by
  induction turns generalizing w with
  | nil => exact ⟨trivial, fun _ => trivial, h⟩
  | cons t turns ih =>
    cases t with
    | call c =>
      obtain ⟨hcall, hrest⟩ := hcontained
      obtain ⟨hsettled, hlatch, hrestores⟩ := restores_call h hcall
      obtain ⟨hall, hrefused, hend⟩ := ih hsettled hrest
      exact ⟨⟨hrestores, hall⟩, fun hl => ⟨refused_call hl hcall, hrefused (hlatch hl)⟩, hend⟩
    | outside handlers mask attributes entered => exact ih (settled_outside h) hcontained

theorem AtCalls.before {p : Call → Tty → Prop} {before after : List Turn} {w : Tty}
    (h : AtCalls p (before ++ after) w) : AtCalls p before w := by
  induction before generalizing w with
  | nil => trivial
  | cons t before ih =>
    cases t with
    | call c => exact ⟨h.1, ih h.2⟩
    | outside handlers mask attributes entered => exact ih h

/-- In every run whose calls are contained, each call raises the operator's errors only, frees the lock of
the operation and restores the attributes, the handlers and the mask, or the session is latched and all of
its operations that follow are refused; and an entry that fails leaves nothing behind. -/
theorem restored_or_latched (handlers : Handlers) (mask : Mask) (attributes : Attributes)
    (darwin busy : Bool) (turns : List Turn)
    (hcontained : AtCalls Call.IsContained turns (Tty.fresh handlers mask attributes darwin busy)) :
    AtCalls Call.Restores turns (Tty.fresh handlers mask attributes darwin busy) ∧
    ∀ before after, turns = before ++ after →
      (afterAll before (Tty.fresh handlers mask attributes darwin busy)).restoreFailed = true →
      AtCalls Call.Refused after (afterAll before (Tty.fresh handlers mask attributes darwin busy)) := by
  have hfresh : (Tty.fresh handlers mask attributes darwin busy).Settled := ⟨rfl, rfl, nofun, nofun⟩
  refine ⟨(restores_run hfresh hcontained).1, ?_⟩
  rintro before after rfl hlatched
  obtain ⟨-, -, hsettled⟩ := restores_run hfresh hcontained.before
  exact (restores_run hsettled hcontained.split).2.1 hlatched

namespace Sample

def first : Tty := Tty.fresh (fun _ => .other 0) (fun _ => false) ⟨true, false, 0⟩ false false

/-- The last call of this entry fails with `termios.error`. -/
def entry : Call := ⟨.enter, true, List.replicate 5 .returns ++ [.termiosError], []⟩

/-- What was raised is no error of the operator, and the descriptor and the lock are kept for good. -/
theorem entry_kept : ¬AtCalls Call.Restores [.call entry] first := by
  intro h
  have hraised : (enter (entry.start first)).1 = .error .termiosError := by decide +kernel
  have hopen : (entry.after first).descriptorOpen = true := by decide +kernel
  obtain ⟨hclosed, -⟩ := h.1.released rfl (fun u hu => nomatch hraised.symm.trans hu) rfl
  exact absurd (hopen.symm.trans hclosed) nofun

/-- A secret is typed, and a signal arrives before it is read. -/
def course : List Turn :=
  [.call ⟨.enter, true, [], []⟩,
    .call ⟨.readSecret ['?'] 4, true, List.replicate 30 .returns ++ [.cancelled .sigint none],
      ascii "abc" ++ [newline]⟩,
    .call ⟨.close, true, [], []⟩]

theorem course_restored : AtCalls Call.Restores course first ∧ ∀ before after, course = before ++ after →
    (afterAll before first).restoreFailed = true → AtCalls Call.Refused after (afterAll before first) :=
  restored_or_latched _ _ _ _ _ course (by decide +kernel)

end Sample

end MyCogni.Terminal
