import MyCogni.Base.Bytes
import MyCogni.Base.Command

/-! The operator's terminal as the adapter sees it: the descriptor, the attributes of the terminal, the
handlers and the mask of the signals that cancel, the locks of the process, and the fates of the calls
into the system. -/

namespace MyCogni.Terminal

/-! ### Errors -/

inductive SecretDeliveryState where
  | notStarted
  | mayHaveDisclosed
  | complete
deriving DecidableEq

inductive OperatorTerminalFailure where
  | busy
  | nonInteractive
  | notForeground
  | forked
  | cancelled
  | eof
  | inputTooLong
  | ioFailed
  | restoreFailed
  | outputUncertain
deriving DecidableEq

structure OperatorTerminalError where
  failure : OperatorTerminalFailure
  delivery : SecretDeliveryState := .notStarted
deriving DecidableEq

/-- What the adapter tells apart in an `OSError`. -/
inductive OsError where
  | permission
  /-- `ENXIO`, `ENODEV` or `ENOTTY` -/
  | noDevice
  | interrupted
  | other
deriving DecidableEq

/-- `_cancel_signals` -/
inductive CancelSignal where
  | sigint
  | sigterm
  | sighup
  | sigquit
deriving DecidableEq

def CancelSignal.all : List CancelSignal := [.sigint, .sigterm, .sighup, .sigquit]

theorem CancelSignal.mem_all (i : CancelSignal) : i ∈ CancelSignal.all := by cases i <;> decide

inductive Handler where
  /-- `_cancel_handler` -/
  | cancelHandler
  | other (n : Nat)
deriving DecidableEq

abbrev Handlers : Type := CancelSignal → Handler

/-- The signals that are blocked. -/
abbrev Mask : Type := CancelSignal → Bool

inductive Exn where
  | operator (e : OperatorTerminalError)
  /-- `_Cancelled` -/
  | cancelled
  /-- `_HandlerInstallFailed` -/
  | installFailed (previous : List (CancelSignal × Handler))
  | osError (e : OsError)
  | termiosError
  | unicodeError
deriving DecidableEq

/-! ### The system -/

/-- The attributes of a terminal. -/
structure Attributes where
  echo : Bool
  echonl : Bool
  rest : Nat
deriving DecidableEq

/-- What becomes of a call. -/
inductive Fate where
  | returns
  /-- A read or a write moves this many bytes. -/
  | moves (n : Nat)
  /-- The answer is no. -/
  | denies
  | osError (e : OsError)
  | termiosError
  /-- The handler of a signal runs, before the call, or after it has moved this many bytes. -/
  | cancelled (i : CancelSignal) (after : Option Nat)
deriving DecidableEq

/-- Where a step stands, by what happens there to `_Cancelled`. -/
inductive Place where
  /-- In a `try` that reports it with what is known, or that contains it. -/
  | guarded
  /-- In the first `try` of `_begin_cancel_session`. -/
  | blocking
  /-- Outside such a `try`, but in one of the caller. -/
  | passedOn
  | unguarded
deriving DecidableEq

inductive Event where
  /-- A write of secret bytes was tried. -/
  | secretWrite
  | termiosError
  | cancelled (place : Place)
deriving DecidableEq

/-- Local variables of the functions that run. -/
structure Locals where
  secretWriteAttempted : Bool := false
  failure : Option OperatorTerminalError := none
  cleanupFailure : Option OperatorTerminalError := none
  data : Bytes := []

structure Tty where
  /-- `_PROCESS_LOCK` -/
  processLock : Bool := false
  /-- `_OPERATION_LOCK` -/
  operationLock : Bool := false
  mainThread : Bool := true
  darwin : Bool := false
  handlers : Handlers
  mask : Mask
  attributes : Attributes
  descriptorOpen : Bool := false
  input : Bytes := []
  output : Bytes := []
  /-- Nothing was written since the last drain. -/
  drained : Bool := true
  /-- `_fd` is there. -/
  fd : Bool := false
  ownsLock : Bool := false
  restoreFailed : Bool := false
  locals : Locals := {}
  /-- The fates of the calls to come; calls beyond them return. -/
  fates : List Fate := []
  /-- A record that no function reads, the latest event first. -/
  history : List Event := []
  /-- A record of what the reads have returned, the latest first. -/
  chunks : List Bytes := []

/-- Calls into the system, and the places between two of them. -/
inductive Op where
  | tick
  | openTty (noFollow : Bool)
  | lstat
  | fstat
  | isatty
  /-- `tcgetpgrp(fd) == getpgrp()` -/
  | inForeground
  | tcgetattr
  | tcsetattr (attributes : Attributes)
  | tcdrain
  | write (payload : Bytes) (secret : Bool)
  | read (n : Nat)
  /-- `pthread_sigmask(SIG_BLOCK, _cancel_signals())` -/
  | block
  /-- `pthread_sigmask(SIG_SETMASK, mask)` -/
  | setMask (mask : Mask)
  | getsignal (i : CancelSignal)
  | signal (i : CancelSignal) (handler : Handler)
  | close

abbrev Reply : Op → Type
  | .lstat | .fstat | .isatty | .inForeground => Bool
  | .tcgetattr => Attributes
  | .write _ _ => Nat
  | .read _ => Bytes
  | .block => Mask
  | .getsignal _ => Handler
  | _ => Unit

def Op.isTermios : Op → Bool
  | .tcgetattr | .tcsetattr _ | .tcdrain => true
  | _ => false

/-- A call that does not raise. -/
def Op.isSafe : Op → Bool
  | .tick | .isatty => true
  | _ => false

/-- The bytes that a call moves, where there is room for so many. -/
def moved (limit : Nat) : Fate → Nat
  | .moves n | .cancelled _ (some n) => min n limit
  | _ => limit

/-- What a call that is made does, and what it returns. -/
def effect (w : Tty) : (o : Op) → Fate → Reply o × Tty
  | .tick, _ => ((), w)
  | .openTty _, _ => ((), { w with descriptorOpen := true })
  | .lstat, f => (f != .denies, w)
  | .fstat, f => (f != .denies, w)
  | .isatty, f => (f != .denies, w)
  | .inForeground, f => (f != .denies, w)
  | .tcgetattr, _ => (w.attributes, w)
  | .tcsetattr a, _ => ((), { w with attributes := a })
  | .tcdrain, _ => ((), { w with drained := true })
  | .write payload secret, f =>
    let n := moved payload.length f
    (n, { w with
      output := w.output ++ payload.take n
      drained := false
      history := if secret = true then .secretWrite :: w.history else w.history })
  | .read limit, f =>
    let n := max 1 (moved limit f)
    (w.input.take n, { w with input := w.input.drop n, chunks := w.input.take n :: w.chunks })
  | .block, _ => (w.mask, { w with mask := fun _ => true })
  | .setMask m, _ => ((), { w with mask := m })
  | .getsignal i, _ => (w.handlers i, w)
  | .signal i h, _ => ((), { w with handlers := Function.update w.handlers i h })
  | .close, _ => ((), { w with descriptorOpen := false })

/-- A write that has failed was tried, and a descriptor whose close has failed is closed. -/
def failedEffect (w : Tty) : Op → Tty
  | .write _ secret =>
    { w with drained := false, history := if secret = true then .secretWrite :: w.history else w.history }
  | .close => { w with descriptorOpen := false }
  | _ => w

/-- The handler of the signal may run: it is the private one, and the signal is not blocked. -/
def Tty.Deliverable (w : Tty) (i : CancelSignal) : Prop :=
  w.mainThread = true ∧ w.handlers i = .cancelHandler ∧ w.mask i = false

instance (w : Tty) (i : CancelSignal) : Decidable (w.Deliverable i) :=
  inferInstanceAs (Decidable (_ ∧ _ ∧ _))

def Tty.note (w : Tty) (e : Event) : Tty := { w with history := e :: w.history }

/-- A call that has this fate. -/
def perform (place : Place) (o : Op) (f : Fate) (w : Tty) : Except Exn (Reply o) × Tty :=
  let done := effect w o f
  match f with
  | .osError e =>
    if o.isSafe = true then (.ok done.1, done.2) else (.error (.osError e), failedEffect w o)
  | .termiosError =>
    if o.isTermios = true then (.error .termiosError, w.note .termiosError) else (.ok done.1, done.2)
  | .cancelled i after =>
    if after.isSome = true ∧ (w.Deliverable i ∨ done.2.Deliverable i) then
      (.error .cancelled, done.2.note (.cancelled place))
    else if w.Deliverable i then (.error .cancelled, w.note (.cancelled place))
    else (.ok done.1, done.2)
  | _ => (.ok done.1, done.2)

/-! ### Commands -/

abbrev Method (α : Type) : Type := Command Tty Exn α

def step (place : Place) (o : Op) : Method (Reply o) := fun w =>
  match w.fates with
  | [] => perform place o .returns w
  | f :: fates => perform place o f { w with fates }

/-- A place between two steps. -/
abbrev tick (place : Place) : Method Unit := step place .tick

def raise {α : Type} (failure : OperatorTerminalFailure)
    (delivery : SecretDeliveryState := .notStarted) : Method α :=
  Command.stop (.operator { failure, delivery })

def setLocals (f : Locals → Locals) : Method Unit := Command.write fun w => { w with locals := f w.locals }

def setRestoreFailed : Method Unit := Command.write fun w => { w with restoreFailed := true }

end MyCogni.Terminal
