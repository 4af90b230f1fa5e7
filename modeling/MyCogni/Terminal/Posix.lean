import MyCogni.Terminal.System

/-! `PosixOperatorTerminal`: the session on `/dev/tty`, the writes, the cancellable parts, the secret
input and the disclosure. -/

namespace MyCogni.Terminal

open Command

def MAX_PUBLIC_CHARS : Nat := 4096

def MAX_FIELDS : Nat := 8

def MAX_LABEL_CHARS : Nat := 96

def MAX_VALUE_BYTES : Nat := 512

def MAX_SECRET_BLOCK_BYTES : Nat := 8192

/-- A C0 character, DEL or a C1 character. -/
def isControl (c : Char) : Bool := c.toNat < 0x20 || c.toNat == 0x7F || (0x80 ≤ c.toNat && c.toNat ≤ 0x9F)

/-! ### The session -/

/-- The failure that an `OSError` of the descriptor stands for. -/
def descriptorFailure : OsError → OperatorTerminalFailure
  | .noDevice => .nonInteractive
  | _ => .ioFailed

/-- The checks of the descriptor that `__enter__` and `_checked_fd` make. -/
def checkDescriptor (place : Place) : Method Unit := do
  let isCharacterDevice ← step place .fstat
  let isTerminal ← (if isCharacterDevice = true then step place .isatty else pure false)
  if isTerminal = false then raise .nonInteractive
  else do
    let inForeground ← step place .inForeground
    if inForeground = false then raise .notForeground else pure ()

/-- `_checked_fd` -/
def checkedFd (place : Place) : Method Unit := do
  tick place
  let w ← read
  if w.restoreFailed = true then raise .restoreFailed
  else if w.fd = false then raise .ioFailed
  else
    handle (checkDescriptor place) fun
      | .osError e => do
        tick place
        raise (descriptorFailure e)
      | e => stop e

/-- The close of the descriptor, which may fail. -/
def closeDescriptor (isOpen : Bool) : Method Unit :=
  if isOpen = true then
    handle (step .unguarded .close) fun
      | .osError _ => pure ()
      | e => stop e
  else pure ()

def close : Method Unit := do
  let w ← read
  if w.operationLock = true then raise .busy
  else do
    write fun w => { w with operationLock := true }
    lastly
      (do
        let w ← read
        write fun w => { w with fd := false }
        closeDescriptor w.fd
        write fun w =>
          if w.ownsLock = true then { w with ownsLock := false, processLock := false } else w)
      (write fun w => { w with operationLock := false })

/-- The open of `/dev/tty`, with what is done for Darwin, which rejects the flag for this device. -/
def openDescriptor : Method Unit :=
  handle (step .unguarded (.openTty true)) fun
    | .osError .permission => do
      let w ← read
      if w.darwin = false then stop (.osError .permission)
      else do
        let isRootDevice ← step .unguarded .lstat
        if isRootDevice = false then stop (.osError .permission)
        else step .unguarded (.openTty false)
    | e => stop e

/-- `__enter__` -/
def enter : Method Unit := do
  tick .unguarded
  let w ← read
  if w.processLock = true then raise .busy
  else do
    write fun w => { w with processLock := true, ownsLock := true }
    handle
      (do
        openDescriptor
        write fun w => { w with fd := true }
        checkDescriptor .unguarded
        let _ ← step .unguarded .tcgetattr)
      fun
        | .operator e => do
          close
          stop (.operator e)
        | .osError e => do
          close
          raise (descriptorFailure e)
        | e => stop e

/-- `_operation` -/
def operation {α : Type} (mainThread : Bool) (body : Method α) : Method α := do
  checkedFd .unguarded
  let w ← read
  if mainThread = true ∧ w.mainThread = false then raise .busy
  else if w.operationLock = true then raise .busy
  else do
    write fun w => { w with operationLock := true }
    tick .unguarded
    lastly body (do
      tick .unguarded
      write fun w => { w with operationLock := false })

def checkReady : Method Unit := operation false (checkedFd .unguarded)

/-! ### Writes -/

/-- `_public_bytes` -/
def publicBytes (value : Text) : Method Bytes :=
  if MAX_PUBLIC_CHARS < value.length ∨ value.any (fun c => isControl c && c != '\n') = true then
    raise .ioFailed
  else pure value.encode

/-- The attempt of a secret write is noted before it is made. -/
def noteAttempt (secret : Bool) : Method Unit :=
  if secret = true then setLocals fun l => { l with secretWriteAttempted := true } else pure ()

/-- The loop of a write over what is left of the payload, without the bytes that were accepted. -/
def writeLoop (secret : Bool) : Bytes → Nat → Method Unit
  | [], _ => pure ()
  | _ :: rest, skip + 1 => writeLoop secret rest skip
  | b :: rest, 0 => do
    checkedFd .guarded
    noteAttempt secret
    let count ← step .guarded (.write (b :: rest) secret)
    if count = 0 then stop (.osError .other) else writeLoop secret rest (count - 1)

/-- The error that a write ends with, after an error that says no more than this. -/
def writeError (secret : Bool) (failure : OperatorTerminalFailure) : Method Unit := do
  let w ← read
  if secret = true ∧ w.locals.secretWriteAttempted = true then raise .outputUncertain .mayHaveDisclosed
  else raise failure

/-- The `try` of `_write_unlocked`. -/
def writeAndDrain (payload : Bytes) (secret : Bool) : Method Unit := do
  writeLoop secret payload 0
  checkedFd .guarded
  step .guarded .tcdrain

/-- The clauses of `_write_unlocked`. -/
def writeClauses (secret : Bool) (place : Place) : Exn → Method Unit
  | .operator e => do
    tick place
    let w ← read
    if secret = true ∧ w.locals.secretWriteAttempted = true then raise .outputUncertain .mayHaveDisclosed
    else stop (.operator e)
  | .cancelled | .osError .interrupted => do
    tick place
    writeError secret .cancelled
  | .osError _ => do
    tick place
    writeError secret .ioFailed
  | e => stop e

/-- `_write_unlocked`, where `place` tells whether the caller catches what is not reported here. -/
def writeUnlocked (payload : Bytes) (secret : Bool) (place : Place) : Method Unit := do
  tick place
  setLocals fun l => { l with secretWriteAttempted := false }
  handle (writeAndDrain payload secret) (writeClauses secret place)
  tick place

def writePublic (value : Text) : Method Unit :=
  operation false (publicBytes value >>= fun payload => writeUnlocked payload false .unguarded)

/-! ### Cancellable parts -/

/-- The attempts to restore one handler; whatever is raised in them is retried. -/
def restoreHandler (place : Place) (i : CancelSignal) (handler : Handler) : Nat → Method Bool
  | 0 => pure false
  | attempts + 1 =>
    handle (step .guarded (.signal i handler) >>= fun _ => pure true) fun _ => do
      tick place
      restoreHandler place i handler attempts

/-- `_restore_cancel_handlers` -/
def restoreCancelHandlers (place : Place) : List (CancelSignal × Handler) → Method Bool
  | [] => pure true
  | (i, handler) :: previous => do
    tick place
    let restored ← restoreHandler place i handler 3
    let succeeded ← restoreCancelHandlers place previous
    pure (restored && succeeded)

/-- `_install_cancel_handlers`; what is raised carries the handlers seen so far. -/
def installCancelHandlers : List CancelSignal → List (CancelSignal × Handler) →
    Method (List (CancelSignal × Handler))
  | [], previous => pure previous
  | i :: signals, previous => do
    let handler ← handle (step .guarded (.getsignal i)) fun _ => stop (.installFailed previous)
    let previous := previous ++ [(i, handler)]
    handle (step .guarded (.signal i .cancelHandler)) fun _ => stop (.installFailed previous)
    installCancelHandlers signals previous

structure CancelSession where
  previous : List (CancelSignal × Handler)
  oldMask : Mask

/-- What `_begin_cancel_session` does where not all handlers were installed. -/
def abandonInstall (previous : List (CancelSignal × Handler)) (oldMask : Mask) :
    Method (List (CancelSignal × Handler)) := do
  let restored ← restoreCancelHandlers .unguarded previous
  if restored = true then do
    let maskRestored ← handle (step .guarded (.setMask oldMask) >>= fun _ => pure true) fun _ => do
      tick .unguarded
      setRestoreFailed
      pure false
    tick .unguarded
    raise (if maskRestored = true then .ioFailed else .restoreFailed)
  else do
    setRestoreFailed
    tick .unguarded
    raise .restoreFailed

/-- The clauses of `_begin_cancel_session` after the installation. -/
def installClauses (oldMask : Mask) : Exn → Method (List (CancelSignal × Handler))
  | .installFailed previous => abandonInstall previous oldMask
  | _ => do
    handle (step .guarded (.setMask oldMask)) fun _ => pure ()
    raise .ioFailed

/-- `_begin_cancel_session` -/
def beginCancelSession : Method CancelSession := do
  tick .unguarded
  let oldMask ← handle (step .blocking .block) fun _ => do
    tick .unguarded
    raise .ioFailed
  let previous ← handle (installCancelHandlers CancelSignal.all []) (installClauses oldMask)
  pure { previous, oldMask }

/-- `_activate_cancel_session`, which the caller has a `try` around. -/
def activateCancelSession (session : CancelSession) : Method Unit := do
  tick .passedOn
  handle (step .passedOn (.setMask session.oldMask)) fun
    | .cancelled => stop .cancelled
    | _ => do
      tick .passedOn
      raise .ioFailed

def latchUnless (restored : Bool) : Method Unit := if restored = true then pure () else setRestoreFailed

/-- `_end_cancel_session` -/
def endCancelSession (session : CancelSession) : Method Unit := do
  tick .unguarded
  let blocked ← handle (step .guarded .block >>= fun _ => pure true) fun _ => do
    tick .unguarded
    pure false
  tick .unguarded
  let restored ← handle (restoreCancelHandlers .guarded session.previous) fun
    | .cancelled => do
      tick .unguarded
      pure false
    | e => stop e
  tick .unguarded
  latchUnless restored
  let unmasked ← handle
    (if restored = true then step .guarded (.setMask session.oldMask) >>= fun _ => pure true
      else pure true)
    fun _ => do
      tick .unguarded
      setRestoreFailed
      pure false
  tick .unguarded
  if blocked = true ∧ restored = true ∧ unmasked = true then pure ()
  else do
    let w ← read
    raise (if w.restoreFailed = true then .restoreFailed else .ioFailed)

/-- `_merge_cleanup_failure` -/
def mergeCleanupFailure (current : Option OperatorTerminalError) (cleanup : OperatorTerminalError) :
    OperatorTerminalError :=
  if cleanup.failure = .restoreFailed then cleanup else current.getD cleanup

/-! ### Secret input -/

def newline : UInt8 := 0x0A

/-- `bytes.decode("utf-8", "strict")` -/
def decodeUtf8 (b : Bytes) : Option Text := (b.toByteArray.utf8Decode?).map Array.toList

/-- Reads until the line is over, or the input is; there are at most this many reads. -/
def drainLine (maxBytes : Nat) : Nat → Method Unit
  | 0 => pure ()
  | reads + 1 => do
    checkedFd .guarded
    let chunk ← step .guarded (.read (maxBytes + 2))
    if chunk = [] ∨ newline ∈ chunk then pure () else drainLine maxBytes reads

/-- The reads of a line; there are at most this many. -/
def readLine (maxBytes : Nat) : Nat → Method Unit
  | 0 => pure ()
  | reads + 1 => do
    let chunk ← step .guarded (.read (maxBytes + 2))
    if chunk = [] then raise .eof
    else do
      setLocals fun l => { l with data := l.data ++ chunk }
      if newline ∈ chunk then pure ()
      else do
        let w ← read
        if maxBytes + 1 < w.locals.data.length then do
          drainLine maxBytes reads
          raise .inputTooLong
        else readLine maxBytes reads

/-- The line before the newline, without one carriage return at its end. -/
def firstLine (data : Bytes) : Bytes :=
  let line := data.takeWhile (· != newline)
  if line.getLast? = some 0x0D then line.dropLast else line

/-- The value of what was read. -/
def parseSecret (maxBytes : Nat) (data : Bytes) : Method Text :=
  let line := firstLine data
  if maxBytes < line.length then raise .inputTooLong
  else
    match decodeUtf8 line with
    | none => stop .unicodeError
    | some value => if value.any isControl = true then raise .ioFailed else pure value

def Attributes.hidden (a : Attributes) : Attributes := { a with echo := false, echonl := false }

def setFailure (failure : OperatorTerminalError) : Method Unit :=
  setLocals fun l => { l with failure := some failure }

/-- The part of `_read_secret_unlocked` with the input hidden. -/
def readHidden (session : CancelSession) (prompt : Bytes) (maxBytes : Nat) (hidden : Attributes) :
    Method Text := do
  activateCancelSession session
  checkedFd .guarded
  step .guarded (.tcsetattr hidden)
  writeUnlocked prompt false .guarded
  checkedFd .guarded
  let w ← read
  -- a read that returns nothing is the last one, so there are no more reads than bytes and one
  readLine maxBytes (w.input.length + 1)
  let w ← read
  tick .guarded
  parseSecret maxBytes w.locals.data

/-- The attributes are restored, however often this is cancelled: each cancellation is one of the fates
to come. -/
def restoreAttributes (original : Attributes) : Nat → Method Unit
  | 0 => pure ()
  | attempts + 1 => do
    tick .unguarded
    let restored ← handle (step .guarded (.tcsetattr original) >>= fun _ => pure true) fun
      | .cancelled => do
        tick .unguarded
        setFailure { failure := .cancelled }
        pure false
      | .osError _ => do
        tick .unguarded
        setRestoreFailed
        setFailure { failure := .restoreFailed }
        pure true
      | e => stop e
    if restored = true then pure () else restoreAttributes original attempts

/-- The `finally` of `_read_secret_unlocked`. -/
def showAgain (session : CancelSession) (original : Attributes) : Method Unit := do
  let w ← read
  restoreAttributes original (w.fates.length + 1)
  tick .unguarded
  handle (writeUnlocked [newline] false .guarded) fun
    | .operator e => do
      tick .unguarded
      setLocals fun l => { l with failure := l.failure.or (some e) }
    | .cancelled => do
      tick .unguarded
      setLocals fun l => { l with failure := l.failure.or (some { failure := .cancelled }) }
    | e => stop e
  tick .unguarded
  handle (endCancelSession session) fun
    | .operator e => do
      tick .unguarded
      setLocals fun l => { l with failure := some (mergeCleanupFailure l.failure e) }
    | e => stop e
  tick .unguarded
  -- `_scrub_mutable`
  setLocals fun l => { l with data := l.data.map fun _ => 0 }

/-- `_read_secret_unlocked` -/
def readSecretUnlocked (prompt : Text) (maxBytes : Nat) : Method Text := do
  if ¬(1 ≤ maxBytes ∧ maxBytes ≤ MAX_VALUE_BYTES) then raise .inputTooLong
  else do
    let promptBytes ← publicBytes prompt
    checkedFd .unguarded
    let (original, other) ← handle
      (do
        let original ← step .unguarded .tcgetattr
        let other ← step .unguarded .tcgetattr
        pure (original, other))
      fun
        | .osError _ => do
          tick .unguarded
          raise .ioFailed
        | e => stop e
    setLocals fun l => { l with failure := none, data := [] }
    let session ← beginCancelSession
    let value ← lastly
      (handle (readHidden session promptBytes maxBytes other.hidden) fun
        | .operator e => do
          tick .unguarded
          setFailure e
          pure []
        | .cancelled | .osError .interrupted => do
          tick .unguarded
          setFailure { failure := .cancelled }
          pure []
        | .osError _ | .unicodeError => do
          tick .unguarded
          setFailure { failure := .ioFailed }
          pure []
        | e => stop e)
      (showAgain session original)
    tick .unguarded
    let w ← read
    match w.locals.failure with
    | some e => stop (.operator e)
    | none => pure value

def readSecret (prompt : Text) (maxBytes : Nat) : Method Text :=
  operation true (readSecretUnlocked prompt maxBytes)

def confirm (prompt : Text) : Method Bool :=
  operation true (readSecretUnlocked prompt 3 >>= fun value => pure (value == ['Y', 'E', 'S']))

/-! ### Disclosure -/

structure SecretField where
  label : Text
  value : Text

/-- A field may be shown. -/
def SecretField.Valid (f : SecretField) : Prop :=
  (1 ≤ f.label.length ∧ f.label.length ≤ MAX_LABEL_CHARS) ∧
  f.label.any (fun c => c.toNat < 0x21 || c.toNat > 0x7E || c == ':') = false ∧
  f.value.any isControl = false ∧ f.value.encode ≠ [] ∧ f.value.encode.length ≤ MAX_VALUE_BYTES ∧
  f.value.encode.any (fun b => b < 0x20 || b == 0x7F) = false

instance (f : SecretField) : Decidable f.Valid :=
  inferInstanceAs (Decidable ((_ ∧ _) ∧ _ ∧ _ ∧ _ ∧ _ ∧ _))

/-- The line of a field. -/
def SecretField.line (f : SecretField) : Bytes :=
  f.label.encode ++ ascii ": " ++ f.value.encode ++ [newline]

/-- The payload of the fields, if they can be disclosed. -/
def payload (fields : List SecretField) : Option Bytes :=
  let lines := fields.flatMap SecretField.line
  if (1 ≤ fields.length ∧ fields.length ≤ MAX_FIELDS) ∧ (∀ f ∈ fields, f.Valid) ∧
      lines.length ≤ MAX_SECRET_BLOCK_BYTES then some lines
  else none

/-- What a disclosure ends with, after the failure of its write and the one of its cleanup. -/
def discloseResult : Option OperatorTerminalError → Option OperatorTerminalError → Method Unit
  | some failure, some cleanup =>
    if failure.delivery ≠ .notStarted then raise .outputUncertain .mayHaveDisclosed
    else if cleanup.failure = .restoreFailed then stop (.operator cleanup)
    else stop (.operator failure)
  | some failure, none =>
    if failure.delivery ≠ .notStarted then raise .outputUncertain .mayHaveDisclosed
    else stop (.operator failure)
  | none, some _ => raise .outputUncertain .mayHaveDisclosed
  | none, none => pure ()

/-- The clauses around the cancellable write. -/
def discloseClauses : Exn → Method Unit
  | .operator e => do
    tick .unguarded
    setFailure e
  | .cancelled | .osError .interrupted => do
    tick .unguarded
    setFailure { failure := .cancelled }
  | e => stop e

/-- The `finally` after it. -/
def discloseFinally (session : CancelSession) : Method Unit := do
  tick .unguarded
  handle (endCancelSession session) fun
    | .operator e => do
      tick .unguarded
      setLocals fun l => { l with cleanupFailure := some e }
    | e => stop e

/-- The cancellable write of a disclosure, with what is made of its failures. -/
def discloseMain (payload : Bytes) : Method Unit := do
  setLocals fun l => { l with failure := none, cleanupFailure := none }
  let session ← beginCancelSession
  lastly
    (handle (activateCancelSession session >>= fun _ => writeUnlocked payload true .passedOn)
      discloseClauses)
    (discloseFinally session)
  tick .unguarded
  let w ← read
  discloseResult w.locals.failure w.locals.cleanupFailure

/-- `_disclose_unlocked` -/
def discloseUnlocked (fields : List SecretField) : Method Unit :=
  match payload fields with
  | none => raise .ioFailed
  | some payload => do
    let w ← read
    if w.mainThread = true then discloseMain payload else writeUnlocked payload true .unguarded

def disclose (fields : List SecretField) : Method Unit := operation false (discloseUnlocked fields)

end MyCogni.Terminal
