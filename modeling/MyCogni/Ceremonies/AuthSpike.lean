import MyCogni.Base.Parts
import MyCogni.Auth.Code
import MyCogni.Auth.Service
import MyCogni.Auth.Wire
import MyCogni.Terminal.Posix

/-! The ceremonies of the operator: readiness, warnings and confirmation on the terminal, one consuming
call of the service, and the disclosure of what it has issued. -/

namespace MyCogni.Ceremonies

open Command Terminal Auth

/-! ### Texts -/

def SCROLLBACK_WARNING : Text :=
  ("WARNING: SECRET DISPLAY. Use a private terminal; disable recording, scrollback saving, " ++
    "copy synchronization and session logging before continuing.").toList

def REPROVISION_WARNING : Text :=
  ("DESTRUCTIVE REPROVISION: continuing revokes every old session and recovery code, consumes " ++
    "the current offline reprovision route, and requires you to save the replacement route. " ++
    "Interruption or process loss after consume but before handoff can leave no authority route.").toList

def HANDOFF_INTERRUPTED : Text :=
  ("authority-handoff-interrupted: some secret output may already be visible and replacement " ++
    "authority remains only in this process; do not resubmit the consumed code; redisplay the " ++
    "in-process result now. Process loss before a complete handoff can leave no authority route.\n").toList

/-- `DENIAL_GUIDANCE`, with what stands for a denial that it does not have. -/
def denialGuidance : AuthDenial → String
  | .invalidProof => "code is unknown or retired; verify the complete no-echo input, then use an " ++
      "authorized route; remaining attempts are unavailable"
  | .attemptsExhausted => "this code is burned; use another authorized recovery path"
  | .replayed => "this one-use code is already burned; do not retry it"
  | .expired => "renew while authenticated or use the one-use reprovision capability"
  | .notYetValid => "wait for the activation instant before retrying"
  | .clockRollback => "correct the trusted clock; retries remain blocked"
  | .staleEpoch => "authority changed; use the newest recovery or reprovision capability"
  | .nonInteractive => "attach a private interactive operator terminal"
  | .terminalNotForeground => "return the private terminal to the foreground"
  | .terminalBusy => "wait for the active operator terminal operation"
  | .terminalForked => "open a fresh operator terminal session in this process"
  | .terminalIoFailed => "inspect the private terminal before retrying"
  | .terminalRestoreFailed => "restore or close the terminal before retrying"
  | .malformedCredential => "re-enter the complete code through no-echo input"
  | .operatorDeclined => "no credential was issued or consumed"
  | .outputInterrupted => "secret output did not complete; follow the displayed redisplay or restart " ++
      "instructions; never resubmit a consumed code"
  | .capacityExhausted => "no authority was consumed; wait for the finite ceremony TTL or allow " ++
      "trusted composition garbage collection, then retry the dedicated reprovision ceremony"
  | _ => "follow the reviewed recovery procedure"

/-- `TERMINAL_INPUT_GUIDANCE` -/
def terminalInputGuidance : OperatorTerminalFailure → AuthDenial × String
  | .cancelled => (.operatorDeclined, "secret input was cancelled before authority was consumed")
  | .eof =>
    (.malformedCredential, "private terminal input ended before a complete code was received")
  | .inputTooLong =>
    (.malformedCredential, "private terminal input exceeded the finite credential bound")
  | .nonInteractive => (.nonInteractive, "attach a private interactive operator terminal")
  | .notForeground => (.terminalNotForeground,
      "return the private operator terminal to the foreground before retrying")
  | .ioFailed => (.terminalIoFailed,
      "private terminal input failed before authority was consumed; inspect the terminal")
  | .restoreFailed => (.terminalRestoreFailed,
      "terminal restoration failed; close this terminal session and restore it before retrying")
  | .busy =>
    (.terminalBusy, "another operator terminal operation is active; wait for it to finish")
  | .forked => (.terminalForked, "open a fresh operator terminal session in this process")
  | .outputUncertain => (.outputInterrupted,
      "terminal output may have started; follow the interrupted-handoff procedure")

/-! ### The terminal and the service -/

/-- What leaves a ceremony: an exception of the terminal, or one of the service. -/
inductive Raised where
  | terminal (e : Exn)
  | service (r : Refusal)

abbrev Ceremony (α : Type) : Type := Command (Tty × Store) Raised α

abbrev AuthOutcome (α : Type) : Type := Except AuthDenial α

def onTerminal {α : Type} (m : Method α) : Ceremony α := onFirst .terminal m

/-- A call of the service: a denial is an outcome, all else is raised. -/
def onService {α : Type} (c : ServiceCall α) : Ceremony (AuthOutcome α) :=
  handle (onSecond .service c >>= fun a => pure (.ok a)) fun
    | .service (.store (.denied d)) => pure (.error d)
    | e => stop e

/-- What comes to the terminal after the flush that a read begins with, which discards what came
before. -/
def comes (typed : Bytes) : Ceremony Unit := write fun p => ({ p.1 with input := typed }, p.2)

/-- `with suppress(OSError, OperatorTerminalError)` -/
def suppress (c : Ceremony Unit) : Ceremony Unit :=
  handle c fun
    | .terminal (.operator _) => pure ()
    | .terminal (.osError _) => pure ()
    | e => stop e

/-- `_secret_delivery` -/
def secretDelivery (fields : List SecretField) : Ceremony SecretDeliveryState :=
  handle (onTerminal (disclose fields) >>= fun _ => pure .complete) fun
    | .terminal (.operator e) => pure e.delivery
    | .terminal (.osError _) => pure .mayHaveDisclosed
    | e => stop e

/-- The line that `_deny` writes. -/
def denialLine (name : String) (denial : AuthDenial) (guidance : String) : Text :=
  (name ++ "-denied: " ++ denial.value ++ "; " ++ guidance ++ "\n").toList

/-- `_deny` -/
def deny (name : String) (denial : AuthDenial) (guidance : Option String) : Ceremony Unit :=
  onTerminal (writePublic (denialLine name denial (guidance.getD (denialGuidance denial))))

/-- `_safe_deny` -/
def safeDeny (name : String) (denial : AuthDenial) (guidance : Option String) : Ceremony Unit :=
  suppress (deny name denial guidance)

/-- `_deny_terminal_input` -/
def denyTerminalInput (name : String) (error : OperatorTerminalError) : Ceremony AuthDenial := do
  let (denial, guidance) := terminalInputGuidance error.failure
  suppress (deny name denial (some guidance))
  pure denial

/-- The clauses around the reads of a ceremony, `_terminal_denial` in them. -/
def terminalDenial {α : Type} (name : String) : Raised → Ceremony (AuthOutcome α)
  | .terminal (.operator e) => denyTerminalInput name e >>= fun denial => pure (.error denial)
  | .terminal (.osError _) =>
    denyTerminalInput name { failure := .ioFailed } >>= fun denial => pure (.error denial)
  | e => stop e

def writeWarnings : List Text → Ceremony Unit
  | [] => pure ()
  | warning :: rest => do
    onTerminal (writePublic (warning ++ ['\n']))
    writeWarnings rest

/-- The readiness, the warnings and the confirmation. -/
def askOperator (publicWarnings : List Text) (confirmation : Text) (typed : Bytes) :
    Ceremony (AuthOutcome Bool) := do
  onTerminal checkReady
  writeWarnings publicWarnings
  comes typed
  let confirmed ← onTerminal (confirm confirmation)
  pure (.ok confirmed)

/-- `_prepare_operator_terminal` -/
def prepareOperatorTerminal (name : String) (publicWarnings : List Text) (confirmation : Text)
    (typed : Bytes) : Ceremony (AuthOutcome Unit) := do
  let answer ← handle (askOperator publicWarnings confirmation typed) (terminalDenial name)
  match answer with
  | .error denial => pure (.error denial)
  | .ok true => pure (.ok ())
  | .ok false => do
    safeDeny name .operatorDeclined none
    pure (.error .operatorDeclined)

/-- `_write_public_after_complete` -/
def writePublicAfterComplete (value : Text) : Ceremony Unit := suppress (onTerminal (writePublic value))

/-- The next step of a ceremony, or its end with the denial that there is already. -/
def andThen {α β : Type} (c : Ceremony (AuthOutcome α)) (f : α → Ceremony (AuthOutcome β)) :
    Ceremony (AuthOutcome β) := do
  let outcome ← c
  match outcome with
  | .error denial => pure (.error denial)
  | .ok a => f a

/-- A call of the service whose denial the operator learns. -/
def consultOrDeny {α : Type} (name : String) (guidance : AuthDenial → Option String)
    (c : Ceremony (AuthOutcome α)) : Ceremony (AuthOutcome α) := do
  let outcome ← c
  match outcome with
  | .error denial => do
    safeDeny name denial (guidance denial)
    pure (.error denial)
  | .ok a => pure (.ok a)

def SECRET_BYTES : Nat := 128

/-- A credential that the operator types without an echo. -/
def readCredential (name : String) (prompt : Text) (typed : Bytes) :
    Ceremony (AuthOutcome OpaqueCredential) :=
  andThen
    (handle
      (do
        comes typed
        let raw ← onTerminal (readSecret prompt SECRET_BYTES)
        pure (.ok raw))
      (terminalDenial name))
    fun raw =>
      match parseOperatorCode raw with
      | none => do
        safeDeny name .malformedCredential none
        pure (.error .malformedCredential)
      | some credential => pure (.ok credential)

/-! ### Bootstraps -/

/-- What the two ceremonies that issue a bootstrap do with it. -/
structure Handout where
  name : String
  label : String
  restart : String
  guidance : String

def burnt (h : Handout) : Ceremony Unit :=
  suppress (do
    deny h.name .outputInterrupted none
    onTerminal (writePublic h.restart.toList))

/-- The disclosure of a bootstrap, which is cancelled unless this is complete. -/
def handOut (h : Handout) (credential : OpaqueCredential) (cancelledAt : Datetime) :
    Ceremony (AuthOutcome OpaqueId) := do
  let delivery ← secretDelivery [⟨h.label.toList, credential.operatorCode⟩]
  if delivery ≠ .complete then do
    let _ ← onSecond .service (AuthService.cancelBootstrap credential.handle cancelledAt)
    burnt h
    pure (.error .outputInterrupted)
  else do
    writePublicAfterComplete h.guidance.toList
    pure (.ok credential.handle)

variable (sv : AuthService)

def intString (n : Nat) : String := String.ofList (intText n)

def bootstrapHandout : Handout where
  name := "bootstrap"
  label := "bootstrap-code (one-use, short-lived)"
  restart := "bootstrap-restart: the issued bootstrap is burned and output may have disclosed; " ++
    "begin again with the same unconsumed initial root.\n"
  guidance := "bootstrap-guidance: expires in " ++ intString sv.policy.bootstrapTtlSeconds ++
    " seconds; burns after " ++ intString sv.policy.maxAttempts ++ " failed proofs\n"

def reprovisionHandout : Handout where
  name := "reprovision"
  label := "reprovision-bootstrap-code (one-use, short-lived)"
  restart := "reprovision-restart: the issued bootstrap is burned and output may have " ++
    "disclosed; the offline route was not consumed, so begin again with it.\n"
  guidance := "reprovision-guidance: bootstrap expires in " ++
    intString sv.policy.bootstrapTtlSeconds ++
    " seconds; the offline route is not consumed until the separately confirmed exchange\n"

/-- What comes to a ceremony that begins: what is typed for the confirmation, the readings of the
clock and the material that is drawn. -/
structure Beginning where
  confirmation : Bytes
  now : Datetime
  drawn : Drawn
  cancelledAt : Datetime

def beginBootstrapOnTty (root : RootCapability) (x : Beginning) : Ceremony (AuthOutcome OpaqueId) :=
  if root.purpose = .reprovision then do
    safeDeny "bootstrap" .wrongPurpose
      (some "use the dedicated reprovision ceremony; no authority was consumed")
    pure (.error .wrongPurpose)
  else
    andThen
      (prepareOperatorTerminal "bootstrap" [SCROLLBACK_WARNING] SCROLLBACK_WARNING x.confirmation)
      fun _ => andThen
        (consultOrDeny "bootstrap" (fun _ => none)
          (onService (sv.beginBootstrap root x.now x.drawn)))
        fun credential => handOut (bootstrapHandout sv) credential x.cancelledAt

def beginReprovisionOnTty (typed : Bytes) (x : Beginning) : Ceremony (AuthOutcome OpaqueId) :=
  andThen
    (prepareOperatorTerminal "reprovision" [SCROLLBACK_WARNING] SCROLLBACK_WARNING x.confirmation)
    fun _ => andThen
      (readCredential "reprovision" "reprovision-code (input hidden): ".toList typed)
      fun reprovision => andThen
        (consultOrDeny "reprovision" (fun _ => none)
          (onService (sv.beginReprovision reprovision x.now x.drawn)))
        fun credential => handOut (reprovisionHandout sv) credential x.cancelledAt

/-! ### Exchanges -/

/-- `OperatorBootstrapResult`, and `OperatorRecoveryResult` alike -/
structure OperatorResult where
  exchange : BootstrapExchange
  delivery : SecretDeliveryState

/-- The disclosure of what was exchanged, with what is said once it is complete. -/
def handOff (fields : List SecretField) (succeeded : String) : Ceremony SecretDeliveryState := do
  let delivery ← secretDelivery fields
  if delivery ≠ .complete then do
    suppress (onTerminal (writePublic HANDOFF_INTERRUPTED))
    pure delivery
  else do
    writePublicAfterComplete succeeded.toList
    pure .complete

def sessionAndRecovery (x : BootstrapExchange) : List SecretField :=
  [⟨"new-session-code".toList, x.session.operatorCode⟩,
    ⟨"new-recovery-code".toList, x.recovery.operatorCode⟩]

def bootstrapFields (x : BootstrapExchange) : List SecretField :=
  sessionAndRecovery x ++ (x.replacementReprovision.map fun r =>
    ⟨"replacement-reprovision-code".toList, r.credential.operatorCode⟩).toList

/-- `_display_bootstrap_handoff` -/
def displayBootstrapHandoff (x : BootstrapExchange) : Ceremony SecretDeliveryState :=
  handOff (bootstrapFields x)
    "bootstrap-exchange-succeeded: session and recovery handed off; save offline authority now\n"

/-- `_display_recovery` -/
def displayRecovery (x : BootstrapExchange) : Ceremony SecretDeliveryState :=
  handOff (sessionAndRecovery x) "recovery-succeeded: old sessions and old recovery codes revoked\n"

def result (display : BootstrapExchange → Ceremony SecretDeliveryState) (x : BootstrapExchange) :
    Ceremony (AuthOutcome OperatorResult) := do
  let delivery ← display x
  pure (.ok ⟨x, delivery⟩)

/-- What the service makes of a submitted code. -/
def exchangeSubmitted (submitted : Text)
    (exchange : OpaqueCredential → Ceremony (AuthOutcome BootstrapExchange)) :
    Ceremony (AuthOutcome BootstrapExchange) :=
  match parseOperatorCode submitted with
  | none => pure (.error .malformedCredential)
  | some credential => exchange credential

def capacityGuidance : String :=
  "no authority was consumed; wait for the " ++ intString sv.policy.ceremonyTtlSeconds ++
    "-second ceremony TTL or allow trusted composition garbage collection, then retry the " ++
    "dedicated reprovision ceremony"

/-- The guidance of a denied exchange, where it has one of its own. -/
def exchangeGuidance (wrongPurpose : String) : AuthDenial → Option String
  | .capacityExhausted => some (capacityGuidance sv)
  | .wrongPurpose => some wrongPurpose
  | _ => none

def exchangeBootstrapOnTty (submitted : Text) (confirmation : Bytes) (now : Datetime)
    (drawn : AuthService.ExchangeMaterial) : Ceremony (AuthOutcome OperatorResult) :=
  andThen
    (prepareOperatorTerminal "bootstrap-exchange" [SCROLLBACK_WARNING] SCROLLBACK_WARNING
      confirmation)
    fun _ => andThen
      (consultOrDeny "bootstrap-exchange"
        (exchangeGuidance sv "use the dedicated reprovision ceremony; no authority was consumed")
        (exchangeSubmitted submitted fun credential =>
          onService (sv.exchangeBootstrap credential now drawn)))
      (result displayBootstrapHandoff)

/-- What comes to the exchange of a reprovision bootstrap. -/
structure Reprovisioning where
  confirmation : Bytes
  authorizedAt : Datetime
  ceremony : Drawn
  now : Datetime
  drawn : AuthService.ExchangeMaterial

/-- The permit of the ceremony, and the exchange under it. -/
def exchangePermitted (operatorAuthority : OpaqueCredential) (x : Reprovisioning)
    (credential : OpaqueCredential) : Ceremony (AuthOutcome BootstrapExchange) :=
  andThen
    (onService
      (sv.authorizeReprovisionCeremony credential operatorAuthority x.authorizedAt x.ceremony))
    fun authorization =>
      onService (sv.exchangeConfirmedReprovision credential authorization x.now x.drawn)

def exchangeReprovisionOnTty (submitted : Text) (operatorAuthority : OpaqueCredential)
    (x : Reprovisioning) : Ceremony (AuthOutcome OperatorResult) :=
  andThen
    (prepareOperatorTerminal "reprovision-exchange" [SCROLLBACK_WARNING, REPROVISION_WARNING]
      REPROVISION_WARNING x.confirmation)
    fun _ => andThen
      (consultOrDeny "reprovision-exchange"
        (exchangeGuidance sv ("submitted code is not a reprovision bootstrap; no ceremony, root, " ++
          "session, or recovery authority was consumed; begin the dedicated reprovision flow " ++
          "with the current offline reprovision route"))
        (exchangeSubmitted submitted (exchangePermitted sv operatorAuthority x)))
      (result displayBootstrapHandoff)

/-- What comes to a recovery. -/
structure Recovering where
  confirmation : Bytes
  typed : Bytes
  now : Datetime
  session : Drawn
  replacement : Drawn

def recoverHeadlessOnTty (x : Recovering) : Ceremony (AuthOutcome OperatorResult) :=
  andThen
    (prepareOperatorTerminal "recovery" [SCROLLBACK_WARNING] SCROLLBACK_WARNING x.confirmation)
    fun _ => andThen
      (readCredential "recovery" "recovery-code (input hidden): ".toList x.typed)
      fun recovery => andThen
        (consultOrDeny "recovery" (fun _ => none)
          (onService (sv.recover recovery x.now x.session x.replacement)))
        (result displayRecovery)

/-! ### Another display -/

/-- `redisplay_interrupted_bootstrap` and `redisplay_interrupted_recovery` -/
def redisplayInterrupted (name : String)
    (display : BootstrapExchange → Ceremony SecretDeliveryState) (r : OperatorResult)
    (confirmation : Bytes) : Ceremony OperatorResult :=
  if r.delivery = .complete then pure r
  else do
    let prepared ← prepareOperatorTerminal name [SCROLLBACK_WARNING] SCROLLBACK_WARNING confirmation
    match prepared with
    | .error _ => pure r
    | .ok _ => do
      let delivery ← display r.exchange
      pure ⟨r.exchange, delivery⟩

def redisplayInterruptedBootstrap (r : OperatorResult) (confirmation : Bytes) :
    Ceremony OperatorResult :=
  redisplayInterrupted "bootstrap-redisplay" displayBootstrapHandoff r confirmation

def redisplayInterruptedRecovery (r : OperatorResult) (confirmation : Bytes) :
    Ceremony OperatorResult :=
  redisplayInterrupted "recovery-redisplay" displayRecovery r confirmation

end MyCogni.Ceremonies
