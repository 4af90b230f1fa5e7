import MyCogni.Base.Json
import MyCogni.Base.Program
import MyCogni.Base.Unquote
import MyCogni.Base.Url
import MyCogni.Simulator.Engine

/-! The local web simulator. A delivery screens its request, reserves the transition and a place for
its mail, renders the response, commits both stores under their two locks, and only then hands the
response to the writer. Each of its calls into the stores is one step of the world that all
deliveries share. -/

namespace MyCogni.Simulator

open Command

/-! ### Requests and responses -/

structure WebRequest where
  method : Text
  path : Text
  headers : List (Text × Text)
  body : Bytes := []

structure WebResponse where
  statusCode : Nat
  body : Bytes
  contentType : Text := "application/json".toList
deriving DecidableEq

/-- What the standard library decides: the checks of an authority and the seconds of an instant. -/
structure Library where
  checks : Url.Checks
  timestamp : Datetime → Int

def maxPathBytes : Nat := 512

def canonicalJson (value : Json) : Bytes := value.sortKeys.text.encode

/-- `_error` -/
def errorResponse (statusCode : Nat) (code : String) : WebResponse :=
  ⟨statusCode, canonicalJson (.obj [("error".toList, .str code.toList)]), "application/json".toList⟩

def reason : Nat → Option Text
  | 200 => some "OK".toList
  | 206 => some "Partial Content".toList
  | 400 => some "Bad Request".toList
  | 403 => some "Forbidden".toList
  | 404 => some "Not Found".toList
  | 405 => some "Method Not Allowed".toList
  | 409 => some "Conflict".toList
  | 413 => some "Content Too Large".toList
  | 414 => some "URI Too Long".toList
  | 422 => some "Unprocessable Content".toList
  | 429 => some "Too Many Requests".toList
  | 500 => some "Internal Server Error".toList
  | 503 => some "Service Unavailable".toList
  | 504 => some "Gateway Timeout".toList
  | _ => none

def responseHead (response : WebResponse) (reason : Text) : Text :=
  "HTTP/1.1 ".toList ++ Nat.toDigits 10 response.statusCode ++ ' ' :: reason ++ "\r\n".toList ++
  "Content-Type: ".toList ++ response.contentType ++ "\r\n".toList ++
  "Content-Length: ".toList ++ Nat.toDigits 10 response.body.length ++ "\r\n".toList ++
  "Cache-Control: no-store\r\n".toList ++
  "Connection: close\r\n".toList ++
  "\r\n".toList

/-- `_wire_response` -/
def wireResponse (response : WebResponse) : Except Fault Bytes :=
  match reason response.statusCode with
  | none => .error .valueError
  | some reason => do
    ensure (response.body.length ≤ maxResponseBodyBytes) .valueError
    return (responseHead response reason).encode ++ response.body

/-- `_header_values` -/
def headerValues (headers : List (Text × Text)) (name : String) : List Text :=
  (headers.filter fun header => Url.lower header.1 = Url.lower name.toList).map Prod.snd

/-- `CONTENT_LENGTH.fullmatch` -/
def isContentLength (t : Text) : Bool :=
  t = ['0'] || (t.head?.any (fun c => c.isDigit && c ≠ '0') && t.all Char.isDigit && t.length ≤ 6)

/-- `_validate_envelope`: the response of the first check that fails. -/
def validateEnvelope (request : WebRequest) (expectedAuthority : Text) : Except WebResponse Unit := do
  ensure (request.method = "GET".toList) (errorResponse 405 "closed_fixture_method")
  ensure (headerValues request.headers "Transfer-Encoding" = [])
    (errorResponse 400 "transfer_encoding_denied")
  ensure (headerValues request.headers "Host" = [expectedAuthority])
    (errorResponse 400 "loopback_host_required")
  ensure (headerValues request.headers "Origin" = ["http://".toList ++ expectedAuthority])
    (errorResponse 403 "same_loopback_origin_required")
  match headerValues request.headers "Content-Length" with
  | [length] =>
    ensure (isContentLength length = true) (errorResponse 400 "single_content_length_required")
    let declared := Nat.ofDigitChars 10 length 0
    ensure (declared ≤ maxRequestBodyBytes) (errorResponse 413 "request_too_large")
    ensure (declared = request.body.length) (errorResponse 400 "content_length_mismatch")
    ensure (request.body = []) (errorResponse 405 "closed_fixture_method")
  | _ => .error (errorResponse 400 "single_content_length_required")

structure Route where
  scenario : Text
  session : Text
  expected : Text

/-- `ROUTE.fullmatch` -/
def matchRoute (decoded : Text) : Option Route :=
  let isName := fun t : Text => t ≠ [] && t.all fun c => c.isLower || c = '_'
  let isSession := fun t : Text => t ≠ [] && t.all fun c => isLowerDigit c || c = '-'
  match decoded.splitOn '/' with
  | [root, version, scenarios, scenario, sessions, session, next, expected] =>
    if root = [] ∧ version = "v1".toList ∧ scenarios = "scenarios".toList ∧ isName scenario ∧
        sessions = "sessions".toList ∧ isSession session ∧ next = "next".toList ∧ isName expected then
      some ⟨scenario, session, expected⟩
    else none
  | _ => none

/-- `urlsplit(path)`, where all that it raises is a `ValueError`. -/
def splitPath (lib : Library) (path : Text) : Except Fault Url.SplitResult :=
  match Url.urlsplit lib.checks path with
  | .error _ => .error .valueError
  | .ok parsed => .ok parsed

/-- The checks of a request before anything is reserved: they raise, refuse, or find the route. -/
def screen (lib : Library) (request : WebRequest) (expectedAuthority : Text) :
    Except Fault (Except WebResponse Route) := do
  match validateEnvelope request expectedAuthority with
  | .error response => return .error response
  | .ok () =>
    if maxPathBytes < request.path.encode.length then
      return .error (errorResponse 414 "path_too_large")
    let parsed ← splitPath lib request.path
    if parsed.scheme ≠ [] ∨ parsed.netloc ≠ [] ∨ parsed.query ≠ [] ∨ parsed.fragment ≠ [] then
      return .error (errorResponse 400 "noncanonical_path")
    let decoded := Url.unquote parsed.path
    if '\\' ∈ decoded ∨ '\x00' ∈ decoded ∨ "..".toList ∈ decoded.splitOn '/' then
      return .error (errorResponse 400 "noncanonical_path")
    match matchRoute decoded with
    | none => return .error (errorResponse 404 "unknown_fixture_route")
    | some route => return .ok route

/-- `_render_result` -/
def renderResult (plan : EnginePlan) : Bytes :=
  canonicalJson (.obj [
    ("body".toList, .str plan.result.body),
    ("evidence".toList, .str plan.result.evidence),
    ("occurred_at".toList, .str plan.result.occurredAt),
    ("scenario".toList, .str plan.result.scenario.value),
    ("state".toList, .str plan.result.state.value)])

/-- The response for a plan, when it is within the limits. -/
def respond (plan : EnginePlan) : Except Fault WebResponse := do
  let body := renderResult plan
  ensure (body.length ≤ maxResponseBodyBytes) .resourceLimit
  let response : WebResponse := ⟨plan.result.statusCode, body, "application/json".toList⟩
  let wire ← wireResponse response
  ensure (wire.length ≤ maxHttpResponseBytes) .resourceLimit
  return response

/-- The response for what the preparation raised. -/
def Fault.response : Fault → WebResponse
  | .valueError => errorResponse 400 "unknown_fixture_value"
  | .resourceLimit => errorResponse 429 "fixture_resource_limit"
  | .unknownScenario | .unknownTransition | .transitionNotReady | .reservation =>
    errorResponse 409 "fixture_transition_denied"
  | .other => errorResponse 500 "fixture_render_failed"

/-! ### The commit of both stores -/

/-- A commit or a use of the writer, with the delivery that it belongs to: a record. -/
inductive Event where
  | committed (owner : Nat) (plan : EnginePlan)
  | written (owner : Nat) (wire : Bytes)
  | writerRaised (owner : Nat) (wire : Bytes)
deriving DecidableEq

def Event.owner : Event → Nat
  | .committed owner _ => owner
  | .written owner _ => owner
  | .writerRaised owner _ => owner

structure Stores where
  engine : Engine
  mail : MailCapture := {}
  history : List Event := []

/-- The steps of the commit, in their order. -/
inductive CommitStep where
  | validateEngine | validateMail | snapshotEngine | snapshotMail | commitEngine | commitMail
  | finalizeEngine | finalizeMail
deriving DecidableEq

/-- The step that raises, what it raises, and whether it has done its work before. -/
structure Strike where
  step : CommitStep
  fault : Fault
  done : Bool

structure Snapshots where
  engine : Option (Option Session) := none
  mail : Option Nat := none

/-- The stores under both locks, with the local variables of the commit. -/
structure Locked where
  stores : Stores
  taken : Snapshots := {}

namespace Locked
variable {α : Type}

def onEngine (c : Command Engine Fault α) : Command Locked Fault α := fun s =>
  match c s.stores.engine with
  | (r, engine) => (r, { s with stores := { s.stores with engine } })

def onMail (c : Command MailCapture Fault α) : Command Locked Fault α := fun s =>
  match c s.stores.mail with
  | (r, mail) => (r, { s with stores := { s.stores with mail } })

/-- A step of the commit, which may be struck. -/
def edge (strike : Option Strike) (step : CommitStep) (c : Command Locked Fault α) :
    Command Locked Fault α :=
  match strike with
  | none => c
  | some ⟨at', fault, done⟩ =>
    if at' = step then
      if done then do
        let _ ← c
        stop fault
      else stop fault
    else c

/-- A step that is taken when there is a mail. -/
def onReserved (mail? : Option MailReservation) (c : MailReservation → Command Locked Fault Unit) :
    Command Locked Fault Unit :=
  match mail? with
  | none => pure ()
  | some reservation => c reservation

def transaction (strike : Option Strike) (plan : EnginePlan) (mail? : Option MailReservation) :
    Command Locked Fault Unit := do
  edge strike .validateEngine (onEngine (Engine.validateReservationLocked plan))
  onReserved mail? fun reservation =>
    edge strike .validateMail (onMail (MailCapture.validateReservationLocked reservation))
  let snapshot ← edge strike .snapshotEngine (onEngine (Engine.snapshotLocked plan))
  write fun s => { s with taken.engine := some snapshot }
  onReserved mail? fun reservation => do
    let snapshot ← edge strike .snapshotMail (onMail (MailCapture.snapshotLocked reservation))
    write fun s => { s with taken.mail := some snapshot }
  edge strike .commitEngine (onEngine (Engine.commitReservationLocked plan))
  onReserved mail? fun reservation =>
    edge strike .commitMail (onMail (MailCapture.commitReservationLocked reservation))
  edge strike .finalizeEngine (onEngine (Engine.finalizeReservationLocked plan))
  onReserved mail? fun reservation =>
    edge strike .finalizeMail (onMail (MailCapture.finalizeReservationLocked reservation))

/-- The handler: both snapshots are restored where they were taken, and both reservations go. -/
def undo (plan : EnginePlan) (mail? : Option MailReservation) (s : Locked) : Stores :=
  let engine :=
    match s.taken.engine with
    | some snapshot => s.stores.engine.restoreSnapshotLocked plan snapshot
    | none => s.stores.engine
  let mail :=
    match s.taken.mail with
    | some snapshot => s.stores.mail.restoreSnapshotLocked snapshot
    | none => s.stores.mail
  { s.stores with
    engine := engine.cancelReservationLocked plan
    mail :=
      match mail? with
      | some reservation => mail.cancelReservationLocked reservation
      | none => mail }

end Locked

/-- `_commit_internal`. The record of the commit is made when it has gone through. -/
def commitInternal (strike : Option Strike) (owner : Nat) (plan : EnginePlan)
    (mail? : Option MailReservation) : Command Stores Fault Unit := fun s =>
  match Locked.transaction strike plan mail? ⟨s, {}⟩ with
  | (.ok (), done) =>
    (.ok (), { done.stores with history := done.stores.history ++ [.committed owner plan] })
  | (.error fault, left) => (.error fault, left.undo plan mail?)

/-! ### The calls of a delivery -/

/-- A call of the delivery of this number. A computation touches no store. -/
inductive Op where
  | reserve (owner : Nat) (scenario : ScenarioName) (session : Text) (expected : ScenarioState)
  | reserveMail (owner : Nat) (message : MailFixture)
  | compute (owner : Nat)
  | rollbackMail (owner : Nat) (reservation : MailReservation)
  | rollback (owner : Nat) (plan : EnginePlan)
  | commitInternal (owner : Nat) (plan : EnginePlan) (mail? : Option MailReservation)
  | write (owner : Nat) (wire : Bytes)

def Op.owner : Op → Nat
  | .reserve owner .. => owner
  | .reserveMail owner _ => owner
  | .compute owner => owner
  | .rollbackMail owner _ => owner
  | .rollback owner _ => owner
  | .commitInternal owner .. => owner
  | .write owner _ => owner

abbrev Reply : Op → Type
  | .reserve .. => Except Fault EnginePlan
  | .reserveMail .. => Except Fault MailReservation
  | _ => Except Fault Unit

/-- What happens to a call: the instant that the clock gives, what a preparation step or the writer
raises, and where a commit is struck. -/
structure Fate where
  instant : Datetime
  raised : Option Fault := none
  strike : Option Strike := none

/-- A command on the engine that raises at once where its fate says so. -/
def inEngine {α : Type} (raised : Option Fault) (c : Command Engine Fault α) (s : Stores) :
    Except Fault α × Stores :=
  match raised with
  | some fault => (.error fault, s)
  | none => ((c s.engine).1, { s with engine := (c s.engine).2 })

def inMail {α : Type} (raised : Option Fault) (c : Command MailCapture Fault α) (s : Stores) :
    Except Fault α × Stores :=
  match raised with
  | some fault => (.error fault, s)
  | none => ((c s.mail).1, { s with mail := (c s.mail).2 })

def exec (lib : Library) : (o : Op) → Fate → Stores → Reply o × Stores
  | .reserve owner scenario session expected, fate, s =>
    inEngine fate.raised
      (Engine.prepareLocked lib.timestamp owner fate.instant scenario session expected) s
  | .reserveMail owner message, fate, s => inMail fate.raised (MailCapture.reserve owner message) s
  | .compute _, fate, s =>
    match fate.raised with
    | some fault => (.error fault, s)
    | none => (.ok (), s)
  | .rollbackMail _ reservation, _, s => inMail none (MailCapture.rollback reservation) s
  | .rollback _ plan, _, s => inEngine none (Engine.rollback plan) s
  | .commitInternal owner plan mail?, fate, s => commitInternal fate.strike owner plan mail? s
  | .write owner wire, fate, s =>
    match fate.raised with
    | some fault => (.error fault, { s with history := s.history ++ [.writerRaised owner wire] })
    | none => (.ok (), { s with history := s.history ++ [.written owner wire] })

abbrev Act (α : Type) : Type := Program Op Reply α

/-- What a delivery raises: what a step raised, or that the writer was called and raised. -/
inductive Raised where
  | fault (f : Fault)
  | unknownDelivery
deriving DecidableEq

namespace LocalWebSimulator
variable (n : Nat)

/-- A computation that touches no store, whose result is this one unless it is made to raise. -/
def computing {α : Type} (result : Except Fault α) : Act (Except Fault α) := do
  let raised ← Program.lift (Op.compute n)
  return raised >>= fun _ => result

/-- The part of `_prepare` inside its `try`, with the variables that its handlers read. -/
def tryPrepare (route : Route) :
    Act (Option EnginePlan × Option MailReservation × Except Fault WebResponse) :=
  match ScenarioName.ofValue route.scenario, ScenarioState.ofValue route.expected with
  | some scenario, some expected => do
    match ← Program.lift (Op.reserve n scenario route.session expected) with
    | .error fault => return (none, none, .error fault)
    | .ok plan =>
      let reserved ←
        match plan.result.mail with
        | none => pure (.ok none)
        | some message => do
          let reply ← Program.lift (Op.reserveMail n message)
          pure (reply.map some)
      match reserved with
      | .error fault => return (some plan, none, .error fault)
      | .ok mail? =>
        let response ← computing n (respond plan)
        return (some plan, mail?, response)
  | _, _ => return (none, none, .error .valueError)

/-- `_cancel` -/
def cancel (plan? : Option EnginePlan) (mail? : Option MailReservation) : Act (Except Fault Unit) := do
  let mailGone ←
    match mail? with
    | none => pure (.ok ())
    | some reservation => Program.lift (Op.rollbackMail n reservation)
  let planGone ←
    match plan? with
    | none => pure (.ok ())
    | some plan => Program.lift (Op.rollback n plan)
  return planGone >>= fun _ => mailGone

abbrev Prepared : Type := WebResponse × Option EnginePlan × Option MailReservation

/-- `_prepare` -/
def prepare (lib : Library) (request : WebRequest) (expectedAuthority : Text) :
    Act (Except Fault Prepared) := do
  match ← computing n (screen lib request expectedAuthority) with
  | .error fault => return .error fault
  | .ok (.error response) => return .ok (response, none, none)
  | .ok (.ok route) =>
    match ← tryPrepare n route with
    | (plan?, mail?, .ok response) => return .ok (response, plan?, mail?)
    | (plan?, mail?, .error fault) =>
      let gone ← cancel n plan? mail?
      return gone.map fun _ => (fault.response, none, none)

def deliver (lib : Library) (request : WebRequest) (expectedAuthority : Text) :
    Act (Except Raised WebResponse) := do
  match ← prepare n lib request expectedAuthority with
  | .error fault => return .error (.fault fault)
  | .ok (response, plan?, mail?) =>
    match ← computing n (wireResponse response) with
    | .error fault =>
      match ← cancel n plan? mail? with
      | .error fault => return .error (.fault fault)
      | .ok () => return .error (.fault fault)
    | .ok wire =>
      let committed ←
        match plan? with
        | none => pure (.ok ())
        | some plan => Program.lift (Op.commitInternal n plan mail?)
      match committed with
      | .error fault => return .error (.fault fault)
      | .ok () =>
        match ← Program.lift (Op.write n wire) with
        | .error _ => return .error .unknownDelivery
        | .ok () => return .ok response

end LocalWebSimulator

end MyCogni.Simulator
