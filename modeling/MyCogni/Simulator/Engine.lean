import Mathlib.Data.Finset.Erase
import Mathlib.Data.Finset.Insert
import MyCogni.Base.Command
import MyCogni.Base.Datetime
import MyCogni.Base.Dict
import MyCogni.Simulator.Protocol

/-! The scenario engine and the mail capture: what each keeps, and the operations that reserve a
transition or a place for a mail, commit it, finalize it, undo it or cancel it under one lock. -/

namespace MyCogni.Simulator

open Command

/-! ### The engine -/

def aggregateBytes (definitions : List ScenarioDefinition) : Nat :=
  ((definitions.flatMap (·.steps)).map fun step =>
    step.body.encode.length + step.evidence.encode.length +
      match step.mail with
      | some mail => mail.subject.encode.length + mail.body.encode.length
      | none => 0).sum

/-- `_validate_catalog` -/
def validateCatalog (definitions : List ScenarioDefinition) : Except Fault Unit := do
  ensure (1 ≤ definitions.length ∧ definitions.length ≤ maxScenarios) .resourceLimit
  ensure (definitions.map (·.name)).Nodup .valueError
  ensure (aggregateBytes definitions ≤ maxTotalScenarioBytes) .resourceLimit

structure Catalog where
  definitions : List ScenarioDefinition
  valid : validateCatalog definitions = .ok ()

def Catalog.get? (catalog : Catalog) (name : ScenarioName) : Option ScenarioDefinition :=
  catalog.definitions.find? (·.name = name)

/-! ### The default catalog -/

/-- `_body` -/
def fixtureBody (value : String) : Text :=
  "\x7b\"fixture\":\"".toList ++ value.toList ++ "\"\x7d".toList

/-- A scenario of one step from the start. -/
def singleStep (name : ScenarioName) (toState : ScenarioState) (statusCode : Nat) (value : String)
    (hstatus : statusCode ∈ allowedStatusCodes)
    (hbody : fixtureBody value ≠ [] ∧ (fixtureBody value).encode.length ≤ maxResponseBodyBytes) :
    ScenarioDefinition where
  name := name
  steps := [{ fromState := .start, toState, statusCode, body := fixtureBody value,
              status_allowed := hstatus, body_size := hbody }]
  count := ⟨Nat.le_refl 1, (by decide : 1 ≤ 8)⟩
  declared := rfl

def defaultScenarios : List ScenarioDefinition := [
  { name := .happy
    steps := [
      { fromState := .start, toState := .candidate, statusCode := 200
        body := fixtureBody "candidate"
        evidence := "synthetic-candidate-evidence".toList
        mail := some {
          recipient := "fixture-recipient@notices.test".toList
          subject := "Synthetic acknowledgement".toList
          body := "Fixture-only acknowledgement; no message was delivered.".toList } },
      { fromState := .candidate, toState := .complete, statusCode := 200
        body := fixtureBody "complete" }] },
  singleStep .notFound .notFound 200 "not-found" (by decide) (by decide),
  singleStep .ambiguous .ambiguous 200 "ambiguous" (by decide) (by decide),
  singleStep .challengeCaptcha .challengeCaptcha 409 "challenge-captcha" (by decide) (by decide),
  singleStep .challengeMfa .challengeMfa 409 "challenge-mfa" (by decide) (by decide),
  { name := .rateLimit
    steps := [
      { fromState := .start, toState := .rateLimited, statusCode := 429
        body := fixtureBody "rate-limited" },
      { fromState := .rateLimited, toState := .candidate, statusCode := 200
        body := fixtureBody "candidate-after-clock-advance"
        availableAfterSeconds := 60 }] },
  singleStep .timeoutUnknown .outcomeUnknown 504 "outcome-unknown" (by decide) (by decide),
  singleStep .schemaDrift .schemaDrift 422 "schema-drift" (by decide) (by decide),
  singleStep .partialResult .partialResult 206 "partial" (by decide) (by decide),
  singleStep .denied .denied 403 "denied" (by decide) (by decide),
  { name := .resurfacing
    steps := [
      { fromState := .start, toState := .candidate, statusCode := 200
        body := fixtureBody "candidate" },
      { fromState := .candidate, toState := .simulatedAbsent, statusCode := 200
        body := fixtureBody "simulated-absent" },
      { fromState := .simulatedAbsent, toState := .resurfaced, statusCode := 200
        body := fixtureBody "resurfaced"
        availableAfterSeconds := 86400 }] }]

/-- The default catalog passes its own check. -/
def defaultCatalog : Catalog := ⟨defaultScenarios, by rfl⟩

structure Session where
  scenario : ScenarioName
  state : ScenarioState
  stepIndex : Nat
  requestCount : Nat
  transitionedAtSeconds : Int

structure EnginePlan where
  token : Nat
  sessionId : Text
  result : ScenarioResult
deriving DecidableEq

/-- A reservation. Its owner is a record of who asked for it, that no check reads. -/
structure Reservation where
  plan : EnginePlan
  nextSession : Session
  isNewSession : Bool
  owner : Nat

structure Engine where
  scenarios : Catalog
  sessions : Dict Text Session := .empty
  reservations : Dict Nat Reservation := .empty
  reservedSessions : Finset Text := ∅
  nextToken : Nat := 1

/-- `SESSION_ID.fullmatch` -/
def isSessionId (t : Text) : Bool := isEdged isLowerDigit (fun c => isLowerDigit c || c = '-') 64 t

/-- `canonical_instant`: the ISO text with `Z` in the place of the offset. -/
def canonicalInstant (t : Datetime) : Text := t.isoformat.take (t.isoformat.length - 6) ++ ['Z']

/-- The result of a step of a scenario at an instant. -/
def ScenarioStep.result (step : ScenarioStep) (scenario : ScenarioName) (instant : Datetime) :
    ScenarioResult where
  scenario := scenario
  state := step.toState
  statusCode := step.statusCode
  body := step.body
  evidence := step.evidence
  occurredAt := canonicalInstant instant
  mail := step.mail

namespace Engine

/-- The new sessions among the reservations. -/
def reservedNew (engine : Engine) : Int :=
  engine.reservations.sum fun r => if r.isNewSession then 1 else 0

/-- `_prepare_locked`, where the clock gives the instant and `timestamp` its whole seconds. -/
def prepareLocked (timestamp : Datetime → Int) (owner : Nat) (instant : Datetime)
    (scenarioName : ScenarioName) (sessionId : Text) (expectedState : ScenarioState) :
    Command Engine Fault EnginePlan := do
  let engine ← read
  require (isSessionId sessionId = true) .valueError
  require (sessionId ∉ engine.reservedSessions) .resourceLimit
  let definition ← demand (engine.scenarios.get? scenarioName) .unknownScenario
  let nowSeconds := timestamp instant
  let isNew := (engine.sessions.get? sessionId).isNone
  require (isNew = true → engine.sessions.size + engine.reservedNew < maxSessions) .resourceLimit
  let session := (engine.sessions.get? sessionId).getD ⟨scenarioName, .start, 0, 0, nowSeconds⟩
  require (session.scenario = scenarioName) .unknownTransition
  require (session.requestCount + 1 ≤ maxRequestsPerSession) .resourceLimit
  require (session.state = expectedState) .unknownTransition
  let step ← demand definition.steps[session.stepIndex]? .unknownTransition
  require (step.fromState = session.state) .unknownTransition
  require (step.availableAfterSeconds ≤ nowSeconds - session.transitionedAtSeconds)
    .transitionNotReady
  let plan : EnginePlan := ⟨engine.nextToken, sessionId, step.result scenarioName instant⟩
  let nextSession : Session :=
    ⟨scenarioName, step.toState, session.stepIndex + 1, session.requestCount + 1, nowSeconds⟩
  write fun engine => { engine with
    reservations := engine.reservations.set engine.nextToken ⟨plan, nextSession, isNew, owner⟩
    reservedSessions := insert sessionId engine.reservedSessions
    nextToken := engine.nextToken + 1 }
  return plan

/-- The reservation is the one that is kept, and its session is reserved. -/
def Holds (engine : Engine) (plan : EnginePlan) : Prop :=
  (engine.reservations.get? plan.token).map (·.plan) = some plan ∧
    plan.sessionId ∈ engine.reservedSessions

instance (engine : Engine) (plan : EnginePlan) : Decidable (engine.Holds plan) :=
  inferInstanceAs (Decidable (_ ∧ _))

def validateReservationLocked (plan : EnginePlan) : Command Engine Fault Unit := do
  let engine ← read
  require (engine.Holds plan) .reservation

def snapshotLocked (plan : EnginePlan) : Command Engine Fault (Option Session) := do
  validateReservationLocked plan
  let engine ← read
  return engine.sessions.get? plan.sessionId

def commitReservationLocked (plan : EnginePlan) : Command Engine Fault Unit := do
  validateReservationLocked plan
  let engine ← read
  let reservation ← demand (engine.reservations.get? plan.token) .other
  write fun engine =>
    { engine with sessions := engine.sessions.set plan.sessionId reservation.nextSession }

def restoreSnapshotLocked (plan : EnginePlan) (snapshot : Option Session) : Engine → Engine :=
  fun engine =>
    match snapshot with
    | none => { engine with sessions := engine.sessions.erase plan.sessionId }
    | some session => { engine with sessions := engine.sessions.set plan.sessionId session }

def cancelReservationLocked (plan : EnginePlan) (engine : Engine) : Engine :=
  { engine with
    reservations := engine.reservations.erase plan.token
    reservedSessions := engine.reservedSessions.erase plan.sessionId }

def finalizeReservationLocked (plan : EnginePlan) : Command Engine Fault Unit := do
  validateReservationLocked plan
  write (cancelReservationLocked plan)

def rollback (plan : EnginePlan) : Command Engine Fault Unit := do
  validateReservationLocked plan
  write (cancelReservationLocked plan)

end Engine

/-! ### The mail capture -/

/-- A place for a mail. Its owner is a record of who asked for it. -/
structure MailReservation where
  token : Nat
  message : MailFixture
  owner : Nat
deriving DecidableEq

structure MailCapture where
  messages : List MailFixture := []
  reservations : Dict Nat MailReservation := .empty
  nextToken : Nat := 1

namespace MailCapture

def reserve (owner : Nat) (message : MailFixture) : Command MailCapture Fault MailReservation := do
  let mail ← read
  require (mail.messages.length + mail.reservations.size < maxMailMessages) .resourceLimit
  let reservation : MailReservation := ⟨mail.nextToken, message, owner⟩
  write fun mail => { mail with
    reservations := mail.reservations.set reservation.token reservation
    nextToken := mail.nextToken + 1 }
  return reservation

def Holds (mail : MailCapture) (reservation : MailReservation) : Prop :=
  mail.reservations.get? reservation.token = some reservation

instance (mail : MailCapture) (reservation : MailReservation) : Decidable (mail.Holds reservation) :=
  inferInstanceAs (Decidable (_ = _))

def validateReservationLocked (reservation : MailReservation) : Command MailCapture Fault Unit := do
  let mail ← read
  require (mail.Holds reservation) .reservation

def snapshotLocked (reservation : MailReservation) : Command MailCapture Fault Nat := do
  validateReservationLocked reservation
  let mail ← read
  return mail.messages.length

def commitReservationLocked (reservation : MailReservation) : Command MailCapture Fault Unit := do
  validateReservationLocked reservation
  write fun mail => { mail with messages := mail.messages ++ [reservation.message] }

def restoreSnapshotLocked (snapshot : Nat) (mail : MailCapture) : MailCapture :=
  { mail with messages := mail.messages.take snapshot }

def cancelReservationLocked (reservation : MailReservation) (mail : MailCapture) : MailCapture :=
  { mail with reservations := mail.reservations.erase reservation.token }

def finalizeReservationLocked (reservation : MailReservation) : Command MailCapture Fault Unit := do
  validateReservationLocked reservation
  write (cancelReservationLocked reservation)

def rollback (reservation : MailReservation) : Command MailCapture Fault Unit := do
  validateReservationLocked reservation
  write (cancelReservationLocked reservation)

end MailCapture

end MyCogni.Simulator
