import Mathlib.Tactic.Common
import MyCogni.Base.Bytes

/-! The closed protocol of the simulator: its limits, its errors, the states of a scenario, and the
scenarios that a catalog may hold, each with the checks of its construction. -/

namespace MyCogni.Simulator

def maxRequestBodyBytes : Nat := 4096
def maxResponseBodyBytes : Nat := 16384
def maxHttpResponseBytes : Nat := 18432
def maxEvidenceBytes : Nat := 4096
def maxMailBodyBytes : Nat := 8192
def maxMailSubjectBytes : Nat := 160
def maxMailMessages : Nat := 16
def maxRequestsPerSession : Nat := 8
def maxSessions : Nat := 64
def maxScenarios : Nat := 16
def maxStepsPerScenario : Nat := 8
def maxTotalScenarioBytes : Nat := 65536
def maxStepDelaySeconds : Nat := 366 * 24 * 60 * 60

/-- What a step raises. All but the first and the last are errors of the simulator itself. -/
inductive Fault where
  | valueError
  | resourceLimit
  | unknownScenario
  | unknownTransition
  | transitionNotReady
  | reservation
  | other
deriving DecidableEq

inductive ScenarioName where
  | happy | notFound | ambiguous | challengeCaptcha | challengeMfa | rateLimit | timeoutUnknown
  | schemaDrift | partialResult | denied | resurfacing
deriving DecidableEq

def ScenarioName.value : ScenarioName → Text
  | .happy => "happy".toList
  | .notFound => "not_found".toList
  | .ambiguous => "ambiguous".toList
  | .challengeCaptcha => "challenge_captcha".toList
  | .challengeMfa => "challenge_mfa".toList
  | .rateLimit => "rate_limit".toList
  | .timeoutUnknown => "timeout_unknown".toList
  | .schemaDrift => "schema_drift".toList
  | .partialResult => "partial".toList
  | .denied => "denied".toList
  | .resurfacing => "resurfacing".toList

def ScenarioName.all : List ScenarioName :=
  [.happy, .notFound, .ambiguous, .challengeCaptcha, .challengeMfa, .rateLimit, .timeoutUnknown,
    .schemaDrift, .partialResult, .denied, .resurfacing]

def ScenarioName.ofValue (t : Text) : Option ScenarioName := all.find? (·.value = t)

inductive ScenarioState where
  | start | candidate | notFound | ambiguous | challengeCaptcha | challengeMfa | rateLimited
  | outcomeUnknown | schemaDrift | partialResult | denied | simulatedAbsent | resurfaced | complete
deriving DecidableEq

def ScenarioState.value : ScenarioState → Text
  | .start => "start".toList
  | .candidate => "candidate".toList
  | .notFound => "not_found".toList
  | .ambiguous => "ambiguous".toList
  | .challengeCaptcha => "challenge_captcha".toList
  | .challengeMfa => "challenge_mfa".toList
  | .rateLimited => "rate_limited".toList
  | .outcomeUnknown => "outcome_unknown".toList
  | .schemaDrift => "schema_drift".toList
  | .partialResult => "partial".toList
  | .denied => "denied".toList
  | .simulatedAbsent => "simulated_absent".toList
  | .resurfaced => "resurfaced".toList
  | .complete => "complete".toList

def ScenarioState.all : List ScenarioState :=
  [.start, .candidate, .notFound, .ambiguous, .challengeCaptcha, .challengeMfa, .rateLimited,
    .outcomeUnknown, .schemaDrift, .partialResult, .denied, .simulatedAbsent, .resurfaced, .complete]

def ScenarioState.ofValue (t : Text) : Option ScenarioState := all.find? (·.value = t)

/-! ### Names in mail addresses and sessions -/

def isLowerDigit (c : Char) : Bool := c.isLower || c.isDigit

/-- The regular expression `E(?:I{0,limit-2}E)?`, where every character of `E` is one of `I`. -/
def isEdged (edge inner : Char → Bool) (limit : Nat) (t : Text) : Bool :=
  t.head?.any edge && t.getLast?.any edge && t.all inner && t.length ≤ limit

/-- `MAIL_LOCAL.fullmatch` -/
def isMailLocal (t : Text) : Bool :=
  isEdged Char.isAlphanum
    (fun c => c.isAlphanum || c = '.' || c = '_' || c = '+' || c = '-') 64 t

/-- `DNS_LABEL.fullmatch` -/
def isDnsLabel (t : Text) : Bool := isEdged isLowerDigit (fun c => isLowerDigit c || c = '-') 63 t

def reservedMailSuffixes : List Text := ["test".toList, "example".toList, "invalid".toList]

/-- `str.lower()` of one character, where it is a letter of a label. -/
def lowerChar (c : Char) : Char := if c = '\u212a' then 'k' else c.toLower

def isReservedMailbox (address : Text) : Bool :=
  if address.count '@' ≠ 1 then false
  else
    let name := address.takeWhile (· ≠ '@')
    let domain := (address.dropWhile (· ≠ '@')).drop 1
    let labels := (domain.map lowerChar).splitOn '.'
    isMailLocal name && 2 ≤ labels.length && labels.getLast?.any (· ∈ reservedMailSuffixes) &&
      labels.all isDnsLabel

structure MailFixture where
  recipient : Text
  subject : Text
  body : Text
  recipient_reserved : isReservedMailbox recipient = true := by decide
  subject_valid : subject ≠ [] ∧ '\r' ∉ subject ∧ '\n' ∉ subject := by decide
  subject_size : subject.encode.length ≤ maxMailSubjectBytes := by decide
  body_size : body.encode.length ≤ maxMailBodyBytes := by decide
deriving DecidableEq

/-! ### Scenarios -/

def allowedStatusCodes : List Nat := [200, 206, 403, 409, 422, 429, 504]

/-- A step. Its body and its evidence are bytes that are valid UTF-8, kept as their texts. -/
structure ScenarioStep where
  fromState : ScenarioState
  toState : ScenarioState
  statusCode : Nat
  body : Text
  evidence : Text := []
  availableAfterSeconds : Nat := 0
  mail : Option MailFixture := none
  status_allowed : statusCode ∈ allowedStatusCodes := by decide
  body_size : body ≠ [] ∧ body.encode.length ≤ maxResponseBodyBytes := by decide
  evidence_size : evidence.encode.length ≤ maxEvidenceBytes := by decide
  delay_bounded : availableAfterSeconds ≤ maxStepDelaySeconds := by decide

/-- Every step goes on from where the one before it ends. -/
def chained : ScenarioState → List ScenarioStep → Bool
  | _, [] => true
  | expected, step :: steps => step.fromState = expected && chained step.toState steps

structure ScenarioDefinition where
  name : ScenarioName
  steps : List ScenarioStep
  count : 1 ≤ steps.length ∧ steps.length ≤ maxStepsPerScenario := by decide
  declared : chained .start steps = true := by decide

structure ScenarioResult where
  scenario : ScenarioName
  state : ScenarioState
  statusCode : Nat
  body : Text
  evidence : Text
  occurredAt : Text
  mail : Option MailFixture
deriving DecidableEq

/-- The state that a session is in after this many steps. -/
def stateAfter (expected : ScenarioState) : List ScenarioStep → Nat → ScenarioState
  | [], _ => expected
  | _ :: _, 0 => expected
  | step :: steps, n + 1 => stateAfter step.toState steps n

theorem fromState_getElem {expected : ScenarioState} {steps : List ScenarioStep}
    (h : chained expected steps = true) {n : Nat} {step : ScenarioStep} (hn : steps[n]? = some step) :
    step.fromState = stateAfter expected steps n := by
  induction steps generalizing expected n with
  | nil => exact nomatch hn
  | cons first steps ih =>
    rw [chained, Bool.and_eq_true, decide_eq_true_eq] at h
    cases n with
    | zero =>
      obtain rfl := Option.some.inj hn
      exact h.1
    | succ n => exact ih h.2 hn

theorem stateAfter_succ {expected : ScenarioState} {steps : List ScenarioStep} {n : Nat}
    {step : ScenarioStep} (hn : steps[n]? = some step) :
    stateAfter expected steps (n + 1) = step.toState := by
  induction steps generalizing expected n with
  | nil => exact nomatch hn
  | cons first steps ih =>
    cases n with
    | zero =>
      obtain rfl := Option.some.inj hn
      cases steps <;> rfl
    | succ n => exact ih hn

theorem stateAfter_zero (expected : ScenarioState) (steps : List ScenarioStep) :
    stateAfter expected steps 0 = expected := by
  cases steps <;> rfl

end MyCogni.Simulator
