import MyCogni.Auth.Code
import MyCogni.Base.Dict
import MyCogni.Base.Outcome

/-! The web shell: login challenges and sessions in memory, in front of the authentication service.
A call holds the lock only in some of its sections; between them, and around what it asks of the
service, other calls run. -/

namespace MyCogni.Web
open Auth

def loginChallengeTtlSeconds : Nat := 300

def maxLoginChallenges : Nat := 32

def maxSessions : Nat := 16

def maxCsrfTokens : Nat := 4

inductive LoginFailure where
  | challengeMissing
  | csrfRejected
  | credentialRejected
deriving DecidableEq

structure LoginChallenge where
  challengeId : OpaqueId
  csrfDigest : Bytes
  expiresAtUtc : Datetime
deriving DecidableEq

structure Session where
  credential : OpaqueCredential
  csrfDigests : List Bytes
  expiresAtUtc : Datetime
deriving DecidableEq

structure Shell where
  challenges : Dict OpaqueId LoginChallenge := .empty
  sessions : Dict OpaqueId Session := .empty
deriving DecidableEq

/-- `_digest` -/
def digest (value : Text) : Bytes := Sha256.digest value.encode

/-- `_parse_id` -/
def parseId (value : Option Text) : Option OpaqueId := value.bind OpaqueId.parse

def seconds (n : Nat) : Nat := n * 1000000

/-- The last four of the tokens. -/
def lastTokens (digests : List Bytes) : List Bytes := digests.drop (digests.length - maxCsrfTokens)

/-! ### Locked sections -/

namespace Shell
variable (s : Shell)

def purgeExpired (now : Datetime) : Shell where
  challenges := s.challenges.filter fun _ c => ¬c.expiresAtUtc ≤ now
  sessions := s.sessions.filter fun _ r => ¬r.expiresAtUtc ≤ now

def addChallenge (c : LoginChallenge) : Shell :=
  { s with challenges := (s.challenges.makeRoom maxLoginChallenges).set c.challengeId c }

def popChallenge (challengeId : OpaqueId) : Shell :=
  { s with challenges := s.challenges.erase challengeId }

def evictSessions : Shell := { s with sessions := s.sessions.makeRoom maxSessions }

def installSession (r : Session) : Shell :=
  { s with sessions := (s.sessions.makeRoom maxSessions).set r.credential.handle r }

def popSession (sessionId : OpaqueId) : Shell :=
  { s with sessions := s.sessions.erase sessionId }

def addToken (sessionId : OpaqueId) (r : Session) (token : Text) : Shell :=
  let current := { r with csrfDigests := lastTokens (r.csrfDigests ++ [digest token]) }
  { s with sessions := s.sessions.set sessionId current }

end Shell

/-! ### Calls -/

/-- Where a call is, between two of its sections. -/
inductive Stage where
  /-- `begin_login`, past the purge. -/
  | beginning (now : Datetime)
  /-- `authenticate_login`, before the exchange. -/
  | exchanging (challengeId : OpaqueId) (csrfToken : Text) (credential : OpaqueCredential)
      (now : Datetime)
  | installing (credential : OpaqueCredential) (now : Datetime)
  /-- `view`, with the session that it found. -/
  | viewing (sessionId : OpaqueId) (session : Session)
  | dropping (sessionId : OpaqueId)
  | issuing (sessionId : OpaqueId)
  /-- `active_session_count`, past the purge. -/
  | counting
deriving DecidableEq

/-- What has happened, for the record. -/
inductive Entry where
  | challengeIssued (challengeId : OpaqueId) (csrfToken : Text) (expiresAtUtc : Datetime)
  | exchangeCalled (challengeId : OpaqueId) (csrfToken : Text) (now : Datetime)
  | exchangeSucceeded (session : OpaqueCredential)
  | formIssued (sessionId : OpaqueId) (csrfToken : Text)
  | loggedOut (sessionId : OpaqueId) (csrfToken : Text)
deriving DecidableEq

/-- The shell, the calls in progress, the calls that were ever made, and what has happened, the
newest first. -/
structure World where
  shell : Shell := {}
  stages : Nat → Option Stage := fun _ => none
  calls : List Nat := []
  history : List Entry := []

inductive Reply where
  /-- The call goes on. -/
  | pending
  | loginStart (challengeCookie csrfToken : Text)
  | loginSucceeded (sessionCookie csrfToken : Text)
  | loginFailed (failure : LoginFailure) (denial : Option AuthDenial)
  | view (csrfToken : Option Text)
  | logout (done : Bool)
  | count (n : Nat)
  /-- An instant is out of range. -/
  | overflowError
  /-- What the clock or the service raised. -/
  | raised
  /-- The call is not at this point. -/
  | disabled
deriving DecidableEq

/-- One section of a call, with what the clock, the token source and the service give it. -/
inductive Event where
  | beginLogin (call : Nat) (now : Datetime)
  | issueChallenge (call : Nat) (challengeId : OpaqueId) (csrfToken : Text)
  | authenticateLogin (call : Nat) (challengeCookie : Option Text) (csrfToken operatorCode : Text)
      (now : Datetime)
  | exchangeBootstrap (call : Nat) (exchanged : Except (Option AuthDenial) OpaqueCredential)
  | installSession (call : Nat) (csrfToken : Text)
  | view (call : Nat) (sessionCookie : Option Text)
  | authenticateSession (call : Nat) (now : Datetime) (denied : Bool)
  | dropSession (call : Nat)
  | issueForm (call : Nat) (csrfToken : Text)
  | logout (call : Nat) (sessionCookie : Option Text) (csrfToken : Text)
  | activeSessionCount (call : Nat) (now : Datetime)
  | countSessions (call : Nat)
  /-- The clock or the service raises inside the call. -/
  | raises (call : Nat)
deriving DecidableEq

namespace World
variable (w : World)

def stand (call : Nat) (stage : Option Stage) : World :=
  { w with stages := Function.update w.stages call stage }

def note (e : Entry) : World := { w with history := e :: w.history }

/-- The first section of a call that has not been made. -/
def start (call : Nat) (k : World → Reply × World) : Reply × World :=
  if call ∈ w.calls then (.disabled, w) else k { w with calls := call :: w.calls }

/-- The end of a call whose clock or service raises, where it asks either. -/
def abort (call : Nat) : Stage → Reply × World
  | .exchanging challengeId csrfToken _ now =>
    (.raised, (w.note (.exchangeCalled challengeId csrfToken now)).stand call none)
  | .beginning _ => (.raised, w.stand call none)
  | .viewing _ _ => (.raised, w.stand call none)
  | .counting => (.raised, w.stand call none)
  | .installing _ _ => (.disabled, w)
  | .dropping _ => (.disabled, w)
  | .issuing _ => (.disabled, w)

/-- The end of `begin_login`, with the expiry of the challenge. -/
def addChallenge (call : Nat) (challengeId : OpaqueId) (csrfToken : Text) :
    Option Datetime → Reply × World
  | none => (.overflowError, w.stand call none)
  | some expiresAtUtc =>
    (.loginStart challengeId.str csrfToken,
      ({ w with
        shell := w.shell.addChallenge ⟨challengeId, digest csrfToken, expiresAtUtc⟩ }.stand call
          none).note (.challengeIssued challengeId csrfToken expiresAtUtc))

/-- `_install_session`, with the expiry of the session. -/
def installSession (call : Nat) (credential : OpaqueCredential) (csrfToken : Text) :
    Option Datetime → Reply × World
  -- the oldest sessions are gone by the time the sum overflows
  | none => (.overflowError, { w with shell := w.shell.evictSessions }.stand call none)
  | some expiresAtUtc =>
    (.loginSucceeded credential.handle.str csrfToken,
      ({ w with
        shell := w.shell.installSession ⟨credential, [digest csrfToken], expiresAtUtc⟩ }.stand
          call none).note (.formIssued credential.handle csrfToken))

def step (sessionTtlSeconds : Nat) : Event → Reply × World
  | .beginLogin call now =>
    w.start call fun w =>
      (.pending, { w with shell := w.shell.purgeExpired now }.stand call (some (.beginning now)))
  | .issueChallenge call challengeId csrfToken =>
    match w.stages call with
    | some (.beginning now) =>
      w.addChallenge call challengeId csrfToken (now.add (seconds loginChallengeTtlSeconds))
    | _ => (.disabled, w)
  | .authenticateLogin call challengeCookie csrfToken operatorCode now =>
    w.start call fun w =>
      match parseId challengeCookie with
      | none => (.loginFailed .challengeMissing none, w)
      | some challengeId =>
        let popped := { w with shell := w.shell.popChallenge challengeId }
        match w.shell.challenges.get? challengeId with
        | none => (.loginFailed .challengeMissing none, popped)
        | some challenge =>
          if challenge.expiresAtUtc ≤ now then (.loginFailed .challengeMissing none, popped)
          else if challenge.csrfDigest ≠ digest csrfToken then
            (.loginFailed .csrfRejected none, popped)
          else match parseOperatorCode operatorCode with
            | none => (.loginFailed .credentialRejected none, popped)
            | some credential =>
              (.pending,
                popped.stand call (some (.exchanging challengeId csrfToken credential now)))
  | .exchangeBootstrap call exchanged =>
    match w.stages call with
    | some (.exchanging challengeId csrfToken _ now) =>
      let called := w.note (.exchangeCalled challengeId csrfToken now)
      match exchanged with
      | .error denial => (.loginFailed .credentialRejected denial, called.stand call none)
      | .ok credential =>
        (.pending, (called.stand call (some (.installing credential now))).note
          (.exchangeSucceeded credential))
    | _ => (.disabled, w)
  | .installSession call csrfToken =>
    match w.stages call with
    | some (.installing credential now) =>
      w.installSession call credential csrfToken (now.add (seconds sessionTtlSeconds))
    | _ => (.disabled, w)
  | .view call sessionCookie =>
    w.start call fun w =>
      match parseId sessionCookie with
      | none => (.view none, w)
      | some sessionId =>
        match w.shell.sessions.get? sessionId with
        | none => (.view none, w)
        | some session =>
          (.pending, w.stand call (some (.viewing sessionId session)))
  | .authenticateSession call now denied =>
    match w.stages call with
    | some (.viewing sessionId session) =>
      if session.expiresAtUtc ≤ now ∨ denied = true then
        (.pending, w.stand call (some (.dropping sessionId)))
      else (.pending, w.stand call (some (.issuing sessionId)))
    | _ => (.disabled, w)
  | .dropSession call =>
    match w.stages call with
    | some (.dropping sessionId) =>
      (.view none, { w with shell := w.shell.popSession sessionId }.stand call none)
    | _ => (.disabled, w)
  | .issueForm call csrfToken =>
    match w.stages call with
    | some (.issuing sessionId) =>
      match w.shell.sessions.get? sessionId with
      | none => (.view none, w.stand call none)
      | some current =>
        (.view (some csrfToken),
          ({ w with shell := w.shell.addToken sessionId current csrfToken }.stand call none).note
            (.formIssued sessionId csrfToken))
    | _ => (.disabled, w)
  | .logout call sessionCookie csrfToken =>
    w.start call fun w =>
      match parseId sessionCookie with
      | none => (.logout false, w)
      | some sessionId =>
        match w.shell.sessions.get? sessionId with
        | none => (.logout false, w)
        | some session =>
          if digest csrfToken ∈ session.csrfDigests then
            (.logout true, { w with shell := w.shell.popSession sessionId }.note
              (.loggedOut sessionId csrfToken))
          else (.logout false, w)
  | .activeSessionCount call now =>
    w.start call fun w =>
      (.pending, { w with shell := w.shell.purgeExpired now }.stand call (some .counting))
  | .countSessions call =>
    match w.stages call with
    | some .counting => (.count w.shell.sessions.size, w.stand call none)
    | _ => (.disabled, w)
  | .raises call =>
    match w.stages call with
    | some stage => w.abort call stage
    | none => (.disabled, w)

def run (sessionTtlSeconds : Nat) (w : World) : List Event → World
  | [] => w
  | e :: es => run sessionTtlSeconds (w.step sessionTtlSeconds e).2 es

end World

end MyCogni.Web
