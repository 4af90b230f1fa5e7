import MyCogni.Auth.Domain
import MyCogni.Base.Command
import Mathlib.Tactic.Simps.Basic

/-! The volatile decision store: ten collections of records and the operations that decide on
them. A denial keeps every change made before it, and so does an injected crash. -/

namespace MyCogni.Auth

inductive CrashPoint where
  | bootstrap
  | stepUp
  | recovery
  | reprovisionProof
deriving DecidableEq

/-- How a decision ends without a value: a denial, the synthetic crash, or an exception. -/
inductive Halt where
  | denied (d : AuthDenial)
  | syntheticCrash
  | valueError
  | keyError
deriving DecidableEq

def GrantProvenanceRecord.evidenceId (p : GrantProvenanceRecord) : OpaqueId :=
  p.grant.authorityEvidenceId

structure Store where
  actors : Table ActorRecord.actorId
  installationActors : Table (Prod.fst : OpaqueId × OpaqueId → OpaqueId)
  roots : Table RootCapabilityRecord.handle
  bootstraps : Table BootstrapRecord.handle
  sessions : Table SessionRecord.handle
  recoveries : Table RecoveryRecord.handle
  stepUps : Table StepUpRecord.handle
  grantProvenance : Table GrantProvenanceRecord.evidenceId
  compositionBindings : Table CompositionBindingRecord.installationId
  reprovisionCeremonies : Table ReprovisionCeremonyRecord.handle
  crashOnce : Option CrashPoint := none
deriving DecidableEq

def Store.empty : Store where
  actors := .empty
  installationActors := .empty
  roots := .empty
  bootstraps := .empty
  sessions := .empty
  recoveries := .empty
  stepUps := .empty
  grantProvenance := .empty
  compositionBindings := .empty
  reprovisionCeremonies := .empty

/-! ### Writing single records -/

@[simps] def Store.putActor (s : Store) (r : ActorRecord) : Store :=
  { s with actors := s.actors.put r }

@[simps] def Store.putRoot (s : Store) (r : RootCapabilityRecord) : Store :=
  { s with roots := s.roots.put r }

@[simps] def Store.putBootstrap (s : Store) (r : BootstrapRecord) : Store :=
  { s with bootstraps := s.bootstraps.put r }

@[simps] def Store.putSession (s : Store) (r : SessionRecord) : Store :=
  { s with sessions := s.sessions.put r }

@[simps] def Store.putRecovery (s : Store) (r : RecoveryRecord) : Store :=
  { s with recoveries := s.recoveries.put r }

@[simps] def Store.putStepUp (s : Store) (r : StepUpRecord) : Store :=
  { s with stepUps := s.stepUps.put r }

@[simps] def Store.putGrant (s : Store) (r : GrantProvenanceRecord) : Store :=
  { s with grantProvenance := s.grantProvenance.put r }

@[simps] def Store.putCeremony (s : Store) (r : ReprovisionCeremonyRecord) : Store :=
  { s with reprovisionCeremonies := s.reprovisionCeremonies.put r }

@[simps] def Store.arm (s : Store) (point : Option CrashPoint) : Store :=
  { s with crashOnce := point }

abbrev Decision := Command Store Halt
open Command

def deny {α : Type} (d : AuthDenial) : Decision α := stop (.denied d)

def crashIfArmed (point : CrashPoint) : Decision Unit := do
  let s ← read
  if s.crashOnce = some point then
    write fun s => s.arm none
    stop .syntheticCrash
  else pure ()

def observe (actorId : OpaqueId) (now : Datetime) : Decision Unit := do
  let s ← read
  let actor ← demand (s.actors.get? actorId) (.denied .wrongActor)
  require (actor.lastObservedUtc ≤ now) (.denied .clockRollback)
  write fun s => s.putActor { actor with lastObservedUtc := now }

def timeDenial (now notBeforeUtc expiresAtUtc : Datetime) : Option AuthDenial :=
  if now < notBeforeUtc then some .notYetValid
  else if expiresAtUtc ≤ now then some .expired
  else none

/-! ### Binding issued material to its authority -/

/-- `actor.epoch += 1`. -/
def ActorRecord.next (actor : ActorRecord) : ActorRecord := { actor with epoch := actor.epoch + 1 }

def RootCapabilityRecord.spend (root : RootCapabilityRecord) (now : Datetime) :
    RootCapabilityRecord := { root with consumed := true, retiredAtUtc := some now }

/-- The root that takes the place of a consumed reprovision root. -/
def RootCapabilityRecord.successor (root : RootCapabilityRecord) (issue : RootCapabilityIssue) :
    RootCapabilityRecord where
  handle := issue.handle
  installationId := root.installationId
  actorId := root.actorId
  representedProfileId := root.representedProfileId
  purpose := .reprovision
  digest := issue.digest

def SessionRecord.bindTo (r : SessionRecord) (actor : ActorRecord) : SessionRecord :=
  { r with actorId := actor.actorId, representedProfileId := actor.representedProfileId
           epoch := actor.epoch }

def RecoveryRecord.bindTo (r : RecoveryRecord) (actor : ActorRecord) : RecoveryRecord :=
  { r with actorId := actor.actorId, representedProfileId := actor.representedProfileId
           epoch := actor.epoch }

def SessionIssue.bindTo (r : SessionIssue) (actor : ActorRecord) : SessionRecord where
  handle := r.handle
  actorId := actor.actorId
  representedProfileId := actor.representedProfileId
  digest := r.digest
  epoch := actor.epoch
  notBeforeUtc := r.notBeforeUtc
  expiresAtUtc := r.expiresAtUtc

def RecoveryIssue.bindTo (r : RecoveryIssue) (actor : ActorRecord) : RecoveryRecord where
  handle := r.handle
  actorId := actor.actorId
  representedProfileId := actor.representedProfileId
  digest := r.digest
  epoch := actor.epoch
  notBeforeUtc := r.notBeforeUtc
  expiresAtUtc := r.expiresAtUtc
  attemptsRemaining := r.attempts

def BootstrapIssue.bindTo (r : BootstrapIssue) (root : RootCapabilityRecord) : BootstrapRecord where
  handle := r.handle
  actorId := root.actorId
  representedProfileId := root.representedProfileId
  digest := r.digest
  notBeforeUtc := r.notBeforeUtc
  expiresAtUtc := r.expiresAtUtc
  attemptsRemaining := r.attempts
  rootCapabilityId := some root.handle
  rootPurpose := some .reprovision

def StepUpRecord.bindTo (c : StepUpRecord) (session : SessionRecord) : StepUpRecord :=
  { c with sessionId := session.handle, epoch := session.epoch }

def StepUpRecord.grant (c : StepUpRecord) : AuthorityGrant where
  actorId := c.actorId
  representedProfileId := c.representedProfileId
  sessionId := c.sessionId
  authorityEvidenceId := c.handle
  purpose := c.purpose
  scopes := c.scopes
  notBeforeUtc := c.notBeforeUtc
  expiresAtUtc := c.expiresAtUtc
  epoch := c.epoch

/-! ### Presenting one-use records -/

def denyTimed (denial : AuthDenial) (spend : Decision Unit) : Decision Unit :=
  if denial = .expired then do
    spend
    deny denial
  else deny denial

/-- The time and proof checks of a one-use record that is not spent. An expired record is spent,
a wrong proof costs an attempt; `save` writes the record back. -/
def presentLive (u : Attempts) (notBeforeUtc expiresAtUtc : Datetime) (digest presented : SecretDigest)
    (now : Datetime) (save : Attempts → Decision Unit) : Decision Unit := do
  match timeDenial now notBeforeUtc expiresAtUtc with
  | some denial => denyTimed denial (save (u.spend now))
  | none =>
    if digest = presented then pure ()
    else
      save (u.wrongProof now)
      deny u.wrongProofDenial

def presentOnce (u : Attempts) (notBeforeUtc expiresAtUtc : Datetime) (digest presented : SecretDigest)
    (now : Datetime) (save : Attempts → Decision Unit) : Decision Unit := do
  require (u.consumed = false) (.denied u.spentDenial)
  presentLive u notBeforeUtc expiresAtUtc digest presented now save

def BootstrapRecord.save (b : BootstrapRecord) (u : Attempts) : Decision Unit :=
  write fun s => s.putBootstrap { b with toAttempts := u }

def RecoveryRecord.save (r : RecoveryRecord) (u : Attempts) : Decision Unit :=
  write fun s => s.putRecovery { r with toAttempts := u }

def StepUpRecord.save (c : StepUpRecord) (u : Attempts) : Decision Unit :=
  write fun s => s.putStepUp { c with toAttempts := u }

/-! ### Trusted setup -/

/-- The handle is a root's or belongs to a composition identity. -/
def Store.HoldsAuthority (s : Store) (h : OpaqueId) : Prop :=
  (s.roots.get? h).isSome ∨
    ∃ c ∈ s.compositionBindings.rows, c.operatorHandle = h ∨ c.serviceHandle = h

instance (s : Store) (h : OpaqueId) : Decidable (s.HoldsAuthority h) :=
  inferInstanceAs (Decidable (_ ∨ _))

def RootPurpose.all : List RootPurpose := [.initialBootstrap, .emergencyRevoke, .reprovision]

@[simps] def Store.install (s : Store) (installationId actorId representedProfileId : OpaqueId)
    (records : List RootCapabilityRecord) (operatorAuthority serviceIdentity : RootCapabilityIssue)
    (now : Datetime) : Store :=
  { s with
    installationActors := s.installationActors.put (installationId, actorId)
    actors := s.actors.put
      { actorId, representedProfileId, epoch := 1, lastObservedUtc := now }
    roots := records.foldl Table.put s.roots
    compositionBindings := s.compositionBindings.put
      { installationId, operatorHandle := operatorAuthority.handle
        operatorDigest := operatorAuthority.digest, serviceHandle := serviceIdentity.handle
        serviceDigest := serviceIdentity.digest } }

def initializeInstallation (installationId actorId representedProfileId : OpaqueId)
    (records : List RootCapabilityRecord) (operatorAuthority serviceIdentity : RootCapabilityIssue)
    (now : Datetime) : Decision Unit := do
  let s ← read
  require (s.installationActors.get? installationId = none ∧ s.actors.get? actorId = none) .valueError
  require (records.length = 3) .valueError
  require (records.map (·.handle)).Nodup .valueError
  require ((records.map (·.purpose)).Perm RootPurpose.all) .valueError
  require (∀ r ∈ records, r.installationId = installationId ∧ r.actorId = actorId ∧
    r.representedProfileId = representedProfileId) .valueError
  require (∀ r ∈ records, ¬s.HoldsAuthority r.handle) .valueError
  require (operatorAuthority.handle ≠ serviceIdentity.handle) .valueError
  require (∀ h ∈ [operatorAuthority.handle, serviceIdentity.handle],
    ¬s.HoldsAuthority h ∧ h ∉ records.map (·.handle)) .valueError
  write fun s => s.install installationId actorId representedProfileId records operatorAuthority
    serviceIdentity now

def validateRootLocked (capability : RootCapability) (digest : SecretDigest)
    (expectedPurposes : List RootPurpose) : Decision RootCapabilityRecord := do
  let s ← read
  let record ← demand (s.roots.get? capability.credential.handle) (.denied .invalidProof)
  require (record.digest = digest) (.denied .invalidProof)
  require (capability.installationId = record.installationId) (.denied .wrongInstallation)
  require (capability.actorId = record.actorId) (.denied .wrongActor)
  require (capability.representedProfileId = record.representedProfileId) (.denied .wrongProfile)
  require (capability.purpose = record.purpose ∧ record.purpose ∈ expectedPurposes)
    (.denied .wrongPurpose)
  require (record.consumed = false) (.denied .staleEpoch)
  pure record

/-! ### Sweeps -/

/-- Spend a bootstrap that satisfies `p` and is not spent yet. -/
def BootstrapRecord.sweep (p : BootstrapRecord → Bool) (now : Datetime) (b : BootstrapRecord) :
    BootstrapRecord :=
  if p b ∧ b.consumed = false then { b with toAttempts := b.toAttempts.spend now } else b

/-- Spend a recovery that satisfies `p`, also one spent before. -/
def RecoveryRecord.sweep (p : RecoveryRecord → Bool) (now : Datetime) (r : RecoveryRecord) :
    RecoveryRecord := if p r then { r with toAttempts := r.toAttempts.spend now } else r

def StepUpRecord.sweep (p : StepUpRecord → Bool) (now : Datetime) (c : StepUpRecord) :
    StepUpRecord := if p c then { c with toAttempts := c.toAttempts.spend now } else c

def SessionRecord.sweep (p : SessionRecord → Bool) (now : Datetime) (r : SessionRecord) :
    SessionRecord := if p r then { r with revoked := true, retiredAtUtc := some now } else r

theorem BootstrapRecord.handle_sweep (p : BootstrapRecord → Bool) (now : Datetime)
    (b : BootstrapRecord) : (b.sweep p now).handle = b.handle := by
  unfold sweep
  split_ifs <;> rfl

theorem RecoveryRecord.handle_sweep (p : RecoveryRecord → Bool) (now : Datetime)
    (r : RecoveryRecord) : (r.sweep p now).handle = r.handle := by
  unfold sweep
  split_ifs <;> rfl

theorem StepUpRecord.handle_sweep (p : StepUpRecord → Bool) (now : Datetime) (c : StepUpRecord) :
    (c.sweep p now).handle = c.handle := by
  unfold sweep
  split_ifs <;> rfl

theorem SessionRecord.handle_sweep (p : SessionRecord → Bool) (now : Datetime)
    (r : SessionRecord) : (r.sweep p now).handle = r.handle := by
  unfold sweep
  split_ifs <;> rfl

@[simps] def Store.spendBootstraps (s : Store) (p : BootstrapRecord → Bool) (now : Datetime) : Store :=
  { s with bootstraps := s.bootstraps.map (·.sweep p now) (BootstrapRecord.handle_sweep p now) }

@[simps] def Store.spendRecoveries (s : Store) (p : RecoveryRecord → Bool) (now : Datetime) : Store :=
  { s with recoveries := s.recoveries.map (·.sweep p now) (RecoveryRecord.handle_sweep p now) }

@[simps] def Store.spendStepUps (s : Store) (p : StepUpRecord → Bool) (now : Datetime) : Store :=
  { s with stepUps := s.stepUps.map (·.sweep p now) (StepUpRecord.handle_sweep p now) }

@[simps] def Store.revokeSessions (s : Store) (p : SessionRecord → Bool) (now : Datetime) : Store :=
  { s with sessions := s.sessions.map (·.sweep p now) (SessionRecord.handle_sweep p now) }

def invalidateBootstraps (actorId : OpaqueId) (now : Datetime) : Decision Unit :=
  write fun s => s.spendBootstraps (fun b => b.actorId = actorId) now

def retireActorAuthority (actorId : OpaqueId) (now : Datetime) : Decision Unit :=
  write fun s => ((s.revokeSessions (fun r => r.actorId = actorId) now).spendStepUps
    (fun c => c.actorId = actorId) now).spendRecoveries (fun r => r.actorId = actorId) now

def consumeActorRecoveries (actorId : OpaqueId) (now : Datetime) : Decision Unit :=
  write fun s => s.spendRecoveries (fun r => r.actorId = actorId) now

def consumeRoot (record : RootCapabilityRecord) (now : Datetime) : Decision Unit :=
  write fun s => s.putRoot (record.spend now)

def advanceEpoch (actor : ActorRecord) : Decision Unit := write fun s => s.putActor actor.next

/-! ### Sessions -/

def authenticateSessionLocked (credential : OpaqueCredential) (digest : SecretDigest)
    (now : Datetime) : Decision SessionRecord := do
  let s ← read
  let record ← demand (s.sessions.get? credential.handle) (.denied .sessionNotFound)
  require (record.digest = digest) (.denied .invalidProof)
  observe record.actorId now
  let s ← read
  let actor ← demand (s.actors.get? record.actorId) .keyError
  require (record.epoch = actor.epoch) (.denied .staleEpoch)
  require (record.revoked = false) (.denied .revoked)
  match timeDenial now record.notBeforeUtc record.expiresAtUtc with
  | some denial => deny denial
  | none => pure record

def authenticateSession (credential : OpaqueCredential) (presentedDigest : SecretDigest)
    (now : Datetime) : Decision SessionRecord := do
  let record ← authenticateSessionLocked credential presentedDigest now
  require record.Valid .valueError
  pure record

def createStepUp (session : OpaqueCredential) (sessionDigest : SecretDigest) (now : Datetime)
    (challenge : StepUpRecord) : Decision StepUpRecord := do
  let current ← authenticateSessionLocked session sessionDigest now
  require (challenge.actorId = current.actorId) (.denied .wrongActor)
  require (challenge.representedProfileId = current.representedProfileId) (.denied .wrongProfile)
  let issued := challenge.bindTo current
  require issued.Valid .valueError
  write fun s => s.putStepUp issued
  pure issued

def consumeStepUp (challenge : OpaqueCredential) (challengeDigest : SecretDigest)
    (session : OpaqueCredential) (sessionDigest : SecretDigest)
    (actorId representedProfileId : OpaqueId) (purpose : AuthPurpose) (scopes : Finset AuthScope)
    (now : Datetime) : Decision StepUpRecord := do
  let s ← read
  let record ← demand (s.stepUps.get? challenge.handle) (.denied .invalidProof)
  let _ ← authenticateSessionLocked session sessionDigest now
  require (session.handle = record.sessionId) (.denied .wrongSession)
  let s ← read
  let actor ← demand (s.actors.get? record.actorId) .keyError
  require (record.epoch = actor.epoch) (.denied .staleEpoch)
  presentOnce record.toAttempts record.notBeforeUtc record.expiresAtUtc record.digest
    challengeDigest now record.save
  require (actorId = record.actorId) (.denied .wrongActor)
  require (representedProfileId = record.representedProfileId) (.denied .wrongProfile)
  require (purpose = record.purpose) (.denied .wrongPurpose)
  require (scopes = record.scopes) (.denied .scopeWidening)
  let spent := { record with toAttempts := record.toAttempts.spend now }
  record.save spent.toAttempts
  crashIfArmed .stepUp
  require spent.grant.Valid .valueError
  write fun s => s.putGrant { grant := spent.grant }
  require spent.Valid .valueError
  pure spent

/-- Revoke a session and spend its challenges. -/
def closeSession (record : SessionRecord) (now : Datetime) : Decision Unit := do
  write fun s => s.putSession { record with revoked := true, retiredAtUtc := some now }
  write fun s => s.spendStepUps (fun c => c.sessionId = record.handle) now

def rotateSession (current : OpaqueCredential) (currentDigest : SecretDigest) (now : Datetime)
    (replacement : SessionRecord) : Decision SessionRecord := do
  let prior ← authenticateSessionLocked current currentDigest now
  closeSession prior now
  let issued := { replacement with
    actorId := prior.actorId, representedProfileId := prior.representedProfileId
    epoch := prior.epoch }
  require issued.Valid .valueError
  write fun s => s.putSession issued
  pure issued

def revokeSession (current : OpaqueCredential) (currentDigest : SecretDigest) (now : Datetime) :
    Decision OpaqueId := do
  let record ← authenticateSessionLocked current currentDigest now
  closeSession record now
  pure record.handle

/-! ### Grants -/

def authorizeGrantLocked (session : OpaqueCredential) (sessionDigest : SecretDigest)
    (grant : AuthorityGrant) (purpose : AuthPurpose) (now : Datetime) : Decision AuthorityGrant := do
  let s ← read
  let provenance ← demand (s.grantProvenance.get? grant.authorityEvidenceId) (.denied .invalidProof)
  require (provenance.grant = grant) (.denied .invalidProof)
  let current ← authenticateSessionLocked session sessionDigest now
  let s ← read
  let actor ← demand (s.actors.get? current.actorId) .keyError
  require (grant.actorId = current.actorId) (.denied .wrongActor)
  require (grant.representedProfileId = current.representedProfileId) (.denied .wrongProfile)
  require (grant.sessionId = current.handle) (.denied .wrongSession)
  require (grant.epoch = actor.epoch) (.denied .staleEpoch)
  require (grant.purpose = purpose) (.denied .wrongPurpose)
  match timeDenial now grant.notBeforeUtc grant.expiresAtUtc with
  | some denial => deny denial
  | none =>
    require (provenance.usedAtUtc = none) (.denied .replayed)
    -- every caller passes `consume=True`
    let used := { provenance with usedAtUtc := some now }
    require used.Valid .valueError
    write fun s => s.putGrant used
    pure grant

def validateGrant (grant : AuthorityGrant) (session : OpaqueCredential) (sessionDigest : SecretDigest)
    (now : Datetime) : Decision AuthorityGrant :=
  authorizeGrantLocked session sessionDigest grant grant.purpose now

def issueRecovery (issued : RecoveryRecord) : Decision RecoveryRecord := do
  require issued.Valid .valueError
  write fun s => s.putRecovery issued
  pure issued

def renewRecovery (session : OpaqueCredential) (sessionDigest : SecretDigest) (grant : AuthorityGrant)
    (replacement : RecoveryRecord) (now : Datetime) : Decision RecoveryRecord := do
  let _ ← authorizeGrantLocked session sessionDigest grant .keyRecoveryChange now
  let s ← read
  let actor ← demand (s.actors.get? grant.actorId) .keyError
  consumeActorRecoveries actor.actorId now
  issueRecovery (replacement.bindTo actor)

def revokeAllAuthenticated (session : OpaqueCredential) (sessionDigest : SecretDigest)
    (grant : AuthorityGrant) (replacement : RecoveryRecord) (now : Datetime) :
    Decision RecoveryRecord := do
  let _ ← authorizeGrantLocked session sessionDigest grant .allSessionRevoke now
  let s ← read
  let actor ← demand (s.actors.get? grant.actorId) .keyError
  advanceEpoch actor
  retireActorAuthority actor.actorId now
  issueRecovery (replacement.bindTo actor.next)

/-! ### Bootstraps -/

def storeBootstrap (record : BootstrapRecord) : Decision BootstrapRecord := do
  require record.Valid .valueError
  write fun s => s.putBootstrap record
  pure record

def createRootBootstrap (root : RootCapability) (rootDigest : SecretDigest) (record : BootstrapRecord)
    (now : Datetime) : Decision BootstrapRecord := do
  let _ ← validateRootLocked root rootDigest [.initialBootstrap, .reprovision]
  let s ← read
  let actor ← demand (s.actors.get? root.actorId) .keyError
  observe actor.actorId now
  require (¬(root.purpose = .initialBootstrap ∧ actor.initialized)) (.denied .staleEpoch)
  require (¬(root.purpose = .reprovision ∧ actor.initialized = false)) (.denied .staleEpoch)
  require (record.actorId = actor.actorId ∧
    record.representedProfileId = actor.representedProfileId ∧
    record.rootCapabilityId = some root.credential.handle ∧
    record.rootPurpose = some root.purpose) (.denied .wrongActor)
  invalidateBootstraps actor.actorId now
  storeBootstrap record

def createAuthenticatedBootstrap (session : OpaqueCredential) (sessionDigest : SecretDigest)
    (grant : AuthorityGrant) (record : BootstrapRecord) (now : Datetime) :
    Decision BootstrapRecord := do
  let _ ← authorizeGrantLocked session sessionDigest grant .setupAuthorityChange now
  require (record.actorId = grant.actorId ∧
    record.representedProfileId = grant.representedProfileId ∧
    record.rootCapabilityId = none) (.denied .wrongActor)
  invalidateBootstraps record.actorId now
  storeBootstrap record

def createReprovisionBootstrap (reprovision : OpaqueCredential) (reprovisionDigest : SecretDigest)
    (issue : BootstrapIssue) (now : Datetime) : Decision BootstrapRecord := do
  let s ← read
  let root ← demand (s.roots.get? reprovision.handle) (.denied .invalidProof)
  require (root.digest = reprovisionDigest) (.denied .invalidProof)
  require (root.purpose = .reprovision) (.denied .wrongPurpose)
  require (root.consumed = false) (.denied .staleEpoch)
  let actor ← demand (s.actors.get? root.actorId) (.denied .wrongActor)
  observe actor.actorId now
  require (actor.initialized = true) (.denied .staleEpoch)
  invalidateBootstraps actor.actorId now
  storeBootstrap (issue.bindTo root)

def cancelBootstrap (handle : OpaqueId) (now : Datetime) : Decision Unit :=
  write fun s => s.spendBootstraps (fun b => b.handle = handle) now

/-- The session and the recovery that an exchange issues. -/
def issueAuthority (session : SessionRecord) (recovery : RecoveryRecord) : Decision Unit := do
  require session.Valid .valueError
  require recovery.Valid .valueError
  write fun s => (s.putSession session).putRecovery recovery

/-- Consume the root of a rooted bootstrap, which initializes the actor. -/
def claimRoot (record : BootstrapRecord) (actor : ActorRecord) (now : Datetime) : Decision Unit :=
  match record.rootCapabilityId with
  | none => pure ()
  | some rootId => do
    let s ← read
    let root ← demand (s.roots.get? rootId) (.denied .staleEpoch)
    require (root.consumed = false ∧ some root.purpose = record.rootPurpose) (.denied .staleEpoch)
    require (¬(root.purpose = .initialBootstrap ∧ actor.initialized)) (.denied .staleEpoch)
    consumeRoot root now
    write fun s => s.putActor { actor with initialized := true }

def exchangeBootstrap (handle : OpaqueId) (presentedDigest : SecretDigest) (now : Datetime)
    (session : SessionRecord) (recovery : RecoveryRecord)
    (_replacementReprovision : RootCapabilityIssue) : Decision BootstrapDecision := do
  let s ← read
  let record ← demand (s.bootstraps.get? handle) (.denied .invalidProof)
  require (record.rootPurpose ≠ some .reprovision) (.denied .wrongPurpose)
  observe record.actorId now
  presentOnce record.toAttempts record.notBeforeUtc record.expiresAtUtc record.digest
    presentedDigest now record.save
  let s ← read
  let actor ← demand (s.actors.get? record.actorId) .keyError
  claimRoot record actor now
  record.save (record.toAttempts.spend now)
  crashIfArmed .bootstrap
  issueAuthority (session.bindTo actor) (recovery.bindTo actor)
  let decision : BootstrapDecision :=
    { actorId := actor.actorId, representedProfileId := actor.representedProfileId
      epoch := actor.epoch }
  require decision.Valid .valueError
  pure decision

/-! ### Reprovision ceremonies -/

def ReprovisionCeremonyRecord.expire (c : ReprovisionCeremonyRecord) (now : Datetime) :
    ReprovisionCeremonyRecord :=
  if c.terminalAtUtc = none ∧ c.expiresAtUtc ≤ now then
    { c with terminalAtUtc := some c.expiresAtUtc, terminalDenial := some .expired }
  else c

/-- The replay horizon of a terminal ceremony has passed. -/
def ReprovisionCeremonyRecord.forgotten (c : ReprovisionCeremonyRecord) (now : Datetime) : Bool :=
  match c.terminalAtUtc with
  | none => false
  | some t => (t.val : Int) + c.replaySeconds * 1000000 ≤ now.val

theorem ReprovisionCeremonyRecord.handle_expire (c : ReprovisionCeremonyRecord) (now : Datetime) :
    (c.expire now).handle = c.handle := by
  unfold expire
  split_ifs <;> rfl

@[simps] def Store.gcCeremonies (s : Store) (now : Datetime) : Store :=
  { s with
    reprovisionCeremonies :=
      (s.reprovisionCeremonies.map (·.expire now) (·.handle_expire now)).filter
        fun c => !c.forgotten now }

def gcReprovisionCeremoniesLocked (now : Datetime) : Decision Nat := do
  let s ← read
  write fun s => s.gcCeremonies now
  let s' ← read
  pure (s.reprovisionCeremonies.rows.length - s'.reprovisionCeremonies.rows.length)

def ReprovisionCeremonyRecord.terminalInstant (c : ReprovisionCeremonyRecord) : Nat :=
  (c.terminalAtUtc.map Fin.val).getD 0

/-- The order `(terminal_at_utc, str(handle))` of tombstones. -/
def tombstoneLe (a b : ReprovisionCeremonyRecord) : Prop :=
  a.terminalInstant < b.terminalInstant ∨
    a.terminalInstant = b.terminalInstant ∧ a.handle ≤ b.handle

instance : DecidableRel tombstoneLe := fun _ _ => inferInstanceAs (Decidable (_ ∨ _ ∧ _))

def Store.tombstones (s : Store) (serviceHandle : OpaqueId) : List ReprovisionCeremonyRecord :=
  s.reprovisionCeremonies.rows.filter fun c =>
    c.serviceHandle = serviceHandle && c.terminalAtUtc.isSome

/-- The oldest tombstones of a service beyond its capacity. -/
def Store.overflow (s : Store) (serviceHandle : OpaqueId) (tombstoneCapacity : Int) : List OpaqueId :=
  let terminal := (s.tombstones serviceHandle).insertionSort tombstoneLe
  (terminal.take (terminal.length - tombstoneCapacity).toNat).map (·.handle)

@[simps] def Store.trimTombstones (s : Store) (serviceHandle : OpaqueId) (tombstoneCapacity : Int) : Store :=
  { s with
    reprovisionCeremonies := s.reprovisionCeremonies.filter
      fun c => c.handle ∉ s.overflow serviceHandle tombstoneCapacity }

def trimReprovisionTombstonesLocked (serviceHandle : OpaqueId) (tombstoneCapacity : Int) :
    Decision Unit :=
  write fun s => s.trimTombstones serviceHandle tombstoneCapacity

def Store.activeCeremonies (s : Store) (serviceHandle installationId : OpaqueId) : Nat :=
  s.reprovisionCeremonies.count fun c =>
    c.serviceHandle = serviceHandle && c.installationId = installationId && c.terminalAtUtc.isNone

def createReprovisionCeremony (serviceIdentity : OpaqueCredential) (serviceDigest : SecretDigest)
    (operatorIdentity : OpaqueCredential) (operatorDigest : SecretDigest) (bootstrapHandle : OpaqueId)
    (issue : ReprovisionCeremonyIssue) (now : Datetime)
    (activeCapacity tombstoneCapacity replaySeconds : Int) : Decision OpaqueId := do
  require (1 ≤ activeCapacity ∧ 1 ≤ tombstoneCapacity ∧ 0 ≤ replaySeconds) .valueError
  let s ← read
  let bootstrap ← demand (s.bootstraps.get? bootstrapHandle) (.denied .invalidProof)
  require (bootstrap.rootPurpose = some .reprovision) (.denied .wrongPurpose)
  let rootId ← demand bootstrap.rootCapabilityId (.denied .invalidProof)
  let root ← demand (s.roots.get? rootId) (.denied .staleEpoch)
  let binding ← demand (s.compositionBindings.get? root.installationId) (.denied .invalidProof)
  require (serviceIdentity.handle = binding.serviceHandle ∧ serviceDigest = binding.serviceDigest ∧
    serviceDigest = serviceIdentity.digest ∧ operatorIdentity.handle = binding.operatorHandle ∧
    operatorDigest = binding.operatorDigest ∧ operatorDigest = operatorIdentity.digest)
    (.denied .invalidProof)
  let _ ← gcReprovisionCeremoniesLocked now
  let s ← read
  require ((s.activeCeremonies binding.serviceHandle root.installationId : Int) < activeCapacity)
    (.denied .capacityExhausted)
  require (s.reprovisionCeremonies.get? issue.handle = none) (.denied .invalidProof)
  let record : ReprovisionCeremonyRecord :=
    { handle := issue.handle, digest := issue.digest, bootstrapHandle
      installationId := root.installationId, serviceHandle := binding.serviceHandle
      expiresAtUtc := issue.expiresAtUtc, replaySeconds }
  require record.Valid .valueError
  write fun s => s.putCeremony record
  trimReprovisionTombstonesLocked binding.serviceHandle tombstoneCapacity
  pure issue.handle

/-- Make a ceremony terminal, and trim the tombstones of its service. -/
def burnCeremony (proof : ReprovisionCeremonyRecord) (now : Datetime) (denial : AuthDenial)
    (replaySeconds : Int) (serviceHandle : OpaqueId) (tombstoneCapacity : Int) : Decision Unit := do
  write fun s => s.putCeremony
    { proof with terminalAtUtc := some now, terminalDenial := some denial, replaySeconds }
  trimReprovisionTombstonesLocked serviceHandle tombstoneCapacity

/-- Burn the ceremony proof of a bootstrap, before any root transition. The bootstrap and its root
are returned as they stand. -/
def burnProof (handle : OpaqueId) (serviceIdentity : OpaqueCredential) (serviceDigest : SecretDigest)
    (ceremony : OpaqueCredential) (ceremonyDigest : SecretDigest) (now : Datetime)
    (tombstoneCapacity replaySeconds : Int) : Decision (BootstrapRecord × RootCapabilityRecord) := do
  let s ← read
  let proof ← demand (s.reprovisionCeremonies.get? ceremony.handle) (.denied .invalidProof)
  let binding ← demand (s.compositionBindings.get? proof.installationId) (.denied .invalidProof)
  require (proof.serviceHandle = binding.serviceHandle ∧ proof.bootstrapHandle = handle ∧
    serviceIdentity.handle = binding.serviceHandle ∧ serviceDigest = binding.serviceDigest ∧
    serviceDigest = serviceIdentity.digest ∧ proof.digest = ceremonyDigest ∧
    ceremonyDigest = ceremony.digest) (.denied .invalidProof)
  let _ ← gcReprovisionCeremoniesLocked now
  let s ← read
  let proof ← demand (s.reprovisionCeremonies.get? ceremony.handle) (.denied .invalidProof)
  require (proof.terminalAtUtc = none) (.denied (proof.terminalDenial.getD .replayed))
  let record ← demand (s.bootstraps.get? handle) (.denied .invalidProof)
  let rootId ← demand record.rootCapabilityId (.denied .invalidProof)
  let root ← demand (s.roots.get? rootId) (.denied .wrongPurpose)
  require (record.rootPurpose = some .reprovision) (.denied .wrongPurpose)
  require (root.installationId = proof.installationId) (.denied .invalidProof)
  if proof.expiresAtUtc ≤ now then
    burnCeremony proof now .expired proof.replaySeconds binding.serviceHandle tombstoneCapacity
    deny .expired
  else
    burnCeremony proof now .replayed replaySeconds binding.serviceHandle tombstoneCapacity
    crashIfArmed .reprovisionProof
    pure (record, root)

/-- Consume the bootstrap and its reprovision root, and issue what replaces them. -/
def reprovision (record : BootstrapRecord) (root : RootCapabilityRecord)
    (presentedDigest : SecretDigest) (now : Datetime) (session : SessionRecord)
    (recovery : RecoveryRecord) (replacementReprovision : RootCapabilityIssue) :
    Decision BootstrapDecision := do
  observe record.actorId now
  require (record.consumed = false) (.denied .replayed)
  presentLive record.toAttempts record.notBeforeUtc record.expiresAtUtc record.digest
    presentedDigest now record.save
  let s ← read
  let actor ← demand (s.actors.get? record.actorId) .keyError
  require (root.consumed = false ∧ root.purpose = .reprovision) (.denied .staleEpoch)
  require (actor.initialized = true) (.denied .staleEpoch)
  require (s.roots.get? replacementReprovision.handle = none) (.denied .invalidProof)
  consumeRoot root now
  advanceEpoch actor
  retireActorAuthority actor.actorId now
  record.save (record.toAttempts.spend now)
  crashIfArmed .bootstrap
  issueAuthority (session.bindTo actor.next) (recovery.bindTo actor.next)
  let replacement := root.successor replacementReprovision
  write fun s => s.putRoot replacement
  let decision : BootstrapDecision :=
    { actorId := actor.actorId, representedProfileId := actor.representedProfileId
      epoch := actor.next.epoch
      replacementReprovision := some
        { handle := replacement.handle, installationId := replacement.installationId
          actorId := replacement.actorId
          representedProfileId := replacement.representedProfileId } }
  require decision.Valid .valueError
  pure decision

def exchangeReprovisionBootstrap (handle : OpaqueId) (presentedDigest : SecretDigest)
    (serviceIdentity : OpaqueCredential) (serviceDigest : SecretDigest) (ceremony : OpaqueCredential)
    (ceremonyDigest : SecretDigest) (now : Datetime) (session : SessionRecord)
    (recovery : RecoveryRecord) (replacementReprovision : RootCapabilityIssue)
    (tombstoneCapacity replaySeconds : Int) : Decision BootstrapDecision := do
  let burned ← burnProof handle serviceIdentity serviceDigest ceremony ceremonyDigest now
    tombstoneCapacity replaySeconds
  reprovision burned.1 burned.2 presentedDigest now session recovery replacementReprovision

/-! ### Revocation, recovery and collection -/

def emergencyRevoke (root : RootCapability) (rootDigest : SecretDigest) (now : Datetime) :
    Decision Nat := do
  let record ← validateRootLocked root rootDigest [.emergencyRevoke]
  observe root.actorId now
  consumeRoot record now
  let s ← read
  let actor ← demand (s.actors.get? root.actorId) .keyError
  advanceEpoch actor
  retireActorAuthority actor.actorId now
  pure actor.next.epoch

def recover (recovery : OpaqueCredential) (recoveryDigest : SecretDigest) (now : Datetime)
    (session : SessionIssue) (replacementRecovery : RecoveryIssue) : Decision SessionRecord := do
  let s ← read
  let record ← demand (s.recoveries.get? recovery.handle) (.denied .invalidProof)
  observe record.actorId now
  presentOnce record.toAttempts record.notBeforeUtc record.expiresAtUtc record.digest
    recoveryDigest now record.save
  let s ← read
  let actor ← demand (s.actors.get? record.actorId) .keyError
  if record.epoch = actor.epoch then
    consumeActorRecoveries actor.actorId now
    advanceEpoch actor
    retireActorAuthority actor.actorId now
    crashIfArmed .recovery
    issueAuthority (session.bindTo actor.next) (replacementRecovery.bindTo actor.next)
    pure (session.bindTo actor.next)
  else
    record.save (record.toAttempts.spend now)
    deny .staleEpoch

/-- The instant has passed by at least the retention. -/
def due (now : Datetime) (retentionSeconds : Nat) (t : Datetime) : Bool :=
  t.val + retentionSeconds * 1000000 ≤ now.val

def retired (now : Datetime) (retentionSeconds : Nat) (retiredAtUtc expiresAtUtc : Option Datetime) :
    Bool := retiredAtUtc.any (due now retentionSeconds) || expiresAtUtc.any (due now retentionSeconds)

@[simps] def Store.collect (s : Store) (now : Datetime) (retentionSeconds : Nat) : Store :=
  { s with
    roots := s.roots.filter fun r => !retired now retentionSeconds r.retiredAtUtc none
    bootstraps := s.bootstraps.filter fun b =>
      !retired now retentionSeconds b.retiredAtUtc (some b.expiresAtUtc)
    sessions := s.sessions.filter fun r =>
      !retired now retentionSeconds r.retiredAtUtc (some r.expiresAtUtc)
    recoveries := s.recoveries.filter fun r =>
      !retired now retentionSeconds r.retiredAtUtc (some r.expiresAtUtc)
    stepUps := s.stepUps.filter fun c =>
      !retired now retentionSeconds c.retiredAtUtc (some c.expiresAtUtc)
    grantProvenance := s.grantProvenance.filter fun p =>
      !due now retentionSeconds p.grant.expiresAtUtc }

/-- The number of records that collection looks at. -/
def Store.collectable (s : Store) : Nat :=
  s.roots.rows.length + s.bootstraps.rows.length + s.sessions.rows.length +
    s.recoveries.rows.length + s.stepUps.rows.length + s.grantProvenance.rows.length

def garbageCollect (now : Datetime) (retentionSeconds : Int) : Decision Nat := do
  require (0 ≤ retentionSeconds ∧ retentionSeconds ≤ 86400) .valueError
  let s ← read
  write fun s => s.collect now retentionSeconds.toNat
  let s' ← read
  let removed ← gcReprovisionCeremoniesLocked now
  pure (s.collectable - s'.collectable + removed)

def armCrashOnce (point : CrashPoint) : Decision Unit :=
  write fun s => s.arm (some point)

end MyCogni.Auth
