import MyCogni.Auth.Store

/-! The operations of the store as one type of calls, the values they return, and the handles
under which they register new records. -/

namespace MyCogni.Auth

inductive Op where
  | armCrashOnce (point : CrashPoint)
  | initializeInstallation (installationId actorId representedProfileId : OpaqueId)
      (records : List RootCapabilityRecord)
      (operatorAuthority serviceIdentity : RootCapabilityIssue) (now : Datetime)
  | createRootBootstrap (root : RootCapability) (rootDigest : SecretDigest)
      (record : BootstrapRecord) (now : Datetime)
  | createAuthenticatedBootstrap (session : OpaqueCredential) (sessionDigest : SecretDigest)
      (grant : AuthorityGrant) (record : BootstrapRecord) (now : Datetime)
  | createReprovisionBootstrap (reprovision : OpaqueCredential) (reprovisionDigest : SecretDigest)
      (issue : BootstrapIssue) (now : Datetime)
  | cancelBootstrap (handle : OpaqueId) (now : Datetime)
  | createReprovisionCeremony (serviceIdentity : OpaqueCredential) (serviceDigest : SecretDigest)
      (operatorIdentity : OpaqueCredential) (operatorDigest : SecretDigest)
      (bootstrapHandle : OpaqueId) (issue : ReprovisionCeremonyIssue) (now : Datetime)
      (activeCapacity tombstoneCapacity replaySeconds : Int)
  | exchangeBootstrap (handle : OpaqueId) (presentedDigest : SecretDigest) (now : Datetime)
      (session : SessionRecord) (recovery : RecoveryRecord)
      (replacementReprovision : RootCapabilityIssue)
  | exchangeReprovisionBootstrap (handle : OpaqueId) (presentedDigest : SecretDigest)
      (serviceIdentity : OpaqueCredential) (serviceDigest : SecretDigest)
      (ceremony : OpaqueCredential) (ceremonyDigest : SecretDigest) (now : Datetime)
      (session : SessionRecord) (recovery : RecoveryRecord)
      (replacementReprovision : RootCapabilityIssue) (tombstoneCapacity replaySeconds : Int)
  | authenticateSession (credential : OpaqueCredential) (presentedDigest : SecretDigest)
      (now : Datetime)
  | createStepUp (session : OpaqueCredential) (sessionDigest : SecretDigest) (now : Datetime)
      (challenge : StepUpRecord)
  | consumeStepUp (challenge : OpaqueCredential) (challengeDigest : SecretDigest)
      (session : OpaqueCredential) (sessionDigest : SecretDigest)
      (actorId representedProfileId : OpaqueId) (purpose : AuthPurpose) (scopes : Finset AuthScope)
      (now : Datetime)
  | rotateSession (current : OpaqueCredential) (currentDigest : SecretDigest) (now : Datetime)
      (replacement : SessionRecord)
  | revokeSession (current : OpaqueCredential) (currentDigest : SecretDigest) (now : Datetime)
  | renewRecovery (session : OpaqueCredential) (sessionDigest : SecretDigest)
      (grant : AuthorityGrant) (replacement : RecoveryRecord) (now : Datetime)
  | revokeAllAuthenticated (session : OpaqueCredential) (sessionDigest : SecretDigest)
      (grant : AuthorityGrant) (replacement : RecoveryRecord) (now : Datetime)
  | emergencyRevoke (root : RootCapability) (rootDigest : SecretDigest) (now : Datetime)
  | recover (recovery : OpaqueCredential) (recoveryDigest : SecretDigest) (now : Datetime)
      (session : SessionIssue) (replacementRecovery : RecoveryIssue)
  | validateGrant (grant : AuthorityGrant) (session : OpaqueCredential)
      (sessionDigest : SecretDigest) (now : Datetime)
  | garbageCollect (now : Datetime) (retentionSeconds : Int)

inductive Value where
  | unit
  | bootstrap (r : BootstrapRecord)
  | handle (h : OpaqueId)
  | decision (d : BootstrapDecision)
  | session (r : SessionRecord)
  | stepUp (r : StepUpRecord)
  | recovery (r : RecoveryRecord)
  | epoch (n : Nat)
  | grant (g : AuthorityGrant)
  | count (n : Nat)
deriving DecidableEq

def Op.decide : Op → Decision Value
  | armCrashOnce point => do
    Auth.armCrashOnce point
    pure .unit
  | initializeInstallation i a p records o sv now => do
    Auth.initializeInstallation i a p records o sv now
    pure .unit
  | createRootBootstrap root d record now =>
    return .bootstrap (← Auth.createRootBootstrap root d record now)
  | createAuthenticatedBootstrap session d grant record now =>
    return .bootstrap (← Auth.createAuthenticatedBootstrap session d grant record now)
  | createReprovisionBootstrap reprovision d issue now =>
    return .bootstrap (← Auth.createReprovisionBootstrap reprovision d issue now)
  | cancelBootstrap handle now => do
    Auth.cancelBootstrap handle now
    pure .unit
  | createReprovisionCeremony sv sd o od handle issue now active tombstones replay =>
    return .handle
      (← Auth.createReprovisionCeremony sv sd o od handle issue now active tombstones replay)
  | exchangeBootstrap handle d now session recovery replacement =>
    return .decision (← Auth.exchangeBootstrap handle d now session recovery replacement)
  | exchangeReprovisionBootstrap handle d sv sd c cd now session recovery replacement tombstones
      replay =>
    return .decision (← Auth.exchangeReprovisionBootstrap handle d sv sd c cd now session recovery
      replacement tombstones replay)
  | authenticateSession credential d now =>
    return .session (← Auth.authenticateSession credential d now)
  | createStepUp session d now challenge =>
    return .stepUp (← Auth.createStepUp session d now challenge)
  | consumeStepUp c cd session d a p purpose scopes now =>
    return .stepUp (← Auth.consumeStepUp c cd session d a p purpose scopes now)
  | rotateSession current d now replacement =>
    return .session (← Auth.rotateSession current d now replacement)
  | revokeSession current d now => return .handle (← Auth.revokeSession current d now)
  | renewRecovery session d grant replacement now =>
    return .recovery (← Auth.renewRecovery session d grant replacement now)
  | revokeAllAuthenticated session d grant replacement now =>
    return .recovery (← Auth.revokeAllAuthenticated session d grant replacement now)
  | emergencyRevoke root d now => return .epoch (← Auth.emergencyRevoke root d now)
  | recover recovery d now session replacement =>
    return .session (← Auth.recover recovery d now session replacement)
  | validateGrant grant session d now => return .grant (← Auth.validateGrant grant session d now)
  | garbageCollect now retention => return .count (← Auth.garbageCollect now retention)

def apply (s : Store) (op : Op) : Except Halt Value × Store := op.decide s

/-- The handles under which a call registers new records. -/
def Op.issues : Op → List OpaqueId
  | initializeInstallation _ _ _ records o sv _ =>
    records.map (·.handle) ++ [o.handle, sv.handle]
  | createRootBootstrap _ _ record _ => [record.handle]
  | createAuthenticatedBootstrap _ _ _ record _ => [record.handle]
  | createReprovisionBootstrap _ _ issue _ => [issue.handle]
  | createReprovisionCeremony _ _ _ _ _ issue _ _ _ _ => [issue.handle]
  | exchangeBootstrap _ _ _ session recovery replacement =>
    [session.handle, recovery.handle, replacement.handle]
  | exchangeReprovisionBootstrap _ _ _ _ _ _ _ session recovery replacement _ _ =>
    [session.handle, recovery.handle, replacement.handle]
  | createStepUp _ _ _ challenge => [challenge.handle]
  | rotateSession _ _ _ replacement => [replacement.handle]
  | renewRecovery _ _ _ replacement _ => [replacement.handle]
  | revokeAllAuthenticated _ _ _ replacement _ => [replacement.handle]
  | recover _ _ _ session replacement => [session.handle, replacement.handle]
  | _ => []

/-- No handle is issued twice in the calls. -/
def Fresh (ops : List Op) : Prop := (ops.flatMap Op.issues).Nodup

/-! ### What a call presents -/

def Op.presentsSession : Op → Option OpaqueId
  | createAuthenticatedBootstrap session _ _ _ _ => session.handle
  | authenticateSession credential _ _ => credential.handle
  | createStepUp session _ _ _ => session.handle
  | consumeStepUp _ _ session _ _ _ _ _ _ => session.handle
  | rotateSession current _ _ _ => current.handle
  | revokeSession current _ _ => current.handle
  | renewRecovery session _ _ _ _ => session.handle
  | revokeAllAuthenticated session _ _ _ _ => session.handle
  | validateGrant _ session _ _ => session.handle
  | _ => none

def Op.presentsRecovery : Op → Option OpaqueId
  | recover recovery _ _ _ _ => recovery.handle
  | _ => none

def Op.presentsStepUp : Op → Option OpaqueId
  | consumeStepUp challenge _ _ _ _ _ _ _ _ => challenge.handle
  | _ => none

def Op.presentsGrant : Op → Option AuthorityGrant
  | createAuthenticatedBootstrap _ _ grant _ _ => grant
  | renewRecovery _ _ grant _ _ => grant
  | revokeAllAuthenticated _ _ grant _ _ => grant
  | validateGrant grant _ _ _ => grant
  | _ => none

/-- The bootstrap that a call exchanges. -/
def Op.presentsBootstrap : Op → Option OpaqueId
  | exchangeBootstrap handle _ _ _ _ _ => handle
  | exchangeReprovisionBootstrap handle _ _ _ _ _ _ _ _ _ _ _ => handle
  | _ => none

def Op.presentsCeremony : Op → Option OpaqueId
  | exchangeReprovisionBootstrap _ _ _ _ ceremony _ _ _ _ _ _ _ => ceremony.handle
  | _ => none

/-- The actor that a decision concerns, as the records it presents name it. -/
def Op.actor? (s : Store) : Op → Option OpaqueId
  | createRootBootstrap root _ _ _ => root.actorId
  | createReprovisionBootstrap reprovision _ _ _ =>
    (s.roots.get? reprovision.handle).map (·.actorId)
  | createReprovisionCeremony _ _ _ _ bootstrapHandle _ _ _ _ _ =>
    (s.bootstraps.get? bootstrapHandle).map (·.actorId)
  | exchangeBootstrap handle _ _ _ _ _ => (s.bootstraps.get? handle).map (·.actorId)
  | exchangeReprovisionBootstrap handle _ _ _ _ _ _ _ _ _ _ _ =>
    (s.bootstraps.get? handle).map (·.actorId)
  | emergencyRevoke root _ _ => root.actorId
  | recover recovery _ _ _ _ => (s.recoveries.get? recovery.handle).map (·.actorId)
  | op => op.presentsSession.bind fun h => (s.sessions.get? h).map (·.actorId)

/-- The clock reading of a call. -/
def Op.time? : Op → Option Datetime
  | armCrashOnce _ => none
  | initializeInstallation _ _ _ _ _ _ now => now
  | createRootBootstrap _ _ _ now => now
  | createAuthenticatedBootstrap _ _ _ _ now => now
  | createReprovisionBootstrap _ _ _ now => now
  | cancelBootstrap _ now => now
  | createReprovisionCeremony _ _ _ _ _ _ now _ _ _ => now
  | exchangeBootstrap _ _ now _ _ _ => now
  | exchangeReprovisionBootstrap _ _ _ _ _ _ now _ _ _ _ _ => now
  | authenticateSession _ _ now => now
  | createStepUp _ _ now _ => now
  | consumeStepUp _ _ _ _ _ _ _ _ now => now
  | rotateSession _ _ now _ => now
  | revokeSession _ _ now => now
  | renewRecovery _ _ _ _ now => now
  | revokeAllAuthenticated _ _ _ _ now => now
  | emergencyRevoke _ _ now => now
  | recover _ _ now _ _ => now
  | validateGrant _ _ _ now => now
  | garbageCollect now _ => now

def Op.IsCeremony : Op → Prop
  | createReprovisionCeremony .. => True
  | _ => False

/-! ### A sample installation -/

namespace Sample

def id (n : UInt8) : OpaqueId := .ofByte n

def digest (n : UInt8) : SecretDigest := ⟨List.replicate 32 n, rfl⟩

def credential (n : UInt8) : OpaqueCredential := ⟨id n, [n]⟩

def time (n : Fin 1000) : Datetime := .early n

def root (n : UInt8) (purpose : RootPurpose) : RootCapabilityRecord where
  handle := id n
  installationId := id 1
  actorId := id 2
  representedProfileId := id 3
  purpose
  digest := digest n

def capability (n : UInt8) (purpose : RootPurpose) : RootCapability where
  credential := credential n
  installationId := id 1
  actorId := id 2
  representedProfileId := id 3
  purpose

def setup : Op :=
  .initializeInstallation (id 1) (id 2) (id 3)
    [root 11 .initialBootstrap, root 12 .emergencyRevoke, root 13 .reprovision]
    ⟨id 14, (credential 14).digest⟩ ⟨id 15, (credential 15).digest⟩ (time 0)

def bootstrap (n : UInt8) (rootId : Option OpaqueId) (purpose : Option RootPurpose) :
    BootstrapRecord where
  attemptsRemaining := 3
  handle := id n
  actorId := id 2
  representedProfileId := id 3
  digest := digest n
  notBeforeUtc := time 0
  expiresAtUtc := time 600
  rootCapabilityId := rootId
  rootPurpose := purpose

def session (n : UInt8) : SessionRecord where
  handle := id n
  actorId := id 2
  representedProfileId := id 3
  digest := digest n
  epoch := 1
  notBeforeUtc := time 0
  expiresAtUtc := time 600

def recovery (n : UInt8) : RecoveryRecord where
  attemptsRemaining := 3
  handle := id n
  actorId := id 2
  representedProfileId := id 3
  digest := digest n
  epoch := 1
  notBeforeUtc := time 0
  expiresAtUtc := time 900

def stepUp (n : UInt8) (purpose : AuthPurpose) : StepUpRecord where
  attemptsRemaining := 3
  handle := id n
  actorId := id 2
  representedProfileId := id 3
  sessionId := id 21
  digest := digest n
  epoch := 1
  purpose
  scopes := {purpose.scope}
  notBeforeUtc := time 0
  expiresAtUtc := time 700

def exchange (n : UInt8) (now : Datetime) (sessionId recoveryId rootId : UInt8) : Op :=
  .exchangeBootstrap (id n) (digest n) now (session sessionId) (recovery recoveryId)
    ⟨id rootId, digest rootId⟩

/-- The installation with a first session, `21`, and a first recovery, `22`. -/
def opening : List Op :=
  [setup,
    .createRootBootstrap (capability 11 .initialBootstrap) (digest 11)
      (bootstrap 16 (id 11) (some .initialBootstrap)) (time 10),
    exchange 16 (time 20) 21 22 23]

/-- A grant from the first session, and a bootstrap, `41`, issued under it. -/
def delegation : List Op :=
  [.createStepUp (credential 21) (digest 21) (time 30) (stepUp 31 .setupAuthorityChange),
    .consumeStepUp (credential 31) (digest 31) (credential 21) (digest 21) (id 2) (id 3)
      .setupAuthorityChange {.changeSetupAuthority} (time 40),
    .createAuthenticatedBootstrap (credential 21) (digest 21)
      (stepUp 31 .setupAuthorityChange).grant (bootstrap 41 none none) (time 50)]

def revocation : Op := .emergencyRevoke (capability 12 .emergencyRevoke) (digest 12) (time 60)

def ceremony : Op :=
  .createReprovisionCeremony (credential 15) (credential 15).digest (credential 14)
    (credential 14).digest (id 61) ⟨id 62, (credential 62).digest, time 500⟩ (time 80) 1 1 0

/-- A new start from the reprovision root, with session `63`, recovery `64` and root `65`. -/
def reprovision : List Op :=
  [.createReprovisionBootstrap (credential 13) (digest 13) ⟨id 61, digest 61, time 0, time 600, 3⟩
      (time 70),
    ceremony,
    .exchangeReprovisionBootstrap (id 61) (digest 61) (credential 15) (credential 15).digest
      (credential 62) (credential 62).digest (time 90) (session 63) (recovery 64)
      ⟨id 65, digest 65⟩ 1 0]

end Sample

end MyCogni.Auth
