import MyCogni.Auth.Move

/-! What a call presents to the store and the store confirms: the records behind a successful
decision, and the new records it may then issue. -/

namespace MyCogni.Auth

/-- A bootstrap that is exchanged: presented with its digest, unspent and inside its window. -/
structure LiveBootstrap (s : Store) (handle : OpaqueId) (digest : SecretDigest) (now : Datetime)
    (record : BootstrapRecord) (actor : ActorRecord) : Prop where
  found : s.bootstraps.get? handle = some record
  proof : record.digest = digest
  observable : Observable s record.actorId now actor
  live : record.consumed = false
  window : Within now record.notBeforeUtc record.expiresAtUtc

structure LiveRecovery (s : Store) (handle : OpaqueId) (digest : SecretDigest) (now : Datetime)
    (record : RecoveryRecord) (actor : ActorRecord) : Prop where
  found : s.recoveries.get? handle = some record
  proof : record.digest = digest
  observable : Observable s record.actorId now actor
  live : record.consumed = false
  window : Within now record.notBeforeUtc record.expiresAtUtc
  current : record.epoch = actor.epoch

/-- A challenge that is consumed under its own session. -/
structure LiveStepUp (s : Store) (handle : OpaqueId) (digest : SecretDigest) (now : Datetime)
    (record : StepUpRecord) (actor : ActorRecord) (session : SessionRecord)
    (sessionActor : ActorRecord) (sessionDigest : SecretDigest) : Prop where
  found : s.stepUps.get? handle = some record
  proof : record.digest = digest
  live : record.consumed = false
  window : Within now record.notBeforeUtc record.expiresAtUtc
  known : s.actors.get? record.actorId = some actor
  current : record.epoch = actor.epoch
  underSession : LiveSession s record.sessionId sessionDigest now session sessionActor

/-- The root of a bootstrap, when it has one, can still be claimed. -/
def RootOpen (s : Store) (b : BootstrapRecord) (actor : ActorRecord) : Prop :=
  ∀ rootId ∈ b.rootCapabilityId, ∃ root, s.roots.get? rootId = some root ∧
    root.consumed = false ∧ some root.purpose = b.rootPurpose ∧
    ¬(root.purpose = .initialBootstrap ∧ actor.initialized = true)

/-- The service identity of a composition, presented with its digest and secret. -/
structure PresentsService (binding : CompositionBindingRecord) (credential : OpaqueCredential)
    (digest : SecretDigest) : Prop where
  handle : credential.handle = binding.serviceHandle
  proof : digest = binding.serviceDigest
  secret : digest = credential.digest

structure PresentsOperator (binding : CompositionBindingRecord) (credential : OpaqueCredential)
    (digest : SecretDigest) : Prop where
  handle : credential.handle = binding.operatorHandle
  proof : digest = binding.operatorDigest
  secret : digest = credential.digest

/-- A ceremony proof that is burned for its bootstrap. -/
structure BurnedProof (s : Store) (handle : OpaqueId) (service : OpaqueCredential)
    (serviceDigest : SecretDigest) (ceremony : OpaqueCredential) (ceremonyDigest : SecretDigest)
    (now : Datetime) (proof : ReprovisionCeremonyRecord) (binding : CompositionBindingRecord)
    (record : BootstrapRecord) (root : RootCapabilityRecord) : Prop where
  foundProof : s.reprovisionCeremonies.get? ceremony.handle = some proof
  active : proof.terminalAtUtc = none
  unexpired : now < proof.expiresAtUtc
  proofDigest : proof.digest = ceremonyDigest
  proofSecret : ceremonyDigest = ceremony.digest
  forBootstrap : proof.bootstrapHandle = handle
  composition : s.compositionBindings.get? proof.installationId = some binding
  ofService : proof.serviceHandle = binding.serviceHandle
  identity : PresentsService binding service serviceDigest
  foundRecord : s.bootstraps.get? handle = some record
  purpose : record.rootPurpose = some .reprovision
  rootId : record.rootCapabilityId = some root.handle
  foundRoot : s.roots.get? root.handle = some root
  installation : root.installationId = proof.installationId

/-- The proof, the bootstrap and the root behind a reprovision. -/
structure LiveReprovision (s : Store) (handle : OpaqueId) (digest : SecretDigest)
    (service : OpaqueCredential) (serviceDigest : SecretDigest) (ceremony : OpaqueCredential)
    (ceremonyDigest : SecretDigest) (now : Datetime) (proof : ReprovisionCeremonyRecord)
    (binding : CompositionBindingRecord) (record : BootstrapRecord) (root : RootCapabilityRecord)
    (actor : ActorRecord) : Prop extends
    BurnedProof s handle service serviceDigest ceremony ceremonyDigest now proof binding record
      root where
  bootstrap : LiveBootstrap s handle digest now record actor
  rootPurpose : root.purpose = .reprovision
  rootLive : root.consumed = false
  initialized : actor.initialized = true

/-- A reprovision root presented by its credential alone. -/
structure LiveReprovisionRoot (s : Store) (credential : OpaqueCredential) (digest : SecretDigest)
    (now : Datetime) (root : RootCapabilityRecord) (actor : ActorRecord) : Prop where
  found : s.roots.get? credential.handle = some root
  proof : root.digest = digest
  purpose : root.purpose = .reprovision
  live : root.consumed = false
  observable : Observable s root.actorId now actor
  initialized : actor.initialized = true

/-- The call presents, at `s`, the authority under which the record may be issued. -/
def Authorizes (s : Store) : Op → Issue → Prop
  | .initializeInstallation _ _ _ records _ _ _, .root r => r ∈ records
  | .createRootBootstrap root d record now, .bootstrap b =>
    b = record ∧ ∃ r actor, LiveRoot s root d r ∧ Observable s r.actorId now actor ∧
      RootedIn s b r actor
  | .createAuthenticatedBootstrap session d grant record now, .bootstrap b =>
    b = record ∧ b.rootCapabilityId = none ∧ grant.purpose = .setupAuthorityChange ∧
      b.actorId = grant.actorId ∧ b.representedProfileId = grant.representedProfileId ∧
      ∃ p r actor, LiveGrant s session d grant now p r actor
  | .createReprovisionBootstrap credential d issue now, .bootstrap b =>
    ∃ root actor, LiveReprovisionRoot s credential d now root actor ∧ b = issue.bindTo root
  | .createReprovisionCeremony sv sd o od handle issue now _ _ _, .ceremony c =>
    c.handle = issue.handle ∧ c.digest = issue.digest ∧ c.bootstrapHandle = handle ∧
      ∃ b root binding, ConfirmedIn (s.gcCeremonies now) c b root binding ∧
        PresentsService binding sv sd ∧ PresentsOperator binding o od
  | .exchangeBootstrap handle d now session _ _, .session r =>
    ∃ b actor, LiveBootstrap s handle d now b actor ∧ b.rootPurpose ≠ some .reprovision ∧
      RootOpen s b actor ∧ r = session.bindTo actor
  | .exchangeBootstrap handle d now _ recovery _, .recovery r =>
    ∃ b actor, LiveBootstrap s handle d now b actor ∧ b.rootPurpose ≠ some .reprovision ∧
      RootOpen s b actor ∧ r = recovery.bindTo actor
  | .exchangeReprovisionBootstrap handle d sv sd c cd now session _ _ _ _, .session r =>
    ∃ proof binding b root actor,
      LiveReprovision s handle d sv sd c cd now proof binding b root actor ∧
        r = session.bindTo actor.next
  | .exchangeReprovisionBootstrap handle d sv sd c cd now _ recovery _ _ _, .recovery r =>
    ∃ proof binding b root actor,
      LiveReprovision s handle d sv sd c cd now proof binding b root actor ∧
        r = recovery.bindTo actor.next
  | .exchangeReprovisionBootstrap handle d sv sd c cd now _ _ replacement _ _, .root r =>
    ∃ proof binding b root actor,
      LiveReprovision s handle d sv sd c cd now proof binding b root actor ∧
        r = root.successor replacement
  | .createStepUp session d now challenge, .stepUp c =>
    ∃ r actor, LiveSession s session.handle d now r actor ∧ challenge.actorId = r.actorId ∧
      challenge.representedProfileId = r.representedProfileId ∧ c = challenge.bindTo r
  | .consumeStepUp challenge cd session d a p purpose scopes now, .grant g =>
    ∃ c actor r ractor, LiveStepUp s challenge.handle cd now c actor r ractor d ∧
      session.handle = c.sessionId ∧ a = c.actorId ∧ p = c.representedProfileId ∧
      purpose = c.purpose ∧ scopes = c.scopes ∧ g = c.grant
  | .rotateSession current d now replacement, .session r =>
    ∃ prior actor, LiveSession s current.handle d now prior actor ∧
      r = { replacement with actorId := prior.actorId
                             representedProfileId := prior.representedProfileId
                             epoch := prior.epoch }
  | .renewRecovery session d grant replacement now, .recovery r =>
    grant.purpose = .keyRecoveryChange ∧ ∃ p record actor,
      LiveGrant s session d grant now p record actor ∧ r = replacement.bindTo actor
  | .revokeAllAuthenticated session d grant replacement now, .recovery r =>
    grant.purpose = .allSessionRevoke ∧ ∃ p record actor,
      LiveGrant s session d grant now p record actor ∧ r = replacement.bindTo actor.next
  | .recover credential d now session _, .session r =>
    ∃ record actor, LiveRecovery s credential.handle d now record actor ∧
      r = session.bindTo actor.next
  | .recover credential d now _ replacement, .recovery r =>
    ∃ record actor, LiveRecovery s credential.handle d now record actor ∧
      r = replacement.bindTo actor.next
  | _, _ => False

/-- What a call may leave in the store although it raises a `ValueError`: the outcome it built last
was refused, for a challenge without attempts or a root that is not the actor's. -/
def Leaves (s : Store) (op : Op) (x : Issue) : Prop :=
  Authorizes s op x ∧
    match op with
    | .consumeStepUp challenge _ _ _ _ _ _ _ _ =>
      ∃ c, s.stepUps.get? challenge.handle = some c ∧ c.consumed = false ∧ c.attemptsRemaining = 0
    | .exchangeReprovisionBootstrap handle d sv sd c cd now _ _ _ _ _ =>
      ∃ proof binding b root actor,
        LiveReprovision s handle d sv sd c cd now proof binding b root actor ∧
          ¬(root.actorId = actor.actorId ∧
            root.representedProfileId = actor.representedProfileId)
    | _ => False

end MyCogni.Auth
