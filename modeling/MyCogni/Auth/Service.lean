import MyCogni.Auth.Retention

/-! The application service over the store. A call reads the clock, draws fresh material, consults
the store once and wraps its answer; with static roots it refuses every replacement of a root before
the store is consulted. -/

namespace MyCogni.Auth
open Command

/-! ### Policy and composition -/

/-- What the constructor of the policy admits, in seconds. -/
structure AuthPolicy extends CeremonyPolicy where
  bootstrapTtlSeconds : Nat
  sessionTtlSeconds : Nat
  stepUpTtlSeconds : Nat
  recoveryTtlSeconds : Nat
  activationDelaySeconds : Nat
  maxAttempts : Nat
  ceremonyTtlSeconds : Nat
  ttl_range : ∀ ttl ∈ [bootstrapTtlSeconds, sessionTtlSeconds, stepUpTtlSeconds],
    1 ≤ ttl ∧ ttl ≤ 604800
  recoveryTtl_range : 30 * daySeconds ≤ recoveryTtlSeconds ∧ recoveryTtlSeconds ≤ 730 * daySeconds
  activationDelay_range : activationDelaySeconds ≤ 60
  maxAttempts_range : 1 ≤ maxAttempts ∧ maxAttempts ≤ 10
  ceremonyTtl_range : 1 ≤ ceremonyTtlSeconds ∧ ceremonyTtlSeconds ≤ 300

/-- `AuthPolicy()` -/
def AuthPolicy.default : AuthPolicy where
  capacity := 16
  tombstoneCapacity := 64
  replaySeconds := 300
  capacity_range := by decide
  tombstoneCapacity_range := by decide
  replaySeconds_range := fiveMinutes_le_day
  bootstrapTtlSeconds := 300
  sessionTtlSeconds := 1800
  stepUpTtlSeconds := 120
  recoveryTtlSeconds := 365 * daySeconds
  activationDelaySeconds := 0
  maxAttempts := 5
  ceremonyTtlSeconds := 60
  ttl_range := by decide
  recoveryTtl_range := by decide
  activationDelay_range := by decide
  maxAttempts_range := by decide
  ceremonyTtl_range := by decide

inductive AuthServiceMode where
  | syntheticFull
  | custodiedStaticRoots
deriving DecidableEq

structure AuthService where
  policy : AuthPolicy
  reprovisionOperatorAuthority : OpaqueCredential
  serviceIdentity : OpaqueCredential
  mode : AuthServiceMode

def tokenBytes : Nat := 32

/-- Fresh material, as `_credential` returns it. -/
structure Drawn where
  credential : OpaqueCredential
  length : credential.secret.length = tokenBytes

namespace Drawn

def handle (d : Drawn) : OpaqueId := d.credential.handle

def digest (d : Drawn) : SecretDigest := d.credential.digest

end Drawn

/-- How a call ends without a value: as the store ended, or on its own. -/
inductive Refusal where
  | store (h : Halt)
  | capabilityDisabled
  | overflowError
  | valueError
deriving DecidableEq

abbrev ServiceCall := Command Store Refusal

/-- The decision of the store, whose end without a value is raised as `f` makes it. -/
def consultAs {ε α : Type} (f : Halt → ε) (c : Decision α) : Command Store ε α := fun s =>
  match c s with
  | (.ok a, s') => (.ok a, s')
  | (.error h, s') => (.error (f h), s')

def consult {α : Type} (c : Decision α) : ServiceCall α := consultAs .store c

/-- A permit for one bootstrap, from the boundary that the operator confirmed. -/
structure ReprovisionCeremonyAuthorization where
  credential : OpaqueCredential
  bootstrapHandle : OpaqueId

structure BootstrapExchange where
  session : OpaqueCredential
  recovery : OpaqueCredential
  actorId : OpaqueId
  representedProfileId : OpaqueId
  epoch : Nat
  replacementReprovision : Option RootCapability := none

/-- What the constructor of the result checks. -/
def BootstrapExchange.Valid (x : BootstrapExchange) : Prop :=
  1 ≤ x.epoch ∧ ∀ r ∈ x.replacementReprovision, r.purpose = .reprovision ∧
    r.actorId = x.actorId ∧ r.representedProfileId = x.representedProfileId

instance BootstrapExchange.decidableValid (x : BootstrapExchange) : Decidable x.Valid := inferInstanceAs (Decidable (_ ∧ _))

def SessionIssue.Valid (r : SessionIssue) : Prop := r.notBeforeUtc < r.expiresAtUtc

def RecoveryIssue.Valid (r : RecoveryIssue) : Prop :=
  r.notBeforeUtc < r.expiresAtUtc ∧ 1 ≤ r.attempts

def BootstrapIssue.Valid (r : BootstrapIssue) : Prop :=
  r.notBeforeUtc < r.expiresAtUtc ∧ 1 ≤ r.attempts

instance SessionIssue.decidableValid (r : SessionIssue) : Decidable r.Valid := inferInstanceAs (Decidable (_ < _))
instance RecoveryIssue.decidableValid (r : RecoveryIssue) : Decidable r.Valid := inferInstanceAs (Decidable (_ ∧ _))
instance BootstrapIssue.decidableValid (r : BootstrapIssue) : Decidable r.Valid := inferInstanceAs (Decidable (_ ∧ _))

/-! ### The calls -/

namespace AuthService
variable (sv : AuthService)

def seconds (n : Nat) : Nat := n * 1000000

def window (now : Datetime) (ttlSeconds : Nat) : ServiceCall (Datetime × Datetime) := do
  let notBefore ← demand (now.add (seconds sv.policy.activationDelaySeconds)) .overflowError
  let expires ← demand (notBefore.add (seconds ttlSeconds)) .overflowError
  pure (notBefore, expires)

def requireReprovisionEnabled : ServiceCall Unit :=
  require (sv.mode ≠ .custodiedStaticRoots) .capabilityDisabled

def beginBootstrap (root : RootCapability) (now : Datetime) (drawn : Drawn) :
    ServiceCall OpaqueCredential := do
  require (¬(sv.mode = .custodiedStaticRoots ∧ root.purpose = .reprovision)) .capabilityDisabled
  let (notBefore, expires) ← sv.window now sv.policy.bootstrapTtlSeconds
  let record : BootstrapRecord :=
    { handle := drawn.handle, actorId := root.actorId
      representedProfileId := root.representedProfileId, digest := drawn.digest
      notBeforeUtc := notBefore, expiresAtUtc := expires
      attemptsRemaining := sv.policy.maxAttempts
      rootCapabilityId := some root.credential.handle, rootPurpose := some root.purpose }
  require record.Valid .valueError
  let _ ← consult (createRootBootstrap root root.credential.digest record now)
  pure drawn.credential

def beginAuthenticatedBootstrap (session : OpaqueCredential) (grant : AuthorityGrant)
    (now : Datetime) (drawn : Drawn) : ServiceCall OpaqueCredential := do
  let (notBefore, expires) ← sv.window now sv.policy.bootstrapTtlSeconds
  let record : BootstrapRecord :=
    { handle := drawn.handle, actorId := grant.actorId
      representedProfileId := grant.representedProfileId, digest := drawn.digest
      notBeforeUtc := notBefore, expiresAtUtc := expires
      attemptsRemaining := sv.policy.maxAttempts }
  require record.Valid .valueError
  let _ ← consult (createAuthenticatedBootstrap session session.digest grant record now)
  pure drawn.credential

def beginReprovision (reprovision : OpaqueCredential) (now : Datetime) (drawn : Drawn) :
    ServiceCall OpaqueCredential := do
  sv.requireReprovisionEnabled
  let (notBefore, expires) ← sv.window now sv.policy.bootstrapTtlSeconds
  let issue : BootstrapIssue :=
    ⟨drawn.handle, drawn.digest, notBefore, expires, sv.policy.maxAttempts⟩
  require issue.Valid .valueError
  let _ ← consult (createReprovisionBootstrap reprovision reprovision.digest issue now)
  pure drawn.credential

def cancelBootstrap (handle : OpaqueId) (now : Datetime) : ServiceCall Unit :=
  consult (Auth.cancelBootstrap handle now)

def authorizeReprovisionCeremony (bootstrap operatorAuthority : OpaqueCredential) (now : Datetime)
    (drawn : Drawn) : ServiceCall ReprovisionCeremonyAuthorization := do
  sv.requireReprovisionEnabled
  let expires ← demand (now.add (seconds sv.policy.ceremonyTtlSeconds)) .overflowError
  let _ ← consult (createReprovisionCeremony sv.serviceIdentity sv.serviceIdentity.digest
    operatorAuthority operatorAuthority.digest bootstrap.handle
    ⟨drawn.handle, drawn.digest, expires⟩ now sv.policy.capacity sv.policy.tombstoneCapacity
    sv.policy.replaySeconds)
  pure ⟨drawn.credential, bootstrap.handle⟩

/-- What an exchange draws, and the identifier that stands for the actor until the store has
resolved it. -/
structure ExchangeMaterial where
  session : Drawn
  recovery : Drawn
  replacementRoot : Drawn
  placeholder : OpaqueId

/-- `_exchange_bootstrap` -/
def exchange (bootstrap : OpaqueCredential)
    (authorization : Option ReprovisionCeremonyAuthorization) (now : Datetime)
    (drawn : ExchangeMaterial) : ServiceCall BootstrapExchange := do
  let (sessionNotBefore, sessionExpires) ← sv.window now sv.policy.sessionTtlSeconds
  let (recoveryNotBefore, recoveryExpires) ← sv.window now sv.policy.recoveryTtlSeconds
  let session : SessionRecord :=
    { handle := drawn.session.handle, actorId := drawn.placeholder
      representedProfileId := drawn.placeholder, digest := drawn.session.digest, epoch := 1
      notBeforeUtc := sessionNotBefore, expiresAtUtc := sessionExpires }
  require session.Valid .valueError
  let recovery : RecoveryRecord :=
    { handle := drawn.recovery.handle, actorId := drawn.placeholder
      representedProfileId := drawn.placeholder, digest := drawn.recovery.digest, epoch := 1
      notBeforeUtc := recoveryNotBefore, expiresAtUtc := recoveryExpires
      attemptsRemaining := sv.policy.maxAttempts }
  require recovery.Valid .valueError
  let replacement : RootCapabilityIssue :=
    ⟨drawn.replacementRoot.handle, drawn.replacementRoot.digest⟩
  let decision ← match authorization with
    | none => consult (Auth.exchangeBootstrap bootstrap.handle bootstrap.digest now session recovery
        replacement)
    | some a => consult (exchangeReprovisionBootstrap bootstrap.handle bootstrap.digest
        sv.serviceIdentity sv.serviceIdentity.digest a.credential a.credential.digest now session
        recovery replacement sv.policy.tombstoneCapacity sv.policy.replaySeconds)
  let result : BootstrapExchange :=
    { session := drawn.session.credential, recovery := drawn.recovery.credential
      actorId := decision.actorId, representedProfileId := decision.representedProfileId
      epoch := decision.epoch
      replacementReprovision := decision.replacementReprovision.map fun b =>
        ⟨drawn.replacementRoot.credential, b.installationId, b.actorId, b.representedProfileId,
          .reprovision⟩ }
  require result.Valid .valueError
  pure result

def exchangeBootstrap (bootstrap : OpaqueCredential) (now : Datetime) (drawn : ExchangeMaterial) :
    ServiceCall BootstrapExchange := sv.exchange bootstrap none now drawn

def exchangeConfirmedReprovision (bootstrap : OpaqueCredential)
    (authorization : ReprovisionCeremonyAuthorization) (now : Datetime)
    (drawn : ExchangeMaterial) : ServiceCall BootstrapExchange := do
  sv.requireReprovisionEnabled
  require (authorization.bootstrapHandle = bootstrap.handle) (.store (.denied .invalidProof))
  sv.exchange bootstrap (some authorization) now drawn

def authenticateSession (session : OpaqueCredential) (now : Datetime) : ServiceCall OpaqueId := do
  let record ← consult (Auth.authenticateSession session session.digest now)
  pure record.handle

def issueStepUp (session : OpaqueCredential) (actorId representedProfileId : OpaqueId)
    (purpose : AuthPurpose) (scopes : Finset AuthScope) (now : Datetime) (drawn : Drawn) :
    ServiceCall OpaqueCredential := do
  require (scopes = {purpose.scope}) (.store (.denied .scopeWidening))
  let (notBefore, expires) ← sv.window now sv.policy.stepUpTtlSeconds
  let proposed : StepUpRecord :=
    { handle := drawn.handle, actorId, representedProfileId, sessionId := session.handle
      digest := drawn.digest, epoch := 1, purpose, scopes, notBeforeUtc := notBefore
      expiresAtUtc := expires, attemptsRemaining := sv.policy.maxAttempts }
  require proposed.Valid .valueError
  let _ ← consult (createStepUp session session.digest now proposed)
  pure drawn.credential

def consumeStepUp (challenge session : OpaqueCredential) (actorId representedProfileId : OpaqueId)
    (purpose : AuthPurpose) (scopes : Finset AuthScope) (now : Datetime) :
    ServiceCall AuthorityGrant := do
  let record ← consult (Auth.consumeStepUp challenge challenge.digest session session.digest actorId
    representedProfileId purpose scopes now)
  require record.grant.Valid .valueError
  pure record.grant

def rotateSession (session : OpaqueCredential) (now : Datetime) (drawn : Drawn)
    (placeholder : OpaqueId) : ServiceCall OpaqueCredential := do
  let (notBefore, expires) ← sv.window now sv.policy.sessionTtlSeconds
  let replacement : SessionRecord :=
    { handle := drawn.handle, actorId := placeholder, representedProfileId := placeholder
      digest := drawn.digest, epoch := 1, notBeforeUtc := notBefore, expiresAtUtc := expires }
  require replacement.Valid .valueError
  let _ ← consult (Auth.rotateSession session session.digest now replacement)
  pure drawn.credential

def revokeSession (session : OpaqueCredential) (now : Datetime) : ServiceCall OpaqueId :=
  consult (Auth.revokeSession session session.digest now)

/-- The recovery that takes the place of the others, as it is proposed under a grant. -/
def proposedRecovery (grant : AuthorityGrant) (now : Datetime) (drawn : Drawn) :
    ServiceCall RecoveryRecord := do
  let (notBefore, expires) ← sv.window now sv.policy.recoveryTtlSeconds
  let proposed : RecoveryRecord :=
    { handle := drawn.handle, actorId := grant.actorId
      representedProfileId := grant.representedProfileId, digest := drawn.digest
      epoch := grant.epoch, notBeforeUtc := notBefore, expiresAtUtc := expires
      attemptsRemaining := sv.policy.maxAttempts }
  require proposed.Valid .valueError
  pure proposed

def renewRecovery (session : OpaqueCredential) (grant : AuthorityGrant) (now : Datetime)
    (drawn : Drawn) : ServiceCall OpaqueCredential := do
  let proposed ← sv.proposedRecovery grant now drawn
  let _ ← consult (Auth.renewRecovery session session.digest grant proposed now)
  pure drawn.credential

def revokeAllAuthenticated (session : OpaqueCredential) (grant : AuthorityGrant) (now : Datetime)
    (drawn : Drawn) : ServiceCall OpaqueCredential := do
  let proposed ← sv.proposedRecovery grant now drawn
  let _ ← consult (Auth.revokeAllAuthenticated session session.digest grant proposed now)
  pure drawn.credential

def emergencyRevoke (root : RootCapability) (now : Datetime) : ServiceCall Nat :=
  consult (Auth.emergencyRevoke root root.credential.digest now)

def recover (recovery : OpaqueCredential) (now : Datetime) (session replacement : Drawn) :
    ServiceCall BootstrapExchange := do
  let (sessionNotBefore, sessionExpires) ← sv.window now sv.policy.sessionTtlSeconds
  let (recoveryNotBefore, recoveryExpires) ← sv.window now sv.policy.recoveryTtlSeconds
  let sessionIssue : SessionIssue :=
    ⟨session.handle, session.digest, sessionNotBefore, sessionExpires⟩
  require sessionIssue.Valid .valueError
  let recoveryIssue : RecoveryIssue := ⟨replacement.handle, replacement.digest, recoveryNotBefore,
    recoveryExpires, sv.policy.maxAttempts⟩
  require recoveryIssue.Valid .valueError
  let record ← consult (Auth.recover recovery recovery.digest now sessionIssue recoveryIssue)
  let result : BootstrapExchange :=
    { session := session.credential, recovery := replacement.credential
      actorId := record.actorId, representedProfileId := record.representedProfileId
      epoch := record.epoch }
  require result.Valid .valueError
  pure result

def validateGrant (grant : AuthorityGrant) (session : OpaqueCredential) (now : Datetime) :
    ServiceCall AuthorityGrant := consult (Auth.validateGrant grant session session.digest now)

def garbageCollect (now : Datetime) (retentionSeconds : Int) : ServiceCall Nat :=
  consult (Auth.garbageCollect now retentionSeconds)

end AuthService

/-! ### Requests -/

/-- A call of the service, with the clock reading and the material that it draws. -/
inductive Request where
  | beginBootstrap (root : RootCapability) (now : Datetime) (drawn : Drawn)
  | beginAuthenticatedBootstrap (session : OpaqueCredential) (grant : AuthorityGrant)
      (now : Datetime) (drawn : Drawn)
  | beginReprovision (reprovision : OpaqueCredential) (now : Datetime) (drawn : Drawn)
  | cancelBootstrap (handle : OpaqueId) (now : Datetime)
  | authorizeReprovisionCeremony (bootstrap operatorAuthority : OpaqueCredential) (now : Datetime)
      (drawn : Drawn)
  | exchangeBootstrap (bootstrap : OpaqueCredential) (now : Datetime)
      (drawn : AuthService.ExchangeMaterial)
  | exchangeConfirmedReprovision (bootstrap : OpaqueCredential)
      (authorization : ReprovisionCeremonyAuthorization) (now : Datetime)
      (drawn : AuthService.ExchangeMaterial)
  | authenticateSession (session : OpaqueCredential) (now : Datetime)
  | issueStepUp (session : OpaqueCredential) (actorId representedProfileId : OpaqueId)
      (purpose : AuthPurpose) (scopes : Finset AuthScope) (now : Datetime) (drawn : Drawn)
  | consumeStepUp (challenge session : OpaqueCredential) (actorId representedProfileId : OpaqueId)
      (purpose : AuthPurpose) (scopes : Finset AuthScope) (now : Datetime)
  | rotateSession (session : OpaqueCredential) (now : Datetime) (drawn : Drawn)
      (placeholder : OpaqueId)
  | revokeSession (session : OpaqueCredential) (now : Datetime)
  | renewRecovery (session : OpaqueCredential) (grant : AuthorityGrant) (now : Datetime)
      (drawn : Drawn)
  | revokeAllAuthenticated (session : OpaqueCredential) (grant : AuthorityGrant) (now : Datetime)
      (drawn : Drawn)
  | emergencyRevoke (root : RootCapability) (now : Datetime)
  | recover (recovery : OpaqueCredential) (now : Datetime) (session replacement : Drawn)
  | validateGrant (grant : AuthorityGrant) (session : OpaqueCredential) (now : Datetime)
  | garbageCollect (now : Datetime) (retentionSeconds : Int)

def discard {α : Type} (c : ServiceCall α) : ServiceCall Unit := do
  let _ ← c
  pure ()

def AuthService.serve (sv : AuthService) (s : Store) (r : Request) : Except Refusal Unit × Store :=
  match r with
  | .beginBootstrap root now drawn => discard (sv.beginBootstrap root now drawn) s
  | .beginAuthenticatedBootstrap session grant now drawn =>
    discard (sv.beginAuthenticatedBootstrap session grant now drawn) s
  | .beginReprovision reprovision now drawn => discard (sv.beginReprovision reprovision now drawn) s
  | .cancelBootstrap handle now => discard (cancelBootstrap handle now) s
  | .authorizeReprovisionCeremony bootstrap operator now drawn =>
    discard (sv.authorizeReprovisionCeremony bootstrap operator now drawn) s
  | .exchangeBootstrap bootstrap now drawn => discard (sv.exchangeBootstrap bootstrap now drawn) s
  | .exchangeConfirmedReprovision bootstrap authorization now drawn =>
    discard (sv.exchangeConfirmedReprovision bootstrap authorization now drawn) s
  | .authenticateSession session now => discard (authenticateSession session now) s
  | .issueStepUp session a p purpose scopes now drawn =>
    discard (sv.issueStepUp session a p purpose scopes now drawn) s
  | .consumeStepUp challenge session a p purpose scopes now =>
    discard (consumeStepUp challenge session a p purpose scopes now) s
  | .rotateSession session now drawn placeholder =>
    discard (sv.rotateSession session now drawn placeholder) s
  | .revokeSession session now => discard (revokeSession session now) s
  | .renewRecovery session grant now drawn => discard (sv.renewRecovery session grant now drawn) s
  | .revokeAllAuthenticated session grant now drawn =>
    discard (sv.revokeAllAuthenticated session grant now drawn) s
  | .emergencyRevoke root now => discard (emergencyRevoke root now) s
  | .recover recovery now session replacement =>
    discard (sv.recover recovery now session replacement) s
  | .validateGrant grant session now => discard (validateGrant grant session now) s
  | .garbageCollect now retention => discard (garbageCollect now retention) s

/-! ### A request consults the store at most once -/

/-- The command leaves the store as it is. -/
abbrev Still {α : Type} (c : ServiceCall α) : Prop := Respects (fun s s' => s' = s) c

/-- The store is left as it is, or as one of the calls leaves it. -/
def Consults {α : Type} (p : Op → Prop) (c : ServiceCall α) : Prop :=
  Respects (fun s s' => s' = s ∨ ∃ op, p op ∧ s' = (apply s op).2) c

section Rules
variable {α β : Type} {p : Op → Prop}

theorem still_pure (a : α) : Still (pure a : ServiceCall α) := fun _ => rfl

theorem still_require (c : Prop) [Decidable c] (e : Refusal) : Still (require c e) :=
  respects_require (r := fun s s' => s' = s) (fun _ => rfl) c e

theorem still_demand (o : Option α) (e : Refusal) : Still (demand o e : ServiceCall α) :=
  respects_demand (r := fun s s' => s' = s) (fun _ => rfl) o e

theorem Still.bind {c : ServiceCall β} {f : β → ServiceCall α} (hc : Still c) (hf : ∀ b, Still (f b)) :
    Still (c >>= f) := Respects.bind (fun _ _ _ h h' => h'.trans h) hc hf

theorem Still.consults {c : ServiceCall β} {f : β → ServiceCall α} (hc : Still c)
    (hf : ∀ b, Consults p (f b)) : Consults p (c >>= f) := by
  intro s
  have hs : (c s).2 = s := hc s
  simp only [Bind.bind]
  generalize c s = q at hs ⊢
  obtain ⟨e | b, s'⟩ := q
  · exact Or.inl hs
  · cases hs
    exact hf b s'

theorem Consults.still {c : ServiceCall β} {f : β → ServiceCall α} (hc : Consults p c)
    (hf : ∀ b, Still (f b)) : Consults p (c >>= f) := by
  intro s
  have hs := hc s
  simp only [Bind.bind]
  generalize c s = q at hs ⊢
  obtain ⟨e | b, s'⟩ := q
  · exact hs
  · have hlast : (f b s').2 = s' := hf b s'
    simpa only [hlast] using hs

theorem Consults.discard {c : ServiceCall α} (hc : Consults p c) : Consults p (discard c) :=
  hc.still fun _ => still_pure ()

theorem consult_state {c : Decision α} {f : α → Value} (op : Op)
    (hop : op.decide = do return f (← c)) (s : Store) : (consult c s).2 = (apply s op).2 := by
  rw [apply, hop]
  unfold consult consultAs
  simp only [Bind.bind]
  rcases c s with ⟨e | a, s'⟩ <;> rfl

theorem consults_consult {c : Decision α} {f : α → Value} (op : Op)
    (hop : op.decide = do return f (← c)) (hp : p op) : Consults p (consult c) :=
  fun s => Or.inr ⟨op, hp, consult_state op hop s⟩

theorem discard_state (c : ServiceCall α) (s : Store) : (discard c s).2 = (c s).2 := by
  unfold discard
  simp only [Bind.bind]
  rcases c s with ⟨e | a, s'⟩ <;> rfl

theorem still_window (sv : AuthService) (now : Datetime) (ttl : Nat) : Still (sv.window now ttl) :=
  (still_demand _ _).bind fun _ => (still_demand _ _).bind fun _ => still_pure _

theorem still_proposedRecovery (sv : AuthService) (grant : AuthorityGrant) (now : Datetime)
    (drawn : Drawn) : Still (sv.proposedRecovery grant now drawn) :=
  (still_window _ _ _).bind fun _ => (still_require _ _).bind fun _ => still_pure _

end Rules

/-- The calls that a service with static roots makes, other than collection. -/
def Op.IsStatic : Op → Prop
  | armCrashOnce _ => False
  | initializeInstallation .. => False
  | createReprovisionBootstrap .. => False
  | createReprovisionCeremony .. => False
  | exchangeReprovisionBootstrap .. => False
  | garbageCollect .. => False
  | _ => True

/-- What a request collects, and since when. -/
def Request.collects : Request → Option (Datetime × Int)
  | garbageCollect now retention => some (now, retention)
  | _ => none

variable {sv : AuthService}

theorem consults_exchange {p : Op → Prop} (bootstrap : OpaqueCredential) (now : Datetime)
    (drawn : AuthService.ExchangeMaterial)
    (hp : ∀ h d session recovery replacement,
      p (.exchangeBootstrap h d now session recovery replacement)) :
    Consults p (sv.exchange bootstrap none now drawn) := by
  refine (still_window _ _ _).consults fun ⟨_, _⟩ => (still_window _ _ _).consults fun ⟨_, _⟩ =>
    (still_require _ _).consults fun _ => (still_require _ _).consults fun _ => ?_
  refine Consults.still ?_ fun _ => (still_require _ _).bind fun _ => still_pure _
  exact consults_consult (.exchangeBootstrap _ _ _ _ _ _) rfl (hp _ _ _ _ _)

theorem refuse {α : Type} {c : Prop} [Decidable c] {e : Refusal} {f : Unit → ServiceCall α} (h : ¬c)
    (s : Store) : (require c e >>= f) s = (.error e, s) := bind_error (require_neg h e s) f

/-- With static roots, a request other than collection leaves the store as it is or as a call leaves
it that replaces no root. -/
theorem serve_static (hmode : sv.mode = .custodiedStaticRoots) {r : Request}
    (hr : r.collects = none) (s : Store) :
    (sv.serve s r).2 = s ∨ ∃ op : Op, op.IsStatic ∧ (sv.serve s r).2 = (apply s op).2 := by
  have hdisabled : ∀ {α : Type} (f : Unit → ServiceCall α),
      (discard (sv.requireReprovisionEnabled >>= f) s).2 = s :=
    fun f => congrArg Prod.snd (bind_error (refuse (fun h => h hmode) s) _)
  cases r with
  | beginBootstrap root now drawn =>
    refine Consults.discard (p := Op.IsStatic) ?_ s
    refine (still_require _ _).consults fun _ => (still_window _ _ _).consults fun ⟨_, _⟩ =>
      (still_require _ _).consults fun _ => Consults.still ?_ fun _ => still_pure _
    exact consults_consult (.createRootBootstrap _ _ _ _) rfl trivial
  | beginAuthenticatedBootstrap session grant now drawn =>
    refine Consults.discard (p := Op.IsStatic) ?_ s
    refine (still_window _ _ _).consults fun ⟨_, _⟩ => (still_require _ _).consults fun _ =>
      Consults.still ?_ fun _ => still_pure _
    exact consults_consult (.createAuthenticatedBootstrap _ _ _ _ _) rfl trivial
  | beginReprovision reprovision now drawn =>
    exact Or.inl (hdisabled _)
  | cancelBootstrap handle now =>
    refine Consults.discard (p := Op.IsStatic) ?_ s
    exact consults_consult (f := fun _ => .unit) (.cancelBootstrap _ _) rfl trivial
  | authorizeReprovisionCeremony bootstrap operator now drawn =>
    exact Or.inl (hdisabled _)
  | exchangeBootstrap bootstrap now drawn =>
    exact (consults_exchange bootstrap now drawn fun _ _ _ _ _ => trivial).discard s
  | exchangeConfirmedReprovision bootstrap authorization now drawn =>
    exact Or.inl (hdisabled _)
  | authenticateSession session now =>
    refine Consults.discard (p := Op.IsStatic) (Consults.still ?_ fun _ => still_pure _) s
    exact consults_consult (.authenticateSession _ _ _) rfl trivial
  | issueStepUp session a p purpose scopes now drawn =>
    refine Consults.discard (p := Op.IsStatic) ?_ s
    refine (still_require _ _).consults fun _ => (still_window _ _ _).consults fun ⟨_, _⟩ =>
      (still_require _ _).consults fun _ => Consults.still ?_ fun _ => still_pure _
    exact consults_consult (.createStepUp _ _ _ _) rfl trivial
  | consumeStepUp challenge session a p purpose scopes now =>
    refine Consults.discard (p := Op.IsStatic) (Consults.still ?_ fun _ =>
      (still_require _ _).bind fun _ => still_pure _) s
    exact consults_consult (.consumeStepUp _ _ _ _ _ _ _ _ _) rfl trivial
  | rotateSession session now drawn placeholder =>
    refine Consults.discard (p := Op.IsStatic) ?_ s
    refine (still_window _ _ _).consults fun ⟨_, _⟩ => (still_require _ _).consults fun _ =>
      Consults.still ?_ fun _ => still_pure _
    exact consults_consult (.rotateSession _ _ _ _) rfl trivial
  | revokeSession session now =>
    refine Consults.discard (p := Op.IsStatic) ?_ s
    exact consults_consult (.revokeSession _ _ _) rfl trivial
  | renewRecovery session grant now drawn =>
    refine Consults.discard (p := Op.IsStatic) ?_ s
    refine (still_proposedRecovery _ _ _ _).consults fun _ => Consults.still ?_ fun _ =>
      still_pure _
    exact consults_consult (.renewRecovery _ _ _ _ _) rfl trivial
  | revokeAllAuthenticated session grant now drawn =>
    refine Consults.discard (p := Op.IsStatic) ?_ s
    refine (still_proposedRecovery _ _ _ _).consults fun _ => Consults.still ?_ fun _ =>
      still_pure _
    exact consults_consult (.revokeAllAuthenticated _ _ _ _ _) rfl trivial
  | emergencyRevoke root now =>
    refine Consults.discard (p := Op.IsStatic) ?_ s
    exact consults_consult (.emergencyRevoke _ _ _) rfl trivial
  | recover recovery now session replacement =>
    refine Consults.discard (p := Op.IsStatic) ?_ s
    refine (still_window _ _ _).consults fun ⟨_, _⟩ => (still_window _ _ _).consults fun ⟨_, _⟩ =>
      (still_require _ _).consults fun _ => (still_require _ _).consults fun _ =>
      Consults.still ?_ fun _ => (still_require _ _).bind fun _ => still_pure _
    exact consults_consult (.recover _ _ _ _ _) rfl trivial
  | validateGrant grant session now =>
    refine Consults.discard (p := Op.IsStatic) ?_ s
    exact consults_consult (.validateGrant _ _ _ _) rfl trivial
  | garbageCollect now retention => exact nomatch hr

theorem serve_collect (now : Datetime) (retention : Int) (s : Store) :
    (sv.serve s (.garbageCollect now retention)).2 = (apply s (.garbageCollect now retention)).2 :=
  (discard_state _ s).trans (consult_state (.garbageCollect now retention) rfl s)

end MyCogni.Auth
