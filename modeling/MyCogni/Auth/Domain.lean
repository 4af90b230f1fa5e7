import MyCogni.Base.Datetime
import MyCogni.Base.Sha256
import MyCogni.Base.Table
import MyCogni.Base.Uuid
import Mathlib.Data.Finset.Basic

/-! Identifiers, credentials, finite vocabularies and records of the authentication store. Records
are plain data, because the store changes them in place; `Valid` is what their constructors, and
every copy made with `replace`, check. -/

namespace MyCogni.Auth

/-- A version 4 identifier, ordered by its canonical text. -/
structure OpaqueId where
  value : Uuid
  isV4 : value.isV4 = true
deriving DecidableEq

namespace OpaqueId

/-- The identifier with a given first byte and nothing else that can be chosen. -/
def ofByte (n : UInt8) : OpaqueId :=
  ⟨⟨[n, 0, 0, 0, 0, 0, 64, 0, 128, 0, 0, 0, 0, 0, 0, 0], rfl⟩, by simp [Uuid.isV4]⟩

def str (i : OpaqueId) : Text := i.value.str

theorem str_injective : Function.Injective str := by
  rintro ⟨a, _⟩ ⟨b, _⟩ h
  have hab : a = b := Uuid.str_injective h
  subst hab
  rfl

instance : LinearOrder OpaqueId where
  le a b := Uuid.leStr a.value b.value
  le_refl a := le_refl (α := List Char) a.str
  le_trans _ _ _ := le_trans (α := List Char)
  le_antisymm _ _ h h' := str_injective (le_antisymm (α := List Char) h h')
  le_total a b := le_total (α := List Char) a.str b.str
  toDecidableLE a b := inferInstanceAs (Decidable (Uuid.leStr a.value b.value))
  toDecidableEq := inferInstance

def parse (t : Text) : Option OpaqueId := do
  let value ← Uuid.parse t
  if value.str = t then
    if h : value.isV4 = true then some ⟨value, h⟩ else none
  else none

theorem parse_str (i : OpaqueId) : parse i.str = some i := by
  rw [parse, str, Uuid.parse_str, Option.bind_eq_bind, Option.bind_some, if_pos rfl, dif_pos i.isV4]

end OpaqueId

structure SecretDigest where
  value : Bytes
  length : value.length = 32
deriving DecidableEq

structure OpaqueCredential where
  handle : OpaqueId
  secret : Bytes
deriving DecidableEq

/-- `SecretDigest(hashlib.sha256(credential.secret.reveal()).digest())`. -/
def OpaqueCredential.digest (c : OpaqueCredential) : SecretDigest :=
  ⟨Sha256.digest c.secret, Sha256.length_digest _⟩

inductive AuthPurpose where
  | setupAuthorityChange
  | externalActionResume
  | exceptionSubmission
  | keyRecoveryChange
  | profileDeletion
  | destructiveRestore
  | allSessionRevoke
deriving DecidableEq

inductive AuthScope where
  | changeSetupAuthority
  | resumeExternalActions
  | submitException
  | changeKeyRecovery
  | deleteProfile
  | restoreDestructively
  | revokeAllSessions
deriving DecidableEq

/-- `PURPOSE_SCOPE`. -/
def AuthPurpose.scope : AuthPurpose → AuthScope
  | setupAuthorityChange => .changeSetupAuthority
  | externalActionResume => .resumeExternalActions
  | exceptionSubmission => .submitException
  | keyRecoveryChange => .changeKeyRecovery
  | profileDeletion => .deleteProfile
  | destructiveRestore => .restoreDestructively
  | allSessionRevoke => .revokeAllSessions

inductive AuthDenial where
  | nonInteractive
  | terminalNotForeground
  | terminalBusy
  | terminalForked
  | terminalIoFailed
  | terminalRestoreFailed
  | invalidProof
  | attemptsExhausted
  | replayed
  | expired
  | notYetValid
  | clockRollback
  | sessionNotFound
  | revoked
  | wrongActor
  | wrongProfile
  | wrongInstallation
  | wrongSession
  | wrongPurpose
  | scopeWidening
  | staleEpoch
  | malformedCredential
  | operatorDeclined
  | outputInterrupted
  | capacityExhausted
deriving DecidableEq

inductive RootPurpose where
  | initialBootstrap
  | emergencyRevoke
  | reprovision
deriving DecidableEq

/-! ### Values presented to the store -/

structure RootCapability where
  credential : OpaqueCredential
  installationId : OpaqueId
  actorId : OpaqueId
  representedProfileId : OpaqueId
  purpose : RootPurpose
deriving DecidableEq

structure AuthorityGrant where
  actorId : OpaqueId
  representedProfileId : OpaqueId
  sessionId : OpaqueId
  authorityEvidenceId : OpaqueId
  purpose : AuthPurpose
  scopes : Finset AuthScope
  notBeforeUtc : Datetime
  expiresAtUtc : Datetime
  epoch : Nat
deriving DecidableEq

def AuthorityGrant.Valid (g : AuthorityGrant) : Prop :=
  g.notBeforeUtc < g.expiresAtUtc ∧ g.scopes = {g.purpose.scope} ∧ 1 ≤ g.epoch

instance (g : AuthorityGrant) : Decidable g.Valid := inferInstanceAs (Decidable (_ ∧ _ ∧ _))

structure RootCapabilityIssue where
  handle : OpaqueId
  digest : SecretDigest

structure BootstrapIssue where
  handle : OpaqueId
  digest : SecretDigest
  notBeforeUtc : Datetime
  expiresAtUtc : Datetime
  attempts : Nat

structure ReprovisionCeremonyIssue where
  handle : OpaqueId
  digest : SecretDigest
  expiresAtUtc : Datetime

structure SessionIssue where
  handle : OpaqueId
  digest : SecretDigest
  notBeforeUtc : Datetime
  expiresAtUtc : Datetime

structure RecoveryIssue where
  handle : OpaqueId
  digest : SecretDigest
  notBeforeUtc : Datetime
  expiresAtUtc : Datetime
  attempts : Nat

structure RootCapabilityBinding where
  handle : OpaqueId
  installationId : OpaqueId
  actorId : OpaqueId
  representedProfileId : OpaqueId
deriving DecidableEq

structure BootstrapDecision where
  actorId : OpaqueId
  representedProfileId : OpaqueId
  epoch : Nat
  replacementReprovision : Option RootCapabilityBinding := none
deriving DecidableEq

def BootstrapDecision.Valid (d : BootstrapDecision) : Prop :=
  1 ≤ d.epoch ∧ ∀ b ∈ d.replacementReprovision,
    b.actorId = d.actorId ∧ b.representedProfileId = d.representedProfileId

instance (d : BootstrapDecision) : Decidable d.Valid := inferInstanceAs (Decidable (_ ∧ _))

/-! ### Records -/

structure ActorRecord where
  actorId : OpaqueId
  representedProfileId : OpaqueId
  epoch : Nat
  lastObservedUtc : Datetime
  initialized : Bool := false
deriving DecidableEq

def ActorRecord.Valid (a : ActorRecord) : Prop := 1 ≤ a.epoch

structure RootCapabilityRecord where
  handle : OpaqueId
  installationId : OpaqueId
  actorId : OpaqueId
  representedProfileId : OpaqueId
  purpose : RootPurpose
  digest : SecretDigest
  consumed : Bool := false
  retiredAtUtc : Option Datetime := none
deriving DecidableEq

structure CompositionBindingRecord where
  installationId : OpaqueId
  operatorHandle : OpaqueId
  operatorDigest : SecretDigest
  serviceHandle : OpaqueId
  serviceDigest : SecretDigest
deriving DecidableEq

def CompositionBindingRecord.Valid (c : CompositionBindingRecord) : Prop :=
  c.operatorHandle ≠ c.serviceHandle

structure ReprovisionCeremonyRecord where
  handle : OpaqueId
  digest : SecretDigest
  bootstrapHandle : OpaqueId
  installationId : OpaqueId
  serviceHandle : OpaqueId
  expiresAtUtc : Datetime
  replaySeconds : Int
  terminalAtUtc : Option Datetime := none
  terminalDenial : Option AuthDenial := none
deriving DecidableEq

def daySeconds : Nat := 86400

theorem fiveMinutes_le_day : 300 ≤ daySeconds := by decide

def ReprovisionCeremonyRecord.Valid (c : ReprovisionCeremonyRecord) : Prop :=
  (0 ≤ c.replaySeconds ∧ c.replaySeconds ≤ daySeconds) ∧
    (c.terminalAtUtc = none ↔ c.terminalDenial = none)

/-- The attempts left on a one-use record, and whether it is spent. -/
structure Attempts where
  attemptsRemaining : Nat
  consumed : Bool := false
  retiredAtUtc : Option Datetime := none
deriving DecidableEq

namespace Attempts

def spend (u : Attempts) (now : Datetime) : Attempts :=
  { u with consumed := true, retiredAtUtc := some now }

/-- `_wrong_proof`: the record after a wrong proof, spent with its last attempt. -/
def wrongProof (u : Attempts) (now : Datetime) : Attempts :=
  if u.attemptsRemaining - 1 = 0 then
    { attemptsRemaining := 0, consumed := true, retiredAtUtc := some now }
  else { u with attemptsRemaining := u.attemptsRemaining - 1 }

def wrongProofDenial (u : Attempts) : AuthDenial :=
  if u.attemptsRemaining - 1 = 0 then .attemptsExhausted else .invalidProof

def spentDenial (u : Attempts) : AuthDenial :=
  if u.attemptsRemaining = 0 then .attemptsExhausted else .replayed

end Attempts

structure BootstrapRecord extends Attempts where
  handle : OpaqueId
  actorId : OpaqueId
  representedProfileId : OpaqueId
  digest : SecretDigest
  notBeforeUtc : Datetime
  expiresAtUtc : Datetime
  rootCapabilityId : Option OpaqueId := none
  rootPurpose : Option RootPurpose := none
deriving DecidableEq

def BootstrapRecord.Valid (b : BootstrapRecord) : Prop :=
  b.notBeforeUtc < b.expiresAtUtc ∧ 1 ≤ b.attemptsRemaining ∧
    (b.rootCapabilityId = none ↔ b.rootPurpose = none)

structure SessionRecord where
  handle : OpaqueId
  actorId : OpaqueId
  representedProfileId : OpaqueId
  digest : SecretDigest
  epoch : Nat
  notBeforeUtc : Datetime
  expiresAtUtc : Datetime
  revoked : Bool := false
  retiredAtUtc : Option Datetime := none
deriving DecidableEq

def SessionRecord.Valid (s : SessionRecord) : Prop :=
  s.notBeforeUtc < s.expiresAtUtc ∧ 1 ≤ s.epoch

structure RecoveryRecord extends Attempts where
  handle : OpaqueId
  actorId : OpaqueId
  representedProfileId : OpaqueId
  digest : SecretDigest
  epoch : Nat
  notBeforeUtc : Datetime
  expiresAtUtc : Datetime
deriving DecidableEq

def RecoveryRecord.Valid (r : RecoveryRecord) : Prop :=
  r.notBeforeUtc < r.expiresAtUtc ∧ 1 ≤ r.epoch ∧ 1 ≤ r.attemptsRemaining

structure StepUpRecord extends Attempts where
  handle : OpaqueId
  actorId : OpaqueId
  representedProfileId : OpaqueId
  sessionId : OpaqueId
  digest : SecretDigest
  epoch : Nat
  purpose : AuthPurpose
  scopes : Finset AuthScope
  notBeforeUtc : Datetime
  expiresAtUtc : Datetime
deriving DecidableEq

def StepUpRecord.Valid (c : StepUpRecord) : Prop :=
  c.notBeforeUtc < c.expiresAtUtc ∧ 1 ≤ c.epoch ∧ c.scopes = {c.purpose.scope} ∧
    1 ≤ c.attemptsRemaining

structure GrantProvenanceRecord where
  grant : AuthorityGrant
  usedAtUtc : Option Datetime := none
deriving DecidableEq

/-- What a provenance record checks, its grant included. -/
def GrantProvenanceRecord.Valid (p : GrantProvenanceRecord) : Prop :=
  p.grant.Valid ∧ ∀ used ∈ p.usedAtUtc, p.grant.notBeforeUtc ≤ used

instance (r : ActorRecord) : Decidable r.Valid := inferInstanceAs (Decidable (_ ≤ _))
instance (r : CompositionBindingRecord) : Decidable r.Valid := inferInstanceAs (Decidable (_ ≠ _))
instance (r : ReprovisionCeremonyRecord) : Decidable r.Valid :=
  inferInstanceAs (Decidable ((_ ∧ _) ∧ (_ ↔ _)))
instance (r : BootstrapRecord) : Decidable r.Valid :=
  inferInstanceAs (Decidable (_ ∧ _ ∧ (_ ↔ _)))
instance (r : SessionRecord) : Decidable r.Valid := inferInstanceAs (Decidable (_ ∧ _))
instance (r : RecoveryRecord) : Decidable r.Valid := inferInstanceAs (Decidable (_ ∧ _ ∧ _))
instance (r : StepUpRecord) : Decidable r.Valid := inferInstanceAs (Decidable (_ ∧ _ ∧ _ ∧ _))
instance (r : GrantProvenanceRecord) : Decidable r.Valid :=
  decidable_of_iff (r.grant.Valid ∧ r.usedAtUtc.all (r.grant.notBeforeUtc ≤ ·) = true) (by
    unfold GrantProvenanceRecord.Valid
    cases r.usedAtUtc <;> simp)

end MyCogni.Auth
