import MyCogni.Base.Bytes
import MyCogni.Base.Uuid
import MyCogni.Base.Datetime
import MyCogni.Base.Outcome

/-! Value types and finite state of the runner mailbox. A constructor that validates its fields
is a structure that carries the validation, with a `make` that raises where the source does. -/

namespace MyCogni.Mailbox

def actionKeyBytes : Nat := 32
def minCredentialBytes : Nat := 32
def maxCredentialBytes : Nat := 128
def maxActionEnvelopeBytes : Nat := 8388608
def maxResultEnvelopeBytes : Nat := 1048576
def maxEvidenceBytes : Nat := 67108864
def maxEvidenceItems : Nat := 64
def maxWallSeconds : Nat := 3600

inductive MailboxState where
  | empty | offered | claimedOnce | resultCommitted | expired | abandoned
deriving DecidableEq, Repr

inductive CollectionState where
  | none | ready | delivering | acknowledged
deriving DecidableEq, Repr

inductive MailboxDenial where
  | alreadyExists | notFound | invalidInput | unauthorized | bindingMismatch | invalidState
  | expired | replay | oversize | digestMismatch | resultMismatch | capabilityMismatch
  | evidenceMissing | evidenceUnreferenced | evidenceLimit | quotaExceeded | contended
  | internalUncertainty
deriving DecidableEq, Repr

inductive CrashPoint where
  | beforeClaimCommit | afterClaimCommit | beforeEvidenceCommit | afterEvidenceCommit
  | beforeResultCommit | afterResultCommit | beforeCollectionAck | afterCollectionAck
deriving DecidableEq, Repr

/-- The points that follow a repository mutation. -/
def CrashPoint.isAfter : CrashPoint → Bool
  | .afterClaimCommit | .afterEvidenceCommit | .afterResultCommit | .afterCollectionAck => true
  | .beforeClaimCommit | .beforeEvidenceCommit | .beforeResultCommit | .beforeCollectionAck => false

/-- How an operation raises: a `MailboxError`, an `InjectedCrash` or a plain `ValueError`. -/
inductive Failure where
  | denied (denial : MailboxDenial)
  | injectedCrash (point : CrashPoint)
  | valueError
deriving DecidableEq, Repr

/-! ### Canonical texts -/

def isLowerHex (c : Char) : Bool := ('0' ≤ c && c ≤ '9') || ('a' ≤ c && c ≤ 'f')

/-- `^sha256:[0-9a-f]{64}$`. -/
def isDigest (t : Text) : Bool :=
  t.take 7 = "sha256:".toList && (t.drop 7).length = 64 && (t.drop 7).all isLowerHex

def isLowerAlnum (c : Char) : Bool := ('0' ≤ c && c ≤ '9') || ('a' ≤ c && c ≤ 'z')

/-- `^[a-z][a-z0-9_]{0,n}$`. -/
def isIdentifier (n : Nat) : Text → Bool
  | [] => false
  | c :: t => ('a' ≤ c && c ≤ 'z') && t.length ≤ n && t.all fun c => isLowerAlnum c || c = '_'

def isCapabilityText (t : Text) : Bool := isIdentifier 31 t

def isEvidenceKind (t : Text) : Bool := isIdentifier 63 t

/-- `[a-z0-9](?:[a-z0-9-]{0,62}[a-z0-9])?`. -/
def isSlug (t : Text) : Bool :=
  1 ≤ t.length && t.length ≤ 64 && t.all (fun c => isLowerAlnum c || c = '-') &&
    t.head?.any isLowerAlnum && t.getLast?.any isLowerAlnum

/-- `0|[1-9][0-9]*`. -/
def isNumericIdentifier (t : Text) : Bool :=
  t ≠ [] && t.all (fun c => '0' ≤ c && c ≤ '9') && (t.length = 1 || t.head? ≠ some '0')

/-- Dot-separated `[0-9A-Za-z-]+`. -/
def isDotted (t : Text) : Bool :=
  (t.splitOn '.').all fun part => part ≠ [] && part.all fun c =>
    isLowerAlnum c || ('A' ≤ c && c ≤ 'Z') || c = '-'

/-- The release version: three numeric identifiers, an optional `-` part and an optional `+`
part. Only the last two can contain a hyphen and only the last follows a plus sign. -/
def isReleaseVersion (t : Text) : Bool :=
  let main := t.takeWhile (· ≠ '+')
  let build := t.dropWhile (· ≠ '+')
  let core := main.takeWhile (· ≠ '-')
  let pre := main.dropWhile (· ≠ '-')
  ((core.splitOn '.').length = 3 && (core.splitOn '.').all isNumericIdentifier) &&
    (pre = [] || isDotted pre.tail) && (build = [] || isDotted build.tail)

def isConnectorRelease (t : Text) : Bool :=
  let release := t.dropWhile (· ≠ '@')
  isSlug (t.takeWhile (· ≠ '@')) && release ≠ [] && isReleaseVersion release.tail

/-! ### Limits and bindings -/

/-- Finite installation bounds; retention windows are in microseconds. -/
structure MailboxLimits where
  maxMailboxes : Nat
  maxTotalActiveMaterialBytes : Nat
  maxTotalEvidenceBytes : Nat
  maxTotalCommittedBytes : Nat
  terminalRetention : Nat
  tombstoneRetention : Nat
  maxTombstones : Nat
  positive : 0 < maxMailboxes ∧ 0 < maxTotalActiveMaterialBytes ∧ 0 < maxTotalEvidenceBytes ∧
    0 < maxTotalCommittedBytes ∧ 0 < terminalRetention ∧ 0 < tombstoneRetention ∧ 0 < maxTombstones

def microsPerDay : Nat := 86400000000

def MailboxLimits.default : MailboxLimits where
  maxMailboxes := 64
  maxTotalActiveMaterialBytes := 16777216
  maxTotalEvidenceBytes := 67108864
  maxTotalCommittedBytes := 67108864
  terminalRetention := 7 * microsPerDay
  tombstoneRetention := 30 * microsPerDay
  maxTombstones := 4096
  positive := by decide

/-- The arguments of the `ActionBinding` constructor, before its validation. -/
structure BindingFields where
  mailboxId : Uuid
  actionId : Uuid
  intentId : Uuid
  attemptId : Uuid
  connectorRelease : Text
  capability : Text
  selectedArtifactDigest : Text
  dispatchEpoch : Int
  fence : Int
  authorizationEpoch : Int
  claimDeadlineUtc : Datetime
  deadlineUtc : Datetime
  wallSeconds : Int
  responseBytes : Int
  envelopeDigest : Text
deriving DecidableEq

/-- `ActionBinding.__post_init__`. -/
def BindingFields.wellFormed (b : BindingFields) : Bool :=
  (b.mailboxId.isV4 && b.actionId.isV4 && b.intentId.isV4 && b.attemptId.isV4) &&
    (b.connectorRelease.length ≤ 193 && isConnectorRelease b.connectorRelease) &&
    isCapabilityText b.capability &&
    (isDigest b.selectedArtifactDigest && isDigest b.envelopeDigest) &&
    (0 ≤ b.dispatchEpoch && 0 ≤ b.fence && 0 ≤ b.authorizationEpoch) &&
    b.claimDeadlineUtc < b.deadlineUtc &&
    (0 < b.wallSeconds && 0 < b.responseBytes) &&
    (b.wallSeconds ≤ maxWallSeconds && b.responseBytes ≤ maxEvidenceBytes)

structure ActionBinding extends BindingFields where
  valid : toBindingFields.wellFormed = true
deriving DecidableEq

def ActionBinding.make (b : BindingFields) : Except Failure ActionBinding :=
  if h : b.wellFormed = true then .ok ⟨b, h⟩ else .error .valueError

theorem ActionBinding.ext_fields {a b : ActionBinding}
    (h : a.toBindingFields = b.toBindingFields) : a = b := by
  cases a
  cases b
  simpa using h

theorem ActionBinding.make_self (b : ActionBinding) : make b.toBindingFields = .ok b :=
  dif_pos b.valid

theorem ActionBinding.responseBytes_le (b : ActionBinding) : b.responseBytes ≤ maxEvidenceBytes := by
  have h := b.valid
  simp only [BindingFields.wellFormed, Bool.and_eq_true, decide_eq_true_eq] at h
  exact h.2.2

theorem ActionBinding.mailboxId_isV4 (b : ActionBinding) : b.mailboxId.isV4 = true := by
  have h := b.valid
  simp only [BindingFields.wellFormed, Bool.and_eq_true] at h
  exact h.1.1.1.1.1.1.1.1.1.1

/-! ### Evidence -/

structure UploadFields where
  objectId : Uuid
  kind : Text
  payloadDigest : Text
  payload : Bytes
deriving DecidableEq

/-- `EvidenceUpload.__post_init__`. -/
def UploadFields.wellFormed (e : UploadFields) : Bool :=
  e.objectId.isV4 && isEvidenceKind e.kind && isDigest e.payloadDigest &&
    (e.payload ≠ [] && e.payload.length ≤ maxEvidenceBytes)

structure EvidenceUpload extends UploadFields where
  valid : toUploadFields.wellFormed = true
deriving DecidableEq

def EvidenceUpload.make (e : UploadFields) : Except Failure EvidenceUpload :=
  if h : e.wellFormed = true then .ok ⟨e, h⟩ else .error .valueError

theorem EvidenceUpload.ext_fields {a b : EvidenceUpload}
    (h : a.toUploadFields = b.toUploadFields) : a = b := by
  cases a
  cases b
  simpa using h

theorem EvidenceUpload.make_self (e : EvidenceUpload) : make e.toUploadFields = .ok e :=
  dif_pos e.valid

theorem EvidenceUpload.payload_pos (e : EvidenceUpload) : 0 < e.payload.length := by
  have h := e.valid
  simp only [UploadFields.wellFormed, Bool.and_eq_true, decide_eq_true_eq] at h
  exact List.length_pos_of_ne_nil h.2.1

structure SealFields where
  objectId : Uuid
  kind : Text
  payloadDigest : Text
  byteCount : Int
deriving DecidableEq

/-- `EvidenceSeal.__post_init__`. -/
def SealFields.wellFormed (e : SealFields) : Bool :=
  e.objectId.isV4 && isEvidenceKind e.kind && isDigest e.payloadDigest &&
    (0 < e.byteCount && e.byteCount ≤ maxEvidenceBytes)

structure EvidenceSeal extends SealFields where
  valid : toSealFields.wellFormed = true
deriving DecidableEq

def EvidenceSeal.make (e : SealFields) : Except Failure EvidenceSeal :=
  if h : e.wellFormed = true then .ok ⟨e, h⟩ else .error .valueError

/-! ### Replies -/

structure ClaimedFields where
  binding : ActionBinding
  envelopeJson : Bytes
  actionKey : Bytes
  resultCredential : Bytes
deriving DecidableEq

/-- `ClaimedAction.__post_init__`. -/
def ClaimedFields.wellFormed (c : ClaimedFields) : Bool :=
  (c.envelopeJson ≠ [] && c.envelopeJson.length ≤ maxActionEnvelopeBytes) &&
    c.actionKey.length = actionKeyBytes &&
    (minCredentialBytes ≤ c.resultCredential.length &&
      c.resultCredential.length ≤ maxCredentialBytes)

structure ClaimedAction extends ClaimedFields where
  valid : toClaimedFields.wellFormed = true
deriving DecidableEq

def ClaimedAction.make (c : ClaimedFields) : Except Failure ClaimedAction :=
  if h : c.wellFormed = true then .ok ⟨c, h⟩ else .error .valueError

structure BundleFields where
  binding : ActionBinding
  resultJson : Bytes
  evidence : List EvidenceUpload
deriving DecidableEq

def evidencePayloadBytes (evidence : List EvidenceUpload) : Nat :=
  (evidence.map fun item => item.payload.length).sum

/-- `CommittedBundle.__post_init__`. -/
def BundleFields.wellFormed (b : BundleFields) : Bool :=
  (b.resultJson ≠ [] && b.resultJson.length ≤ maxResultEnvelopeBytes) &&
    b.evidence.length ≤ maxEvidenceItems &&
    evidencePayloadBytes b.evidence ≤ maxEvidenceBytes &&
    ((b.resultJson.length + evidencePayloadBytes b.evidence : Nat) : Int) ≤ b.binding.responseBytes

structure CommittedBundle extends BundleFields where
  valid : toBundleFields.wellFormed = true
deriving DecidableEq

def CommittedBundle.make (b : BundleFields) : Except Failure CommittedBundle :=
  if h : b.wellFormed = true then .ok ⟨b, h⟩ else .error .valueError

structure MailboxSnapshot where
  mailboxId : Uuid
  state : MailboxState
  collectionState : CollectionState
  stagedEvidenceCount : Nat
  stagedEvidenceBytes : Int
  resultPresent : Bool
  claimMaterialRetained : Bool
  resultCredentialMaterialRetained : Bool
  observedAtUtc : Datetime
  claimDeadlineUtc : Datetime
  resultDeadlineUtc : Datetime
deriving DecidableEq

end MyCogni.Mailbox
