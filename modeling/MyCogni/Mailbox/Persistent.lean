import MyCogni.Mailbox.Codec
import MyCogni.Mailbox.Service

/-! The persistent adapter: one sealed row holds the whole repository, and every call loads it,
lets the volatile machine work on it and writes what changed in one writer transaction. -/

namespace MyCogni.Mailbox

def frameContext : Bytes := ascii "mycogni.runner-mailbox.sqlite-frame.v1" ++ [0]
def outerKeyContext : Bytes := ascii "mycogni.runner-mailbox.sqlite-frame-key.v1" ++ [0]
def innerKeyContext : Bytes := ascii "mycogni.runner-mailbox.persistent-inner-key.v1" ++ [0]
def configContext : Bytes := ascii "mycogni.runner-mailbox.persistent-config.v1" ++ [0]
def maxFrameGeneration : Int := 100000000

/-- `HKDF(SHA256, length=32, salt=None, info=context).derive(root_key)`. -/
def deriveKey (rootKey context : Bytes) : Bytes :=
  Sha256.hmac (Sha256.hmac (List.replicate 32 0) rootKey) (context ++ [1])

/-- The integers of the configuration's fingerprint. -/
def MailboxLimits.fingerprint (limits : MailboxLimits) : List Nat :=
  [limits.maxMailboxes, limits.maxTotalActiveMaterialBytes, limits.maxTotalEvidenceBytes,
    limits.maxTotalCommittedBytes, limits.terminalRetention / microsPerDay,
    limits.terminalRetention % microsPerDay / 1000000, limits.terminalRetention % 1000000,
    limits.tombstoneRetention / microsPerDay, limits.tombstoneRetention % microsPerDay / 1000000,
    limits.tombstoneRetention % 1000000, limits.maxTombstones]

/-- What a persistent repository is constructed with. -/
structure Installation where
  aead : Aead
  pydantic : Pydantic
  limits : MailboxLimits
  maintenanceCredentialDigest : Bytes
  storageKey : Bytes
  installationEpoch : Bytes
  restoreEpoch : Bytes
  lengths : maintenanceCredentialDigest.length = 32 ∧ storageKey.length = 32 ∧
    installationEpoch.length = 32 ∧ restoreEpoch.length = 32
  distinct : [maintenanceCredentialDigest, storageKey, installationEpoch, restoreEpoch].Nodup
  renders : ∀ n ∈ limits.fingerprint, strDigitsOk n = true

namespace Installation
variable (inst : Installation)

/-- The configuration of the volatile repository that a row is loaded into. -/
def config : Config where
  aead := inst.aead
  pydantic := inst.pydantic
  limits := inst.limits
  maintenanceCredentialDigest := inst.maintenanceCredentialDigest
  storageKey := deriveKey inst.storageKey innerKeyContext
  maintenance_length := inst.lengths.1
  storageKey_length := Sha256.length_hmac _ _

def outerStorageKey : Bytes := deriveKey inst.storageKey outerKeyContext

def configurationFingerprint : Bytes :=
  Sha256.digest (configContext ++ inst.maintenanceCredentialDigest ++
    (ascii "|").intercalate (inst.limits.fingerprint.map fun n => Text.encode (intText n)))

def aad (generation : Int) : Bytes :=
  frameContext ++ toBytesBE 4 frameVersion.toNat ++ toBytesBE 8 generation.toNat ++
    inst.installationEpoch ++ inst.restoreEpoch ++ inst.configurationFingerprint

def maxCiphertextBytes : Nat := inst.limits.maxSerializedBytes + 16

end Installation

structure Row where
  frameVersion : Int
  generation : Int
  nonce : Bytes
  ciphertext : Bytes
  ciphertextDigest : Bytes
deriving DecidableEq

section
variable (inst : Installation)

def loadRepository (row : Row) : Except Failure (Int × Repository) := do
  ensure (row.frameVersion = frameVersion ∧ 0 ≤ row.generation ∧
    row.generation < maxFrameGeneration ∧ row.nonce.length = 12 ∧
    row.ciphertextDigest.length = 32 ∧ row.ciphertext ≠ [] ∧
    row.ciphertext.length ≤ inst.maxCiphertextBytes) uncertain
  ensure (Sha256.digest row.ciphertext = row.ciphertextDigest) uncertain
  match inst.aead.decrypt inst.outerStorageKey row.nonce row.ciphertext (inst.aad row.generation) with
  | none => .error uncertain
  | some serialized =>
    match decodeState inst.limits serialized with
    | none => .error uncertain
    | some s => do
      s.records.values.forM fun r => (validatedRecordMaterial inst.config r).map fun _ => ()
      validateRepositorySemantics inst.config s
      ensure (encodeState s = some serialized) uncertain
      return (row.generation, s)

/-- The row that takes the place of the one there is, or the refusal to write it. -/
def writeRepository (s : Repository) (generation : Int) (nonce : Nonce) : Except Failure Row := do
  ensure (0 ≤ generation ∧ generation < maxFrameGeneration) uncertain
  validateRepositorySemantics inst.config s
  match encodeState s with
  | none => .error .valueError
  | some serialized => do
    ensure (serialized.length ≤ inst.limits.maxSerializedBytes) (.denied .oversize)
    let ciphertext := inst.aead.encrypt inst.outerStorageKey nonce.bytes serialized
      (inst.aad generation)
    return ⟨frameVersion, generation, nonce.bytes, ciphertext, Sha256.digest ciphertext⟩

/-! ### One call -/

/-- What SQLite and the process have in store for a call. A failing `COMMIT` may have landed. -/
inductive Fate where
  | sound
  | contended
  | unreadable
  | unwritable
  | commitFails (landed : Bool)
  | diesBeforeCommit
  | diesAfterCommit
deriving DecidableEq

/-- What the caller learns, whether the handle is of no use any more, and the row afterwards. A
process that dies answers nothing. -/
structure Answer where
  reply : Option Outcome
  poisoned : Bool
  row : Option Row

/-- The `MailboxError` or value that reaches the caller; an unknown outcome poisons the handle. -/
def Answer.replied (out : Outcome) (row : Option Row) : Answer :=
  ⟨some out, out = .error uncertain, row⟩

/-- An outcome that nobody knows: the handle is of no use any more. -/
def Answer.unknown (row : Option Row) : Answer := ⟨some (.error uncertain), true, row⟩

/-- The end of a transaction that writes `next` in the place of `row`. -/
def commitThenReply (fate : Fate) (out : Outcome) (row : Option Row) (next : Row) : Answer :=
  match fate with
  | .unwritable => .unknown row
  | .diesBeforeCommit => ⟨none, true, row⟩
  | .commitFails landed => .unknown (if landed then some next else row)
  | .diesAfterCommit => ⟨none, true, some next⟩
  | _ => .replied out (some next)

/-- The part of `_transition` that works on a loaded repository. -/
def transact (row : Option Row) (generation : Int) (s : Repository) (i : Call × Env) (nonce : Nonce)
    (fate : Fate) : Answer :=
  let (out, s') := apply inst.config s i
  if out = .error .valueError then .unknown row
  else
    match encodeState s, encodeState s' with
    | some before, some after =>
      if before = after then .replied out row
      else
        match writeRepository inst s' (generation + 1) nonce with
        | .error .valueError => .unknown row
        | .error e => .replied (.error e) row
        | .ok next => commitThenReply fate out row next
    | _, _ => .unknown row

/-- `_transition` of a handle that is not poisoned. -/
def transition (row : Option Row) (i : Call × Env) (nonce : Nonce) (fate : Fate) : Answer :=
  match fate with
  | .contended => .replied (.error (.denied .contended)) row
  | .unreadable => .unknown row
  | _ =>
    match row with
    | none => .unknown none
    | some stored =>
      match loadRepository inst stored with
      | .error _ => .unknown row
      | .ok (generation, s) => transact inst row generation s i nonce fate

/-! ### The database -/

/-- The construction of a handle, whether it can be used and the row afterwards. The first one
writes an empty repository, the others load what there is. -/
def openHandle (row : Option Row) (nonce : Nonce) (fate : Fate) : Bool × Option Row :=
  match fate with
  | .contended | .unreadable => (false, row)
  | _ =>
    match row with
    | some stored =>
      match loadRepository inst stored with
      | .error _ => (false, row)
      | .ok _ => (fate = .sound ∨ fate = .unwritable, row)
    | none =>
      match writeRepository inst .empty 0 nonce with
      | .error _ => (false, none)
      | .ok first =>
        let answer := commitThenReply fate (.ok (.ids [])) none first
        (!answer.poisoned, answer.row)

/-- What happens at a database: a handle is opened, or a request is served through one. -/
inductive Event where
  | opens (nonce : Nonce) (fate : Fate)
  | serves (request : Request) (env : Env) (nonce : Nonce) (fate : Fate)

def Event.row (row : Option Row) : Event → Option Row
  | .opens nonce fate => (openHandle inst row nonce fate).2
  | .serves request env nonce fate =>
    match request.call inst.config with
    | .error _ => row
    | .ok call => (transition inst row (call, env) nonce fate).row

/-- The row after the events, from a database without one. -/
def stored (es : List Event) : Option Row := es.foldl (Event.row inst) none

end

end MyCogni.Mailbox
