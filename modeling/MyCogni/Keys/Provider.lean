import MyCogni.Base.Sha256
import MyCogni.Keys.Catalog

/-! The owner-file provider of one installation key. Each session with the key file opens it before
and after its work and may fail at either end; the nonces that a process has drawn under the key are
kept apart from the provider, so that a second provider of the process does not start afresh. -/

namespace MyCogni.Keys
open Auth Command

/-! ### Associated data -/

def ownerFileProviderKind : Text := "owner-file".toList

/-- `_READINESS_PLAINTEXT` -/
def readinessPlaintext : Bytes := ascii "MyCogni-readiness-sentinel-v1!!!"

def kekAad (kek : ActiveKekRef) : Bytes :=
  toBytesBE 1 1 ++ kek.providerInstanceId.value.bytes ++ kek.kekId.value.bytes ++
    toBytesBE 4 kek.kekVersion ++ toBytesBE 1 1

/-- `_profile_aad` -/
def profileAad (kek : ActiveKekRef) (binding : ProfileKeyBinding) : Bytes :=
  ascii "MyCogni\x00profile-dek-wrap\x00" ++ toBytesBE 2 1 ++ toBytesBE 2 1 ++
    binding.installationId.value.bytes ++ binding.profileId.value.bytes ++
      toBytesBE 4 binding.profileKeyVersion ++ toBytesBE 2 binding.catalogSchemaVersion ++ kekAad kek

/-- `_sentinel_aad` -/
def sentinelAad (formatVersion aadVersion : Nat) (identity : KeyCatalogIdentity) : Bytes :=
  ascii "MyCogni\x00readiness-sentinel\x00" ++ toBytesBE 2 formatVersion ++ toBytesBE 2 aadVersion ++
    identity.installationId.value.bytes ++ identity.catalogId.value.bytes ++
      identity.sentinelId.value.bytes ++ kekAad identity.activeKek

/-- `read_source_commitment` -/
def sourceCommitment (key : Bytes) : SourceCommitment :=
  ⟨Sha256.digest (ascii "MyCogni\x00owner-file-source-commitment\x00" ++ key),
    Sha256.length_digest _⟩

/-! ### The process and the disk under it -/

inductive SecretFailureCode where
  | unavailable
  | unsafeStorage
  | forkedProcess
  | malformedRecord
  | providerMismatch
  | catalogKeyMismatch
  | readinessRequired
  | recoveryRequired
  | providerAlreadyActive
  | usageLimit
  | nonceReuse
deriving DecidableEq

/-- `_ProcessWrapState` of the key. -/
structure WrapState where
  limit : Nat
  count : Nat := 0
  usedNonces : List Nonce := []
  sentinelRecords : List (Nonce × Bytes) := []
  nonceReuseLatched : Bool := false
deriving DecidableEq

namespace WrapState

def sentinelRecord (w : WrapState) (nonce : Nonce) : Option Bytes :=
  (w.sentinelRecords.find? fun r => r.1 = nonce).map Prod.snd

def recordSentinel (w : WrapState) (nonce : Nonce) (commitment : Bytes) : WrapState :=
  if (w.sentinelRecord nonce).isSome then w
  else { w with sentinelRecords := w.sentinelRecords ++ [(nonce, commitment)] }

end WrapState

structure Provider where
  identity : KeyCatalogIdentity
  sentinel : WrappedReadinessSentinel
  /-- `_source_pin` is set. -/
  pinned : Bool := false
  recoveryLatched : Bool := false
  /-- `_wrap_state` is the state of the process. -/
  activated : Bool := false
deriving DecidableEq

/-- An encryption under the key, with the tables that were durable at that moment. -/
structure Encryption where
  nonce : Nonce
  plaintext : Bytes
  aad : Bytes
  /-- None for the sentinel. -/
  binding : Option ProfileKeyBinding
  ledger : Database
deriving DecidableEq

inductive Runtime where
  | accepting
  | reconciling
  | closed
deriving DecidableEq

structure Node where
  durable : Database := {}
  runtime : Runtime := .closed
  wrap : Option WrapState := none
  provider : Option Provider := none
  /-- A record for statements: no function reads it. -/
  encryptions : List Encryption := []
  /-- The records whose publication reached the disk; no function reads them. -/
  published : List WrappedProfileKey := []
deriving DecidableEq

inductive Fault where
  | secret (code : SecretFailureCode)
  | raised (r : Raised)
  /-- There is no service to call. -/
  | noService
deriving DecidableEq

/-- How a session with the key file goes. -/
inductive Session where
  | opens
  | failsBefore (code : SecretFailureCode)
  | failsAfter (code : SecretFailureCode)
deriving DecidableEq

abbrev Act := Command Node Fault

namespace Provider

def sentinelNonce (p : Provider) : Nonce := p.sentinel.nonce

def sentinelAad (p : Provider) : Bytes :=
  Keys.sentinelAad p.sentinel.envelope.formatVersion p.sentinel.envelope.aadVersion p.identity

/-- `_sentinel_record_commitment` -/
def sentinelRecordCommitment (p : Provider) : Bytes :=
  let ciphertext := p.sentinel.envelope.ciphertext
  Sha256.digest (ascii "MyCogni\x00sentinel-record-commitment\x00" ++
    toBytesBE 4 p.sentinelAad.length ++ p.sentinelAad ++ toBytesBE 4 ciphertext.length ++ ciphertext)

/-- The live provider of the process. -/
def live : Act Provider := do
  let n ← read
  demand n.provider .noService

/-- `_latch_recovery` -/
def latchRecovery : Act Unit :=
  write fun n => { n with
    provider := n.provider.map fun p => { p with recoveryLatched := true, pinned := false } }

def latchNonceReuse : Act Unit :=
  write fun n => { n with wrap := n.wrap.map fun w => { w with nonceReuseLatched := true } }

/-- `_material_session` -/
def session {α : Type} (source : Session) (body : Act α) : Act α :=
  match source with
  | .opens => body
  | .failsBefore code => do
    latchRecovery
    stop (.secret code)
  | .failsAfter code => fun n =>
    match body n with
    | (.ok _, n') => (latchRecovery >>= fun _ => stop (.secret code)) n'
    -- the failure of the body is the one that is raised
    | (.error e, n') => (latchRecovery >>= fun _ => stop e) n'

/-! ### Readiness -/

/-- `_record_authenticated_sentinel` -/
def recordAuthenticatedSentinel (p : Provider) : Act Unit := do
  write fun n => { n with wrap := some (n.wrap.getD { limit := p.identity.usageLimit }) }
  let n ← read
  let w ← demand n.wrap (.secret .unavailable)
  require (w.nonceReuseLatched = false) (.secret .nonceReuse)
  if p.sentinelNonce ∈ w.usedNonces ∨
      ∃ c ∈ w.sentinelRecord p.sentinelNonce, c ≠ p.sentinelRecordCommitment then do
    latchNonceReuse
    stop (.secret .nonceReuse)
  else
    write fun n => { n with
      wrap := some (w.recordSentinel p.sentinelNonce p.sentinelRecordCommitment) }

/-- `_activate_key_domain`. Another provider of the process may hold the key. -/
def activateKeyDomain (p : Provider) (shared : Bool) : Act Unit := do
  let n ← read
  let w ← demand n.wrap (.secret .unavailable)
  require (w.nonceReuseLatched = false ∧
    w.sentinelRecord p.sentinelNonce = some p.sentinelRecordCommitment) (.secret .nonceReuse)
  require (w.limit = p.identity.usageLimit) (.secret .providerMismatch)
  require (p.activated ∨ shared = false) (.secret .providerAlreadyActive)
  write fun n => { n with provider := n.provider.map fun p => { p with activated := true } }

/-- The work of `readiness` while the key file is open. -/
def authenticate (key : Bytes) (p : Provider) : Act Bool :=
  match AesGcm.decrypt key p.sentinelNonce.bytes p.sentinel.envelope.ciphertext p.sentinelAad with
  | none => do
    latchRecovery
    pure false
  | some plaintext =>
    if plaintext.length ≠ readinessPlaintext.length then do
      latchRecovery
      pure false
    else do
      recordAuthenticatedSentinel p
      if plaintext ≠ readinessPlaintext then do
        latchRecovery
        pure false
      else pure true

/-- A failure of the provider makes it not ready. -/
def orNotReady (c : Act Bool) : Act Bool := fun n =>
  match c n with
  | (.error (.secret _), n') => (latchRecovery >>= fun _ => pure false) n'
  | r => r

/-- Whether the provider is ready. -/
def readiness (key : Bytes) (source : Session) (shared : Bool) : Act Bool := do
  let p ← live
  if p.recoveryLatched then pure false
  else orNotReady do
    let authentic ← session source (authenticate key p)
    if authentic then do
      activateKeyDomain p shared
      write fun n => { n with provider := n.provider.map fun p => { p with pinned := true } }
      pure true
    else pure false

/-! ### Profile keys -/

/-- `_assert_domain_unlatched_locked` -/
def assertDomainUnlatched (w : WrapState) : Act Unit :=
  if w.nonceReuseLatched then do
    latchRecovery
    stop (.secret .recoveryRequired)
  else pure ()

/-- `_require_ready_state` -/
def requireReadyState : Act WrapState := do
  let p ← live
  let n ← read
  demand (if p.activated then n.wrap else none) (.secret .readinessRequired)

/-- `_require_ready` -/
def requireReady : Act Unit := do
  let p ← live
  require (p.recoveryLatched = false) (.secret .recoveryRequired)
  let w ← requireReadyState
  require (p.pinned = true) (.secret .readinessRequired)
  assertDomainUnlatched w

/-- `_reserve_nonce`, with what the source of nonces returns. -/
def reserveNonce (drawn : Option Nonce) : Act Nonce := do
  let w ← requireReadyState
  require (w.nonceReuseLatched = false) (.secret .nonceReuse)
  require (w.count < w.limit) (.secret .usageLimit)
  let nonce ← demand drawn (.secret .unavailable)
  if nonce ∈ w.usedNonces ∨ (w.sentinelRecord nonce).isSome then do
    latchNonceReuse
    stop (.secret .nonceReuse)
  else do
    write fun n => { n with
      wrap := some { w with usedNonces := nonce :: w.usedNonces, count := w.count + 1 } }
    pure nonce

def prepareProfileKey (binding : ProfileKeyBinding) (source : Session) (drawn : Option Nonce) :
    Act ProfileKeyPreparation := do
  let p ← live
  require (binding.installationId = p.identity.installationId) (.secret .providerMismatch)
  requireReady
  let nonce ← session source (reserveNonce drawn)
  let w ← requireReadyState
  assertDomainUnlatched w
  pure ⟨binding, nonce⟩

structure ProfileDek where
  bytes : Bytes
  length_eq : bytes.length = profileDekBytes
deriving DecidableEq

/-- An encryption under the key, recorded with what is durable. -/
def encrypt (key : Bytes) (nonce : Nonce) (plaintext aad : Bytes)
    (binding : Option ProfileKeyBinding) : Act Bytes := do
  write fun n => { n with
    encryptions := n.encryptions ++ [⟨nonce, plaintext, aad, binding, n.durable⟩] }
  pure (AesGcm.encrypt key nonce.bytes plaintext aad)

/-- A ciphertext of the length that a record has. -/
def envelope (ciphertext : Bytes) : Option Envelope :=
  if h : ciphertext.length = wrappedProfileKeyBytes then some (.ofCiphertext ciphertext h) else none

/-- `complete_profile_key`. The preparation is a value of one call, so it is consumed once. -/
def completeProfileKey (key : Bytes) (preparation : ProfileKeyPreparation) (source : Session)
    (generated : Option ProfileDek) : Act WrappedProfileKey := do
  let p ← live
  let n ← read
  require (p.recoveryLatched = false ∧ p.activated = true ∧
    ∃ w ∈ n.wrap, w.nonceReuseLatched = false) (.secret .malformedRecord)
  requireReady
  let dek ← demand generated (.secret .unavailable)
  let aad := profileAad p.identity.activeKek preparation.binding
  let envelope ← session source do
    let ciphertext ← encrypt key preparation.nonce dek.bytes aad (some preparation.binding)
    demand (envelope ciphertext) (.secret .unavailable)
  let w ← requireReadyState
  assertDomainUnlatched w
  pure ⟨p.identity.activeKek, preparation.binding, preparation.nonce, envelope⟩

def unwrapProfileKey (key : Bytes) (wrapped : WrappedProfileKey) (binding : ProfileKeyBinding)
    (source : Session) : Act Bytes := do
  let p ← live
  require (wrapped.kekRef = p.identity.activeKek ∧ wrapped.binding = binding ∧
    binding.installationId = p.identity.installationId) (.secret .providerMismatch)
  requireReady
  let aad := profileAad p.identity.activeKek binding
  let plaintext ← session source
    (match AesGcm.decrypt key wrapped.nonce.bytes wrapped.envelope.ciphertext aad with
    | none => do
      latchRecovery
      stop (.secret .catalogKeyMismatch)
    | some plaintext => do
      require (plaintext.length = profileDekBytes) (.secret .unavailable)
      pure plaintext)
  let w ← requireReadyState
  assertDomainUnlatched w
  pure plaintext

/-! ### The sentinel -/

/-- `create_readiness_sentinel` -/
def createReadinessSentinel (key : Bytes) (identity : KeyCatalogIdentity) (nonce : Nonce)
    (expected : SourceCommitment) (source : Session) : Act WrappedReadinessSentinel := do
  require (identity.activeKek.providerKind = ownerFileProviderKind) (.raised .valueError)
  match source with
  | .failsBefore code => stop (.secret code)
  | _ => pure ()
  require (sourceCommitment key = expected) (.secret .catalogKeyMismatch)
  let ciphertext ← encrypt key nonce readinessPlaintext (Keys.sentinelAad 1 1 identity) none
  let envelope ← demand (envelope ciphertext) (.secret .unavailable)
  match source with
  | .failsAfter code => stop (.secret code)
  | _ => pure ()
  pure ⟨identity.activeKek, identity.installationId, identity.catalogId, identity.sentinelId, nonce,
    envelope⟩

end Provider

end MyCogni.Keys
