import MyCogni.Auth.Domain
import MyCogni.Base.AesGcm

/-! Wrapped profile keys and the identity of their catalog. Every record is built with the checks of
its constructor. -/

namespace MyCogni.Keys
open Auth

def profileDekBytes : Nat := 32

def wrapNonceBytes : Nat := 12

def wrappedProfileKeyBytes : Nat := 48

def wrapSuite : Text := "A256GCM".toList

/-- `_PROVIDER_KIND` -/
def isProviderKind : Text → Bool
  | [] => false
  | c :: rest => 'a' ≤ c && c ≤ 'z' && rest.length ≤ 31 &&
      rest.all fun d => 'a' ≤ d && d ≤ 'z' || '0' ≤ d && d ≤ '9' || d = '-'

structure ActiveKekRef where
  providerKind : Text
  providerInstanceId : OpaqueId
  kekId : OpaqueId
  kekVersion : Nat
  kind_ok : isProviderKind providerKind = true
  version_ok : 1 ≤ kekVersion ∧ kekVersion ≤ 0xffffffff
deriving DecidableEq

structure ProfileKeyBinding where
  installationId : OpaqueId
  profileId : OpaqueId
  profileKeyVersion : Nat
  catalogSchemaVersion : Nat
  key_version_ok : 1 ≤ profileKeyVersion ∧ profileKeyVersion ≤ 0xffffffff
  schema_version_ok : 1 ≤ catalogSchemaVersion ∧ catalogSchemaVersion ≤ 0xffff
deriving DecidableEq

structure Nonce where
  bytes : Bytes
  length_eq : bytes.length = wrapNonceBytes
deriving DecidableEq

/-- A digest of 32 bytes of the key source. -/
structure SourceCommitment where
  bytes : Bytes
  length_eq : bytes.length = 32

instance : DecidableEq SourceCommitment := fun a b =>
  decidable_of_iff (a.bytes = b.bytes) (by cases a; cases b; simp)

/-- The part that the two kinds of wrapped record share. -/
structure Envelope where
  formatVersion : Nat
  aadVersion : Nat
  suite : Text
  ciphertext : Bytes
  format_ok : formatVersion = 1
  aad_ok : aadVersion = 1
  suite_ok : suite = wrapSuite
  length_eq : ciphertext.length = wrappedProfileKeyBytes
deriving DecidableEq

def Envelope.ofCiphertext (ciphertext : Bytes) (h : ciphertext.length = wrappedProfileKeyBytes) :
    Envelope :=
  ⟨1, 1, wrapSuite, ciphertext, rfl, rfl, rfl, h⟩

theorem Envelope.ext_ciphertext {e e' : Envelope} (h : e.ciphertext = e'.ciphertext) : e = e' := by
  obtain ⟨f, a, s, c, rfl, rfl, rfl, _⟩ := e
  obtain ⟨f', a', s', c', rfl, rfl, rfl, _⟩ := e'
  cases h
  rfl

structure WrappedProfileKey where
  kekRef : ActiveKekRef
  binding : ProfileKeyBinding
  nonce : Nonce
  envelope : Envelope
deriving DecidableEq

structure WrappedReadinessSentinel where
  kekRef : ActiveKekRef
  installationId : OpaqueId
  catalogId : OpaqueId
  sentinelId : OpaqueId
  nonce : Nonce
  envelope : Envelope
deriving DecidableEq

/-! ### The catalog -/

inductive KeyCatalogState where
  | preparing
  | active
  | recoveryRequired
deriving DecidableEq

def keyCatalogSchemaVersion : Nat := 1

theorem schemaVersion_current : 1 = keyCatalogSchemaVersion := rfl

structure KeyCatalogIdentity where
  installationId : OpaqueId
  catalogId : OpaqueId
  sentinelId : OpaqueId
  activeKek : ActiveKekRef
  usageLimit : Nat
  schemaVersion : Nat
  limit_ok : 2 ≤ usageLimit ∧ usageLimit ≤ 100000
  schema_ok : schemaVersion = keyCatalogSchemaVersion
deriving DecidableEq

inductive KeyCatalogFailureCode where
  | notInitialized
  | identityMismatch
  | recoveryRequired
  | duplicateProfileKey
  | nonceReuse
  | usageLimit
  | commitOutcomeUnknown
  | corrupt
  | unavailable
deriving DecidableEq

/-- What a unit of work can raise. -/
inductive Failure where
  | catalog (code : KeyCatalogFailureCode)
  | typeError
  | valueError
  /-- `SQLAlchemyError`, of the driver or of a constraint. -/
  | sqlError
  /-- `_CommitAmbiguous` -/
  | commitAmbiguous
deriving DecidableEq

/-- The sentinel of the catalog is the one that its identity names. -/
def KeyCatalogIdentity.Owns (identity : KeyCatalogIdentity) (sentinel : WrappedReadinessSentinel) :
    Prop :=
  sentinel.kekRef = identity.activeKek ∧ sentinel.installationId = identity.installationId ∧
    sentinel.catalogId = identity.catalogId ∧ sentinel.sentinelId = identity.sentinelId

instance (identity : KeyCatalogIdentity) (sentinel : WrappedReadinessSentinel) :
    Decidable (identity.Owns sentinel) :=
  inferInstanceAs (Decidable (_ ∧ _ ∧ _ ∧ _))

structure KeyCatalogSnapshot where
  identity : KeyCatalogIdentity
  state : KeyCatalogState
  revision : Nat
  sentinel : Option WrappedReadinessSentinel
  revision_pos : 1 ≤ revision
  sentinel_iff : state = .preparing ↔ sentinel = none
  owned : ∀ s, sentinel = some s → identity.Owns s
deriving DecidableEq

/-- `KeyCatalogSnapshot.__post_init__` -/
def KeyCatalogSnapshot.make (identity : KeyCatalogIdentity) (state : KeyCatalogState)
    (revision : Nat) (sentinel : Option WrappedReadinessSentinel) :
    Except Failure KeyCatalogSnapshot :=
  if hrevision : 1 ≤ revision then
    match sentinel with
    | none =>
      if hstate : state = .preparing then
        .ok ⟨identity, state, revision, none, hrevision, by simp [hstate], nofun⟩
      else .error .typeError
    | some s =>
      if hstate : state = .preparing then .error .valueError
      else if hs : identity.Owns s then
        .ok ⟨identity, state, revision, some s, hrevision, by simp [hstate],
          fun _ h => by cases h; exact hs⟩
      else .error .valueError
  else .error .valueError

theorem KeyCatalogSnapshot.make_ok {identity : KeyCatalogIdentity} {state : KeyCatalogState}
    {revision : Nat} {sentinel : Option WrappedReadinessSentinel} {s : KeyCatalogSnapshot}
    (h : make identity state revision sentinel = .ok s) :
    s.identity = identity ∧ s.state = state ∧ s.revision = revision ∧ s.sentinel = sentinel := by
  cases sentinel with
  | none =>
    unfold make at h
    dsimp only at h
    split_ifs at h
    cases h
    exact ⟨rfl, rfl, rfl, rfl⟩
  | some sentinel =>
    unfold make at h
    dsimp only at h
    split_ifs at h
    cases h
    exact ⟨rfl, rfl, rfl, rfl⟩

theorem KeyCatalogSnapshot.make_of_valid {identity : KeyCatalogIdentity} {state : KeyCatalogState}
    {revision : Nat} {sentinel : Option WrappedReadinessSentinel} (hrevision : 1 ≤ revision)
    (hstate : state = .preparing ↔ sentinel = none)
    (howns : ∀ s, sentinel = some s → identity.Owns s) :
    ∃ s, make identity state revision sentinel = .ok s := by
  unfold make
  rw [dif_pos hrevision]
  cases sentinel with
  | none =>
    dsimp only
    rw [dif_pos (hstate.mpr rfl)]
    exact ⟨_, rfl⟩
  | some s =>
    have hne : state ≠ .preparing := fun h => nomatch hstate.mp h
    dsimp only
    rw [dif_neg hne, dif_pos (howns s rfl)]
    exact ⟨_, rfl⟩

end MyCogni.Keys
