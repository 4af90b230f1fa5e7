import Mathlib.Tactic.Ring
import MyCogni.Base.Dict
import MyCogni.Base.Sha256
import MyCogni.Mailbox.Protocol

/-! Records of the repository and the authenticated wrapping of what they retain. -/

namespace MyCogni.Mailbox

structure WrappedEvidence where
  objectId : Uuid
  kind : Text
  byteCount : Int
  storageDigest : Bytes
  semanticMac : Bytes
  nonce : Bytes
  wrappedPayload : Bytes
deriving DecidableEq

structure WrappedResult where
  byteCount : Int
  storageDigest : Bytes
  semanticMac : Bytes
  nonce : Bytes
  wrappedPayload : Bytes
deriving DecidableEq

structure CommittedEvidenceManifest where
  itemCount : Int
  storageDigest : Bytes
  semanticMac : Bytes
deriving DecidableEq

structure Record where
  binding : ActionBinding
  createdAt : Datetime
  lastSeenUtc : Datetime
  actionCredentialDigest : Bytes
  claimCredentialDigest : Bytes
  collectionCredentialDigest : Bytes
  state : MailboxState := .empty
  collectionState : CollectionState := .none
  envelopeJson : Option Bytes := none
  actionKey : Option Bytes := none
  resultCredential : Option Bytes := none
  resultCredentialDigest : Option Bytes := none
  evidence : Dict Uuid WrappedEvidence := .empty
  resultEnvelope : Option WrappedResult := none
  committedEvidenceManifest : Option CommittedEvidenceManifest := none
  committedAt : Option Datetime := none
  terminalAt : Option Datetime := none
deriving DecidableEq

structure Tombstone where
  createdAt : Datetime
  expiresAt : Datetime
deriving DecidableEq

/-- What a repository is constructed with: its maintenance credential, limits and storage key,
over the libraries that wrap and validate. -/
structure Config where
  aead : Aead
  pydantic : Pydantic
  limits : MailboxLimits
  maintenanceCredentialDigest : Bytes
  storageKey : Bytes
  maintenance_length : maintenanceCredentialDigest.length = 32
  storageKey_length : storageKey.length = 32

/-- The twelve bytes of `secrets.token_bytes(12)`. -/
structure Nonce where
  bytes : Bytes
  length : bytes.length = 12
deriving DecidableEq

def credentialContext : Bytes := ascii "mycogni.runner-mailbox.credential.v1" ++ [0]
def wrapContext : Bytes := ascii "mycogni.runner-mailbox.evidence-wrap.v1" ++ [0]
def resultWrapContext : Bytes := ascii "mycogni.runner-mailbox.result-wrap.v1" ++ [0]
def manifestContext : Bytes := ascii "mycogni.runner-mailbox.committed-manifest.v1" ++ [0]
def semanticMacContext : Bytes := ascii "mycogni.runner-mailbox.semantic-mac.v1" ++ [0]
def innerDigestBytes : Nat := 32
def innerEvidenceIdBytes : Nat := 16
def innerResultBindingBytes : Nat := 32

def uncertain : Failure := .denied .internalUncertainty

/-- `"sha256:" + hashlib.sha256(value).hexdigest()`. -/
def sha256Text (value : Bytes) : Text := "sha256:".toList ++ hex (Sha256.digest value)

def Record.evidenceBytes (r : Record) : Int := r.evidence.sum WrappedEvidence.byteCount

def optLength (b : Option Bytes) : Int := (b.map fun b => (b.length : Int)).getD 0

def Record.activeBytes (r : Record) : Int :=
  optLength r.envelopeJson + optLength r.actionKey + optLength r.resultCredential

def Record.resultBytes (r : Record) : Int := (r.resultEnvelope.map WrappedResult.byteCount).getD 0

section
variable (cfg : Config)

def Config.semanticMacKey : Bytes := Sha256.hmac cfg.storageKey semanticMacContext

def semanticMac (aad framedPayload : Bytes) : Bytes :=
  Sha256.hmac cfg.semanticMacKey (aad ++ framedPayload)

/-! ### Evidence -/

def evidenceAad (mailboxId authenticatedObjectId repositorySlot : Uuid) (kind : Text)
    (byteCount : Int) : Bytes :=
  wrapContext ++ mailboxId.bytes ++ authenticatedObjectId.bytes ++ repositorySlot.bytes ++
    kind.encode ++ [0] ++ toBytesBE 8 byteCount.toNat

/-- The item that `stage_evidence` retains. -/
def wrap (mailboxId : Uuid) (evidence : EvidenceUpload) (nonce : Nonce) : WrappedEvidence :=
  let aad := evidenceAad mailboxId evidence.objectId evidence.objectId evidence.kind
    evidence.payload.length
  let framed := evidence.objectId.bytes ++ Sha256.digest evidence.payload ++ evidence.payload
  let wrapped := cfg.aead.encrypt cfg.storageKey nonce.bytes framed aad
  { objectId := evidence.objectId
    kind := evidence.kind
    byteCount := evidence.payload.length
    storageDigest := Sha256.digest wrapped
    semanticMac := semanticMac cfg aad framed
    nonce := nonce.bytes
    wrappedPayload := wrapped }

def unwrap (mailboxId repositorySlot : Uuid) (item : WrappedEvidence) :
    Except Failure EvidenceUpload := do
  ensure (repositorySlot = item.objectId ∧ 0 < item.byteCount ∧ item.storageDigest.length = 32 ∧
    item.semanticMac.length = 32 ∧ item.nonce.length = 12) uncertain
  ensure (Sha256.digest item.wrappedPayload = item.storageDigest) uncertain
  let aad := evidenceAad mailboxId item.objectId repositorySlot item.kind item.byteCount
  match cfg.aead.decrypt cfg.storageKey item.nonce item.wrappedPayload aad with
  | none => .error uncertain
  | some framed => do
    ensure (semanticMac cfg aad framed = item.semanticMac) uncertain
    ensure ((framed.length : Int) = innerEvidenceIdBytes + innerDigestBytes + item.byteCount)
      uncertain
    ensure (framed.take innerEvidenceIdBytes = repositorySlot.bytes) uncertain
    let rawDigest := (framed.drop innerEvidenceIdBytes).take innerDigestBytes
    let payload := framed.drop (innerEvidenceIdBytes + innerDigestBytes)
    ensure ((payload.length : Int) = item.byteCount ∧ Sha256.digest payload = rawDigest) uncertain
    EvidenceUpload.make ⟨item.objectId, item.kind, "sha256:".toList ++ hex rawDigest, payload⟩

/-- Unwrap the items in their order; every slot must hold the upload of its own identifier. -/
def validatedEvidenceSlots (r : Record) : Except Failure (List EvidenceUpload) :=
  r.evidence.entries.mapM fun e => unwrap cfg r.binding.mailboxId e.1 e.2

variable {cfg}

/-- The fields that the unwrapping of an item checks or returns. -/
theorem unwrap_eq_ok {m slot : Uuid} {item : WrappedEvidence} {u : EvidenceUpload}
    (h : unwrap cfg m slot item = .ok u) :
    item.objectId = slot ∧ u.objectId = slot ∧ u.kind = item.kind ∧
      (u.payload.length : Int) = item.byteCount ∧ u.payloadDigest = sha256Text u.payload := by
  unfold unwrap at h
  simp only [bind_eq_ok_iff, ensure_eq_ok, exists_const] at h
  obtain ⟨⟨hslot, -⟩, -, h⟩ := h
  split at h
  · cases h
  · next framed _ =>
    simp only [bind_eq_ok_iff, ensure_eq_ok, exists_const] at h
    obtain ⟨-, -, -, ⟨hlength, hdigest⟩, h⟩ := h
    unfold EvidenceUpload.make at h
    split_ifs at h
    obtain rfl := Except.ok.inj h
    exact ⟨hslot.symm, hslot.symm, rfl, hlength,
      congrArg (fun d => "sha256:".toList ++ hex d) hdigest.symm⟩

/-- The three parts of a frame whose first two have fixed lengths. -/
theorem frame_parts {a b c : Bytes} {m n : Nat} (ha : a.length = m) (hb : b.length = n) :
    (a ++ b ++ c).take m = a ∧ ((a ++ b ++ c).drop m).take n = b ∧ (a ++ b ++ c).drop (m + n) = c := by
  subst ha hb
  refine ⟨?_, ?_, ?_⟩
  · rw [List.append_assoc, List.take_left]
  · rw [List.append_assoc, List.drop_left, List.take_left]
  · rw [← List.length_append, List.drop_left]

theorem unwrap_wrap (m : Uuid) (u : EvidenceUpload) (nonce : Nonce)
    (hdigest : sha256Text u.payload = u.payloadDigest) :
    unwrap cfg m u.objectId (wrap cfg m u nonce) = .ok u := by
  have hpos : (0 : Int) < u.payload.length := by exact_mod_cast u.payload_pos
  have hraw : (Sha256.digest u.payload).length = 32 := Sha256.length_digest _
  obtain ⟨htake, hmid, hdrop⟩ := frame_parts (c := u.payload) u.objectId.length hraw
  have hlength : (u.objectId.bytes ++ Sha256.digest u.payload ++ u.payload).length =
      16 + 32 + u.payload.length := by
    rw [List.length_append, List.length_append, u.objectId.length, hraw]
  have hmake : EvidenceUpload.make ⟨u.objectId, u.kind, "sha256:".toList ++
      hex (Sha256.digest u.payload), u.payload⟩ = .ok u := by
    unfold sha256Text at hdigest
    rw [hdigest]
    exact EvidenceUpload.make_self u
  unfold unwrap wrap
  simp only [hpos, Sha256.length_digest, semanticMac, Sha256.length_hmac, nonce.length, and_self,
    cfg.aead.decrypt_encrypt, innerEvidenceIdBytes, innerDigestBytes, htake, hmid, hdrop, hlength,
    hmake, bind_eq_ok_iff, ensure_eq_ok, exists_const, true_and, and_true]
  push_cast
  ring

/-! ### Results -/

variable (cfg)

/-- The digest of the framed fields of a binding, or `ValueError` for an integer too long to
render. -/
def bindingDigest (b : ActionBinding) : Except Failure Bytes :=
  match strInt b.dispatchEpoch, strInt b.fence, strInt b.authorizationEpoch, strInt b.wallSeconds,
    strInt b.responseBytes with
  | some dispatchEpoch, some fence, some authorizationEpoch, some wallSeconds,
      some responseBytes =>
    let parts : List Bytes :=
      [b.mailboxId.bytes, b.actionId.bytes, b.intentId.bytes, b.attemptId.bytes,
       Text.encode b.connectorRelease, Text.encode b.capability,
       Text.encode b.selectedArtifactDigest, Text.encode dispatchEpoch, Text.encode fence,
       Text.encode authorizationEpoch, Text.encode b.claimDeadlineUtc.isoformatMicro,
       Text.encode b.deadlineUtc.isoformatMicro, Text.encode wallSeconds,
       Text.encode responseBytes, Text.encode b.envelopeDigest]
    .ok (Sha256.digest (parts.flatMap fun part => toBytesBE 8 part.length ++ part))
  | _, _, _, _, _ => .error .valueError

def resultAad (binding : Bytes) (byteCount : Int) : Bytes :=
  resultWrapContext ++ binding ++ toBytesBE 8 byteCount.toNat

/-- The item that `commit_result` retains, for the digest of the record's binding. -/
def wrapResult (binding resultJson : Bytes) (nonce : Nonce) : WrappedResult :=
  let aad := resultAad binding resultJson.length
  let framed := binding ++ Sha256.digest resultJson ++ resultJson
  let wrapped := cfg.aead.encrypt cfg.storageKey nonce.bytes framed aad
  { byteCount := resultJson.length
    storageDigest := Sha256.digest wrapped
    semanticMac := semanticMac cfg aad framed
    nonce := nonce.bytes
    wrappedPayload := wrapped }

def unwrapResult (b : ActionBinding) (item : WrappedResult) : Except Failure Bytes := do
  ensure (0 < item.byteCount ∧ item.storageDigest.length = 32 ∧ item.semanticMac.length = 32 ∧
    item.nonce.length = 12) uncertain
  ensure (Sha256.digest item.wrappedPayload = item.storageDigest) uncertain
  let expectedBinding ← bindingDigest b
  let aad := resultAad expectedBinding item.byteCount
  match cfg.aead.decrypt cfg.storageKey item.nonce item.wrappedPayload aad with
  | none => .error uncertain
  | some framed => do
    ensure (semanticMac cfg aad framed = item.semanticMac) uncertain
    ensure ((framed.length : Int) = innerResultBindingBytes + innerDigestBytes + item.byteCount)
      uncertain
    ensure (framed.take innerResultBindingBytes = expectedBinding) uncertain
    let rawDigest := (framed.drop innerResultBindingBytes).take innerDigestBytes
    let payload := framed.drop (innerResultBindingBytes + innerDigestBytes)
    ensure ((payload.length : Int) = item.byteCount ∧ Sha256.digest payload = rawDigest) uncertain
    .ok payload

variable {cfg}

theorem length_bindingDigest {b : ActionBinding} {digest : Bytes}
    (h : bindingDigest b = .ok digest) : digest.length = 32 := by
  unfold bindingDigest at h
  split at h
  · obtain rfl := Except.ok.inj h
    exact Sha256.length_digest _
  · exact nomatch h

theorem unwrapResult_length {b : ActionBinding} {item : WrappedResult} {j : Bytes}
    (h : unwrapResult cfg b item = .ok j) : (j.length : Int) = item.byteCount ∧ 0 < j.length := by
  unfold unwrapResult at h
  simp only [bind_eq_ok_iff, ensure_eq_ok, exists_const] at h
  obtain ⟨⟨hpos, -⟩, -, digest, -, h⟩ := h
  split at h
  · cases h
  · next framed _ =>
    simp only [bind_eq_ok_iff, ensure_eq_ok, exists_const] at h
    obtain ⟨-, -, -, ⟨hlength, -⟩, h⟩ := h
    obtain rfl := Except.ok.inj h
    exact ⟨hlength, by omega⟩

theorem unwrapResult_wrapResult {b : ActionBinding} {digest : Bytes}
    (hb : bindingDigest b = .ok digest) {j : Bytes} (hj : j ≠ []) (nonce : Nonce) :
    unwrapResult cfg b (wrapResult cfg digest j nonce) = .ok j := by
  have hpos : (0 : Int) < j.length := by exact_mod_cast List.length_pos_of_ne_nil hj
  have hraw : (Sha256.digest j).length = 32 := Sha256.length_digest _
  have hbinding := length_bindingDigest hb
  obtain ⟨htake, hmid, hdrop⟩ := frame_parts (c := j) hbinding hraw
  have hlength : (digest ++ Sha256.digest j ++ j).length = 32 + 32 + j.length := by
    rw [List.length_append, List.length_append, hbinding, hraw]
  unfold unwrapResult wrapResult
  simp only [hpos, Sha256.length_digest, semanticMac, Sha256.length_hmac, nonce.length, and_self,
    cfg.aead.decrypt_encrypt, innerResultBindingBytes, innerDigestBytes, htake, hmid, hdrop,
    hlength, hb, bind_eq_ok_iff, ensure_eq_ok, exists_const, true_and, and_true,
    Except.ok.injEq, exists_eq_left']
  push_cast
  ring

variable (cfg)

/-- `sorted(object_ids, key=lambda object_id: object_id.bytes)`; the texts of identifiers are
ordered as their bytes are. -/
def buildCommittedManifest (b : ActionBinding) (objectIds : List Uuid) (result : WrappedResult) :
    Except Failure CommittedEvidenceManifest := do
  ensure objectIds.Nodup uncertain
  let binding ← bindingDigest b
  let sortedIds := Uuid.sorted objectIds
  let frame := manifestContext ++ binding ++ result.storageDigest ++
    toBytesBE 8 sortedIds.length ++ sortedIds.flatMap Uuid.bytes
  .ok
    { itemCount := sortedIds.length
      storageDigest := Sha256.digest frame
      semanticMac := Sha256.hmac cfg.semanticMacKey (manifestContext ++ frame) }

def validateCommittedManifest (r : Record) (objectIds : List Uuid) : Except Failure Unit :=
  match r.committedEvidenceManifest, r.resultEnvelope with
  | some manifest, some result => do
    ensure (manifest.storageDigest.length = 32 ∧ manifest.semanticMac.length = 32) uncertain
    let expected ← buildCommittedManifest cfg r.binding objectIds result
    ensure (manifest = expected) uncertain
  | _, _ => .error uncertain

def referenceMatches (item : EvidenceReference) (upload : EvidenceUpload) : Bool :=
  item.kind = upload.kind && item.payloadDigest = upload.payloadDigest &&
    item.byteCount = upload.payload.length

/-- Every upload is referenced exactly once, and every reference describes its upload. -/
def validateResultReferences (b : ActionBinding) (resultJson : Bytes)
    (evidence : List EvidenceUpload) : Except Failure Unit :=
  match cfg.pydantic.validateResult resultJson with
  | none => .error uncertain
  | some result => do
    ensure (result.actionId = b.actionId ∧ result.attemptId = b.attemptId) uncertain
    let references : List Uuid := result.evidence.map EvidenceReference.mailboxObjectId
    let uploads : List Uuid := evidence.map fun e => e.objectId
    ensure (references.Nodup ∧ (∀ id ∈ references, id ∈ uploads) ∧ ∀ id ∈ uploads, id ∈ references)
      uncertain
    ensure (∀ item ∈ result.evidence, ∀ upload ∈ evidence,
      item.mailboxObjectId = upload.objectId → referenceMatches item upload = true) uncertain

/-- Authenticate everything a record retains, without changing it. -/
def validatedRecordMaterial (r : Record) : Except Failure (List EvidenceUpload × Option Bytes) := do
  let evidence ← validatedEvidenceSlots cfg r
  if r.state = .resultCommitted then
    ensure (r.committedAt ≠ none) uncertain
    if r.collectionState = .acknowledged then
      ensure (evidence = [] ∧ r.resultEnvelope = none ∧ r.committedEvidenceManifest = none)
        uncertain
      return (evidence, none)
    else
      ensure (r.collectionState = .ready ∨ r.collectionState = .delivering) uncertain
      match r.resultEnvelope, r.committedEvidenceManifest with
      | some result, some _ => do
        let resultJson ← unwrapResult cfg r.binding result
        validateResultReferences cfg r.binding resultJson evidence
        validateCommittedManifest cfg r (evidence.map fun e => e.objectId)
        return (evidence, some resultJson)
      | _, _ => .error uncertain
  else
    ensure (r.collectionState = .none ∧ r.resultEnvelope = none ∧
      r.committedEvidenceManifest = none ∧ r.committedAt = none ∧
      (r.state = .claimedOnce ∨ evidence = [])) uncertain
    return (evidence, none)

variable {cfg}

/-- A manifest that was just built passes its own validation. -/
theorem validateCommittedManifest_build {r : Record} {ids : List Uuid} {result : WrappedResult}
    {manifest : CommittedEvidenceManifest} (hresult : r.resultEnvelope = some result)
    (hmanifest : r.committedEvidenceManifest = some manifest)
    (hbuild : buildCommittedManifest cfg r.binding ids result = .ok manifest) :
    validateCommittedManifest cfg r ids = .ok () := by
  have hlengths : manifest.storageDigest.length = 32 ∧ manifest.semanticMac.length = 32 := by
    have h := hbuild
    simp only [buildCommittedManifest, bind_eq_ok_iff] at h
    obtain ⟨-, -, digest, -, h⟩ := h
    obtain rfl := Except.ok.inj h
    exact ⟨Sha256.length_digest _, Sha256.length_hmac _ _⟩
  unfold validateCommittedManifest
  rw [hresult, hmanifest]
  simp only [bind_eq_ok_iff, ensure_eq_ok, hbuild, Except.ok.injEq, exists_eq_left', and_true]
  exact ⟨(), hlengths⟩

theorem validatedEvidenceSlots_eq_ok {r : Record} {evidence : List EvidenceUpload} :
    validatedEvidenceSlots cfg r = .ok evidence ↔ List.Forall₂
      (fun e u => unwrap cfg r.binding.mailboxId e.1 e.2 = .ok u) r.evidence.entries evidence :=
  mapM_eq_ok_iff

theorem slots_objectIds {r : Record} {evidence : List EvidenceUpload}
    (h : validatedEvidenceSlots cfg r = .ok evidence) :
    (evidence.map fun u => u.objectId) = r.evidence.keys := by
  rw [validatedEvidenceSlots_eq_ok] at h
  unfold Dict.keys
  generalize r.evidence.entries = es at h ⊢
  induction h with
  | nil => rfl
  | cons h _ ih => rw [List.map_cons, List.map_cons, ih, (unwrap_eq_ok h).2.1]

theorem slots_byteCount {r : Record} {evidence : List EvidenceUpload}
    (h : validatedEvidenceSlots cfg r = .ok evidence) :
    (evidencePayloadBytes evidence : Int) = r.evidenceBytes := by
  rw [validatedEvidenceSlots_eq_ok] at h
  unfold Record.evidenceBytes Dict.sum evidencePayloadBytes
  generalize r.evidence.entries = es at h ⊢
  induction h with
  | nil => rfl
  | cons h _ ih =>
    rw [List.map_cons, List.map_cons, List.sum_cons, List.sum_cons, ← ih,
      ← (unwrap_eq_ok h).2.2.2.1]
    push_cast
    rfl

theorem slots_empty {r : Record} (h : r.evidence = .empty) :
    validatedEvidenceSlots cfg r = .ok [] := by
  rw [validatedEvidenceSlots_eq_ok, h]
  exact .nil

/-- Staging appends the upload to what the slots hold. -/
theorem slots_withEvidence {r r' : Record} {evidence : List EvidenceUpload} {u : EvidenceUpload}
    {nonce : Nonce} (h : validatedEvidenceSlots cfg r = .ok evidence)
    (hnew : r.evidence.get? u.objectId = none) (hdigest : sha256Text u.payload = u.payloadDigest)
    (hbinding : r'.binding = r.binding)
    (hset : r'.evidence = r.evidence.set u.objectId (wrap cfg r.binding.mailboxId u nonce)) :
    validatedEvidenceSlots cfg r' = .ok (evidence ++ [u]) := by
  rw [validatedEvidenceSlots_eq_ok] at h ⊢
  rw [hset, hbinding, Dict.entries_set_of_none hnew]
  refine List.rel_append h (.cons ?_ .nil)
  exact unwrap_wrap r.binding.mailboxId u nonce hdigest

variable (cfg)

/-- The three ways in which a record's material can be authentic. -/
inductive Authentic (r : Record) : List EvidenceUpload × Option Bytes → Prop where
  | acknowledged : validatedEvidenceSlots cfg r = .ok [] → r.state = .resultCommitted →
      r.committedAt ≠ none → r.collectionState = .acknowledged → r.resultEnvelope = none →
      r.committedEvidenceManifest = none → Authentic r ([], none)
  | retained {evidence : List EvidenceUpload} {result : WrappedResult} {resultJson : Bytes} :
      validatedEvidenceSlots cfg r = .ok evidence → r.state = .resultCommitted →
      r.committedAt ≠ none → r.collectionState = .ready ∨ r.collectionState = .delivering →
      r.resultEnvelope = some result → r.committedEvidenceManifest ≠ none →
      unwrapResult cfg r.binding result = .ok resultJson →
      validateResultReferences cfg r.binding resultJson evidence = .ok () →
      validateCommittedManifest cfg r (evidence.map fun e => e.objectId) = .ok () →
      Authentic r (evidence, some resultJson)
  | uncommitted {evidence : List EvidenceUpload} : validatedEvidenceSlots cfg r = .ok evidence →
      r.state ≠ .resultCommitted → r.collectionState = .none → r.resultEnvelope = none →
      r.committedEvidenceManifest = none → r.committedAt = none →
      r.state = .claimedOnce ∨ evidence = [] → Authentic r (evidence, none)

variable {cfg}

theorem validatedRecordMaterial_eq_ok {r : Record} {m : List EvidenceUpload × Option Bytes} :
    validatedRecordMaterial cfg r = .ok m ↔ Authentic cfg r m := by
  unfold validatedRecordMaterial
  rw [bind_eq_ok_iff]
  constructor
  · rintro ⟨evidence, hslots, h⟩
    split_ifs at h with hstate hack
    · simp only [bind_eq_ok_iff, ensure_eq_ok, pure_eq_ok_iff, exists_const] at h
      obtain ⟨hat, ⟨rfl, hresult, hmanifest⟩, rfl⟩ := h
      exact .acknowledged hslots hstate hat hack hresult hmanifest
    · simp only [bind_eq_ok_iff, ensure_eq_ok, exists_const] at h
      obtain ⟨hat, hcollection, h⟩ := h
      split at h
      · next result manifest hresult hmanifest =>
        simp only [bind_eq_ok_iff, pure_eq_ok_iff] at h
        obtain ⟨json, hunwrap, ⟨⟩, hrefs, ⟨⟩, hman, rfl⟩ := h
        exact .retained hslots hstate hat hcollection hresult (by simp [hmanifest]) hunwrap hrefs
          hman
      · cases h
    · simp only [bind_eq_ok_iff, ensure_eq_ok, pure_eq_ok_iff, exists_const] at h
      obtain ⟨⟨hcollection, hresult, hmanifest, hat, hev⟩, rfl⟩ := h
      exact .uncommitted hslots hstate hcollection hresult hmanifest hat hev
  · intro h
    cases h with
    | acknowledged hslots hstate hat hack hresult hmanifest =>
      refine ⟨[], hslots, ?_⟩
      simp only [if_pos hstate, if_pos hack, bind_eq_ok_iff, ensure_eq_ok, pure_eq_ok_iff,
        exists_const]
      exact ⟨hat, ⟨trivial, hresult, hmanifest⟩, trivial⟩
    | @retained evidence result json hslots hstate hat hcollection hresult hmanifest hunwrap hrefs
        hman =>
      obtain ⟨manifest, hsome⟩ := Option.ne_none_iff_exists'.mp hmanifest
      have hack : r.collectionState ≠ .acknowledged := by
        rcases hcollection with h | h <;> simp [h]
      refine ⟨evidence, hslots, ?_⟩
      simp only [if_pos hstate, if_neg hack, bind_eq_ok_iff, ensure_eq_ok, exists_const, hresult,
        hsome, pure_eq_ok_iff]
      exact ⟨hat, hcollection, json, hunwrap, (), hrefs, (), hman, rfl⟩
    | @uncommitted evidence hslots hstate hcollection hresult hmanifest hat hev =>
      refine ⟨evidence, hslots, ?_⟩
      simp only [if_neg hstate, bind_eq_ok_iff, ensure_eq_ok, pure_eq_ok_iff, exists_const]
      exact ⟨⟨hcollection, hresult, hmanifest, hat, hev⟩, trivial⟩

theorem Authentic.slots {r : Record} {m : List EvidenceUpload × Option Bytes}
    (h : Authentic cfg r m) : validatedEvidenceSlots cfg r = .ok m.1 := by
  cases h with
  | acknowledged h => exact h
  | retained h => exact h
  | uncommitted h => exact h

theorem Authentic.evidenceBytes_nonneg {r : Record} {m : List EvidenceUpload × Option Bytes}
    (h : Authentic cfg r m) : 0 ≤ r.evidenceBytes := by
  rw [← slots_byteCount h.slots]
  exact Int.natCast_nonneg _

theorem Authentic.resultBytes_nonneg {r : Record} {m : List EvidenceUpload × Option Bytes}
    (h : Authentic cfg r m) : 0 ≤ r.resultBytes := by
  unfold Record.resultBytes
  cases h with
  | acknowledged _ _ _ _ hresult => rw [hresult]; exact le_rfl
  | retained _ _ _ _ hresult _ hunwrap =>
    have hlength := (unwrapResult_length hunwrap).1
    rw [hresult, Option.map_some, Option.getD_some]
    omega
  | uncommitted _ _ _ hresult => rw [hresult]; exact le_rfl

theorem Authentic.committedAt_eq_none {r : Record} {m : List EvidenceUpload × Option Bytes}
    (h : Authentic cfg r m) (hstate : r.state ≠ .resultCommitted) : r.committedAt = none := by
  cases h with
  | acknowledged _ h => exact absurd h hstate
  | retained _ h => exact absurd h hstate
  | uncommitted _ _ _ _ _ hat => exact hat

end
end MyCogni.Mailbox
