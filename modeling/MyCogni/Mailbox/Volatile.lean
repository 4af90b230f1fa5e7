import MyCogni.Mailbox.Record

/-! The reference repository: eleven operations over records, tombstones, the time high-water of
the installation and three running totals. An operation returns its outcome with the state it
leaves, also when it raises after a mutation. -/

namespace MyCogni.Mailbox

structure Repository where
  records : Dict Uuid Record
  tombstones : Dict Uuid Tombstone
  installationLastSeenUtc : Option Datetime
  totalActiveMaterialBytes : Int
  totalEvidenceBytes : Int
  totalCommittedBytes : Int
deriving DecidableEq

def Repository.empty : Repository := ⟨.empty, .empty, none, 0, 0, 0⟩

/-- What a call meets outside the repository: the reading of its clock, absent when that is no
UTC instant, the points at which the failure injector raises, and a random nonce. -/
structure Env where
  clock : Option Datetime
  crashes : CrashPoint → Bool
  nonce : Nonce

def hit (env : Env) (point : CrashPoint) : Except Failure Unit :=
  ensure (env.crashes point = false) (.injectedCrash point)

/-! ### Checks -/

def record (s : Repository) (mailboxId : Uuid) : Except Failure Record :=
  match s.records.get? mailboxId with
  | some r => .ok r
  | none => .error (.denied (if s.tombstones.contains mailboxId then .replay else .notFound))

def Record.credentialDigests (r : Record) : List Bytes :=
  [r.actionCredentialDigest, r.claimCredentialDigest, r.collectionCredentialDigest] ++
    r.resultCredentialDigest.toList

def credentialInUse (s : Repository) (digest : Bytes) (excluding : Option Uuid) : Bool :=
  s.records.entries.any fun e => some e.1 ≠ excluding && digest ∈ e.2.credentialDigests

def requireCredential (expected presented : Bytes) : Except Failure Unit :=
  ensure (expected = presented) (.denied .unauthorized)

def requireMaintenance (cfg : Config) (presented : Bytes) : Except Failure Unit :=
  requireCredential cfg.maintenanceCredentialDigest presented

def requireBinding (r : Record) (presented : ActionBinding) : Except Failure Unit :=
  ensure (r.binding = presented) (.denied .bindingMismatch)

def requireResultAccess (r : Record) (binding : ActionBinding) (resultCredentialDigest : Bytes) :
    Except Failure Unit := do
  requireBinding r binding
  ensure (r.state = .claimedOnce) (.denied .replay)
  match r.resultCredentialDigest with
  | none => .error uncertain
  | some digest => requireCredential digest resultCredentialDigest

def validatedInstallationNow (s : Repository) (clock : Option Datetime) :
    Except Failure Datetime :=
  match clock with
  | none => .error uncertain
  | some now => do
    ensure (s.installationLastSeenUtc.all (· ≤ now) = true) uncertain
    return now

def validatedRecordNow (s : Repository) (r : Record) (clock : Option Datetime) :
    Except Failure Datetime := do
  let now ← validatedInstallationNow s clock
  ensure (r.lastSeenUtc ≤ now) uncertain
  return now

/-! ### Changes to one record -/

/-- A repository with one of its records taken out, to be changed and put back. -/
abbrev Focus := Repository × Record

def store (mailboxId : Uuid) (p : Focus) : Repository :=
  { p.1 with records := p.1.records.set mailboxId p.2 }

def advanceInstallationTime (s : Repository) (now : Datetime) : Repository :=
  if s.installationLastSeenUtc.all (· < now) then
    { s with installationLastSeenUtc := some now }
  else s

def observeTime (p : Focus) (now : Datetime) : Focus :=
  (advanceInstallationTime p.1 now, { p.2 with lastSeenUtc := now })

def clearClaimDeliveryMaterial (p : Focus) : Focus :=
  ({ p.1 with totalActiveMaterialBytes := p.1.totalActiveMaterialBytes - p.2.activeBytes },
   { p.2 with actionKey := none, resultCredential := none, envelopeJson := none })

def releaseRecordPayloads (p : Focus) : Focus :=
  ({ p.1 with
      totalEvidenceBytes := p.1.totalEvidenceBytes - p.2.evidenceBytes
      totalCommittedBytes :=
        if p.2.committedAt ≠ none then
          p.1.totalCommittedBytes - (p.2.resultBytes + p.2.evidenceBytes)
        else p.1.totalCommittedBytes },
   { p.2 with resultEnvelope := none, committedEvidenceManifest := none, evidence := .empty })

def clearActionMaterial (p : Focus) : Focus :=
  let p := clearClaimDeliveryMaterial p
  releaseRecordPayloads (p.1, { p.2 with resultCredentialDigest := none })

def discardRecord (p : Focus) : Focus :=
  let p := clearClaimDeliveryMaterial p
  releaseRecordPayloads (p.1, { p.2 with resultCredentialDigest := none })

/-- The states that a deadline or an abandonment can end. -/
def MailboxState.isOpen (state : MailboxState) : Bool :=
  state = .empty || state = .offered || state = .claimedOnce

def Record.deadline (r : Record) : Datetime :=
  if r.state = .empty ∨ r.state = .offered then r.binding.claimDeadlineUtc
  else r.binding.deadlineUtc

/-- The changed focus where `_expire_if_due` answers true. -/
def expireIfDue (p : Focus) (now : Datetime) : Option Focus :=
  if p.2.state = .expired then some (observeTime p now)
  else if p.2.state.isOpen ∧ p.2.deadline ≤ now then
    let p := clearActionMaterial p
    some (observeTime (p.1, { p.2 with state := .expired, terminalAt := some now }) now)
  else none

def snapshotOf (r : Record) : MailboxSnapshot where
  mailboxId := r.binding.mailboxId
  state := r.state
  collectionState := r.collectionState
  stagedEvidenceCount := r.evidence.size
  stagedEvidenceBytes := r.evidenceBytes
  resultPresent := r.resultEnvelope.isSome
  claimMaterialRetained := r.actionKey.isSome || r.envelopeJson.isSome
  resultCredentialMaterialRetained := r.resultCredential.isSome
  observedAtUtc := r.lastSeenUtc
  claimDeadlineUtc := r.binding.claimDeadlineUtc
  resultDeadlineUtc := r.binding.deadlineUtc

/-! ### Operations -/

section
variable (cfg : Config) (s : Repository)

def create (binding : ActionBinding) (actionCredentialDigest claimCredentialDigest
    collectionCredentialDigest : Bytes) (env : Env) : Except Failure MailboxSnapshot × Repository :=
  let digests := [actionCredentialDigest, claimCredentialDigest, collectionCredentialDigest]
  attempt s (do
    let now ← validatedInstallationNow s env.clock
    ensure (s.records.contains binding.mailboxId = false) (.denied .alreadyExists)
    ensure (s.tombstones.contains binding.mailboxId = false) (.denied .replay)
    ensure (s.records.size < cfg.limits.maxMailboxes) (.denied .quotaExceeded)
    ensure digests.Nodup (.denied .invalidInput)
    ensure (cfg.maintenanceCredentialDigest ∉ digests) (.denied .invalidInput)
    ensure (∀ digest ∈ digests, credentialInUse s digest none = false) (.denied .replay)
    ensure (now < binding.claimDeadlineUtc) (.denied .expired)
    return now) fun now =>
  let r : Record :=
    { binding := binding
      createdAt := now
      lastSeenUtc := now
      actionCredentialDigest := actionCredentialDigest
      claimCredentialDigest := claimCredentialDigest
      collectionCredentialDigest := collectionCredentialDigest }
  (.ok (snapshotOf r), advanceInstallationTime (store binding.mailboxId (s, r)) now)

def offer (binding : ActionBinding) (envelopeJson actionKey actionCredentialDigest
    collectionCredentialDigest resultCredential resultCredentialDigest : Bytes) (env : Env) :
    Except Failure MailboxSnapshot × Repository :=
  attempt s (do
    let r ← record s binding.mailboxId
    requireBinding r binding
    requireCredential r.collectionCredentialDigest collectionCredentialDigest
    requireCredential r.actionCredentialDigest actionCredentialDigest
    let _ ← validatedRecordMaterial cfg r
    let now ← validatedRecordNow s r env.clock
    ensure ([r.actionCredentialDigest, r.claimCredentialDigest, r.collectionCredentialDigest,
      resultCredentialDigest].Nodup) (.denied .invalidInput)
    ensure (cfg.maintenanceCredentialDigest ≠ resultCredentialDigest) (.denied .invalidInput)
    ensure (credentialInUse s resultCredentialDigest (some r.binding.mailboxId) = false)
      (.denied .replay)
    return (r, now)) fun (r, now) =>
  match expireIfDue (s, r) now with
  | some p => (.error (.denied .expired), store binding.mailboxId p)
  | none =>
    let activeBytes : Int := envelopeJson.length + actionKey.length + resultCredential.length
    attempt s (do
      ensure (r.state = .empty) (.denied .replay)
      ensure (s.totalActiveMaterialBytes + activeBytes ≤ cfg.limits.maxTotalActiveMaterialBytes)
        (.denied .quotaExceeded)) fun _ =>
    let r : Record :=
      { r with
        envelopeJson := some envelopeJson
        actionKey := some actionKey
        resultCredential := some resultCredential
        resultCredentialDigest := some resultCredentialDigest
        state := .offered }
    let p := observeTime (s, r) now
    let s := store binding.mailboxId p
    (.ok (snapshotOf p.2),
      { s with totalActiveMaterialBytes := s.totalActiveMaterialBytes + activeBytes })

def claim (binding : ActionBinding) (claimCredentialDigest : Bytes) (env : Env) :
    Except Failure ClaimedAction × Repository :=
  attempt s (do
    let r ← record s binding.mailboxId
    requireCredential r.claimCredentialDigest claimCredentialDigest
    requireBinding r binding
    let _ ← validatedRecordMaterial cfg r
    let now ← validatedRecordNow s r env.clock
    return (r, now)) fun (r, now) =>
  match expireIfDue (s, r) now with
  | some p => (.error (.denied .expired), store binding.mailboxId p)
  | none =>
    attempt s (do
      ensure (r.state = .offered) (.denied .replay)
      match r.envelopeJson, r.actionKey, r.resultCredential with
      | some envelopeJson, some actionKey, some resultCredential =>
        hit env .beforeClaimCommit
        return (⟨r.binding, envelopeJson, actionKey, resultCredential⟩ : ClaimedFields)
      | _, _, _ => .error uncertain) fun fields =>
    let p := observeTime (s, { r with state := .claimedOnce }) now
    -- the `finally` clause clears the delivered material on every way out
    (hit env .afterClaimCommit >>= fun _ => ClaimedAction.make fields,
      store binding.mailboxId (clearClaimDeliveryMaterial p))

def stageEvidence (binding : ActionBinding) (resultCredentialDigest : Bytes)
    (evidence : EvidenceUpload) (env : Env) : Except Failure MailboxSnapshot × Repository :=
  attempt s (do
    let r ← record s binding.mailboxId
    requireResultAccess r binding resultCredentialDigest
    let _ ← validatedRecordMaterial cfg r
    let now ← validatedRecordNow s r env.clock
    return (r, now)) fun (r, now) =>
  match expireIfDue (s, r) now with
  | some p => (.error (.denied .expired), store binding.mailboxId p)
  | none =>
    let item := wrap cfg binding.mailboxId evidence env.nonce
    attempt s (do
      ensure (r.evidence.contains evidence.objectId = false) (.denied .replay)
      ensure (r.evidence.size < maxEvidenceItems) (.denied .evidenceLimit)
      ensure (r.evidenceBytes + evidence.payload.length ≤ r.binding.responseBytes)
        (.denied .evidenceLimit)
      ensure (s.totalEvidenceBytes + evidence.payload.length ≤ cfg.limits.maxTotalEvidenceBytes)
        (.denied .quotaExceeded)
      ensure (sha256Text evidence.payload = evidence.payloadDigest) (.denied .digestMismatch)
      let _ ← unwrap cfg binding.mailboxId evidence.objectId item
      hit env .beforeEvidenceCommit) fun _ =>
    let p := observeTime (s, { r with evidence := r.evidence.set evidence.objectId item }) now
    let s := store binding.mailboxId p
    (hit env .afterEvidenceCommit >>= fun _ => .ok (snapshotOf p.2),
      { s with totalEvidenceBytes := s.totalEvidenceBytes + item.byteCount })

def sealMatches (item : EvidenceSeal) (upload : EvidenceUpload) : Bool :=
  upload.kind = item.kind && upload.payloadDigest = item.payloadDigest &&
    (upload.payload.length : Int) = item.byteCount

def commitResult (binding : ActionBinding) (resultCredentialDigest resultJson : Bytes)
    (evidenceSeals : List EvidenceSeal) (env : Env) :
    Except Failure MailboxSnapshot × Repository :=
  attempt s (do
    let r ← record s binding.mailboxId
    requireResultAccess r binding resultCredentialDigest
    let material ← validatedRecordMaterial cfg r
    let now ← validatedRecordNow s r env.clock
    return (r, material.1, now)) fun (r, validatedEvidence, now) =>
  match expireIfDue (s, r) now with
  | some p => (.error (.denied .expired), store binding.mailboxId p)
  | none =>
    let referenced : List Uuid := evidenceSeals.map fun item => item.objectId
    let responseBytes : Int := resultJson.length + r.evidenceBytes
    attempt s (do
      ensure (∀ id ∈ referenced, r.evidence.contains id = true) (.denied .evidenceMissing)
      ensure (∀ id ∈ r.evidence.keys, id ∈ referenced) (.denied .evidenceUnreferenced)
      ensure (∀ item ∈ evidenceSeals, ∀ upload ∈ validatedEvidence,
        upload.objectId = item.objectId → sealMatches item upload = true)
        (.denied .digestMismatch)
      ensure (responseBytes ≤ r.binding.responseBytes) (.denied .evidenceLimit)
      ensure (s.totalCommittedBytes + responseBytes ≤ cfg.limits.maxTotalCommittedBytes)
        (.denied .quotaExceeded)
      let digest ← bindingDigest r.binding
      let resultItem := wrapResult cfg digest resultJson env.nonce
      validateResultReferences cfg r.binding resultJson validatedEvidence
      let manifest ← buildCommittedManifest cfg r.binding
        (validatedEvidence.map fun e => e.objectId) resultItem
      hit env .beforeResultCommit
      return (resultItem, manifest)) fun (resultItem, manifest) =>
    let r : Record :=
      { r with
        resultEnvelope := some resultItem
        committedEvidenceManifest := some manifest
        state := .resultCommitted
        collectionState := .ready
        resultCredentialDigest := none
        committedAt := some now }
    let p := observeTime (s, r) now
    let s := store binding.mailboxId p
    (hit env .afterResultCommit >>= fun _ => .ok (snapshotOf p.2),
      { s with totalCommittedBytes := s.totalCommittedBytes + responseBytes })

/-- How collection, acknowledgement, abandonment and snapshots begin. -/
def collectionAccess (mailboxId : Uuid) (collectionCredentialDigest : Bytes) (env : Env) :
    Except Failure (Record × (List EvidenceUpload × Option Bytes) × Datetime) := do
  let r ← record s mailboxId
  requireCredential r.collectionCredentialDigest collectionCredentialDigest
  let material ← validatedRecordMaterial cfg r
  let now ← validatedRecordNow s r env.clock
  return (r, material, now)

def collect (mailboxId : Uuid) (collectionCredentialDigest : Bytes) (env : Env) :
    Except Failure CommittedBundle × Repository :=
  attempt s (do
    let (r, material, now) ← collectionAccess cfg s mailboxId collectionCredentialDigest env
    ensure (r.collectionState ≠ .acknowledged) (.denied .replay)
    ensure (r.state = .resultCommitted ∧ r.resultEnvelope ≠ none) (.denied .invalidState)
    ensure (r.collectionState = .ready ∨ r.collectionState = .delivering) uncertain
    match material.2 with
    | none => .error uncertain
    | some resultJson =>
      return (r, (⟨r.binding, resultJson, material.1⟩ : BundleFields), now))
    fun (r, fields, now) =>
  (CommittedBundle.make fields,
    store mailboxId (observeTime (s, { r with collectionState := .delivering }) now))

def acknowledgeCollection (mailboxId : Uuid) (collectionCredentialDigest : Bytes) (env : Env) :
    Except Failure MailboxSnapshot × Repository :=
  attempt s (collectionAccess cfg s mailboxId collectionCredentialDigest env) fun (r, _, now) =>
  if r.collectionState = .acknowledged then
    let p := observeTime (s, r) now
    (.ok (snapshotOf p.2), store mailboxId p)
  else
    attempt s (do
      ensure (r.state = .resultCommitted ∧ r.collectionState = .delivering) (.denied .invalidState)
      hit env .beforeCollectionAck) fun _ =>
    let p := releaseRecordPayloads (s, r)
    let r : Record := { p.2 with collectionState := .acknowledged, terminalAt := some now }
    let p := observeTime (p.1, r) now
    (hit env .afterCollectionAck >>= fun _ => .ok (snapshotOf p.2), store mailboxId p)

def abandon (mailboxId : Uuid) (collectionCredentialDigest : Bytes) (env : Env) :
    Except Failure MailboxSnapshot × Repository :=
  attempt s (collectionAccess cfg s mailboxId collectionCredentialDigest env) fun (r, _, now) =>
  match expireIfDue (s, r) now with
  | some p => (.error (.denied .expired), store mailboxId p)
  | none =>
    attempt s (ensure (r.state.isOpen = true) (.denied .invalidState)) fun _ =>
    let p := clearActionMaterial (s, r)
    let p := observeTime (p.1, { p.2 with state := .abandoned, terminalAt := some now }) now
    (.ok (snapshotOf p.2), store mailboxId p)

def snapshot (mailboxId : Uuid) (collectionCredentialDigest : Bytes) (env : Env) :
    Except Failure MailboxSnapshot × Repository :=
  attempt s (collectionAccess cfg s mailboxId collectionCredentialDigest env) fun (r, _, now) =>
  let p := (expireIfDue (s, r) now).getD (observeTime (s, r) now)
  (.ok (snapshotOf p.2), store mailboxId p)

/-! ### Sweeps over the installation -/

/-- How the two sweeps begin: every record is authenticated and none was seen later than now. -/
def maintenanceAccess (maintenanceCredentialDigest : Bytes) (env : Env) :
    Except Failure Datetime := do
  requireMaintenance cfg maintenanceCredentialDigest
  let _ ← s.records.values.mapM (validatedRecordMaterial cfg)
  let now ← validatedInstallationNow s env.clock
  ensure (∀ r ∈ s.records.values, r.lastSeenUtc ≤ now) uncertain
  return now

def expireStep (now : Datetime) (acc : Repository × List Uuid) (e : Uuid × Record) :
    Repository × List Uuid :=
  match expireIfDue (acc.1, e.2) now with
  | some p =>
    if e.2.state ≠ .expired then (store e.1 p, acc.2 ++ [e.2.binding.mailboxId])
    else (store e.1 (observeTime p now), acc.2)
  | none => (store e.1 (observeTime (acc.1, e.2) now), acc.2)

def expire (maintenanceCredentialDigest : Bytes) (env : Env) :
    Except Failure (List Uuid) × Repository :=
  attempt s (maintenanceAccess cfg s maintenanceCredentialDigest env) fun now =>
  let acc := s.records.entries.foldl (expireStep now) (s, [])
  (.ok (Uuid.sorted acc.2), advanceInstallationTime acc.1 now)

/-- Records are collected by the time they ended, then by the text of their identifier. -/
def gcLe (now : Datetime) (a b : Uuid × Record) : Prop :=
  a.2.terminalAt.getD now < b.2.terminalAt.getD now ∨
    a.2.terminalAt.getD now = b.2.terminalAt.getD now ∧ Uuid.leStr a.1 b.1

instance (now : Datetime) : DecidableRel (gcLe now) := fun _ _ => inferInstanceAs (Decidable (_ ∨ _))

def terminalDue (now : Datetime) (r : Record) : Bool :=
  r.terminalAt.any fun t => t.val + cfg.limits.terminalRetention ≤ now.val

def gcStep (now expiresAt : Datetime) (acc : Repository × List Uuid) (e : Uuid × Record) :
    Repository × List Uuid :=
  if terminalDue cfg now e.2 ∧ acc.1.tombstones.size < cfg.limits.maxTombstones then
    let s := (discardRecord (acc.1, e.2)).1
    ({ s with
        records := s.records.erase e.1
        tombstones := s.tombstones.set e.1 ⟨now, expiresAt⟩ }, acc.2 ++ [e.1])
  else acc

def garbageCollect (maintenanceCredentialDigest : Bytes) (env : Env) :
    Except Failure (List Uuid) × Repository :=
  attempt s (do
    let now ← maintenanceAccess cfg s maintenanceCredentialDigest env
    match now.add cfg.limits.tombstoneRetention with
    | none => .error uncertain
    | some expiresAt => return (now, expiresAt)) fun (now, expiresAt) =>
  let s := { s with records := s.records.mapValues fun r => { r with lastSeenUtc := now } }
  let s := advanceInstallationTime s now
  let s := { s with tombstones := s.tombstones.filter fun _ t => now < t.expiresAt }
  let ordered := s.records.entries.insertionSort (gcLe now)
  let acc := ordered.foldl (gcStep cfg now expiresAt) (s, [])
  (.ok (Uuid.sorted acc.2), acc.1)

end

/-! ### The machine -/

inductive Call where
  | create (binding : ActionBinding) (actionCredentialDigest claimCredentialDigest
      collectionCredentialDigest : Bytes)
  | offer (binding : ActionBinding) (envelopeJson actionKey actionCredentialDigest
      collectionCredentialDigest resultCredential resultCredentialDigest : Bytes)
  | claim (binding : ActionBinding) (claimCredentialDigest : Bytes)
  | stageEvidence (binding : ActionBinding) (resultCredentialDigest : Bytes)
      (evidence : EvidenceUpload)
  | commitResult (binding : ActionBinding) (resultCredentialDigest resultJson : Bytes)
      (evidenceSeals : List EvidenceSeal)
  | collect (mailboxId : Uuid) (collectionCredentialDigest : Bytes)
  | acknowledgeCollection (mailboxId : Uuid) (collectionCredentialDigest : Bytes)
  | abandon (mailboxId : Uuid) (collectionCredentialDigest : Bytes)
  | expire (maintenanceCredentialDigest : Bytes)
  | garbageCollect (maintenanceCredentialDigest : Bytes)
  | snapshot (mailboxId : Uuid) (collectionCredentialDigest : Bytes)
deriving DecidableEq

inductive Reply where
  | snapshot (value : MailboxSnapshot)
  | claimed (value : ClaimedAction)
  | bundle (value : CommittedBundle)
  | ids (value : List Uuid)
deriving DecidableEq

/-- The mailbox that a call names; the sweeps name none. -/
def Call.target : Call → Option Uuid
  | .create b .. | .offer b .. | .claim b _ | .stageEvidence b .. | .commitResult b .. =>
    some b.mailboxId
  | .collect id _ | .acknowledgeCollection id _ | .abandon id _ | .snapshot id _ => some id
  | .expire _ | .garbageCollect _ => none

abbrev Outcome := Except Failure Reply

def reply {α : Type} (f : α → Reply) (p : Except Failure α × Repository) : Outcome × Repository :=
  (p.1.map f, p.2)

def apply (cfg : Config) (s : Repository) (i : Call × Env) : Outcome × Repository :=
  match i.1 with
  | .create b a c k => reply .snapshot (create cfg s b a c k i.2)
  | .offer b e key a k rc rd => reply .snapshot (offer cfg s b e key a k rc rd i.2)
  | .claim b d => reply .claimed (claim cfg s b d i.2)
  | .stageEvidence b d e => reply .snapshot (stageEvidence cfg s b d e i.2)
  | .commitResult b d j seals => reply .snapshot (commitResult cfg s b d j seals i.2)
  | .collect id d => reply .bundle (collect cfg s id d i.2)
  | .acknowledgeCollection id d => reply .snapshot (acknowledgeCollection cfg s id d i.2)
  | .abandon id d => reply .snapshot (abandon cfg s id d i.2)
  | .expire d => reply .ids (expire cfg s d i.2)
  | .garbageCollect d => reply .ids (garbageCollect cfg s d i.2)
  | .snapshot id d => reply .snapshot (snapshot cfg s id d i.2)

end MyCogni.Mailbox
