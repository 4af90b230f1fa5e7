import MyCogni.Base.Base64
import MyCogni.Mailbox.Semantics

/-! The canonical codec of the persistent adapter: the wire form of a repository, and what is read
back from one. -/

namespace MyCogni.Mailbox

def frameVersion : Int := 1

/-! ### Values -/

def MailboxState.value : MailboxState → Text
  | .empty => "empty".toList
  | .offered => "offered".toList
  | .claimedOnce => "claimed_once".toList
  | .resultCommitted => "result_committed".toList
  | .expired => "expired".toList
  | .abandoned => "abandoned".toList

def MailboxState.ofText (t : Text) : Option MailboxState :=
  [empty, offered, claimedOnce, resultCommitted, expired, abandoned].find? fun s => s.value = t

def CollectionState.value : CollectionState → Text
  | .none => "none".toList
  | .ready => "ready".toList
  | .delivering => "delivering".toList
  | .acknowledged => "acknowledged".toList

def CollectionState.ofText (t : Text) : Option CollectionState :=
  [none, ready, delivering, acknowledged].find? fun s => s.value = t

def bytesWire (b : Bytes) : Json := .str (Base64.encode b)

def bytesFromWire (lower upper : Nat) : Json → Option Bytes
  | .str t => do
    let b ← Base64.decode t
    guard (lower ≤ b.length ∧ b.length ≤ upper)
    some b
  | _ => none

def datetimeWire (t : Datetime) : Json := .str t.isoformat

def datetimeFromWire : Json → Option Datetime
  | .str t => Datetime.fromIsoformat t
  | _ => none

def uuidWire (id : Uuid) : Json := .str id.str

def uuidFromWire : Json → Option Uuid
  | .str t => do
    let id ← Uuid.parse t
    guard (id.isV4 = true ∧ id.str = t)
    some id
  | _ => none

def textFromWire : Json → Option Text
  | .str t => some t
  | _ => none

def intFromWire : Json → Option Int
  | .int i => some i
  | _ => none

def listFromWire : Json → Option (List Json)
  | .arr items => some items
  | _ => none

def nullableWire {α : Type} (wire : α → Json) : Option α → Json
  | none => .null
  | some a => wire a

def nullableFromWire {α : Type} (read : Json → Option α) : Json → Option (Option α)
  | .null => some none
  | j => (read j).map some

/-! ### Records -/

/-- The entries of a dictionary in the order of the texts of their keys. -/
def ordered {ν : Type} (d : Dict Uuid ν) : List (Uuid × ν) :=
  (Uuid.sorted d.keys).filterMap fun id => (d.get? id).map fun v => (id, v)

/-- Read the items of a list into a dictionary without repeated keys. -/
def dictFromWire {ν : Type} (read : Json → Option (Uuid × ν)) (items : List Json) :
    Option (Dict Uuid ν) :=
  items.foldlM (fun d item => do
    let e ← read item
    guard (d.contains e.1 = false)
    some (d.set e.1 e.2)) .empty

def bindingNames : List String := ["mailbox_id", "action_id", "intent_id", "attempt_id",
    "connector_release", "capability", "selected_artifact_digest", "dispatch_epoch", "fence",
    "authorization_epoch", "claim_deadline_utc", "deadline_utc", "wall_seconds",
    "response_bytes", "envelope_digest"]

def bindingFields (b : ActionBinding) : List (Text × Json) :=
  [("mailbox_id".toList, uuidWire b.mailboxId), ("action_id".toList, uuidWire b.actionId),
   ("intent_id".toList, uuidWire b.intentId), ("attempt_id".toList, uuidWire b.attemptId),
   ("connector_release".toList, .str b.connectorRelease), ("capability".toList, .str b.capability),
   ("selected_artifact_digest".toList, .str b.selectedArtifactDigest),
   ("dispatch_epoch".toList, .int b.dispatchEpoch), ("fence".toList, .int b.fence),
   ("authorization_epoch".toList, .int b.authorizationEpoch),
   ("claim_deadline_utc".toList, datetimeWire b.claimDeadlineUtc),
   ("deadline_utc".toList, datetimeWire b.deadlineUtc), ("wall_seconds".toList, .int b.wallSeconds),
   ("response_bytes".toList, .int b.responseBytes), ("envelope_digest".toList, .str b.envelopeDigest)]

def bindingWire (b : ActionBinding) : Json := .obj (bindingFields b)

def bindingFromWire (j : Json) : Option ActionBinding := do
  j.exactMapping bindingNames
  let mailboxId ← j.field "mailbox_id" >>= uuidFromWire
  let actionId ← j.field "action_id" >>= uuidFromWire
  let intentId ← j.field "intent_id" >>= uuidFromWire
  let attemptId ← j.field "attempt_id" >>= uuidFromWire
  let connectorRelease ← j.field "connector_release" >>= textFromWire
  let capability ← j.field "capability" >>= textFromWire
  let selectedArtifactDigest ← j.field "selected_artifact_digest" >>= textFromWire
  let dispatchEpoch ← j.field "dispatch_epoch" >>= intFromWire
  let fence ← j.field "fence" >>= intFromWire
  let authorizationEpoch ← j.field "authorization_epoch" >>= intFromWire
  let claimDeadlineUtc ← j.field "claim_deadline_utc" >>= datetimeFromWire
  let deadlineUtc ← j.field "deadline_utc" >>= datetimeFromWire
  let wallSeconds ← j.field "wall_seconds" >>= intFromWire
  let responseBytes ← j.field "response_bytes" >>= intFromWire
  let envelopeDigest ← j.field "envelope_digest" >>= textFromWire
  (ActionBinding.make ⟨mailboxId, actionId, intentId, attemptId, connectorRelease, capability,
    selectedArtifactDigest, dispatchEpoch, fence, authorizationEpoch, claimDeadlineUtc, deadlineUtc,
    wallSeconds, responseBytes, envelopeDigest⟩).toOption

def evidenceNames : List String := ["object_id", "kind", "byte_count", "storage_digest",
    "semantic_mac", "nonce", "wrapped_payload"]

def evidenceFields (item : WrappedEvidence) : List (Text × Json) :=
  [("object_id".toList, uuidWire item.objectId), ("kind".toList, .str item.kind),
   ("byte_count".toList, .int item.byteCount), ("storage_digest".toList, bytesWire item.storageDigest),
   ("semantic_mac".toList, bytesWire item.semanticMac), ("nonce".toList, bytesWire item.nonce),
   ("wrapped_payload".toList, bytesWire item.wrappedPayload)]

def evidenceWire (item : WrappedEvidence) : Json := .obj (evidenceFields item)

def evidenceFromWire (limits : MailboxLimits) (j : Json) : Option WrappedEvidence := do
  j.exactMapping evidenceNames
  let objectId ← j.field "object_id" >>= uuidFromWire
  let kind ← j.field "kind" >>= textFromWire
  let byteCount ← j.field "byte_count" >>= intFromWire
  let storageDigest ← j.field "storage_digest" >>= bytesFromWire 32 32
  let semanticMac ← j.field "semantic_mac" >>= bytesFromWire 32 32
  let nonce ← j.field "nonce" >>= bytesFromWire 12 12
  let wrappedPayload ← j.field "wrapped_payload" >>=
    bytesFromWire 16 (limits.maxTotalEvidenceBytes + 128)
  some ⟨objectId, kind, byteCount, storageDigest, semanticMac, nonce, wrappedPayload⟩

def resultNames : List String := ["byte_count", "storage_digest", "semantic_mac", "nonce",
    "wrapped_payload"]

def resultFields (item : WrappedResult) : List (Text × Json) :=
  [("byte_count".toList, .int item.byteCount),
   ("storage_digest".toList, bytesWire item.storageDigest),
   ("semantic_mac".toList, bytesWire item.semanticMac), ("nonce".toList, bytesWire item.nonce),
   ("wrapped_payload".toList, bytesWire item.wrappedPayload)]

def resultWire (item : WrappedResult) : Json := .obj (resultFields item)

def resultFromWire (j : Json) : Option WrappedResult := do
  j.exactMapping resultNames
  let byteCount ← j.field "byte_count" >>= intFromWire
  let storageDigest ← j.field "storage_digest" >>= bytesFromWire 32 32
  let semanticMac ← j.field "semantic_mac" >>= bytesFromWire 32 32
  let nonce ← j.field "nonce" >>= bytesFromWire 12 12
  let wrappedPayload ← j.field "wrapped_payload" >>= bytesFromWire 16 (1048576 + 128)
  some ⟨byteCount, storageDigest, semanticMac, nonce, wrappedPayload⟩

def manifestNames : List String := ["item_count", "storage_digest", "semantic_mac"]

def manifestFields (item : CommittedEvidenceManifest) : List (Text × Json) :=
  [("item_count".toList, .int item.itemCount),
   ("storage_digest".toList, bytesWire item.storageDigest),
   ("semantic_mac".toList, bytesWire item.semanticMac)]

def manifestWire (item : CommittedEvidenceManifest) : Json := .obj (manifestFields item)

def manifestFromWire (j : Json) : Option CommittedEvidenceManifest := do
  j.exactMapping manifestNames
  let itemCount ← j.field "item_count" >>= intFromWire
  let storageDigest ← j.field "storage_digest" >>= bytesFromWire 32 32
  let semanticMac ← j.field "semantic_mac" >>= bytesFromWire 32 32
  some ⟨itemCount, storageDigest, semanticMac⟩

def recordNames : List String := ["binding", "created_at", "last_seen_utc",
    "action_credential_digest", "claim_credential_digest", "collection_credential_digest",
    "state", "collection_state", "envelope_json", "action_key", "result_credential",
    "result_credential_digest", "evidence", "result_envelope", "committed_evidence_manifest",
    "committed_at", "terminal_at"]

def recordFields (r : Record) : List (Text × Json) :=
  [("binding".toList, bindingWire r.binding), ("created_at".toList, datetimeWire r.createdAt),
   ("last_seen_utc".toList, datetimeWire r.lastSeenUtc),
   ("action_credential_digest".toList, bytesWire r.actionCredentialDigest),
   ("claim_credential_digest".toList, bytesWire r.claimCredentialDigest),
   ("collection_credential_digest".toList, bytesWire r.collectionCredentialDigest),
   ("state".toList, .str r.state.value), ("collection_state".toList, .str r.collectionState.value),
   ("envelope_json".toList, nullableWire bytesWire r.envelopeJson),
   ("action_key".toList, nullableWire bytesWire r.actionKey),
   ("result_credential".toList, nullableWire bytesWire r.resultCredential),
   ("result_credential_digest".toList, nullableWire bytesWire r.resultCredentialDigest),
   ("evidence".toList, .arr ((ordered r.evidence).map fun e => evidenceWire e.2)),
   ("result_envelope".toList, nullableWire resultWire r.resultEnvelope),
   ("committed_evidence_manifest".toList, nullableWire manifestWire r.committedEvidenceManifest),
   ("committed_at".toList, nullableWire datetimeWire r.committedAt),
   ("terminal_at".toList, nullableWire datetimeWire r.terminalAt)]

def recordWire (r : Record) : Json := .obj (recordFields r)

def recordFromWire (limits : MailboxLimits) (j : Json) : Option Record := do
  j.exactMapping recordNames
  let items ← j.field "evidence" >>= listFromWire
  guard (items.length ≤ 64)
  let evidence ← dictFromWire (fun item => do
    let item ← evidenceFromWire limits item
    some (item.objectId, item)) items
  let binding ← j.field "binding" >>= bindingFromWire
  let createdAt ← j.field "created_at" >>= datetimeFromWire
  let lastSeenUtc ← j.field "last_seen_utc" >>= datetimeFromWire
  let actionCredentialDigest ← j.field "action_credential_digest" >>= bytesFromWire 32 32
  let claimCredentialDigest ← j.field "claim_credential_digest" >>= bytesFromWire 32 32
  let collectionCredentialDigest ← j.field "collection_credential_digest" >>= bytesFromWire 32 32
  let state ← j.field "state" >>= textFromWire >>= MailboxState.ofText
  let collectionState ← j.field "collection_state" >>= textFromWire >>= CollectionState.ofText
  let envelopeJson ← j.field "envelope_json" >>= nullableFromWire (bytesFromWire 1 8388608)
  let actionKey ← j.field "action_key" >>= nullableFromWire (bytesFromWire 32 32)
  let resultCredential ← j.field "result_credential" >>= nullableFromWire (bytesFromWire 32 128)
  let resultCredentialDigest ← j.field "result_credential_digest" >>=
    nullableFromWire (bytesFromWire 32 32)
  let resultEnvelope ← j.field "result_envelope" >>= nullableFromWire resultFromWire
  let committedEvidenceManifest ← j.field "committed_evidence_manifest" >>=
    nullableFromWire manifestFromWire
  let committedAt ← j.field "committed_at" >>= nullableFromWire datetimeFromWire
  let terminalAt ← j.field "terminal_at" >>= nullableFromWire datetimeFromWire
  some ⟨binding, createdAt, lastSeenUtc, actionCredentialDigest, claimCredentialDigest,
    collectionCredentialDigest, state, collectionState, envelopeJson, actionKey, resultCredential,
    resultCredentialDigest, evidence, resultEnvelope, committedEvidenceManifest, committedAt,
    terminalAt⟩

def tombstoneNames : List String := ["mailbox_id", "created_at", "expires_at"]

def tombstoneFields (e : Uuid × Tombstone) : List (Text × Json) :=
  [("mailbox_id".toList, uuidWire e.1), ("created_at".toList, datetimeWire e.2.createdAt),
   ("expires_at".toList, datetimeWire e.2.expiresAt)]

def tombstoneWire (e : Uuid × Tombstone) : Json := .obj (tombstoneFields e)

def tombstoneFromWire (j : Json) : Option (Uuid × Tombstone) := do
  j.exactMapping tombstoneNames
  let mailboxId ← j.field "mailbox_id" >>= uuidFromWire
  let createdAt ← j.field "created_at" >>= datetimeFromWire
  let expiresAt ← j.field "expires_at" >>= datetimeFromWire
  some (mailboxId, ⟨createdAt, expiresAt⟩)

/-! ### States -/

def stateNames : List String := ["version", "records", "tombstones",
    "installation_last_seen_utc", "total_active_material_bytes", "total_evidence_bytes",
    "total_committed_bytes"]

def stateFields (s : Repository) : List (Text × Json) :=
  [("version".toList, .int frameVersion),
   ("records".toList, .arr ((ordered s.records).map fun e => recordWire e.2)),
   ("tombstones".toList, .arr ((ordered s.tombstones).map tombstoneWire)),
   ("installation_last_seen_utc".toList, nullableWire datetimeWire s.installationLastSeenUtc),
   ("total_active_material_bytes".toList, .int s.totalActiveMaterialBytes),
   ("total_evidence_bytes".toList, .int s.totalEvidenceBytes),
   ("total_committed_bytes".toList, .int s.totalCommittedBytes)]

def stateWire (s : Repository) : Json := .obj (stateFields s)

/-- The canonical text, or nothing where an integer of the state is too long to be rendered. -/
def encodeState (s : Repository) : Option Bytes := (stateWire s).dumps

def maxFrameOverhead : Nat := 8388608

def MailboxLimits.maxSerializedBytes (limits : MailboxLimits) : Nat :=
  limits.maxTotalActiveMaterialBytes + limits.maxTotalEvidenceBytes +
    limits.maxTotalCommittedBytes + maxFrameOverhead

def stateFromWire (limits : MailboxLimits) (j : Json) : Option Repository := do
  j.exactMapping stateNames
  let version ← j.field "version" >>= intFromWire
  guard (version = frameVersion)
  let recordItems ← j.field "records" >>= listFromWire
  let tombstoneItems ← j.field "tombstones" >>= listFromWire
  guard (recordItems.length ≤ limits.maxMailboxes ∧ tombstoneItems.length ≤ limits.maxTombstones)
  let records ← dictFromWire (fun item => do
    let r ← recordFromWire limits item
    some (r.binding.mailboxId, r)) recordItems
  let tombstones ← dictFromWire (fun item => do
    let e ← tombstoneFromWire item
    guard (records.contains e.1 = false)
    some e) tombstoneItems
  let active ← j.field "total_active_material_bytes" >>= intFromWire
  let evidence ← j.field "total_evidence_bytes" >>= intFromWire
  let committed ← j.field "total_committed_bytes" >>= intFromWire
  guard (0 ≤ active ∧ 0 ≤ evidence ∧ 0 ≤ committed)
  let lastSeen ← j.field "installation_last_seen_utc" >>= nullableFromWire datetimeFromWire
  some ⟨records, tombstones, lastSeen, active, evidence, committed⟩

def decodeState (limits : MailboxLimits) (encoded : Bytes) : Option Repository := do
  guard (encoded ≠ [] ∧ encoded.length ≤ limits.maxSerializedBytes)
  let decoded ← Json.loads encoded
  guard (decoded.dumps = some encoded)
  stateFromWire limits decoded


/-! ### Reading back single values -/

section
variable {α ν : Type}

/-- What follows a reading, when it is known exactly what can be read. -/
theorem bind_read {β : Type} {x : Option α} {p : Prop} {a : α}
    (h : ∀ a', x = some a' ↔ p ∧ a = a') {f : α → Option β} {b : β} :
    x.bind f = some b ↔ p ∧ f a = some b := by
  rw [Option.bind_eq_some_iff]
  constructor
  · rintro ⟨a', ha, hb⟩
    obtain ⟨hp, rfl⟩ := (h a').mp ha
    exact ⟨hp, hb⟩
  · rintro ⟨hp, hb⟩
    exact ⟨a, (h a).mpr ⟨hp, rfl⟩, hb⟩

theorem bind_guard {β : Type} {c : Prop} [Decidable c] {f : Unit → Option β} {b : β} :
    (guard c : Option Unit).bind f = some b ↔ c ∧ f () = some b := by
  by_cases h : c
  · simp [guard, h]
  · simp [guard, h]

@[simp] theorem textFromWire_str (t : Text) : textFromWire (Json.str t).sortKeys = some t := by
  rw [Json.sortKeys, textFromWire]

@[simp] theorem intFromWire_int (i : Int) : intFromWire (Json.int i).sortKeys = some i := by
  rw [Json.sortKeys, intFromWire]

@[simp] theorem listFromWire_arr (items : List Json) :
    listFromWire (Json.arr items).sortKeys = some (items.map Json.sortKeys) := by
  rw [Json.sortKeys, listFromWire, sortItems_eq]

/-- The bytes are of a length that is read back. -/
def Bounded (lower upper : Nat) (b : Bytes) : Prop := lower ≤ b.length ∧ b.length ≤ upper

theorem bytesFromWire_bytesWire {lower upper : Nat} {b b' : Bytes} :
    bytesFromWire lower upper (bytesWire b).sortKeys = some b' ↔ Bounded lower upper b ∧ b = b' := by
  rw [bytesWire, Json.sortKeys, bytesFromWire, Base64.decode_encode, Bounded]
  simp only [Option.bind_eq_bind, Option.bind_some, bind_guard, Option.some.injEq]

@[simp] theorem datetimeFromWire_datetimeWire (t : Datetime) :
    datetimeFromWire (datetimeWire t).sortKeys = some t := by
  rw [datetimeWire, Json.sortKeys, datetimeFromWire, Datetime.fromIsoformat_isoformat]

theorem uuidFromWire_uuidWire {id id' : Uuid} :
    uuidFromWire (uuidWire id).sortKeys = some id' ↔ id.isV4 = true ∧ id = id' := by
  rw [uuidWire, Json.sortKeys, uuidFromWire, Uuid.parse_str]
  simp only [Option.bind_eq_bind, Option.bind_some, bind_guard, Option.some.injEq, and_true]

@[simp] theorem MailboxState.ofText_value (state : MailboxState) :
    ofText state.value = some state := by
  cases state <;> rfl

@[simp] theorem CollectionState.ofText_value (state : CollectionState) :
    ofText state.value = some state := by
  cases state <;> rfl

theorem nullableFromWire_nullableWire {wire : α → Json} {read : Json → Option α} {p : α → Prop}
    (hnull : ∀ a, (wire a).sortKeys ≠ .null)
    (hread : ∀ a a', read (wire a).sortKeys = some a' ↔ p a ∧ a = a') {o o' : Option α} :
    nullableFromWire read (nullableWire wire o).sortKeys = some o' ↔ (∀ a ∈ o, p a) ∧ o = o' := by
  cases o with
  | none =>
    rw [nullableWire, Json.sortKeys, nullableFromWire, Option.some.injEq]
    simp
  | some a =>
    have hmap : nullableFromWire read (nullableWire wire (some a)).sortKeys =
        (read (wire a).sortKeys).map some := by
      have ha := hnull a
      rw [nullableWire]
      generalize (wire a).sortKeys = j at ha ⊢
      cases j with
      | null => exact absurd rfl ha
      | bool | int | str | arr | obj => rfl
    rw [hmap, Option.map_eq_some_iff]
    simp only [hread, Option.mem_def, Option.some.injEq, forall_eq']
    constructor
    · rintro ⟨a', ⟨hp, rfl⟩, ho⟩
      exact ⟨hp, ho⟩
    · rintro ⟨hp, ho⟩
      exact ⟨a, ⟨hp, rfl⟩, ho⟩

theorem nullableBytes {lower upper : Nat} {o o' : Option Bytes} :
    nullableFromWire (bytesFromWire lower upper) (nullableWire bytesWire o).sortKeys = some o' ↔
      (∀ b ∈ o, Bounded lower upper b) ∧ o = o' :=
  nullableFromWire_nullableWire (fun _ => by simp [bytesWire, Json.sortKeys])
    fun _ _ => bytesFromWire_bytesWire

@[simp] theorem nullableDatetime (o : Option Datetime) :
    nullableFromWire datetimeFromWire (nullableWire datetimeWire o).sortKeys = some o := by
  refine (nullableFromWire_nullableWire (p := fun _ => True) ?_ ?_).mpr ⟨fun _ _ => trivial, rfl⟩
  · simp [datetimeWire, Json.sortKeys]
  · simp

/-! ### Reading back dictionaries -/

theorem ordered_fst (d : Dict Uuid ν) : (ordered d).map Prod.fst = Uuid.sorted d.keys := by
  have hall : ∀ ids : List Uuid, (∀ id ∈ ids, id ∈ d.keys) →
      (ids.filterMap fun id => (d.get? id).map fun v => (id, v)).map Prod.fst = ids := by
    intro ids hids
    induction ids with
    | nil => rfl
    | cons id ids ih =>
      rw [List.forall_mem_cons] at hids
      obtain ⟨v, hv⟩ := Dict.mem_keys.mp hids.1
      rw [List.filterMap_cons, hv, Option.map_some, List.map_cons, ih hids.2]
  exact hall _ fun id hid => (Uuid.sorted_perm d.keys).mem_iff.mp hid

theorem mem_ordered {d : Dict Uuid ν} {e : Uuid × ν} : e ∈ ordered d ↔ d.get? e.1 = some e.2 := by
  rw [ordered, List.mem_filterMap]
  constructor
  · rintro ⟨id, -, he⟩
    obtain ⟨v, hv, rfl⟩ := Option.map_eq_some_iff.mp he
    exact hv
  · intro he
    refine ⟨e.1, (Uuid.sorted_perm _).mem_iff.mpr (Dict.mem_keys.mpr ⟨_, he⟩), ?_⟩
    rw [he]
    rfl

theorem length_ordered (d : Dict Uuid ν) : (ordered d).length = d.size := by
  have h := congrArg List.length (ordered_fst d)
  rw [List.length_map, (Uuid.sorted_perm d.keys).length_eq] at h
  rw [h, Dict.length_keys]

/-- The dictionary in the order in which it is encoded. -/
def sortedDict (d : Dict Uuid ν) : Dict Uuid ν where
  entries := ordered d
  nodup := by
    rw [ordered_fst]
    exact (Uuid.sorted_perm d.keys).nodup_iff.mpr d.nodup

@[simp] theorem get?_sortedDict (d : Dict Uuid ν) (id : Uuid) : (sortedDict d).get? id = d.get? id := by
  refine Option.ext fun v => ?_
  rw [Dict.get?_eq_some]
  exact mem_ordered

theorem ordered_congr {d d' : Dict Uuid ν} (h : ∀ id, d.get? id = d'.get? id) :
    ordered d = ordered d' := by
  have hkeys : d.keys.Perm d'.keys := by
    refine Dict.keys_perm fun id => ?_
    rw [Dict.mem_keys, Dict.mem_keys, h]
  rw [ordered, ordered, Uuid.sorted_congr hkeys]
  exact congrArg (fun f => List.filterMap f _) (funext fun id => by rw [h])

theorem dictFromWire_eq_some {read : Json → Option (Uuid × ν)} {items : List Json}
    {d : Dict Uuid ν} : dictFromWire read items = some d ↔
      List.Forall₂ (fun item e => read item = some e) items d.entries := by
  -- the fold appends the entries that it reads to those it has
  have hall : ∀ (items : List Json) (d₀ d : Dict Uuid ν),
      items.foldlM (fun d item => do
        let e ← read item
        guard (d.contains e.1 = false)
        some (d.set e.1 e.2)) d₀ = some d ↔
      ∃ es, List.Forall₂ (fun item e => read item = some e) items es ∧
        d.entries = d₀.entries ++ es := by
    intro items
    induction items with
    | nil =>
      intro d₀ d
      simp only [List.foldlM_nil, List.forall₂_nil_left_iff, exists_eq_left, List.append_nil]
      constructor
      · intro h
        exact congrArg Dict.entries (Option.some.inj h).symm
      · intro h
        exact congrArg some (Dict.ext_entries h.symm)
    | cons item items ih =>
      intro d₀ d
      rw [List.foldlM_cons, Option.bind_eq_bind, Option.bind_eq_some_iff]
      constructor
      · rintro ⟨d₁, hstep, hrest⟩
        rw [Option.bind_eq_bind, Option.bind_eq_some_iff] at hstep
        obtain ⟨e, hread, hstep⟩ := hstep
        rw [Option.bind_eq_bind, bind_guard] at hstep
        obtain ⟨hcontains, hset⟩ := hstep
        obtain rfl := Option.some.inj hset
        obtain ⟨es, hes, hentries⟩ := (ih _ _).mp hrest
        refine ⟨e :: es, .cons hread hes, ?_⟩
        rw [hentries, Dict.entries_set_of_none (Dict.contains_eq_false.mp hcontains),
          List.append_assoc, List.singleton_append]
      · rintro ⟨es, hes, hentries⟩
        cases hes with
        | @cons _ e _ es hread hes =>
          have hnew : d₀.get? e.1 = none := by
            have hnodup := d.nodup
            rw [hentries, List.map_append, List.nodup_append, List.map_cons] at hnodup
            rw [Dict.get?_eq_none]
            exact fun hmem => hnodup.2.2 _ hmem _ (List.mem_cons_self ..) rfl
          refine ⟨d₀.set e.1 e.2, ?_, (ih _ _).mpr ⟨es, hes, ?_⟩⟩
          · rw [Option.bind_eq_bind, Option.bind_eq_some_iff]
            refine ⟨e, hread, ?_⟩
            rw [Option.bind_eq_bind, bind_guard]
            exact ⟨Dict.contains_eq_false.mpr hnew, rfl⟩
          · rw [Dict.entries_set_of_none hnew, List.append_assoc, List.singleton_append, hentries]
  rw [dictFromWire, hall]
  constructor
  · rintro ⟨es, hes, hentries⟩
    rw [hentries]
    exact hes
  · exact fun h => ⟨d.entries, h, rfl⟩

theorem forall₂_read {β : Type} {read : Json → Option β} {f : α → Json} {g : α → β} {p : α → Prop}
    {l : List α} (h : ∀ a ∈ l, ∀ b, read (f a) = some b ↔ p a ∧ g a = b) (l' : List β) :
    List.Forall₂ (fun j b => read j = some b) (l.map f) l' ↔ (∀ a ∈ l, p a) ∧ l.map g = l' := by
  induction l generalizing l' with
  | nil =>
    rw [List.map_nil, List.forall₂_nil_left_iff]
    simp [eq_comm]
  | cons a l ih =>
    rw [List.forall_mem_cons] at h
    cases l' with
    | nil => simp
    | cons b l' =>
      rw [List.map_cons, List.forall₂_cons, h.1, ih h.2, List.forall_mem_cons, List.map_cons,
        List.cons.injEq]
      tauto

theorem dictFromWire_ordered {read : Json → Option (Uuid × ν)} {wire : Uuid × ν → Json}
    {g : ν → ν} {p : Uuid → ν → Prop} {d d' : Dict Uuid ν}
    (hread : ∀ id v, d.get? id = some v → ∀ e, read (wire (id, v)).sortKeys = some e ↔
      p id v ∧ (id, g v) = e) :
    dictFromWire read (((ordered d).map wire).map Json.sortKeys) = some d' ↔
      (∀ id v, d.get? id = some v → p id v) ∧ (sortedDict d).mapValues g = d' := by
  have hiff : List.Forall₂ (fun j e => read j = some e) ((ordered d).map (Json.sortKeys ∘ wire))
      d'.entries ↔ (∀ e ∈ ordered d, p e.1 e.2) ∧
        (ordered d).map (fun e => (e.1, g e.2)) = d'.entries :=
    forall₂_read (fun e he => hread e.1 e.2 (mem_ordered.mp he)) d'.entries
  rw [dictFromWire_eq_some, List.map_map, hiff]
  constructor
  · rintro ⟨hp, hentries⟩
    exact ⟨fun id v hv => hp (id, v) (mem_ordered.mpr hv), Dict.ext_entries hentries⟩
  · rintro ⟨hp, rfl⟩
    exact ⟨fun e he => hp e.1 e.2 (mem_ordered.mp he), rfl⟩

end

/-! ### Reading back records -/

section
variable {limits : MailboxLimits}

def WrappedEvidence.Fits (limits : MailboxLimits) (item : WrappedEvidence) : Prop :=
  item.objectId.isV4 = true ∧ Bounded 32 32 item.storageDigest ∧ Bounded 32 32 item.semanticMac ∧
    Bounded 12 12 item.nonce ∧ Bounded 16 (limits.maxTotalEvidenceBytes + 128) item.wrappedPayload

def WrappedResult.Fits (item : WrappedResult) : Prop :=
  Bounded 32 32 item.storageDigest ∧ Bounded 32 32 item.semanticMac ∧ Bounded 12 12 item.nonce ∧
    Bounded 16 (1048576 + 128) item.wrappedPayload

def CommittedEvidenceManifest.Fits (item : CommittedEvidenceManifest) : Prop :=
  Bounded 32 32 item.storageDigest ∧ Bounded 32 32 item.semanticMac

theorem evidenceWire_field (item : WrappedEvidence) (name : String) :
    (evidenceWire item).sortKeys.field name =
      ((evidenceFields item).lookup name.toList).map Json.sortKeys :=
  field_sortKeys (show _ = evidenceNames.map String.toList from rfl) (by decide) name

theorem evidenceFromWire_evidenceWire {item item' : WrappedEvidence} :
    evidenceFromWire limits (evidenceWire item).sortKeys = some item' ↔
      item.Fits limits ∧ item = item' := by
  have hmapping : (evidenceWire item).sortKeys.exactMapping evidenceNames = some () :=
    exactMapping_sortKeys rfl
  unfold evidenceFromWire
  simp only [hmapping, evidenceWire_field, evidenceFields, lookup_name_head, lookup_name_tail, ne_eq,
    String.reduceEq, not_false_eq_true, Option.map_some, Option.bind_eq_bind, Option.bind_some,
    bind_read (fun _ => uuidFromWire_uuidWire), bind_read (fun _ => bytesFromWire_bytesWire),
    textFromWire_str, intFromWire_int, and_assoc, Option.some.injEq, WrappedEvidence.Fits]

theorem resultWire_field (item : WrappedResult) (name : String) :
    (resultWire item).sortKeys.field name =
      ((resultFields item).lookup name.toList).map Json.sortKeys :=
  field_sortKeys (show _ = resultNames.map String.toList from rfl) (by decide) name

theorem resultFromWire_resultWire {item item' : WrappedResult} :
    resultFromWire (resultWire item).sortKeys = some item' ↔ item.Fits ∧ item = item' := by
  have hmapping : (resultWire item).sortKeys.exactMapping resultNames = some () :=
    exactMapping_sortKeys rfl
  unfold resultFromWire
  simp only [hmapping, resultWire_field, resultFields, lookup_name_head, lookup_name_tail, ne_eq,
    String.reduceEq, not_false_eq_true, Option.map_some, Option.bind_eq_bind, Option.bind_some,
    bind_read (fun _ => bytesFromWire_bytesWire), intFromWire_int, and_assoc, Option.some.injEq,
    WrappedResult.Fits]

theorem manifestWire_field (item : CommittedEvidenceManifest) (name : String) :
    (manifestWire item).sortKeys.field name =
      ((manifestFields item).lookup name.toList).map Json.sortKeys :=
  field_sortKeys (show _ = manifestNames.map String.toList from rfl) (by decide) name

theorem manifestFromWire_manifestWire {item item' : CommittedEvidenceManifest} :
    manifestFromWire (manifestWire item).sortKeys = some item' ↔ item.Fits ∧ item = item' := by
  have hmapping : (manifestWire item).sortKeys.exactMapping manifestNames = some () :=
    exactMapping_sortKeys rfl
  unfold manifestFromWire
  simp only [hmapping, manifestWire_field, manifestFields, lookup_name_head, lookup_name_tail, ne_eq,
    String.reduceEq, not_false_eq_true, Option.map_some, Option.bind_eq_bind, Option.bind_some,
    bind_read (fun _ => bytesFromWire_bytesWire), intFromWire_int, and_assoc, Option.some.injEq,
    CommittedEvidenceManifest.Fits]

theorem tombstoneWire_field (e : Uuid × Tombstone) (name : String) :
    (tombstoneWire e).sortKeys.field name =
      ((tombstoneFields e).lookup name.toList).map Json.sortKeys :=
  field_sortKeys (show _ = tombstoneNames.map String.toList from rfl) (by decide) name

theorem tombstoneFromWire_tombstoneWire {e e' : Uuid × Tombstone} :
    tombstoneFromWire (tombstoneWire e).sortKeys = some e' ↔ e.1.isV4 = true ∧ e = e' := by
  have hmapping : (tombstoneWire e).sortKeys.exactMapping tombstoneNames = some () :=
    exactMapping_sortKeys rfl
  unfold tombstoneFromWire
  simp only [hmapping, tombstoneWire_field, tombstoneFields, lookup_name_head, lookup_name_tail,
    ne_eq, String.reduceEq, not_false_eq_true, Option.map_some, Option.bind_eq_bind,
    Option.bind_some, bind_read (fun _ => uuidFromWire_uuidWire), datetimeFromWire_datetimeWire,
    Option.some.injEq]

theorem bindingWire_field (b : ActionBinding) (name : String) :
    (bindingWire b).sortKeys.field name =
      ((bindingFields b).lookup name.toList).map Json.sortKeys :=
  field_sortKeys (show _ = bindingNames.map String.toList from rfl) (by decide) name

@[simp] theorem bindingFromWire_bindingWire (b : ActionBinding) :
    bindingFromWire (bindingWire b).sortKeys = some b := by
  have hmapping : (bindingWire b).sortKeys.exactMapping bindingNames = some () :=
    exactMapping_sortKeys rfl
  have hvalid := b.valid
  simp only [BindingFields.wellFormed, Bool.and_eq_true] at hvalid
  obtain ⟨⟨⟨hmailbox, haction⟩, hintent⟩, hattempt⟩ := hvalid.1.1.1.1.1.1.1
  unfold bindingFromWire
  simp only [hmapping, bindingWire_field, bindingFields, lookup_name_head, lookup_name_tail, ne_eq,
    String.reduceEq, not_false_eq_true, Option.map_some, Option.bind_eq_bind, Option.bind_some,
    bind_read (fun _ => uuidFromWire_uuidWire), datetimeFromWire_datetimeWire, textFromWire_str,
    intFromWire_int, hmailbox, haction, hintent, hattempt, true_and]
  have hmake : ActionBinding.make ⟨b.mailboxId, b.actionId, b.intentId, b.attemptId,
      b.connectorRelease, b.capability, b.selectedArtifactDigest, b.dispatchEpoch, b.fence,
      b.authorizationEpoch, b.claimDeadlineUtc, b.deadlineUtc, b.wallSeconds, b.responseBytes,
      b.envelopeDigest⟩ = .ok b := ActionBinding.make_self b
  rw [hmake, Except.toOption]

theorem nullableResult {o o' : Option WrappedResult} :
    nullableFromWire resultFromWire (nullableWire resultWire o).sortKeys = some o' ↔
      (∀ item ∈ o, item.Fits) ∧ o = o' :=
  nullableFromWire_nullableWire (fun _ => by simp [resultWire, Json.sortKeys])
    fun _ _ => resultFromWire_resultWire

theorem nullableManifest {o o' : Option CommittedEvidenceManifest} :
    nullableFromWire manifestFromWire (nullableWire manifestWire o).sortKeys = some o' ↔
      (∀ item ∈ o, item.Fits) ∧ o = o' :=
  nullableFromWire_nullableWire (fun _ => by simp [manifestWire, Json.sortKeys])
    fun _ _ => manifestFromWire_manifestWire

/-- Every slot of the record holds the item of its own identifier. -/
def Record.Keyed (r : Record) : Prop :=
  ∀ id item, r.evidence.get? id = some item → item.objectId = id

/-- The bounds that the decoder checks of a record. -/
structure Record.Fits (limits : MailboxLimits) (r : Record) : Prop where
  items : r.evidence.size ≤ 64
  evidence : ∀ id item, r.evidence.get? id = some item → item.Fits limits
  actionCredential : Bounded 32 32 r.actionCredentialDigest
  claimCredential : Bounded 32 32 r.claimCredentialDigest
  collectionCredential : Bounded 32 32 r.collectionCredentialDigest
  envelope : ∀ b ∈ r.envelopeJson, Bounded 1 8388608 b
  actionKey : ∀ b ∈ r.actionKey, Bounded 32 32 b
  resultCredential : ∀ b ∈ r.resultCredential, Bounded 32 128 b
  resultDigest : ∀ b ∈ r.resultCredentialDigest, Bounded 32 32 b
  result : ∀ item ∈ r.resultEnvelope, item.Fits
  manifest : ∀ item ∈ r.committedEvidenceManifest, item.Fits

/-- The record with its evidence in the order in which it is encoded. -/
def Record.canonical (r : Record) : Record := { r with evidence := sortedDict r.evidence }

theorem recordWire_field (r : Record) (name : String) :
    (recordWire r).sortKeys.field name =
      ((recordFields r).lookup name.toList).map Json.sortKeys :=
  field_sortKeys (show _ = recordNames.map String.toList from rfl) (by decide) name

theorem evidenceDict {r : Record} (hr : r.Keyed) {d : Dict Uuid WrappedEvidence} :
    dictFromWire (fun item => (evidenceFromWire limits item).bind fun item =>
        some (item.objectId, item))
      (((ordered r.evidence).map fun e => evidenceWire e.2).map Json.sortKeys) = some d ↔
      (∀ id item, r.evidence.get? id = some item → item.Fits limits) ∧ sortedDict r.evidence = d := by
  rw [dictFromWire_ordered (g := fun item => item) (p := fun _ item => item.Fits limits),
    Dict.mapValues_id]
  intro id item hitem e
  rw [bind_read (fun _ => evidenceFromWire_evidenceWire), Option.some.injEq, hr id item hitem]

theorem recordFromWire_recordWire {r r' : Record} (hr : r.Keyed) :
    recordFromWire limits (recordWire r).sortKeys = some r' ↔
      r.Fits limits ∧ r.canonical = r' := by
  have hmapping : (recordWire r).sortKeys.exactMapping recordNames = some () :=
    exactMapping_sortKeys rfl
  unfold recordFromWire
  simp only [hmapping, recordWire_field, recordFields, lookup_name_head, lookup_name_tail, ne_eq,
    String.reduceEq, not_false_eq_true, Option.map_some, Option.bind_eq_bind, Option.bind_some,
    listFromWire_arr, bind_guard, bind_read (fun _ => evidenceDict hr),
    bindingFromWire_bindingWire,
    bind_read (fun _ => bytesFromWire_bytesWire), bind_read (fun _ => nullableBytes),
    bind_read (fun _ => nullableResult), bind_read (fun _ => nullableManifest),
    datetimeFromWire_datetimeWire, nullableDatetime, textFromWire_str, MailboxState.ofText_value,
    CollectionState.ofText_value, Option.some.injEq, List.length_map, length_ordered]
  constructor
  · rintro ⟨hitems, hevidence, haction, hclaim, hcollection, henvelope, hkey, hcredential, hdigest,
      hresult, hmanifest, rfl⟩
    exact ⟨⟨hitems, hevidence, haction, hclaim, hcollection, henvelope, hkey, hcredential, hdigest,
      hresult, hmanifest⟩, rfl⟩
  · rintro ⟨h, rfl⟩
    exact ⟨h.items, h.evidence, h.actionCredential, h.claimCredential, h.collectionCredential,
      h.envelope, h.actionKey, h.resultCredential, h.resultDigest, h.result, h.manifest, rfl⟩

/-! ### Reading back states -/

/-- Every record is kept under its own identifier. -/
def Repository.Keyed (s : Repository) : Prop :=
  ∀ id r, s.records.get? id = some r → r.binding.mailboxId = id ∧ r.Keyed

/-- The bounds that the decoder checks of a state. -/
structure Repository.Fits (limits : MailboxLimits) (s : Repository) : Prop where
  mailboxes : s.records.size ≤ limits.maxMailboxes
  tombstones : s.tombstones.size ≤ limits.maxTombstones
  record : ∀ id r, s.records.get? id = some r → r.Fits limits
  tombstone : ∀ id t, s.tombstones.get? id = some t → id.isV4 = true ∧ s.records.get? id = none
  totals : 0 ≤ s.totalActiveMaterialBytes ∧ 0 ≤ s.totalEvidenceBytes ∧ 0 ≤ s.totalCommittedBytes

/-- The state with its dictionaries in the order in which they are encoded. -/
def Repository.canonical (s : Repository) : Repository :=
  { s with
    records := (sortedDict s.records).mapValues Record.canonical
    tombstones := sortedDict s.tombstones }

theorem get?_canonical (s : Repository) (id : Uuid) :
    s.canonical.records.get? id = (s.records.get? id).map Record.canonical := by
  rw [Repository.canonical, Dict.get?_mapValues, get?_sortedDict]

theorem stateWire_field (s : Repository) (name : String) :
    (stateWire s).sortKeys.field name =
      ((stateFields s).lookup name.toList).map Json.sortKeys :=
  field_sortKeys (show _ = stateNames.map String.toList from rfl) (by decide) name

theorem recordsDict {s : Repository} (hs : s.Keyed) {d : Dict Uuid Record} :
    dictFromWire (fun item => (recordFromWire limits item).bind fun r =>
        some (r.binding.mailboxId, r))
      (((ordered s.records).map fun e => recordWire e.2).map Json.sortKeys) = some d ↔
      (∀ id r, s.records.get? id = some r → r.Fits limits) ∧ s.canonical.records = d := by
  rw [dictFromWire_ordered (g := Record.canonical) (p := fun _ r => r.Fits limits)]
  · rfl
  · intro id r hr e
    rw [bind_read (fun _ => recordFromWire_recordWire (hs id r hr).2), Option.some.injEq,
      Record.canonical, (hs id r hr).1]

theorem tombstonesDict {records : Dict Uuid Record} {tombstones d : Dict Uuid Tombstone} :
    dictFromWire (fun item => (tombstoneFromWire item).bind fun e =>
        (guard (records.contains e.1 = false) : Option Unit).bind fun _ => some e)
      (((ordered tombstones).map tombstoneWire).map Json.sortKeys) = some d ↔
      (∀ id t, tombstones.get? id = some t → id.isV4 = true ∧ records.get? id = none) ∧
        sortedDict tombstones = d := by
  rw [dictFromWire_ordered (g := fun t => t)
    (p := fun id _ => id.isV4 = true ∧ records.get? id = none), Dict.mapValues_id]
  intro id t _ e
  rw [bind_read (fun _ => tombstoneFromWire_tombstoneWire), bind_guard, Dict.contains_eq_false,
    Option.some.injEq, and_assoc]

theorem stateFromWire_stateWire {s s' : Repository} (hs : s.Keyed) :
    stateFromWire limits (stateWire s).sortKeys = some s' ↔ s.Fits limits ∧ s.canonical = s' := by
  have hmapping : (stateWire s).sortKeys.exactMapping stateNames = some () :=
    exactMapping_sortKeys rfl
  unfold stateFromWire
  simp only [hmapping, stateWire_field, stateFields, lookup_name_head, lookup_name_tail, ne_eq,
    String.reduceEq, not_false_eq_true, Option.map_some, Option.bind_eq_bind, Option.bind_some,
    listFromWire_arr, intFromWire_int, nullableDatetime, bind_guard,
    bind_read (fun _ => recordsDict hs), bind_read (fun _ => tombstonesDict), Option.some.injEq,
    List.length_map, length_ordered, get?_canonical, Option.map_eq_none_iff, true_and]
  constructor
  · rintro ⟨⟨hmailboxes, htombstones⟩, hrecord, htombstone, htotals, rfl⟩
    exact ⟨⟨hmailboxes, htombstones, hrecord, htombstone, htotals⟩, rfl⟩
  · rintro ⟨h, rfl⟩
    exact ⟨⟨h.mailboxes, h.tombstones⟩, h.record, h.tombstone, h.totals, rfl⟩

/-! ### Reading back canonical texts -/

theorem uniqueKeys_obj {fields : List (Text × Json)} {names : List String}
    (h : fields.map Prod.fst = names.map String.toList) (hnodup : names.Nodup)
    (hfields : ∀ f ∈ fields, f.2.uniqueKeys = true) : (Json.obj fields).uniqueKeys = true := by
  rw [Json.uniqueKeys, Bool.and_eq_true, decide_eq_true_eq, h]
  exact ⟨hnodup.map fun _ _ => String.toList_injective, fieldsUnique_iff.mpr hfields⟩

theorem uniqueKeys_arr {items : List Json} (h : ∀ j ∈ items, j.uniqueKeys = true) :
    (Json.arr items).uniqueKeys = true := by
  rw [Json.uniqueKeys]
  exact itemsUnique_iff.mpr h

theorem uniqueKeys_nullable {α : Type} {wire : α → Json} (h : ∀ a, (wire a).uniqueKeys = true)
    (o : Option α) : (nullableWire wire o).uniqueKeys = true := by
  cases o with
  | none => rfl
  | some a => exact h a

theorem uniqueKeys_bindingWire (b : ActionBinding) : (bindingWire b).uniqueKeys = true := by
  refine uniqueKeys_obj (show _ = bindingNames.map String.toList from rfl) (by decide) ?_
  simp only [bindingFields, List.forall_mem_cons, List.not_mem_nil, IsEmpty.forall_iff,
    implies_true, and_true]
  trivial

theorem uniqueKeys_evidenceWire (item : WrappedEvidence) :
    (evidenceWire item).uniqueKeys = true := by
  refine uniqueKeys_obj (show _ = evidenceNames.map String.toList from rfl) (by decide) ?_
  simp only [evidenceFields, List.forall_mem_cons, List.not_mem_nil, IsEmpty.forall_iff,
    implies_true, and_true]
  trivial

theorem uniqueKeys_resultWire (item : WrappedResult) : (resultWire item).uniqueKeys = true := by
  refine uniqueKeys_obj (show _ = resultNames.map String.toList from rfl) (by decide) ?_
  simp only [resultFields, List.forall_mem_cons, List.not_mem_nil, IsEmpty.forall_iff,
    implies_true, and_true]
  trivial

theorem uniqueKeys_manifestWire (item : CommittedEvidenceManifest) :
    (manifestWire item).uniqueKeys = true := by
  refine uniqueKeys_obj (show _ = manifestNames.map String.toList from rfl) (by decide) ?_
  simp only [manifestFields, List.forall_mem_cons, List.not_mem_nil, IsEmpty.forall_iff,
    implies_true, and_true]
  trivial

theorem uniqueKeys_tombstoneWire (e : Uuid × Tombstone) : (tombstoneWire e).uniqueKeys = true := by
  refine uniqueKeys_obj (show _ = tombstoneNames.map String.toList from rfl) (by decide) ?_
  simp only [tombstoneFields, List.forall_mem_cons, List.not_mem_nil, IsEmpty.forall_iff,
    implies_true, and_true]
  trivial

theorem uniqueKeys_recordWire (r : Record) : (recordWire r).uniqueKeys = true := by
  have hevidence : (Json.arr ((ordered r.evidence).map fun e => evidenceWire e.2)).uniqueKeys =
      true := by
    refine uniqueKeys_arr fun j hj => ?_
    obtain ⟨e, -, rfl⟩ := List.mem_map.mp hj
    exact uniqueKeys_evidenceWire e.2
  have hbytes : ∀ o, (nullableWire bytesWire o).uniqueKeys = true := uniqueKeys_nullable fun _ => rfl
  have htimes : ∀ o, (nullableWire datetimeWire o).uniqueKeys = true :=
    uniqueKeys_nullable fun _ => rfl
  refine uniqueKeys_obj (show _ = recordNames.map String.toList from rfl) (by decide) ?_
  simp only [recordFields, List.forall_mem_cons, List.not_mem_nil, IsEmpty.forall_iff,
    implies_true, and_true, uniqueKeys_bindingWire, hevidence, hbytes, htimes,
    uniqueKeys_nullable uniqueKeys_resultWire, uniqueKeys_nullable uniqueKeys_manifestWire]
  exact ⟨trivial, rfl, rfl, rfl, rfl, rfl, rfl, rfl⟩

theorem uniqueKeys_stateWire (s : Repository) : (stateWire s).uniqueKeys = true := by
  have hrecords : (Json.arr ((ordered s.records).map fun e => recordWire e.2)).uniqueKeys = true := by
    refine uniqueKeys_arr fun j hj => ?_
    obtain ⟨e, -, rfl⟩ := List.mem_map.mp hj
    exact uniqueKeys_recordWire e.2
  have htombstones : (Json.arr ((ordered s.tombstones).map tombstoneWire)).uniqueKeys = true := by
    refine uniqueKeys_arr fun j hj => ?_
    obtain ⟨e, -, rfl⟩ := List.mem_map.mp hj
    exact uniqueKeys_tombstoneWire e
  have htimes : ∀ o, (nullableWire datetimeWire o).uniqueKeys = true :=
    uniqueKeys_nullable fun _ => rfl
  refine uniqueKeys_obj (show _ = stateNames.map String.toList from rfl) (by decide) ?_
  simp only [stateFields, List.forall_mem_cons, List.not_mem_nil, IsEmpty.forall_iff,
    implies_true, and_true, hrecords, htombstones, htimes]
  exact ⟨rfl, trivial, trivial, trivial, rfl, rfl, rfl⟩

/-- What the decoder makes of an encoded state: the state in canonical order, if it fits. -/
theorem decodeState_encodeState {s s' : Repository} {b : Bytes} (hs : s.Keyed)
    (hb : encodeState s = some b) :
    decodeState limits b = some s' ↔
      b.length ≤ limits.maxSerializedBytes ∧ s.Fits limits ∧ s.canonical = s' := by
  have hloads := loads_dumps hb (uniqueKeys_stateWire s)
  have hdumps : (stateWire s).sortKeys.dumps = some b := (dumps_sortKeys _).trans hb
  have hne : b ≠ [] := by
    unfold encodeState Json.dumps at hb
    split_ifs at hb
    obtain rfl := Option.some.inj hb
    obtain ⟨c, t, ht, -⟩ := text_head (stateWire s).sortKeys
    rw [encode_of_isAscii (isAscii_text _), ht]
    simp
  unfold decodeState
  rw [Option.bind_eq_bind, bind_guard, hloads, Option.bind_eq_bind, Option.bind_some,
    bind_guard, stateFromWire_stateWire hs, hdumps]
  simp [hne]

end
end MyCogni.Mailbox
