import MyCogni.Mailbox.Volatile

/-! What one call of the repository can do. Every operation is inverted once, into the
constructors of `Step`; the invariants and the histories of runs are read off these. -/

namespace MyCogni.Mailbox

/-! ### Failures that precede every mutation -/

/-- Neither an expiry nor a crash behind a commit point. -/
def Failure.isPlain : Failure → Bool
  | .denied denial => denial ≠ .expired
  | .injectedCrash point => !point.isAfter
  | .valueError => true

/-- The check raises plain failures only. -/
def Quiet {α : Type} (x : Except Failure α) : Prop := ∀ e, x = .error e → e.isPlain = true

section Quiet
variable {α β : Type}

@[simp] theorem quiet_ok (a : α) : Quiet (.ok a : Except Failure α) := fun _ h => nomatch h

@[simp] theorem quiet_pure (a : α) : Quiet (pure a : Except Failure α) := fun _ h => nomatch h

@[simp] theorem quiet_error {e : Failure} :
    Quiet (.error e : Except Failure α) ↔ e.isPlain = true := by
  constructor
  · intro h
    exact h e rfl
  · intro h e' he
    rwa [← Except.error.inj he]

theorem quiet_bind {x : Except Failure α} {f : α → Except Failure β} (hx : Quiet x)
    (hf : ∀ a, Quiet (f a)) : Quiet (x >>= f) := by
  intro e he
  rcases bind_eq_error_iff.mp he with he | ⟨a, _, he⟩
  · exact hx e he
  · exact hf a e he

theorem quiet_ensure {c : Prop} [Decidable c] {e : Failure} (h : e.isPlain = true) :
    Quiet (ensure c e) := by
  intro e' he
  rw [ensure_eq_error] at he
  rwa [← he.2]

theorem quiet_mapM {f : α → Except Failure β} (hf : ∀ a, Quiet (f a)) (l : List α) :
    Quiet (l.mapM f) := by
  induction l with
  | nil => exact quiet_pure []
  | cons a l ih =>
    rw [List.mapM_cons]
    exact quiet_bind (hf a) fun b => quiet_bind ih fun bs => quiet_pure _

end Quiet

section
variable (cfg : Config)

theorem quiet_unwrap (m slot : Uuid) (item : WrappedEvidence) : Quiet (unwrap cfg m slot item) := by
  unfold unwrap
  refine quiet_bind (quiet_ensure rfl) fun _ => quiet_bind (quiet_ensure rfl) fun _ => ?_
  dsimp only
  split
  · exact quiet_error.mpr rfl
  · refine quiet_bind (quiet_ensure rfl) fun _ => quiet_bind (quiet_ensure rfl) fun _ =>
      quiet_bind (quiet_ensure rfl) fun _ => quiet_bind (quiet_ensure rfl) fun _ => ?_
    unfold EvidenceUpload.make
    split_ifs
    · exact quiet_ok _
    · exact quiet_error.mpr rfl

theorem quiet_bindingDigest (b : ActionBinding) : Quiet (bindingDigest b) := by
  unfold bindingDigest
  split
  · exact quiet_ok _
  · exact quiet_error.mpr rfl

theorem quiet_unwrapResult (b : ActionBinding) (item : WrappedResult) :
    Quiet (unwrapResult cfg b item) := by
  unfold unwrapResult
  refine quiet_bind (quiet_ensure rfl) fun _ => quiet_bind (quiet_ensure rfl) fun _ =>
    quiet_bind (quiet_bindingDigest b) fun _ => ?_
  dsimp only
  split
  · exact quiet_error.mpr rfl
  · exact quiet_bind (quiet_ensure rfl) fun _ => quiet_bind (quiet_ensure rfl) fun _ =>
      quiet_bind (quiet_ensure rfl) fun _ => quiet_bind (quiet_ensure rfl) fun _ => quiet_ok _

theorem quiet_buildCommittedManifest (b : ActionBinding) (ids : List Uuid)
    (result : WrappedResult) : Quiet (buildCommittedManifest cfg b ids result) :=
  quiet_bind (quiet_ensure rfl) fun _ => quiet_bind (quiet_bindingDigest b) fun _ => quiet_ok _

theorem quiet_validateCommittedManifest (r : Record) (ids : List Uuid) :
    Quiet (validateCommittedManifest cfg r ids) := by
  unfold validateCommittedManifest
  split
  · exact quiet_bind (quiet_ensure rfl) fun _ =>
      quiet_bind (quiet_buildCommittedManifest cfg _ _ _) fun _ => quiet_ensure rfl
  · exact quiet_error.mpr rfl

theorem quiet_validateResultReferences (b : ActionBinding) (json : Bytes)
    (evidence : List EvidenceUpload) : Quiet (validateResultReferences cfg b json evidence) := by
  unfold validateResultReferences
  split
  · exact quiet_error.mpr rfl
  · exact quiet_bind (quiet_ensure rfl) fun _ => quiet_bind (quiet_ensure rfl) fun _ =>
      quiet_ensure rfl

theorem quiet_validatedRecordMaterial (r : Record) : Quiet (validatedRecordMaterial cfg r) := by
  unfold validatedRecordMaterial
  refine quiet_bind (quiet_mapM (fun e => quiet_unwrap cfg _ _ _) _) fun evidence => ?_
  split_ifs
  · refine quiet_bind (quiet_ensure rfl) fun _ => ?_
    refine quiet_bind (quiet_ensure rfl) fun _ => ?_
    exact quiet_pure _
  · refine quiet_bind (quiet_ensure rfl) fun _ => ?_
    refine quiet_bind (quiet_ensure rfl) fun _ => ?_
    split
    · exact quiet_bind (quiet_unwrapResult cfg _ _) fun _ =>
        quiet_bind (quiet_validateResultReferences cfg _ _ _) fun _ =>
        quiet_bind (quiet_validateCommittedManifest cfg _ _) fun _ => quiet_pure _
    · exact quiet_error.mpr rfl
  · exact quiet_bind (quiet_ensure rfl) fun _ => quiet_pure _

end

theorem quiet_hit (env : Env) {point : CrashPoint} (h : point.isAfter = false) :
    Quiet (hit env point) := quiet_ensure (by simp [Failure.isPlain, h])

theorem quiet_record (s : Repository) (id : Uuid) : Quiet (record s id) := by
  unfold record
  split
  · exact quiet_ok _
  · rw [quiet_error]
    split_ifs <;> rfl

theorem quiet_validatedInstallationNow (s : Repository) (clock : Option Datetime) :
    Quiet (validatedInstallationNow s clock) := by
  unfold validatedInstallationNow
  split
  · exact quiet_error.mpr rfl
  · exact quiet_bind (quiet_ensure rfl) fun _ => quiet_pure _

theorem quiet_validatedRecordNow (s : Repository) (r : Record) (clock : Option Datetime) :
    Quiet (validatedRecordNow s r clock) :=
  quiet_bind (quiet_validatedInstallationNow s clock) fun _ =>
    quiet_bind (quiet_ensure rfl) fun _ => quiet_pure _

theorem quiet_requireResultAccess (r : Record) (b : ActionBinding) (digest : Bytes) :
    Quiet (requireResultAccess r b digest) := by
  refine quiet_bind (quiet_ensure rfl) fun _ => quiet_bind (quiet_ensure rfl) fun _ => ?_
  split
  · exact quiet_error.mpr rfl
  · exact quiet_ensure rfl

theorem quiet_collectionAccess (cfg : Config) (s : Repository) (id : Uuid) (digest : Bytes)
    (env : Env) : Quiet (collectionAccess cfg s id digest env) :=
  quiet_bind (quiet_record s id) fun _ => quiet_bind (quiet_ensure rfl) fun _ =>
    quiet_bind (quiet_validatedRecordMaterial cfg _) fun _ =>
    quiet_bind (quiet_validatedRecordNow s _ _) fun _ => quiet_pure _

theorem quiet_maintenanceAccess (cfg : Config) (s : Repository) (digest : Bytes) (env : Env) :
    Quiet (maintenanceAccess cfg s digest env) :=
  quiet_bind (quiet_ensure rfl) fun _ =>
    quiet_bind (quiet_mapM (quiet_validatedRecordMaterial cfg) _) fun _ =>
    quiet_bind (quiet_validatedInstallationNow s _) fun _ =>
    quiet_bind (quiet_ensure rfl) fun _ => quiet_pure _

/-! ### The shape of a change -/

def Record.committedBytes (r : Record) : Int :=
  if r.committedAt ≠ none then r.resultBytes + r.evidenceBytes else 0

def Record.seen (r : Record) (now : Datetime) : Record := { r with lastSeenUtc := now }

/-- The record without any material, ended in `state`. -/
def Record.closed (r : Record) (state : MailboxState) (now : Datetime) : Record :=
  { r with
    envelopeJson := none
    actionKey := none
    resultCredential := none
    resultCredentialDigest := none
    evidence := .empty
    resultEnvelope := none
    committedEvidenceManifest := none
    state := state
    terminalAt := some now
    lastSeenUtc := now }

def Record.offeredWith (r : Record) (envelopeJson actionKey resultCredential digest : Bytes)
    (now : Datetime) : Record :=
  { r with
    envelopeJson := some envelopeJson
    actionKey := some actionKey
    resultCredential := some resultCredential
    resultCredentialDigest := some digest
    state := .offered
    lastSeenUtc := now }

def Record.afterClaim (r : Record) (now : Datetime) : Record :=
  { r with
    envelopeJson := none
    actionKey := none
    resultCredential := none
    state := .claimedOnce
    lastSeenUtc := now }

def Record.withEvidence (r : Record) (item : WrappedEvidence) (now : Datetime) : Record :=
  { r with evidence := r.evidence.set item.objectId item, lastSeenUtc := now }

def Record.committedWith (r : Record) (result : WrappedResult)
    (manifest : CommittedEvidenceManifest) (now : Datetime) : Record :=
  { r with
    resultEnvelope := some result
    committedEvidenceManifest := some manifest
    state := .resultCommitted
    collectionState := .ready
    resultCredentialDigest := none
    committedAt := some now
    lastSeenUtc := now }

def Record.delivering (r : Record) (now : Datetime) : Record :=
  { r with collectionState := .delivering, lastSeenUtc := now }

def Record.acknowledged (r : Record) (now : Datetime) : Record :=
  { r with
    resultEnvelope := none
    committedEvidenceManifest := none
    evidence := .empty
    collectionState := .acknowledged
    terminalAt := some now
    lastSeenUtc := now }

def Record.opened (binding : ActionBinding) (a c k : Bytes) (now : Datetime) : Record :=
  { binding := binding
    createdAt := now
    lastSeenUtc := now
    actionCredentialDigest := a
    claimCredentialDigest := c
    collectionCredentialDigest := k }

/-- What `_expire_if_due` makes of a record when it answers true. -/
inductive Lapse (now : Datetime) (r : Record) : Record → Prop where
  | again : r.state = .expired → Lapse now r (r.seen now)
  | due : r.state.isOpen = true → r.deadline ≤ now → Lapse now r (r.closed .expired now)

/-- What a sweep for expiry makes of a record. -/
def Record.swept (now : Datetime) (r : Record) : Record :=
  if r.state.isOpen ∧ r.deadline ≤ now then r.closed .expired now else r.seen now

/-- `r'` in the place of `r`, with the totals moved by what the two records retain. -/
def Repository.replace (s : Repository) (id : Uuid) (r r' : Record) (now : Datetime) :
    Repository where
  records := s.records.set id r'
  tombstones := s.tombstones
  installationLastSeenUtc := some now
  totalActiveMaterialBytes := s.totalActiveMaterialBytes - r.activeBytes + r'.activeBytes
  totalEvidenceBytes := s.totalEvidenceBytes - r.evidenceBytes + r'.evidenceBytes
  totalCommittedBytes := s.totalCommittedBytes - r.committedBytes + r'.committedBytes

def Repository.notAfter (s : Repository) (now : Datetime) : Prop :=
  ∀ t ∈ s.installationLastSeenUtc, t ≤ now

section
variable {s : Repository} {now : Datetime}

theorem advanceInstallationTime_eq (h : s.notAfter now) :
    advanceInstallationTime s now = { s with installationLastSeenUtc := some now } := by
  unfold advanceInstallationTime
  cases ht : s.installationLastSeenUtc with
  | none => simp
  | some t =>
    have hle : t ≤ now := h t ht
    split_ifs with hlt
    · rfl
    · have hnow : t = now := le_antisymm hle (by simpa using hlt)
      rw [← hnow, ← ht]

@[simp] theorem optLength_none : optLength none = 0 := rfl

theorem closed_weights (r : Record) (state : MailboxState) (now : Datetime) :
    (r.closed state now).activeBytes = 0 ∧ (r.closed state now).evidenceBytes = 0 ∧
      (r.closed state now).committedBytes = 0 := by
  refine ⟨rfl, rfl, ?_⟩
  simp [Record.committedBytes, Record.closed, Record.resultBytes, Record.evidenceBytes]

/-- Clearing the material of a record and ending it, as expiry and abandonment do. -/
theorem store_closed (h : s.notAfter now) (id : Uuid) (r : Record) (state : MailboxState) :
    store id (observeTime ((clearActionMaterial (s, r)).1,
      { (clearActionMaterial (s, r)).2 with state := state, terminalAt := some now }) now) =
      s.replace id r (r.closed state now) now := by
  obtain ⟨hactive, hevidence, hcommitted⟩ := closed_weights r state now
  have hafter : Repository.notAfter (clearActionMaterial (s, r)).1 now := h
  unfold observeTime Repository.replace
  rw [advanceInstallationTime_eq hafter, hactive, hevidence, hcommitted]
  simp only [store, clearActionMaterial, releaseRecordPayloads, clearClaimDeliveryMaterial,
    Record.evidenceBytes, Record.resultBytes, Record.committedBytes, Record.closed, add_zero]
  congr 1
  by_cases hc : r.committedAt = none <;> simp [hc]

theorem store_seen (h : s.notAfter now) (id : Uuid) (r : Record) :
    store id (observeTime (s, r) now) = s.replace id r (r.seen now) now := by
  have hweights : (r.seen now).activeBytes = r.activeBytes ∧
      (r.seen now).evidenceBytes = r.evidenceBytes ∧
      (r.seen now).committedBytes = r.committedBytes := ⟨rfl, rfl, rfl⟩
  unfold observeTime Repository.replace
  rw [advanceInstallationTime_eq h, hweights.1, hweights.2.1, hweights.2.2]
  simp only [store, Record.seen, sub_add_cancel]

theorem expireIfDue_some (h : s.notAfter now) {r : Record} {p : Focus}
    (hp : expireIfDue (s, r) now = some p) (id : Uuid) :
    ∃ r', Lapse now r r' ∧ p.2 = r' ∧ store id p = s.replace id r r' now := by
  unfold expireIfDue at hp
  split_ifs at hp with hexpired hdue
  · obtain rfl := Option.some.inj hp
    exact ⟨_, .again hexpired, rfl, store_seen h id r⟩
  · obtain rfl := Option.some.inj hp
    exact ⟨_, .due hdue.1 hdue.2, rfl, store_closed h id r .expired⟩

theorem expireIfDue_none {r : Record} (hp : expireIfDue (s, r) now = none) :
    r.state ≠ .expired ∧ (r.state.isOpen = true → now < r.deadline) := by
  unfold expireIfDue at hp
  split_ifs at hp with hexpired hdue
  · refine ⟨hexpired, fun hopen => ?_⟩
    by_contra hle
    exact hdue ⟨hopen, not_lt.mp hle⟩

end

/-! ### Access to a record -/

/-- The call found the record, authenticated what it retains and read a time that neither the
installation nor the record has passed. -/
structure Access (cfg : Config) (s : Repository) (env : Env) (id : Uuid) (r : Record)
    (material : List EvidenceUpload × Option Bytes) (now : Datetime) : Prop where
  found : s.records.get? id = some r
  authentic : validatedRecordMaterial cfg r = .ok material
  clock : env.clock = some now
  notAfter : s.notAfter now
  seen : r.lastSeenUtc ≤ now

theorem record_eq_ok {s : Repository} {id : Uuid} {r : Record} :
    record s id = .ok r ↔ s.records.get? id = some r := by
  unfold record
  split
  · next r' h => simp [h]
  · next h => simp [h]

theorem validatedInstallationNow_eq_ok {s : Repository} {clock : Option Datetime}
    {now : Datetime} :
    validatedInstallationNow s clock = .ok now ↔ clock = some now ∧ s.notAfter now := by
  unfold validatedInstallationNow Repository.notAfter
  cases clock with
  | none => simp
  | some t =>
    simp only [bind_eq_ok_iff, ensure_eq_ok, pure_eq_ok_iff, exists_const, Option.some.injEq,
      Option.all_eq_true, decide_eq_true_eq, Option.mem_def]
    constructor
    · rintro ⟨h, rfl⟩
      exact ⟨rfl, h⟩
    · rintro ⟨rfl, h⟩
      exact ⟨h, rfl⟩

theorem validatedRecordNow_eq_ok {s : Repository} {r : Record} {clock : Option Datetime}
    {now : Datetime} :
    validatedRecordNow s r clock = .ok now ↔
      clock = some now ∧ s.notAfter now ∧ r.lastSeenUtc ≤ now := by
  unfold validatedRecordNow
  simp only [bind_eq_ok_iff, validatedInstallationNow_eq_ok, ensure_eq_ok, pure_eq_ok_iff,
    exists_const]
  constructor
  · rintro ⟨t, ⟨hc, hn⟩, hs, rfl⟩
    exact ⟨hc, hn, hs⟩
  · rintro ⟨hc, hn, hs⟩
    exact ⟨now, ⟨hc, hn⟩, hs, rfl⟩

theorem requireResultAccess_eq_ok {r : Record} {b : ActionBinding} {digest : Bytes} {u : Unit} :
    requireResultAccess r b digest = .ok u ↔
      r.binding = b ∧ r.state = .claimedOnce ∧ r.resultCredentialDigest = some digest := by
  unfold requireResultAccess requireBinding requireCredential
  cases hd : r.resultCredentialDigest with
  | none => simp [bind_eq_ok_iff]
  | some d => simp [bind_eq_ok_iff]

theorem collectionAccess_eq_ok {cfg : Config} {s : Repository} {id : Uuid} {digest : Bytes}
    {env : Env} {x : Record × (List EvidenceUpload × Option Bytes) × Datetime} :
    collectionAccess cfg s id digest env = .ok x ↔
      Access cfg s env id x.1 x.2.1 x.2.2 ∧ x.1.collectionCredentialDigest = digest := by
  unfold collectionAccess requireCredential
  simp only [bind_eq_ok_iff, record_eq_ok, ensure_eq_ok, validatedRecordNow_eq_ok,
    pure_eq_ok_iff, exists_const]
  constructor
  · rintro ⟨r, hr, hd, m, hm, now, ⟨hc, hn, hs⟩, rfl⟩
    exact ⟨⟨hr, hm, hc, hn, hs⟩, hd⟩
  · rintro ⟨⟨hr, hm, hc, hn, hs⟩, hd⟩
    exact ⟨x.1, hr, hd, x.2.1, hm, x.2.2, ⟨hc, hn, hs⟩, rfl⟩

/-- No record but the excluded one has the digest among its credentials. -/
theorem credentialInUse_eq_false {s : Repository} {digest : Bytes} {excluding : Option Uuid} :
    credentialInUse s digest excluding = false ↔
      ∀ id r, s.records.get? id = some r → some id ≠ excluding → digest ∉ r.credentialDigests := by
  unfold credentialInUse
  simp only [List.any_eq_false, Bool.and_eq_true, decide_eq_true_eq, not_and, Prod.forall,
    Dict.get?_eq_some]

/-- The calls that answer `EXPIRED` after ending the record themselves. -/
def Call.lapses : Call → Bool
  | .offer .. | .claim .. | .stageEvidence .. | .commitResult .. | .abandon .. => true
  | _ => false

def Call.isCreate : Call → Bool
  | .create .. => true
  | _ => false

/-- The crash point that follows the mutation of a call. -/
def Call.afterPoint : Call → Option CrashPoint
  | .claim .. => some .afterClaimCommit
  | .stageEvidence .. => some .afterEvidenceCommit
  | .commitResult .. => some .afterResultCommit
  | .acknowledgeCollection .. => some .afterCollectionAck
  | _ => none

/-- The reply of an operation that raises when its injector fires behind the commit point. -/
def guarded (env : Env) (point : CrashPoint) (out : Outcome) : Outcome :=
  if env.crashes point then .error (.injectedCrash point) else out

/-- By how much the running totals are ahead of what the records retain. -/
def Repository.drift (s : Repository) : Int × Int × Int :=
  (s.totalActiveMaterialBytes - s.records.sum Record.activeBytes,
   s.totalEvidenceBytes - s.records.sum Record.evidenceBytes,
   s.totalCommittedBytes - s.records.sum Record.committedBytes)

theorem drift_replace {s : Repository} {id : Uuid} {r : Record} (h : s.records.get? id = some r)
    (r' : Record) (now : Datetime) : (s.replace id r r' now).drift = s.drift := by
  simp only [Repository.drift, Repository.replace, Dict.sum_set_of_some h, Prod.mk.injEq]
  refine ⟨?_, ?_, ?_⟩ <;> omega

/-- What remains of a repository that was swept: each record `f` makes of it, or none. -/
structure Swept (s s' : Repository) (f : Uuid → Record → Option Record) (now : Datetime) :
    Prop where
  records : ∀ id, s'.records.get? id = (s.records.get? id).bind (f id)
  size : s'.records.size ≤ s.records.size
  time : s'.installationLastSeenUtc = some now
  drift : s'.drift = s.drift

/-- The calls of the repository with the outcome and the state that each leaves. -/
inductive Step (cfg : Config) (s : Repository) : Call × Env → Outcome → Repository → Prop where
  | refused {i : Call × Env} {e : Failure} :
      e.isPlain = true ∨ e = .denied .expired ∧ i.1.isCreate = true → Step cfg s i (.error e) s
  | created {b : ActionBinding} {a c k : Bytes} {env : Env} {now : Datetime} :
      env.clock = some now → s.notAfter now → s.records.get? b.mailboxId = none →
      s.tombstones.get? b.mailboxId = none → s.records.size < cfg.limits.maxMailboxes →
      [a, c, k].Nodup → cfg.maintenanceCredentialDigest ∉ [a, c, k] →
      (∀ d ∈ [a, c, k], ∀ id r, s.records.get? id = some r → d ∉ r.credentialDigests) →
      now < b.claimDeadlineUtc →
      Step cfg s (.create b a c k, env) (.ok (.snapshot (snapshotOf (.opened b a c k now))))
        { s with
          records := s.records.set b.mailboxId (.opened b a c k now)
          installationLastSeenUtc := some now }
  | lapsed {i : Call × Env} {id : Uuid} {r r' : Record} {m : List EvidenceUpload × Option Bytes}
      {now : Datetime} :
      i.1.target = some id → i.1.lapses = true → Access cfg s i.2 id r m now → Lapse now r r' →
      Step cfg s i (.error (.denied .expired)) (s.replace id r r' now)
  | viewed {id : Uuid} {d : Bytes} {env : Env} {r r' : Record}
      {m : List EvidenceUpload × Option Bytes} {now : Datetime} :
      Access cfg s env id r m now → r.collectionCredentialDigest = d →
      (Lapse now r r' ∨ r' = r.seen now ∧ r.state ≠ .expired ∧
        (r.state.isOpen = true → now < r.deadline)) →
      Step cfg s (.snapshot id d, env) (.ok (.snapshot (snapshotOf r'))) (s.replace id r r' now)
  | offered {b : ActionBinding} {e key a k rc rd : Bytes} {env : Env} {r : Record}
      {m : List EvidenceUpload × Option Bytes} {now : Datetime} :
      Access cfg s env b.mailboxId r m now → r.binding = b → r.collectionCredentialDigest = k →
      r.actionCredentialDigest = a → r.state = .empty → now < b.claimDeadlineUtc →
      [r.actionCredentialDigest, r.claimCredentialDigest, r.collectionCredentialDigest, rd].Nodup →
      cfg.maintenanceCredentialDigest ≠ rd →
      (∀ id r, s.records.get? id = some r → id ≠ b.mailboxId → rd ∉ r.credentialDigests) →
      s.totalActiveMaterialBytes + (e.length + key.length + rc.length : Int) ≤
        cfg.limits.maxTotalActiveMaterialBytes →
      Step cfg s (.offer b e key a k rc rd, env)
        (.ok (.snapshot (snapshotOf (r.offeredWith e key rc rd now))))
        { s with
          records := s.records.set b.mailboxId (r.offeredWith e key rc rd now)
          installationLastSeenUtc := some now
          totalActiveMaterialBytes := s.totalActiveMaterialBytes +
            (e.length + key.length + rc.length : Int) }
  | claimed {b : ActionBinding} {d : Bytes} {env : Env} {r : Record}
      {m : List EvidenceUpload × Option Bytes} {now : Datetime} {e key rc : Bytes} :
      Access cfg s env b.mailboxId r m now → r.claimCredentialDigest = d → r.binding = b →
      r.state = .offered → now < b.claimDeadlineUtc → r.envelopeJson = some e →
      r.actionKey = some key → r.resultCredential = some rc →
      env.crashes .beforeClaimCommit = false →
      Step cfg s (.claim b d, env)
        (guarded env .afterClaimCommit ((ClaimedAction.make ⟨b, e, key, rc⟩).map .claimed))
        (s.replace b.mailboxId r (r.afterClaim now) now)
  | staged {b : ActionBinding} {d : Bytes} {u : EvidenceUpload} {env : Env} {r : Record}
      {m : List EvidenceUpload × Option Bytes} {now : Datetime} :
      Access cfg s env b.mailboxId r m now → r.binding = b → r.state = .claimedOnce →
      r.resultCredentialDigest = some d → now < b.deadlineUtc →
      r.evidence.get? u.objectId = none → r.evidence.size < maxEvidenceItems →
      r.evidenceBytes + u.payload.length ≤ b.responseBytes →
      s.totalEvidenceBytes + u.payload.length ≤ cfg.limits.maxTotalEvidenceBytes →
      sha256Text u.payload = u.payloadDigest → env.crashes .beforeEvidenceCommit = false →
      Step cfg s (.stageEvidence b d u, env)
        (guarded env .afterEvidenceCommit (.ok (.snapshot (snapshotOf
          (r.withEvidence (wrap cfg b.mailboxId u env.nonce) now)))))
        (s.replace b.mailboxId r (r.withEvidence (wrap cfg b.mailboxId u env.nonce) now) now)
  | committed {b : ActionBinding} {d j : Bytes} {seals : List EvidenceSeal} {env : Env}
      {r : Record} {m : List EvidenceUpload × Option Bytes} {now : Datetime} {digest : Bytes}
      {manifest : CommittedEvidenceManifest} :
      Access cfg s env b.mailboxId r m now → r.binding = b → r.state = .claimedOnce →
      r.resultCredentialDigest = some d → now < b.deadlineUtc →
      (j.length : Int) + r.evidenceBytes ≤ b.responseBytes →
      s.totalCommittedBytes + (j.length + r.evidenceBytes) ≤ cfg.limits.maxTotalCommittedBytes →
      bindingDigest b = .ok digest → validateResultReferences cfg b j m.1 = .ok () →
      buildCommittedManifest cfg b (m.1.map fun e => e.objectId)
        (wrapResult cfg digest j env.nonce) = .ok manifest →
      env.crashes .beforeResultCommit = false →
      Step cfg s (.commitResult b d j seals, env)
        (guarded env .afterResultCommit (.ok (.snapshot (snapshotOf
          (r.committedWith (wrapResult cfg digest j env.nonce) manifest now)))))
        (s.replace b.mailboxId r
          (r.committedWith (wrapResult cfg digest j env.nonce) manifest now) now)
  | delivered {id : Uuid} {d : Bytes} {env : Env} {r : Record} {uploads : List EvidenceUpload}
      {j : Bytes} {now : Datetime} :
      Access cfg s env id r (uploads, some j) now → r.collectionCredentialDigest = d →
      r.state = .resultCommitted → r.resultEnvelope ≠ none →
      r.collectionState = .ready ∨ r.collectionState = .delivering →
      Step cfg s (.collect id d, env)
        ((CommittedBundle.make ⟨r.binding, j, uploads⟩).map .bundle)
        (s.replace id r (r.delivering now) now)
  | acknowledgedAgain {id : Uuid} {d : Bytes} {env : Env} {r : Record}
      {m : List EvidenceUpload × Option Bytes} {now : Datetime} :
      Access cfg s env id r m now → r.collectionCredentialDigest = d →
      r.collectionState = .acknowledged →
      Step cfg s (.acknowledgeCollection id d, env) (.ok (.snapshot (snapshotOf (r.seen now))))
        (s.replace id r (r.seen now) now)
  | acknowledged {id : Uuid} {d : Bytes} {env : Env} {r : Record}
      {m : List EvidenceUpload × Option Bytes} {now : Datetime} :
      Access cfg s env id r m now → r.collectionCredentialDigest = d →
      r.state = .resultCommitted → r.collectionState = .delivering →
      env.crashes .beforeCollectionAck = false →
      Step cfg s (.acknowledgeCollection id d, env)
        (guarded env .afterCollectionAck (.ok (.snapshot (snapshotOf (r.acknowledged now)))))
        (s.replace id r (r.acknowledged now) now)
  | abandoned {id : Uuid} {d : Bytes} {env : Env} {r : Record}
      {m : List EvidenceUpload × Option Bytes} {now : Datetime} :
      Access cfg s env id r m now → r.collectionCredentialDigest = d → r.state.isOpen = true →
      now < r.deadline →
      Step cfg s (.abandon id d, env) (.ok (.snapshot (snapshotOf (r.closed .abandoned now))))
        (s.replace id r (r.closed .abandoned now) now)
  | swept {d : Bytes} {env : Env} {now : Datetime} {ids : List Uuid} {s' : Repository} :
      env.clock = some now → s.notAfter now → d = cfg.maintenanceCredentialDigest →
      (∀ id r, s.records.get? id = some r → r.lastSeenUtc ≤ now) →
      Swept s s' (fun _ r => some (r.swept now)) now → s'.tombstones = s.tombstones →
      Step cfg s (.expire d, env) (.ok (.ids ids)) s'
  | collected {d : Bytes} {env : Env} {now expiresAt : Datetime} {removed : List Uuid}
      {s' : Repository} :
      env.clock = some now → s.notAfter now → d = cfg.maintenanceCredentialDigest →
      (∀ id r, s.records.get? id = some r → r.lastSeenUtc ≤ now) →
      now.add cfg.limits.tombstoneRetention = some expiresAt →
      (∀ id ∈ removed, ∃ r, s.records.get? id = some r ∧ terminalDue cfg now r = true) →
      Swept s s' (fun id r => if id ∈ removed then none else some (r.seen now)) now →
      (∀ id, s'.tombstones.get? id = if id ∈ removed then some ⟨now, expiresAt⟩
        else (s.tombstones.get? id).filter fun t => now < t.expiresAt) →
      s'.tombstones.size ≤ max cfg.limits.maxTombstones s.tombstones.size →
      Step cfg s (.garbageCollect d, env) (.ok (.ids (Uuid.sorted removed))) s'

end MyCogni.Mailbox
