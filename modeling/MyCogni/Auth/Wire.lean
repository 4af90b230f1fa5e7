import MyCogni.Auth.Snapshot
import MyCogni.Base.Base64
import MyCogni.Base.Codec

/-! The persisted document: a strict, versioned encoding of the ten collections. Every identifier,
digest, instant, enumeration and record is an object that names its own type. -/

namespace MyCogni.Auth

/-- The readers of the standard library, as far as they undo its writers. They may accept other
spellings too. -/
structure Reader where
  /-- `json.loads` with the hook that refuses duplicate names; floating-point numbers are left out,
  as nothing that reads the document accepts one. -/
  loads : Text → Option Json
  /-- `datetime.fromisoformat`, where it returns a UTC instant. -/
  fromisoformat : Text → Option Datetime
  /-- `base64.b64decode` with validation. -/
  b64decode : Text → Option Bytes
  loads_dumps : ∀ (j : Json) (t : Text), j.render = some t → j.uniqueKeys = true →
    loads t = some j.sortKeys
  fromisoformat_isoformat : ∀ d : Datetime, fromisoformat d.isoformat = some d
  b64decode_b64encode : ∀ b : Bytes, b64decode (Base64.encode b) = some b

/-- Readers that accept no more than the writers produce. -/
def Reader.strict : Reader where
  loads := Json.parse
  fromisoformat := Datetime.fromIsoformat
  b64decode := Base64.decode
  loads_dumps _ _ := parse_render
  fromisoformat_isoformat := Datetime.fromIsoformat_isoformat
  b64decode_b64encode := Base64.decode_encode

/-! ### Enumerations -/

def AuthPurpose.value : AuthPurpose → String
  | setupAuthorityChange => "setup_authority_change"
  | externalActionResume => "external_action_resume"
  | exceptionSubmission => "exception_submission"
  | keyRecoveryChange => "key_recovery_change"
  | profileDeletion => "profile_deletion"
  | destructiveRestore => "destructive_restore"
  | allSessionRevoke => "all_session_revoke"

def AuthScope.value : AuthScope → String
  | changeSetupAuthority => "change_setup_authority"
  | resumeExternalActions => "resume_external_actions"
  | submitException => "submit_exception"
  | changeKeyRecovery => "change_key_recovery"
  | deleteProfile => "delete_profile"
  | restoreDestructively => "restore_destructively"
  | revokeAllSessions => "revoke_all_sessions"

def AuthDenial.value : AuthDenial → String
  | nonInteractive => "non_interactive"
  | terminalNotForeground => "terminal_not_foreground"
  | terminalBusy => "terminal_busy"
  | terminalForked => "terminal_forked"
  | terminalIoFailed => "terminal_io_failed"
  | terminalRestoreFailed => "terminal_restore_failed"
  | invalidProof => "invalid_proof"
  | attemptsExhausted => "attempts_exhausted"
  | replayed => "replayed"
  | expired => "expired"
  | notYetValid => "not_yet_valid"
  | clockRollback => "clock_rollback"
  | sessionNotFound => "session_not_found"
  | revoked => "revoked"
  | wrongActor => "wrong_actor"
  | wrongProfile => "wrong_profile"
  | wrongInstallation => "wrong_installation"
  | wrongSession => "wrong_session"
  | wrongPurpose => "wrong_purpose"
  | scopeWidening => "scope_widening"
  | staleEpoch => "stale_epoch"
  | malformedCredential => "malformed_credential"
  | operatorDeclined => "operator_declined"
  | outputInterrupted => "output_interrupted"
  | capacityExhausted => "capacity_exhausted"

def RootPurpose.value : RootPurpose → String
  | initialBootstrap => "initial_bootstrap"
  | emergencyRevoke => "emergency_revoke"
  | reprovision => "reprovision"

/-! The members that version 1 of the document may hold. -/

def AuthPurpose.v1 : List AuthPurpose :=
  [.setupAuthorityChange, .externalActionResume, .exceptionSubmission, .keyRecoveryChange,
    .profileDeletion, .destructiveRestore, .allSessionRevoke]

/-- In the order of their values. -/
def AuthScope.v1 : List AuthScope :=
  [.changeKeyRecovery, .changeSetupAuthority, .deleteProfile, .restoreDestructively,
    .resumeExternalActions, .revokeAllSessions, .submitException]

def AuthDenial.v1 : List AuthDenial :=
  [.nonInteractive, .invalidProof, .attemptsExhausted, .replayed, .expired, .notYetValid,
    .clockRollback, .sessionNotFound, .revoked, .wrongActor, .wrongProfile, .wrongInstallation,
    .wrongSession, .wrongPurpose, .scopeWidening, .staleEpoch, .malformedCredential,
    .operatorDeclined, .outputInterrupted, .capacityExhausted]

/-- The member among those listed that has the value. -/
def ofValue {ε : Type} (members : List ε) (value : ε → String) (t : Text) : Option ε :=
  members.find? fun e => (value e).toList = t

theorem ofValue_value {ε : Type} {members : List ε} {value : ε → String}
    (hinj : ∀ e ∈ members, ∀ e' ∈ members, value e = value e' → e = e') {e : ε}
    (he : e ∈ members) : ofValue members value (value e).toList = some e := by
  obtain ⟨e', he'⟩ : ∃ e', ofValue members value (value e).toList = some e' :=
    Option.isSome_iff_exists.mp (List.find?_isSome.mpr ⟨e, he, by simp⟩)
  have hvalue : (value e').toList = (value e).toList := by simpa using List.find?_some he'
  rw [he', hinj e' (List.mem_of_find?_eq_some he') e he (String.toList_injective hvalue)]

theorem mem_of_ofValue {ε : Type} {members : List ε} {value : ε → String} {t : Text} {e : ε}
    (h : ofValue members value t = some e) : e ∈ members := List.mem_of_find?_eq_some h

namespace Wire
open Codec Fields

/-- An object with a type and a value. -/
def tagged {α : Type} (kind : String) (c : Codec α) : Codec α :=
  (((field "type" (constant kind.toList)).and (field "value" c)).object
    (show ["type", "value"].Nodup by decide)).checked
    (fun a => ((), a)) Prod.snd (fun _ => True) fun _ => rfl

def enum {ε : Type} (name : String) (members : List ε) (value : ε → String)
    (hinj : ∀ e ∈ members, ∀ e' ∈ members, value e = value e' → e = e') : Codec ε :=
  (((field "type" (constant "enum".toList)).and ((field "name" (constant name.toList)).and
    (field "value" (spelled (fun e => (value e).toList) (ofValue members value)
      fun _ _ h => ofValue_value hinj (mem_of_ofValue h))))).object
    (show ["type", "name", "value"].Nodup by decide)).checked
    (fun e => ((), (), e)) (fun x => x.2.2) (fun _ => True) fun _ => rfl

def record {ρ τ : Type} (name : String) (f : Fields τ) (hnodup : f.names.Nodup) (write : ρ → τ)
    (read : τ → ρ) (valid : ρ → Prop) [DecidablePred valid] (h : ∀ x, write (read x) = x) :
    Codec ρ :=
  (((field "type" (constant "record".toList)).and ((field "name" (constant name.toList)).and
    (field "fields" (f.object hnodup)))).object
    (show ["type", "name", "fields"].Nodup by decide)).checked
    (fun r => ((), (), write r)) (fun x => read x.2.2) valid fun x => by rw [h]

theorem fits_tagged {α : Type} {kind : String} {c : Codec α} {a : α} :
    (tagged kind c).Fits a ↔ c.Fits a := by
  refine (fits_checked rfl).trans ?_
  exact ⟨fun h => h.1.2, fun h => ⟨⟨trivial, h⟩, trivial⟩⟩

theorem fits_enum {ε : Type} {name : String} {members : List ε} {value : ε → String}
    {hinj : ∀ e ∈ members, ∀ e' ∈ members, value e = value e' → e = e'} {e : ε} :
    (enum name members value hinj).Fits e ↔ e ∈ members := by
  refine (fits_checked rfl).trans ?_
  constructor
  · rintro ⟨⟨-, -, -, h⟩, -⟩
    exact mem_of_ofValue h
  · intro h
    exact ⟨⟨trivial, trivial, trivial, ofValue_value hinj h⟩, trivial⟩

theorem fits_record {ρ τ : Type} {name : String} {f : Fields τ} {hnodup : f.names.Nodup}
    {write : ρ → τ} {read : τ → ρ} {valid : ρ → Prop} {_ : DecidablePred valid}
    {h : ∀ x, write (read x) = x} {r : ρ} (hr : read (write r) = r) :
    (record name f hnodup write read valid h).Fits r ↔ f.Fits (write r) ∧ valid r := by
  unfold record
  rw [fits_checked]
  · exact ⟨fun h => ⟨h.1.2.2, h.2⟩, fun h => ⟨⟨trivial, trivial, h.1⟩, h.2⟩⟩
  · exact hr

/-! ### Values -/

def opaqueId : Codec OpaqueId :=
  tagged "opaque_id" (spelled OpaqueId.str OpaqueId.parse fun _ i _ => i.parse_str)

def natural : Codec Nat :=
  int.refine Nat.cast (fun i => if 0 ≤ i then some i.toNat else none)
    (fun _ n _ _ => ⟨trivial, by simp⟩)
    fun i n hi hn => by
      rw [Option.ite_none_right_eq_some, Option.some.injEq] at hn
      rw [← hn.2, Int.toNat_of_nonneg hn.1]
      exact hi

def authPurpose : Codec AuthPurpose :=
  enum "AuthPurpose" AuthPurpose.v1 AuthPurpose.value (by decide)

def authScope : Codec AuthScope := enum "AuthScope" AuthScope.v1 AuthScope.value (by decide)

def authDenial : Codec AuthDenial := enum "AuthDenial" AuthDenial.v1 AuthDenial.value (by decide)

def rootPurpose : Codec RootPurpose :=
  enum "RootPurpose" RootPurpose.all RootPurpose.value (by decide)

theorem fits_opaqueId (i : OpaqueId) : opaqueId.Fits i :=
  fits_tagged.mpr ⟨trivial, i.parse_str⟩

theorem fits_natural (n : Nat) : natural.Fits n := ⟨trivial, by simp⟩

theorem fits_authPurpose (p : AuthPurpose) : authPurpose.Fits p :=
  fits_enum.mpr (by cases p <;> decide)

theorem fits_authScope (p : AuthScope) : authScope.Fits p := fits_enum.mpr (by cases p <;> decide)

theorem fits_rootPurpose (p : RootPurpose) : rootPurpose.Fits p :=
  fits_enum.mpr (by cases p <;> decide)

/-- A scope, or the bare value of one: a member of a string enumeration equals its value, so a set
of values passes for the set of scopes. -/
def scopeItem : Codec AuthScope where
  encode := authScope.encode
  decode j := (authScope.decode j).orElse fun _ =>
    text.decode j >>= ofValue AuthScope.v1 AuthScope.value
  Fits _ := True
  unique := authScope.unique
  decode_encode a _ hd := by
    rw [authScope.decode_encode a (fits_authScope a) hd]
    rfl
  fits _ _ _ := trivial
  digits _ _ _ := rfl

def scopes : Codec (Finset AuthScope) :=
  (((field "type" (constant "frozenset".toList)).and (field "items" (list scopeItem))).object
    (show ["type", "items"].Nodup by decide)).refine
    (fun s => ((), AuthScope.v1.filter (· ∈ s))) (fun x => some x.2.toFinset)
    (fun _ s _ _ => ⟨⟨trivial, fun _ _ => trivial⟩, by
      rw [Option.some.injEq]
      ext scope
      cases scope <;> simp [AuthScope.v1]⟩)
    fun _ s _ _ => by
      change Json.digitsOk (.obj _) = true
      rw [Json.digitsOk, fieldsDigitsOk_iff]
      refine List.forall_mem_append.mpr ⟨fun f hf => ?_, fun f hf => ?_⟩
      · obtain rfl := List.mem_singleton.mp hf
        rfl
      · obtain rfl := List.mem_singleton.mp hf
        change Json.digitsOk (.arr _) = true
        rw [Json.digitsOk, itemsDigitsOk_iff, List.forall_mem_map]
        exact fun _ _ => rfl

theorem fits_scopes (s : Finset AuthScope) : scopes.Fits s := by
  refine ⟨⟨trivial, fun _ _ => trivial⟩, ?_⟩
  rw [Option.some.injEq]
  ext scope
  cases scope <;> simp [AuthScope.v1]

/-! ### Records -/

section Records
variable (R : Reader)

def secretDigest : Codec SecretDigest :=
  tagged "secret_digest" (spelled (fun d => Base64.encode d.value)
    (fun t => do
      let raw ← R.b64decode t
      if h : raw.length = 32 then some ⟨raw, h⟩ else none)
    fun _ d _ => by
      rw [R.b64decode_b64encode]
      exact dif_pos d.length)

def utcDatetime : Codec Datetime :=
  tagged "utc_datetime" (spelled Datetime.isoformat R.fromisoformat
    fun _ d _ => R.fromisoformat_isoformat d)

def optionalDatetime : Codec (Option Datetime) :=
  (utcDatetime R).nullable fun _ h => nomatch h

def actorRecord : Codec ActorRecord :=
  record "ActorRecord"
    ((field "actor_id" opaqueId).and <| (field "represented_profile_id" opaqueId).and <|
      (field "epoch" natural).and <| (field "last_observed_utc" (utcDatetime R)).and <|
      field "initialized" bool)
    (show ["actor_id", "represented_profile_id", "epoch", "last_observed_utc", "initialized"].Nodup
      by decide)
    (fun r => (r.actorId, r.representedProfileId, r.epoch, r.lastObservedUtc, r.initialized))
    (fun (actorId, representedProfileId, epoch, lastObservedUtc, initialized) =>
      { actorId, representedProfileId, epoch, lastObservedUtc, initialized })
    ActorRecord.Valid fun _ => rfl

def rootCapabilityRecord : Codec RootCapabilityRecord :=
  record "RootCapabilityRecord"
    ((field "handle" opaqueId).and <| (field "installation_id" opaqueId).and <|
      (field "actor_id" opaqueId).and <| (field "represented_profile_id" opaqueId).and <|
      (field "purpose" rootPurpose).and <| (field "digest" (secretDigest R)).and <|
      (field "consumed" bool).and <| field "retired_at_utc" (optionalDatetime R))
    (show ["handle", "installation_id", "actor_id", "represented_profile_id", "purpose", "digest",
      "consumed", "retired_at_utc"].Nodup by decide)
    (fun r => (r.handle, r.installationId, r.actorId, r.representedProfileId, r.purpose, r.digest,
      r.consumed, r.retiredAtUtc))
    (fun (handle, installationId, actorId, representedProfileId, purpose, digest, consumed,
        retiredAtUtc) =>
      { handle, installationId, actorId, representedProfileId, purpose, digest, consumed,
        retiredAtUtc })
    (fun _ => True) fun _ => rfl

def bootstrapRecord : Codec BootstrapRecord :=
  record "BootstrapRecord"
    ((field "handle" opaqueId).and <| (field "actor_id" opaqueId).and <|
      (field "represented_profile_id" opaqueId).and <| (field "digest" (secretDigest R)).and <|
      (field "not_before_utc" (utcDatetime R)).and <|
      (field "expires_at_utc" (utcDatetime R)).and <| (field "attempts_remaining" natural).and <|
      (field "root_capability_id" (opaqueId.nullable fun _ h => nomatch h)).and <|
      (field "root_purpose" (rootPurpose.nullable fun _ h => nomatch h)).and <|
      (field "consumed" bool).and <| field "retired_at_utc" (optionalDatetime R))
    (show ["handle", "actor_id", "represented_profile_id", "digest", "not_before_utc",
      "expires_at_utc", "attempts_remaining", "root_capability_id", "root_purpose", "consumed",
      "retired_at_utc"].Nodup by decide)
    (fun r => (r.handle, r.actorId, r.representedProfileId, r.digest, r.notBeforeUtc,
      r.expiresAtUtc, r.attemptsRemaining, r.rootCapabilityId, r.rootPurpose, r.consumed,
      r.retiredAtUtc))
    (fun (handle, actorId, representedProfileId, digest, notBeforeUtc, expiresAtUtc,
        attemptsRemaining, rootCapabilityId, rootPurpose, consumed, retiredAtUtc) =>
      { handle, actorId, representedProfileId, digest, notBeforeUtc, expiresAtUtc,
        attemptsRemaining, rootCapabilityId, rootPurpose, consumed, retiredAtUtc })
    BootstrapRecord.Valid fun _ => rfl

def sessionRecord : Codec SessionRecord :=
  record "SessionRecord"
    ((field "handle" opaqueId).and <| (field "actor_id" opaqueId).and <|
      (field "represented_profile_id" opaqueId).and <| (field "digest" (secretDigest R)).and <|
      (field "epoch" natural).and <| (field "not_before_utc" (utcDatetime R)).and <|
      (field "expires_at_utc" (utcDatetime R)).and <| (field "revoked" bool).and <|
      field "retired_at_utc" (optionalDatetime R))
    (show ["handle", "actor_id", "represented_profile_id", "digest", "epoch", "not_before_utc",
      "expires_at_utc", "revoked", "retired_at_utc"].Nodup by decide)
    (fun r => (r.handle, r.actorId, r.representedProfileId, r.digest, r.epoch, r.notBeforeUtc,
      r.expiresAtUtc, r.revoked, r.retiredAtUtc))
    (fun (handle, actorId, representedProfileId, digest, epoch, notBeforeUtc, expiresAtUtc,
        revoked, retiredAtUtc) =>
      { handle, actorId, representedProfileId, digest, epoch, notBeforeUtc, expiresAtUtc,
        revoked, retiredAtUtc })
    SessionRecord.Valid fun _ => rfl

def recoveryRecord : Codec RecoveryRecord :=
  record "RecoveryRecord"
    ((field "handle" opaqueId).and <| (field "actor_id" opaqueId).and <|
      (field "represented_profile_id" opaqueId).and <| (field "digest" (secretDigest R)).and <|
      (field "epoch" natural).and <| (field "not_before_utc" (utcDatetime R)).and <|
      (field "expires_at_utc" (utcDatetime R)).and <| (field "attempts_remaining" natural).and <|
      (field "consumed" bool).and <| field "retired_at_utc" (optionalDatetime R))
    (show ["handle", "actor_id", "represented_profile_id", "digest", "epoch", "not_before_utc",
      "expires_at_utc", "attempts_remaining", "consumed", "retired_at_utc"].Nodup by decide)
    (fun r => (r.handle, r.actorId, r.representedProfileId, r.digest, r.epoch, r.notBeforeUtc,
      r.expiresAtUtc, r.attemptsRemaining, r.consumed, r.retiredAtUtc))
    (fun (handle, actorId, representedProfileId, digest, epoch, notBeforeUtc, expiresAtUtc,
        attemptsRemaining, consumed, retiredAtUtc) =>
      { handle, actorId, representedProfileId, digest, epoch, notBeforeUtc, expiresAtUtc,
        attemptsRemaining, consumed, retiredAtUtc })
    RecoveryRecord.Valid fun _ => rfl

def stepUpRecord : Codec StepUpRecord :=
  record "StepUpRecord"
    ((field "handle" opaqueId).and <| (field "actor_id" opaqueId).and <|
      (field "represented_profile_id" opaqueId).and <| (field "session_id" opaqueId).and <|
      (field "digest" (secretDigest R)).and <| (field "epoch" natural).and <|
      (field "purpose" authPurpose).and <| (field "scopes" scopes).and <|
      (field "not_before_utc" (utcDatetime R)).and <|
      (field "expires_at_utc" (utcDatetime R)).and <| (field "attempts_remaining" natural).and <|
      (field "consumed" bool).and <| field "retired_at_utc" (optionalDatetime R))
    (show ["handle", "actor_id", "represented_profile_id", "session_id", "digest", "epoch",
      "purpose", "scopes", "not_before_utc", "expires_at_utc", "attempts_remaining", "consumed",
      "retired_at_utc"].Nodup by decide)
    (fun r => (r.handle, r.actorId, r.representedProfileId, r.sessionId, r.digest, r.epoch,
      r.purpose, r.scopes, r.notBeforeUtc, r.expiresAtUtc, r.attemptsRemaining, r.consumed,
      r.retiredAtUtc))
    (fun (handle, actorId, representedProfileId, sessionId, digest, epoch, purpose, scopes,
        notBeforeUtc, expiresAtUtc, attemptsRemaining, consumed, retiredAtUtc) =>
      { handle, actorId, representedProfileId, sessionId, digest, epoch, purpose, scopes,
        notBeforeUtc, expiresAtUtc, attemptsRemaining, consumed, retiredAtUtc })
    StepUpRecord.Valid fun _ => rfl

def authorityGrant : Codec AuthorityGrant :=
  record "AuthorityGrant"
    ((field "actor_id" opaqueId).and <| (field "represented_profile_id" opaqueId).and <|
      (field "session_id" opaqueId).and <| (field "authority_evidence_id" opaqueId).and <|
      (field "purpose" authPurpose).and <| (field "scopes" scopes).and <|
      (field "not_before_utc" (utcDatetime R)).and <|
      (field "expires_at_utc" (utcDatetime R)).and <| field "epoch" natural)
    (show ["actor_id", "represented_profile_id", "session_id", "authority_evidence_id", "purpose",
      "scopes", "not_before_utc", "expires_at_utc", "epoch"].Nodup by decide)
    (fun g => (g.actorId, g.representedProfileId, g.sessionId, g.authorityEvidenceId, g.purpose,
      g.scopes, g.notBeforeUtc, g.expiresAtUtc, g.epoch))
    (fun (actorId, representedProfileId, sessionId, authorityEvidenceId, purpose, scopes,
        notBeforeUtc, expiresAtUtc, epoch) =>
      { actorId, representedProfileId, sessionId, authorityEvidenceId, purpose, scopes,
        notBeforeUtc, expiresAtUtc, epoch })
    AuthorityGrant.Valid fun _ => rfl

def grantProvenanceRecord : Codec GrantProvenanceRecord :=
  record "GrantProvenanceRecord"
    ((field "grant" (authorityGrant R)).and <| field "used_at_utc" (optionalDatetime R))
    (show ["grant", "used_at_utc"].Nodup by decide)
    (fun r => (r.grant, r.usedAtUtc)) (fun (grant, usedAtUtc) => { grant, usedAtUtc })
    GrantProvenanceRecord.Valid fun _ => rfl

def compositionBindingRecord : Codec CompositionBindingRecord :=
  record "CompositionBindingRecord"
    ((field "installation_id" opaqueId).and <| (field "operator_handle" opaqueId).and <|
      (field "operator_digest" (secretDigest R)).and <| (field "service_handle" opaqueId).and <|
      field "service_digest" (secretDigest R))
    (show ["installation_id", "operator_handle", "operator_digest", "service_handle",
      "service_digest"].Nodup by decide)
    (fun r => (r.installationId, r.operatorHandle, r.operatorDigest, r.serviceHandle,
      r.serviceDigest))
    (fun (installationId, operatorHandle, operatorDigest, serviceHandle, serviceDigest) =>
      { installationId, operatorHandle, operatorDigest, serviceHandle, serviceDigest })
    CompositionBindingRecord.Valid fun _ => rfl

def reprovisionCeremonyRecord : Codec ReprovisionCeremonyRecord :=
  record "ReprovisionCeremonyRecord"
    ((field "handle" opaqueId).and <| (field "digest" (secretDigest R)).and <|
      (field "bootstrap_handle" opaqueId).and <| (field "installation_id" opaqueId).and <|
      (field "service_handle" opaqueId).and <| (field "expires_at_utc" (utcDatetime R)).and <|
      (field "replay_seconds" int).and <| (field "terminal_at_utc" (optionalDatetime R)).and <|
      field "terminal_denial" (authDenial.nullable fun _ h => nomatch h))
    (show ["handle", "digest", "bootstrap_handle", "installation_id", "service_handle",
      "expires_at_utc", "replay_seconds", "terminal_at_utc", "terminal_denial"].Nodup by decide)
    (fun r => (r.handle, r.digest, r.bootstrapHandle, r.installationId, r.serviceHandle,
      r.expiresAtUtc, r.replaySeconds, r.terminalAtUtc, r.terminalDenial))
    (fun (handle, digest, bootstrapHandle, installationId, serviceHandle, expiresAtUtc,
        replaySeconds, terminalAtUtc, terminalDenial) =>
      { handle, digest, bootstrapHandle, installationId, serviceHandle, expiresAtUtc,
        replaySeconds, terminalAtUtc, terminalDenial })
    ReprovisionCeremonyRecord.Valid fun _ => rfl

theorem fits_secretDigest (d : SecretDigest) : (secretDigest R).Fits d := by
  refine fits_tagged.mpr ⟨trivial, ?_⟩
  change (R.b64decode (Base64.encode d.value)).bind
    (fun raw => if h : raw.length = 32 then some (⟨raw, h⟩ : SecretDigest) else none) = some d
  rw [R.b64decode_b64encode]
  exact dif_pos d.length

theorem fits_utcDatetime (d : Datetime) : (utcDatetime R).Fits d :=
  fits_tagged.mpr ⟨trivial, R.fromisoformat_isoformat d⟩

theorem fits_optionalDatetime (o : Option Datetime) : (optionalDatetime R).Fits o :=
  fun d _ => fits_utcDatetime R d

theorem fits_actorRecord {r : ActorRecord} : (actorRecord R).Fits r ↔ r.Valid := by
  refine (fits_record rfl).trans (and_iff_right ?_)
  exact ⟨fits_opaqueId _, fits_opaqueId _, fits_natural _, fits_utcDatetime R _, trivial⟩

theorem fits_rootCapabilityRecord (r : RootCapabilityRecord) :
    (rootCapabilityRecord R).Fits r := by
  refine (fits_record rfl).mpr ⟨?_, trivial⟩
  exact ⟨fits_opaqueId _, fits_opaqueId _, fits_opaqueId _, fits_opaqueId _, fits_rootPurpose _,
    fits_secretDigest R _, trivial, fits_optionalDatetime R _⟩

theorem fits_bootstrapRecord {r : BootstrapRecord} : (bootstrapRecord R).Fits r ↔ r.Valid := by
  refine (fits_record rfl).trans (and_iff_right ?_)
  exact ⟨fits_opaqueId _, fits_opaqueId _, fits_opaqueId _, fits_secretDigest R _,
    fits_utcDatetime R _, fits_utcDatetime R _, fits_natural _, fun _ _ => fits_opaqueId _,
    fun _ _ => fits_rootPurpose _, trivial, fits_optionalDatetime R _⟩

theorem fits_sessionRecord {r : SessionRecord} : (sessionRecord R).Fits r ↔ r.Valid := by
  refine (fits_record rfl).trans (and_iff_right ?_)
  exact ⟨fits_opaqueId _, fits_opaqueId _, fits_opaqueId _, fits_secretDigest R _, fits_natural _,
    fits_utcDatetime R _, fits_utcDatetime R _, trivial, fits_optionalDatetime R _⟩

theorem fits_recoveryRecord {r : RecoveryRecord} : (recoveryRecord R).Fits r ↔ r.Valid := by
  refine (fits_record rfl).trans (and_iff_right ?_)
  exact ⟨fits_opaqueId _, fits_opaqueId _, fits_opaqueId _, fits_secretDigest R _, fits_natural _,
    fits_utcDatetime R _, fits_utcDatetime R _, fits_natural _, trivial, fits_optionalDatetime R _⟩

theorem fits_stepUpRecord {r : StepUpRecord} : (stepUpRecord R).Fits r ↔ r.Valid := by
  refine (fits_record rfl).trans (and_iff_right ?_)
  exact ⟨fits_opaqueId _, fits_opaqueId _, fits_opaqueId _, fits_opaqueId _, fits_secretDigest R _,
    fits_natural _, fits_authPurpose _, fits_scopes _, fits_utcDatetime R _, fits_utcDatetime R _,
    fits_natural _, trivial, fits_optionalDatetime R _⟩

theorem fits_authorityGrant {g : AuthorityGrant} : (authorityGrant R).Fits g ↔ g.Valid := by
  refine (fits_record rfl).trans (and_iff_right ?_)
  exact ⟨fits_opaqueId _, fits_opaqueId _, fits_opaqueId _, fits_opaqueId _, fits_authPurpose _,
    fits_scopes _, fits_utcDatetime R _, fits_utcDatetime R _, fits_natural _⟩

theorem fits_grantProvenanceRecord {r : GrantProvenanceRecord} :
    (grantProvenanceRecord R).Fits r ↔ r.Valid := by
  refine (fits_record rfl).trans ⟨fun h => h.2, fun h => ⟨?_, h⟩⟩
  exact ⟨(fits_authorityGrant R).mpr h.1, fits_optionalDatetime R _⟩

theorem fits_compositionBindingRecord {r : CompositionBindingRecord} :
    (compositionBindingRecord R).Fits r ↔ r.Valid := by
  refine (fits_record rfl).trans (and_iff_right ?_)
  exact ⟨fits_opaqueId _, fits_opaqueId _, fits_secretDigest R _, fits_opaqueId _,
    fits_secretDigest R _⟩

/-- Version 1 has no value for a denial of the terminal. -/
theorem fits_reprovisionCeremonyRecord {r : ReprovisionCeremonyRecord} :
    (reprovisionCeremonyRecord R).Fits r ↔
      (∀ d ∈ r.terminalDenial, d ∈ AuthDenial.v1) ∧ r.Valid := by
  refine (fits_record rfl).trans (and_congr_left fun _ => ?_)
  constructor
  · intro h d hd
    exact fits_enum.mp (h.2.2.2.2.2.2.2.2 d hd)
  · intro h
    exact ⟨fits_opaqueId _, fits_secretDigest R _, fits_opaqueId _, fits_opaqueId _,
      fits_opaqueId _, fits_utcDatetime R _, trivial, fits_optionalDatetime R _,
      fun d hd => fits_enum.mpr (h d hd)⟩

/-! ### The document -/

def collectionNames : List String :=
  ["actors", "installation_actors", "roots", "bootstraps", "sessions", "recoveries", "step_ups",
    "grant_provenance", "composition_bindings", "reprovision_ceremonies"]

/-- An entry of the map of installations is the actor alone. -/
def installationActor : Codec (Table (Prod.fst : OpaqueId × OpaqueId → OpaqueId)) :=
  (list (pair opaqueId opaqueId)).refine (fun t => t.rows)
    (fun ps => readRows Prod.fst (ps.map fun p => (p.1, p)))
    (fun ps t hps ht => ⟨fun p hp => by
      obtain ⟨q, hq, heq⟩ := List.mem_map.mp (mem_of_readRows ht hp)
      obtain rfl : q = p := congrArg Prod.snd heq
      exact hps q hq, readRows_rows t⟩)
    fun ps t hps ht => by
      simp only [list, Json.digitsOk, itemsDigitsOk_iff, List.forall_mem_map] at hps ⊢
      intro p hp
      obtain ⟨q, hq, heq⟩ := List.mem_map.mp (mem_of_readRows ht hp)
      obtain rfl : q = p := congrArg Prod.snd heq
      exact hps q hq

def collections : Fields
    (Table ActorRecord.actorId × Table (Prod.fst : OpaqueId × OpaqueId → OpaqueId) ×
      Table RootCapabilityRecord.handle × Table BootstrapRecord.handle ×
      Table SessionRecord.handle × Table RecoveryRecord.handle × Table StepUpRecord.handle ×
      Table GrantProvenanceRecord.evidenceId × Table CompositionBindingRecord.installationId ×
      Table ReprovisionCeremonyRecord.handle) :=
  (field "actors" (table _ opaqueId (actorRecord R))).and <|
    (field "installation_actors" installationActor).and <|
    (field "roots" (table _ opaqueId (rootCapabilityRecord R))).and <|
    (field "bootstraps" (table _ opaqueId (bootstrapRecord R))).and <|
    (field "sessions" (table _ opaqueId (sessionRecord R))).and <|
    (field "recoveries" (table _ opaqueId (recoveryRecord R))).and <|
    (field "step_ups" (table _ opaqueId (stepUpRecord R))).and <|
    (field "grant_provenance" (table _ opaqueId (grantProvenanceRecord R))).and <|
    (field "composition_bindings" (table _ opaqueId (compositionBindingRecord R))).and <|
    field "reprovision_ceremonies" (table _ opaqueId (reprovisionCeremonyRecord R))

/-- The ten collections. A store that is read has no crash armed. -/
def state : Codec Store :=
  ((collections R).object (show collectionNames.Nodup by decide)).checked
    (fun s => (s.actors, s.installationActors, s.roots, s.bootstraps, s.sessions, s.recoveries,
      s.stepUps, s.grantProvenance, s.compositionBindings, s.reprovisionCeremonies))
    (fun (actors, installationActors, roots, bootstraps, sessions, recoveries, stepUps,
        grantProvenance, compositionBindings, reprovisionCeremonies) =>
      { actors, installationActors, roots, bootstraps, sessions, recoveries, stepUps,
        grantProvenance, compositionBindings, reprovisionCeremonies })
    Consistent fun _ => rfl

end Records

/-- The denials of the ceremonies are ones that version 1 has values for. -/
def V1 (s : Store) : Prop :=
  ∀ c ∈ s.reprovisionCeremonies.rows, ∀ d ∈ c.terminalDenial, d ∈ AuthDenial.v1

theorem fits_installationActor (t : Table (Prod.fst : OpaqueId × OpaqueId → OpaqueId)) :
    installationActor.Fits t :=
  ⟨fun _ _ => ⟨fits_opaqueId _, fits_opaqueId _⟩, readRows_rows t⟩

theorem fits_state {R : Reader} {s : Store} (h : s.crashOnce = none) :
    (state R).Fits s ↔ Exportable s ∧ V1 s := by
  have hread : ∀ t : Store, t.crashOnce = none → t = { t with crashOnce := none } := by
    rintro ⟨⟩ rfl
    rfl
  refine (fits_checked (hread s h).symm).trans ?_
  have htable : ∀ {ρ : Type} {key : ρ → OpaqueId} {c : Codec ρ} {t : Table key} {p : ρ → Prop},
      (∀ r, c.Fits r ↔ p r) → ((table key opaqueId c).Fits t ↔ ∀ r ∈ t.rows, p r) := by
    intro ρ key c t p hp
    rw [fits_table]
    exact forall₂_congr fun r _ => (and_iff_right (fits_opaqueId _)).trans (hp r)
  constructor
  · rintro ⟨⟨hactors, -, -, hbootstraps, hsessions, hrecoveries, hstepUps, hgrants, hcompositions,
      hceremonies⟩, hconsistent⟩
    have hcer := (htable fun _ => fits_reprovisionCeremonyRecord R).mp hceremonies
    exact ⟨⟨⟨(htable fun _ => fits_actorRecord R).mp hactors,
      (htable fun _ => fits_bootstrapRecord R).mp hbootstraps,
      (htable fun _ => fits_sessionRecord R).mp hsessions,
      (htable fun _ => fits_recoveryRecord R).mp hrecoveries,
      (htable fun _ => fits_stepUpRecord R).mp hstepUps,
      (htable fun _ => fits_grantProvenanceRecord R).mp hgrants,
      (htable fun _ => fits_compositionBindingRecord R).mp hcompositions,
      fun c hc => (hcer c hc).2⟩, hconsistent⟩, fun c hc => (hcer c hc).1⟩
  · rintro ⟨⟨hrecords, hconsistent⟩, hv1⟩
    refine ⟨⟨(htable fun _ => fits_actorRecord R).mpr hrecords.actors, fits_installationActor _,
      fits_table.mpr fun r _ => ⟨fits_opaqueId _, fits_rootCapabilityRecord R r⟩,
      (htable fun _ => fits_bootstrapRecord R).mpr hrecords.bootstraps,
      (htable fun _ => fits_sessionRecord R).mpr hrecords.sessions,
      (htable fun _ => fits_recoveryRecord R).mpr hrecords.recoveries,
      (htable fun _ => fits_stepUpRecord R).mpr hrecords.stepUps,
      (htable fun _ => fits_grantProvenanceRecord R).mpr hrecords.grants,
      (htable fun _ => fits_compositionBindingRecord R).mpr hrecords.compositions,
      (htable fun _ => fits_reprovisionCeremonyRecord R).mpr fun c hc =>
        ⟨hv1 c hc, hrecords.ceremonies c hc⟩⟩, hconsistent⟩

end Wire
end MyCogni.Auth
