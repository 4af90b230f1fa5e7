import MyCogni.Mailbox.Service

/-! The calls of the regular course of a mailbox, from its opening to the commitment of a result,
with what each answers and leaves when nothing stands against it. A sample mailbox takes this
course. -/

namespace MyCogni.Mailbox

section
variable {cfg : Config} {s : Repository} {i : Call × Env} {id : Uuid} {r : Record}
  {b : ActionBinding} {a c k e key rc d rd : Bytes} {m : List EvidenceUpload × Option Bytes}
  {env : Env} {now : Datetime}

/-- A record of a coherent repository is accessible at every admissible time. -/
theorem Coherent.access (hs : Coherent cfg s) (hr : s.records.get? id = some r) {env : Env}
    {now : Datetime} (hclock : env.clock = some now) (hafter : s.notAfter now) :
    ∃ m, Access cfg s env id r m now := by
  obtain ⟨m, hm⟩ := (hs.record id r hr).material
  obtain ⟨t, ht, hle⟩ := (hs.record id r hr).seen
  exact ⟨m, hr, validatedRecordMaterial_eq_ok.mpr hm, hclock, hafter, hle.trans (hafter t ht)⟩

theorem notAfter_of_ok {v : Reply} (h : (apply cfg s i).1 = .ok v)
    (hclock : i.2.clock = some now) : (apply cfg s i).2.notAfter now := by
  rcases (apply_step cfg s i).notAfter with ⟨-, f, hf⟩ | ⟨now', hclock', -, hlast⟩
  · rw [h] at hf
    exact nomatch hf
  · obtain rfl := Option.some.inj (hclock.symm.trans hclock')
    intro t ht
    rw [hlast] at ht
    exact (Option.some.inj ht).ge

theorem absent_of_not_isCreate (hcreate : i.1.isCreate = false)
    (hnone : s.records.get? id = none) : (apply cfg s i).2.records.get? id = none := by
  rcases apply_absent cfg s i hnone with h | ⟨b, a, c, k, -, hcall, -⟩
  · exact h
  · rw [hcall] at hcreate
    exact nomatch hcreate

theorem expireIfDue_eq_none (hopen : r.state.isOpen = true) (hlt : now < r.deadline) :
    expireIfDue (s, r) now = none := by
  have hstate : r.state ≠ .expired := by
    intro h
    simp [h, MailboxState.isOpen] at hopen
  rw [expireIfDue, if_neg hstate, if_neg (fun h => not_le.mpr hlt h.2)]

theorem deadline_unclaimed (hb : r.binding = b) (hstate : r.state = .empty ∨ r.state = .offered) :
    r.deadline = b.claimDeadlineUtc := by
  rw [Record.deadline, if_pos hstate, hb]

theorem deadline_claimed (hb : r.binding = b) (hstate : r.state = .claimedOnce) :
    r.deadline = b.deadlineUtc := by
  rw [Record.deadline, if_neg (by simp [hstate]), hb]

theorem create_ok (hclock : env.clock = some now)
    (hafter : s.notAfter now) (hnone : s.records.get? b.mailboxId = none)
    (htomb : s.tombstones.get? b.mailboxId = none)
    (hsize : s.records.size < cfg.limits.maxMailboxes) (hnodup : [a, c, k].Nodup)
    (hmaintenance : cfg.maintenanceCredentialDigest ∉ [a, c, k])
    (hfresh : ∀ d ∈ [a, c, k], credentialInUse s d none = false)
    (hlt : now < b.claimDeadlineUtc) :
    (apply cfg s (.create b a c k, env)).1 =
      .ok (.snapshot (snapshotOf (.opened b a c k now))) := by
  show (create cfg s b a c k env).1.map Reply.snapshot = _
  unfold create
  dsimp only
  rw [validatedInstallationNow_eq_ok.mpr ⟨hclock, hafter⟩, ok_bind,
    ensure_bind (Dict.contains_eq_false.mpr hnone), ensure_bind (Dict.contains_eq_false.mpr htomb),
    ensure_bind hsize, ensure_bind hnodup, ensure_bind hmaintenance, ensure_bind hfresh,
    ensure_bind hlt]
  rfl

theorem create_state {v : Reply} (h : (apply cfg s (.create b a c k, env)).1 = .ok v)
    (hclock : env.clock = some now) :
    (apply cfg s (.create b a c k, env)).2 =
      { s with
        records := s.records.set b.mailboxId (.opened b a c k now)
        installationLastSeenUtc := some now } := by
  have hstep := apply_step cfg s (.create b a c k, env)
  rw [h] at hstep
  generalize (apply cfg s (.create b a c k, env)).2 = s' at hstep ⊢
  cases hstep with
  | created hclock' =>
    obtain rfl := Option.some.inj (hclock.symm.trans hclock')
    rfl

theorem offer_ok (access : Access cfg s env b.mailboxId r m now) (hb : r.binding = b)
    (hcollection : r.collectionCredentialDigest = k) (haction : r.actionCredentialDigest = a)
    (hstate : r.state = .empty) (hlt : now < b.claimDeadlineUtc)
    (hnodup : [r.actionCredentialDigest, r.claimCredentialDigest, r.collectionCredentialDigest,
      rd].Nodup)
    (hmaintenance : cfg.maintenanceCredentialDigest ≠ rd)
    (hfresh : credentialInUse s rd (some b.mailboxId) = false)
    (hquota : s.totalActiveMaterialBytes + (e.length + key.length + rc.length : Int) ≤
      cfg.limits.maxTotalActiveMaterialBytes) :
    (apply cfg s (.offer b e key a k rc rd, env)).1 =
        .ok (.snapshot (snapshotOf (r.offeredWith e key rc rd now))) ∧
      (apply cfg s (.offer b e key a k rc rd, env)).2.records.get? b.mailboxId =
        some (r.offeredWith e key rc rd now) := by
  have hdue : expireIfDue (s, r) now = none :=
    expireIfDue_eq_none (by simp [hstate, MailboxState.isOpen])
      (deadline_unclaimed hb (Or.inl hstate) ▸ hlt)
  show (offer cfg s b e key a k rc rd env).1.map Reply.snapshot = _ ∧
    (offer cfg s b e key a k rc rd env).2.records.get? b.mailboxId = _
  unfold offer
  rw [record_eq_ok.mpr access.found, ok_bind, requireBinding, ensure_bind hb, requireCredential,
    ensure_bind hcollection, requireCredential, ensure_bind haction, access.authentic, ok_bind,
    validatedRecordNow_eq_ok.mpr ⟨access.clock, access.notAfter, access.seen⟩, ok_bind,
    ensure_bind hnodup, ensure_bind hmaintenance, hb, ensure_bind hfresh]
  rw [attempt_pure]
  dsimp only
  rw [hdue]
  dsimp only
  rw [ensure_bind hstate, ensure_ok hquota]
  exact ⟨rfl, Dict.get?_set_self ..⟩

/-- A claim takes effect before the constructor of its reply is called. -/
theorem claim_ok (access : Access cfg s env b.mailboxId r m now) (hclaim : r.claimCredentialDigest = d)
    (hb : r.binding = b) (hstate : r.state = .offered) (hlt : now < b.claimDeadlineUtc)
    (he : r.envelopeJson = some e) (hkey : r.actionKey = some key)
    (hrc : r.resultCredential = some rc) (hbefore : env.crashes .beforeClaimCommit = false)
    (hafter : env.crashes .afterClaimCommit = false) :
    (apply cfg s (.claim b d, env)).1 = (ClaimedAction.make ⟨b, e, key, rc⟩).map .claimed ∧
      (apply cfg s (.claim b d, env)).2.records.get? b.mailboxId = some (r.afterClaim now) := by
  subst hb
  have hdue : expireIfDue (s, r) now = none :=
    expireIfDue_eq_none (by simp [hstate, MailboxState.isOpen])
      (deadline_unclaimed rfl (Or.inr hstate) ▸ hlt)
  show (claim cfg s r.binding d env).1.map Reply.claimed = _ ∧
    (claim cfg s r.binding d env).2.records.get? r.binding.mailboxId = _
  unfold claim
  rw [record_eq_ok.mpr access.found, ok_bind, requireCredential, ensure_bind hclaim, requireBinding,
    ensure_bind rfl, access.authentic, ok_bind,
    validatedRecordNow_eq_ok.mpr ⟨access.clock, access.notAfter, access.seen⟩, ok_bind]
  rw [attempt_pure]
  dsimp only
  rw [hdue]
  dsimp only
  rw [ensure_bind hstate, he, hkey, hrc]
  dsimp only [hit]
  rw [ensure_bind hbefore, attempt_pure]
  dsimp only
  rw [ensure_bind hafter]
  exact ⟨rfl, Dict.get?_set_self ..⟩

theorem stage_ok {u : EvidenceUpload} (access : Access cfg s env b.mailboxId r m now)
    (hb : r.binding = b) (hstate : r.state = .claimedOnce)
    (hd : r.resultCredentialDigest = some d) (hlt : now < b.deadlineUtc)
    (hnew : r.evidence.get? u.objectId = none) (hitems : r.evidence.size < maxEvidenceItems)
    (hbytes : r.evidenceBytes + u.payload.length ≤ b.responseBytes)
    (hquota : s.totalEvidenceBytes + u.payload.length ≤ cfg.limits.maxTotalEvidenceBytes)
    (hdigest : sha256Text u.payload = u.payloadDigest)
    (hcrash : ∀ point, env.crashes point = false) :
    (apply cfg s (.stageEvidence b d u, env)).1 = .ok (.snapshot (snapshotOf
        (r.withEvidence (wrap cfg b.mailboxId u env.nonce) now))) ∧
      (apply cfg s (.stageEvidence b d u, env)).2.records.get? b.mailboxId =
        some (r.withEvidence (wrap cfg b.mailboxId u env.nonce) now) := by
  subst hb
  have hdue : expireIfDue (s, r) now = none :=
    expireIfDue_eq_none (by simp [hstate, MailboxState.isOpen]) (deadline_claimed rfl hstate ▸ hlt)
  show (stageEvidence cfg s r.binding d u env).1.map Reply.snapshot = _ ∧
    (stageEvidence cfg s r.binding d u env).2.records.get? r.binding.mailboxId = _
  unfold stageEvidence
  rw [record_eq_ok.mpr access.found, ok_bind, (requireResultAccess_eq_ok (u := ())).mpr ⟨rfl, hstate, hd⟩,
    ok_bind, access.authentic, ok_bind,
    validatedRecordNow_eq_ok.mpr ⟨access.clock, access.notAfter, access.seen⟩, ok_bind]
  rw [attempt_pure]
  dsimp only
  rw [hdue]
  dsimp only
  rw [ensure_bind (Dict.contains_eq_false.mpr hnew), ensure_bind hitems, ensure_bind hbytes,
    ensure_bind hquota, ensure_bind hdigest, unwrap_wrap _ _ _ hdigest, ok_bind]
  dsimp only [hit]
  rw [ensure_ok (hcrash _), attempt_ok]
  dsimp only
  rw [ensure_bind (hcrash _)]
  exact ⟨rfl, Dict.get?_set_self ..⟩

theorem commit_ok {j digest : Bytes} {seals : List EvidenceSeal}
    {manifest : CommittedEvidenceManifest} (access : Access cfg s env b.mailboxId r m now)
    (hb : r.binding = b) (hstate : r.state = .claimedOnce)
    (hd : r.resultCredentialDigest = some d) (hlt : now < b.deadlineUtc)
    (hmissing : ∀ id ∈ seals.map fun item => item.objectId, r.evidence.contains id = true)
    (hunreferenced : ∀ id ∈ r.evidence.keys, id ∈ seals.map fun item => item.objectId)
    (hseals : ∀ item ∈ seals, ∀ upload ∈ m.1, upload.objectId = item.objectId →
      sealMatches item upload = true)
    (hbytes : (j.length : Int) + r.evidenceBytes ≤ b.responseBytes)
    (hquota : s.totalCommittedBytes + (j.length + r.evidenceBytes) ≤
      cfg.limits.maxTotalCommittedBytes)
    (hdigest : bindingDigest b = .ok digest)
    (hrefs : validateResultReferences cfg b j m.1 = .ok ())
    (hmanifest : buildCommittedManifest cfg b (m.1.map fun e => e.objectId)
      (wrapResult cfg digest j env.nonce) = .ok manifest)
    (hcrash : ∀ point, env.crashes point = false) :
    (apply cfg s (.commitResult b d j seals, env)).1 = .ok (.snapshot (snapshotOf
        (r.committedWith (wrapResult cfg digest j env.nonce) manifest now))) ∧
      (apply cfg s (.commitResult b d j seals, env)).2.records.get? b.mailboxId =
        some (r.committedWith (wrapResult cfg digest j env.nonce) manifest now) := by
  subst hb
  have hdue : expireIfDue (s, r) now = none :=
    expireIfDue_eq_none (by simp [hstate, MailboxState.isOpen]) (deadline_claimed rfl hstate ▸ hlt)
  show (commitResult cfg s r.binding d j seals env).1.map Reply.snapshot = _ ∧
    (commitResult cfg s r.binding d j seals env).2.records.get? r.binding.mailboxId = _
  unfold commitResult
  rw [record_eq_ok.mpr access.found, ok_bind,
    (requireResultAccess_eq_ok (u := ())).mpr ⟨rfl, hstate, hd⟩, ok_bind, access.authentic, ok_bind,
    validatedRecordNow_eq_ok.mpr ⟨access.clock, access.notAfter, access.seen⟩, ok_bind,
    attempt_pure]
  dsimp only
  rw [hdue]
  dsimp only
  rw [ensure_bind hmissing, ensure_bind hunreferenced, ensure_bind hseals, ensure_bind hbytes,
    ensure_bind hquota, hdigest, ok_bind, hrefs, ok_bind, hmanifest, ok_bind]
  dsimp only [hit]
  rw [ensure_bind (hcrash _), attempt_pure]
  dsimp only
  rw [ensure_bind (hcrash _)]
  exact ⟨rfl, Dict.get?_set_self ..⟩

end

/-! ### A sample mailbox -/

theorem isDigest_sha256Text (x : Bytes) : isDigest (sha256Text x) = true := by
  have hdigit : ∀ n < 16, isLowerHex (hexDigit n) = true := by decide
  have hhex : (hex (Sha256.digest x)).all isLowerHex = true := by
    rw [List.all_eq_true]
    intro ch hch
    obtain ⟨y, -, hy⟩ := List.mem_flatMap.mp hch
    have hlt : y.toNat < 256 := y.toNat_lt
    simp only [byteHex, List.mem_cons, List.not_mem_nil, or_false] at hy
    rcases hy with rfl | rfl
    · exact hdigit _ (by omega)
    · exact hdigit _ (by omega)
  have hlength : (hex (Sha256.digest x)).length = 64 := by
    rw [length_hex, Sha256.length_digest]
  show (decide ((sha256Text x).take 7 = "sha256:".toList) &&
    decide (((sha256Text x).drop 7).length = 64) && ((sha256Text x).drop 7).all isLowerHex) = true
  have hdrop : (sha256Text x).drop 7 = hex (Sha256.digest x) := rfl
  have htake : (sha256Text x).take 7 = "sha256:".toList := rfl
  rw [hdrop, htake, hlength, hhex]
  rfl

def sampleUuid (d : Nat) : Uuid :=
  ⟨List.replicate 6 (UInt8.ofNat (17 * d)) ++
    [UInt8.ofNat (64 + d), UInt8.ofNat (17 * d), UInt8.ofNat (128 + d)] ++
    List.replicate 7 (UInt8.ofNat (17 * d)), by simp⟩

/-! The JSON text of an action with attributes of given names and lengths. -/

def attributeText (a : String × Nat) : Bytes :=
  ascii "\x7b\"attribute_type\":\"" ++ ascii a.1 ++ ascii "\",\"ciphertext\":\"" ++
    List.replicate a.2 65 ++ ascii "\"\x7d"

def attributesText : List (String × Nat) → Bytes
  | [] => []
  | [a] => attributeText a
  | a :: as => attributeText a ++ ascii "," ++ attributesText as

def frontTexts : List String :=
  ["\x7b\"protocol_version\":1,", "\"action_id\":\"22222222-2222-4222-8222-222222222222\",",
    "\"intent_id\":\"33333333-3333-4333-8333-333333333333\",",
    "\"attempt_id\":\"44444444-4444-4444-8444-444444444444\",",
    "\"fence\":1,\"authorization_epoch\":1,", "\"capability\":\"observe\",",
    "\"connector_release\":\"demo@1.0.0\",",
    "\"profile_ref\":\"55555555-5555-4555-8555-555555555555\",", "\"attributes\":["]

def middleTexts : List String :=
  ["],\"allowed_origins\":[\"https://example.com\"],", "\"deadline_utc\":\""]

def backTexts : List String :=
  ["\",\"attempt\":0,\"budget\":", "\x7b\"wall_seconds\":60,\"response_bytes\":2097152\x7d\x7d"]

def actionText (attributes : List (String × Nat)) (deadline : String) : Bytes :=
  frontTexts.flatMap ascii ++ attributesText attributes ++ middleTexts.flatMap ascii ++
    ascii deadline ++ backTexts.flatMap ascii

theorem length_ascii (s : String) : (ascii s).length = s.length := by
  rw [ascii, List.length_map, String.length_toList]

theorem length_flatMap_ascii (parts : List String) :
    (parts.flatMap ascii).length = (parts.map String.length).sum := by
  rw [List.length_flatMap]
  exact congrArg List.sum (List.map_congr_left fun s _ => length_ascii s)

theorem length_attributeText (a : String × Nat) :
    (attributeText a).length = 37 + a.1.length + a.2 := by
  have h₁ : "\x7b\"attribute_type\":\"".length = 19 := by decide
  have h₂ : "\",\"ciphertext\":\"".length = 16 := by decide
  have h₃ : "\"\x7d".length = 2 := by decide
  rw [attributeText, List.length_append, List.length_append, List.length_append,
    List.length_append, List.length_replicate, length_ascii, length_ascii, length_ascii,
    length_ascii, h₁, h₂, h₃]
  omega

theorem length_attributesText (a : String × Nat) (as : List (String × Nat)) :
    (attributesText (a :: as)).length + 1 =
      ((a :: as).map fun a => 38 + a.1.length + a.2).sum := by
  induction as generalizing a with
  | nil =>
    rw [attributesText, length_attributeText, List.map_singleton, List.sum_singleton]
    omega
  | cons b bs ih =>
    have hb := ih b
    have hcomma : ",".length = 1 := by decide
    rw [attributesText, List.length_append, List.length_append, length_attributeText, length_ascii,
      hcomma, List.map_cons, List.sum_cons, ← hb]
    · omega
    · exact List.cons_ne_nil _ _

theorem length_actionText (attributes : List (String × Nat)) (deadline : String) :
    (actionText attributes deadline).length =
      461 + (attributesText attributes).length + deadline.length := by
  have hfront : (frontTexts.map String.length).sum = 333 := by decide +kernel
  have hmiddle : (middleTexts.map String.length).sum = 60 := by decide +kernel
  have hback : (backTexts.map String.length).sum = 68 := by decide +kernel
  rw [actionText, List.length_append, List.length_append, List.length_append, List.length_append,
    length_ascii, length_flatMap_ascii, length_flatMap_ascii, length_flatMap_ascii, hfront, hmiddle,
    hback]
  omega

theorem actionText_ne_nil (attributes : List (String × Nat)) (deadline : String) :
    actionText attributes deadline ≠ [] := by
  intro h
  have hlength := congrArg List.length h
  rw [length_actionText, List.length_nil] at hlength
  omega

/-- The action of the sample: its attributes, with the lengths of their ciphertexts, and the
spelling in which its deadline is received. -/
structure Sample where
  attributes : List (String × Nat)
  deadlineText : String

namespace Sample

def deadline : Datetime := ⟨64029052800000000, by decide⟩
def claimDeadline : Datetime := ⟨64028966400000000, by decide⟩
def now : Datetime := ⟨64028880000000000, by decide⟩

def payload : Bytes := ascii "page body"

def uploadFields : UploadFields := ⟨sampleUuid 6, "page".toList, sha256Text payload, payload⟩

theorem uploadFields_wellFormed : uploadFields.wellFormed = true := by
  simp only [UploadFields.wellFormed, uploadFields, isDigest_sha256Text]
  rfl

def upload : EvidenceUpload := ⟨uploadFields, uploadFields_wellFormed⟩

def resultFields : ResultFields where
  actionId := sampleUuid 2
  attemptId := sampleUuid 4
  result := .noCandidate
  reasonCode := .noCandidate
  externalReference := none
  evidence := [⟨"page".toList, sampleUuid 6, sha256Text payload, payload.length⟩]
  disclosures := []
  next := .none

theorem resultFields_wellFormed : resultFields.wellFormed = true := by
  simp only [ResultFields.wellFormed, resultFields, List.all_cons, List.all_nil,
    EvidenceReference.wellFormed, isDigest_sha256Text, List.map_cons, List.map_nil,
    List.nodup_singleton]
  rfl

def result : ResultEnvelope := ⟨resultFields, resultFields_wellFormed⟩

def sealFields : SealFields := ⟨sampleUuid 6, "page".toList, sha256Text payload, payload.length⟩

theorem sealFields_wellFormed : sealFields.wellFormed = true := by
  simp only [SealFields.wellFormed, sealFields, isDigest_sha256Text]
  rfl

def evidenceSeal : EvidenceSeal := ⟨sealFields, sealFields_wellFormed⟩

theorem modelDumpJson_ne_nil (r : ResultEnvelope) : r.modelDumpJson ≠ [] := by
  obtain ⟨c, t, ht, -⟩ := text_head r.json
  rw [ResultEnvelope.modelDumpJson, encode_of_isAscii (isAscii_text _), ht]
  simp

section
variable (x : Sample)

def received : Bytes := actionText x.attributes x.deadlineText

def canonical : Bytes := actionText x.attributes "2030-01-01T00:00:00Z"

theorem received_ne_nil : x.received ≠ [] := actionText_ne_nil _ _

theorem canonical_ne_nil : x.canonical ≠ [] := actionText_ne_nil _ _

def action : ActionEnvelope where
  actionId := sampleUuid 2
  intentId := sampleUuid 3
  attemptId := sampleUuid 4
  fence := 1
  authorizationEpoch := 1
  capability := .observe
  connectorRelease := "demo@1.0.0".toList
  profileRef := sampleUuid 5
  attributes := x.attributes.map fun a => ⟨a.1.toList, List.replicate a.2 'A'⟩
  allowedOrigins := ["https://example.com".toList]
  deadlineUtc := deadline
  attempt := 0
  budget := ⟨60, 2097152⟩

/-- A validator that knows the two texts of the action and the text of the result. -/
def pydantic : Pydantic where
  validateAction b := if b = x.received ∨ b = x.canonical then some x.action else none
  dumpAction _ := x.canonical
  validateResult b := if b = result.modelDumpJson then some result else none
  action_round_trip b m h := by
    split_ifs at h
    rw [if_pos (Or.inr rfl)]
    exact h
  result_round_trip b m h := by
    split_ifs at h
    obtain rfl := Option.some.inj h
    exact if_pos rfl
  action_nonempty := by
    refine if_neg ?_
    rintro (h | h)
    · exact x.received_ne_nil h.symm
    · exact x.canonical_ne_nil h.symm
  result_nonempty := if_neg (modelDumpJson_ne_nil _).symm

def config : Config where
  aead := .aesGcm
  pydantic := x.pydantic
  limits := .default
  maintenanceCredentialDigest := List.replicate 32 0
  storageKey := List.replicate 32 255
  maintenance_length := rfl
  storageKey_length := rfl

def artifactDigest : Text := "sha256:".toList ++ List.replicate 64 '0'

def bindingFields : BindingFields where
  mailboxId := sampleUuid 1
  actionId := sampleUuid 2
  intentId := sampleUuid 3
  attemptId := sampleUuid 4
  connectorRelease := "demo@1.0.0".toList
  capability := "observe".toList
  selectedArtifactDigest := artifactDigest
  dispatchEpoch := 1
  fence := 1
  authorizationEpoch := 1
  claimDeadlineUtc := claimDeadline
  deadlineUtc := deadline
  wallSeconds := 60
  responseBytes := 2097152
  envelopeDigest := sha256Text x.canonical

theorem bindingFields_wellFormed : x.bindingFields.wellFormed = true := by
  have htexts : (isConnectorRelease "demo@1.0.0".toList && isCapabilityText "observe".toList &&
      isDigest artifactDigest) = true := by decide +kernel
  simp only [Bool.and_eq_true] at htexts
  simp only [BindingFields.wellFormed, bindingFields, isDigest_sha256Text, htexts]
  rfl

def binding : ActionBinding := ⟨x.bindingFields, x.bindingFields_wellFormed⟩

def actionKey : Bytes := List.replicate 32 1
def claimCredential : Bytes := List.replicate 32 2
def collectionCredential : Bytes := List.replicate 32 3
def issuedCredential : Bytes := List.replicate 32 4

def env : Env where
  clock := some now
  crashes _ := false
  nonce := ⟨List.replicate 12 0, rfl⟩

def opened : Outcome × Repository :=
  serve x.config .empty (.openEmpty x.binding actionKey claimCredential collectionCredential, env)

def offered : Outcome × Repository :=
  serve x.config x.opened.2
    (.offer x.binding x.received actionKey collectionCredential issuedCredential, env)

def claimed : Outcome × Repository :=
  serve x.config x.offered.2 (.claim x.binding claimCredential, env)

def staged : Outcome × Repository :=
  serve x.config x.claimed.2 (.stageEvidence x.binding issuedCredential upload, env)

def committed : Outcome × Repository :=
  serve x.config x.staged.2 (.commitResult x.binding result.modelDumpJson issuedCredential, env)

theorem digests_nodup : [x.config.maintenanceCredentialDigest, credentialDigest actionKey,
    credentialDigest claimCredential, credentialDigest collectionCredential,
    credentialDigest issuedCredential].Nodup := by
  show [List.replicate 32 0, credentialDigest actionKey, credentialDigest claimCredential,
    credentialDigest collectionCredential, credentialDigest issuedCredential].Nodup
  decide +kernel

variable {x}

theorem validateAction_of_eq {j : Bytes} (hj : j = x.received) :
    x.config.pydantic.validateAction j = some x.action := if_pos (Or.inl hj)

theorem validateResult_of_eq {j : Bytes} (hj : j = result.modelDumpJson) :
    x.config.pydantic.validateResult j = some result := if_pos hj

theorem parseAction_received (h : x.received.length ≤ maxActionEnvelopeBytes) :
    parseAction x.config x.received = .ok (x.action, x.canonical) := by
  unfold parseAction
  rw [ensure_bind ⟨x.received_ne_nil, h⟩, validateAction_of_eq rfl]
  rfl

theorem bindAction_received (h : x.received.length ≤ maxActionEnvelopeBytes) :
    bindAction x.config (sampleUuid 1) x.received artifactDigest 1 claimDeadline =
      .ok x.binding := by
  have hmake : ActionBinding.make x.bindingFields = .ok x.binding :=
    dif_pos x.bindingFields_wellFormed
  unfold bindAction
  rw [parseAction_received h, ok_bind]
  dsimp only
  split
  · rename_i herror
    cases herror.symm.trans hmake
  · rename_i hok
    rw [Except.ok.inj (hok.symm.trans hmake)]
    rfl

theorem bindingDigest_binding : ∃ digest, bindingDigest x.binding = .ok digest := by
  have hone : strInt 1 = some (intText 1) := if_pos (by decide)
  have hseconds : strInt 60 = some (intText 60) := if_pos (by decide)
  have hbytes : strInt 2097152 = some (intText 2097152) := if_pos (by decide)
  unfold bindingDigest
  simp only [binding, bindingFields, hone, hseconds, hbytes]
  exact ⟨_, rfl⟩

/-- The record as it is opened. -/
def blank (x : Sample) : Record :=
  .opened x.binding (credentialDigest actionKey) (credentialDigest claimCredential)
    (credentialDigest collectionCredential) now

theorem serve_opened : x.opened = apply x.config .empty (.create x.binding
    (credentialDigest actionKey) (credentialDigest claimCredential)
    (credentialDigest collectionCredential), env) := by
  unfold opened serve
  rw [Request.call]
  rfl

theorem opened_outcome : x.opened.1 = .ok (.snapshot (snapshotOf x.blank)) := by
  obtain ⟨hmaintenance, hnodup⟩ := List.nodup_cons.mp x.digests_nodup
  have hsub := List.sublist_append_left [credentialDigest actionKey,
    credentialDigest claimCredential, credentialDigest collectionCredential]
    [credentialDigest issuedCredential]
  have hsize : (0 : Nat) < 64 := by decide
  have hlt : now < claimDeadline := by decide
  rw [serve_opened]
  exact create_ok rfl (fun t ht => nomatch ht) rfl rfl hsize (hnodup.sublist hsub)
    (fun h => hmaintenance (hsub.subset h)) (fun _ _ => rfl) hlt

theorem opened_state : x.opened.2 =
    { Repository.empty with
      records := Dict.empty.set (sampleUuid 1) x.blank
      installationLastSeenUtc := some now } := by
  have h := opened_outcome (x := x)
  rw [serve_opened] at h ⊢
  exact create_state h rfl

theorem coherent_opened : Coherent x.config x.opened.2 :=
  coherent_step_serve (coherent_empty _) _

theorem opened_records {id : Uuid} {r : Record} (h : x.opened.2.records.get? id = some r) :
    id = sampleUuid 1 ∧ r = x.blank := by
  rw [opened_state] at h
  dsimp only at h
  rw [Dict.get?_set] at h
  split_ifs at h with hid
  · exact ⟨hid, (Option.some.inj h).symm⟩
  · cases h

/-- What the course of the sample needs: the action is short enough to be received and offered. -/
structure Admissible (x : Sample) : Prop where
  received : x.received.length ≤ maxActionEnvelopeBytes
  quota : x.canonical.length ≤ 16000000

variable (h : x.Admissible)
include h

theorem serve_offered : x.offered = apply x.config x.opened.2 (.offer x.binding x.canonical
    actionKey (credentialDigest actionKey) (credentialDigest collectionCredential) issuedCredential
    (credentialDigest issuedCredential), env) := by
  unfold offered serve
  rw [Request.call, parseAction_received h.received, ok_bind]
  dsimp only
  rw [requireActionBinding,
    ensure_bind ⟨rfl, rfl, rfl, rfl, rfl, rfl, rfl, rfl, rfl, rfl, rfl⟩]
  rfl

/-- The record with the action offered. -/
theorem offered_spec :
    let r := x.blank.offeredWith x.canonical actionKey issuedCredential
      (credentialDigest issuedCredential) now
    x.offered.1 = .ok (.snapshot (snapshotOf r)) ∧
      x.offered.2.records.get? (sampleUuid 1) = some r := by
  obtain ⟨hmaintenance, hnodup⟩ := List.nodup_cons.mp x.digests_nodup
  have hfound : x.opened.2.records.get? (sampleUuid 1) = some x.blank := by
    rw [opened_state]
    exact Dict.get?_set_self ..
  have hafter : x.opened.2.notAfter now := by
    intro t ht
    rw [opened_state] at ht
    exact (Option.some.inj ht).ge
  obtain ⟨m, access⟩ := coherent_opened.access hfound (show env.clock = some now from rfl) hafter
  have hlt : now < claimDeadline := by decide
  rw [serve_offered h]
  refine offer_ok (b := x.binding) access rfl rfl rfl rfl hlt hnodup ?_ ?_ ?_
  · exact fun hd => hmaintenance (hd ▸ by simp)
  · rw [credentialInUse_eq_false]
    intro id r hr hne
    exact absurd (congrArg some (opened_records hr).1) hne
  · have htotal : x.opened.2.totalActiveMaterialBytes = 0 := by rw [opened_state]; rfl
    have hquota := h.quota
    rw [htotal]
    show (0 : Int) + (x.canonical.length + 32 + 32) ≤ 16777216
    omega

theorem offered_notAfter : x.offered.2.notAfter now := by
  have hoffered := (offered_spec h).1
  rw [serve_offered h] at hoffered ⊢
  exact notAfter_of_ok hoffered rfl

omit h in
theorem coherent_offered : Coherent x.config x.offered.2 :=
  coherent_step_serve coherent_opened _

omit h in
theorem serve_claimed : x.claimed =
    apply x.config x.offered.2 (.claim x.binding (credentialDigest claimCredential), env) :=
  serve_claim (by decide)

/-- The record after its claim. -/
def taken (x : Sample) : Record :=
  (x.blank.offeredWith x.canonical actionKey issuedCredential (credentialDigest issuedCredential)
    now).afterClaim now

theorem claimed_spec :
    x.claimed.1 = (ClaimedAction.make ⟨x.binding, x.canonical, actionKey, issuedCredential⟩).map
        .claimed ∧
      x.claimed.2.records.get? (sampleUuid 1) = some x.taken := by
  obtain ⟨m, access⟩ := coherent_offered.access (offered_spec h).2
    (show env.clock = some now from rfl) (offered_notAfter h)
  have hlt : now < claimDeadline := by decide
  rw [serve_claimed]
  exact claim_ok (b := x.binding) access rfl rfl rfl hlt rfl rfl rfl rfl rfl

omit h in
theorem coherent_claimed : Coherent x.config x.claimed.2 :=
  coherent_step_serve coherent_offered _

theorem claimed_alone {id : Uuid} (hid : id ≠ sampleUuid 1) :
    x.claimed.2.records.get? id = none := by
  have hopened : x.opened.2.records.get? id = none := by
    rw [opened_state]
    exact Dict.get?_set_ne _ _ hid
  rw [serve_claimed, serve_offered h]
  exact absent_of_not_isCreate rfl (absent_of_not_isCreate rfl hopened)

variable (hshort : x.canonical.length ≤ maxActionEnvelopeBytes)
include hshort

theorem claimed_notAfter : x.claimed.2.notAfter now := by
  have hvalid : ClaimedFields.wellFormed
      ⟨x.binding, x.canonical, actionKey, issuedCredential⟩ = true := by
    simp only [ClaimedFields.wellFormed, Bool.and_eq_true, decide_eq_true_eq]
    exact ⟨⟨⟨x.canonical_ne_nil, hshort⟩, by decide⟩, by decide⟩
  have hclaimed := (claimed_spec h).1
  rw [ClaimedAction.make, dif_pos hvalid] at hclaimed
  rw [serve_claimed] at hclaimed ⊢
  exact notAfter_of_ok hclaimed rfl

omit h hshort in
theorem serve_staged : x.staged = apply x.config x.claimed.2
    (.stageEvidence x.binding (credentialDigest issuedCredential) upload, env) := by
  have hsize : (upload.payload.length : Nat) ≤ maxEvidenceBytes := by decide
  have hdigest : sha256Text upload.payload = upload.payloadDigest := rfl
  unfold staged serve
  rw [Request.call, requireCredentialBytes, ensure_bind (by decide), ensure_bind hsize,
    ensure_bind hdigest]
  rfl

/-- The record with one piece of evidence. -/
def filled (x : Sample) : Record :=
  x.taken.withEvidence (wrap x.config (sampleUuid 1) upload env.nonce) now

theorem staged_spec :
    x.staged.1 = .ok (.snapshot (snapshotOf x.filled)) ∧
      x.staged.2.records.get? (sampleUuid 1) = some x.filled := by
  obtain ⟨m, access⟩ := coherent_claimed.access (claimed_spec h).2
    (show env.clock = some now from rfl) (claimed_notAfter h hshort)
  have hlt : now < deadline := by decide
  have hquota : x.claimed.2.totalEvidenceBytes + 9 ≤ 67108864 := by
    have htotal : x.claimed.2.totalEvidenceBytes = 0 := by
      rw [coherent_claimed.totals.2.1,
        Dict.sum_eq_single (claimed_spec h).2 fun id hid => claimed_alone h hid]
      rfl
    rw [htotal]
    decide
  rw [serve_staged]
  exact stage_ok (b := x.binding) access rfl rfl rfl hlt rfl (show 0 < 64 by decide)
    (show (0 : Int) + 9 ≤ 2097152 by decide) hquota rfl fun _ => rfl

theorem staged_notAfter : x.staged.2.notAfter now := by
  have hstaged := (staged_spec h hshort).1
  rw [serve_staged] at hstaged ⊢
  exact notAfter_of_ok hstaged rfl

omit h hshort in
theorem coherent_staged : Coherent x.config x.staged.2 :=
  coherent_step_serve coherent_claimed _

omit hshort in
theorem staged_alone {id : Uuid} (hid : id ≠ sampleUuid 1) :
    x.staged.2.records.get? id = none := by
  rw [serve_staged]
  exact absent_of_not_isCreate rfl (claimed_alone h hid)

omit h hshort in
theorem serve_committed : x.committed = apply x.config x.staged.2
    (.commitResult x.binding (credentialDigest issuedCredential) result.modelDumpJson
      [evidenceSeal], env) := by
  have hparse : parseResult x.config result.modelDumpJson =
      .ok (result, result.modelDumpJson) := by
    unfold parseResult
    rw [ensure_bind ⟨modelDumpJson_ne_nil _, result.length_modelDumpJson_le⟩, validateResult_of_eq rfl]
    rfl
  have hpolicy : requireResultPolicy x.binding result = .ok () := rfl
  have hseals : (result.evidence.mapM fun item => EvidenceSeal.make
      ⟨item.mailboxObjectId, item.kind, item.payloadDigest, item.byteCount⟩) =
      .ok [evidenceSeal] := by
    refine mapM_eq_ok_iff.mpr (.cons ?_ .nil)
    exact dif_pos sealFields_wellFormed
  unfold committed serve
  rw [Request.call, requireCredentialBytes, ensure_bind (by decide), hparse, ok_bind]
  dsimp only
  rw [ensure_bind ⟨rfl, rfl⟩, hpolicy, ok_bind, hseals]
  rfl

omit h hshort in
theorem validateResultReferences_result :
    validateResultReferences x.config x.binding result.modelDumpJson [upload] = .ok () := by
  have hrefs : (result.evidence.map EvidenceReference.mailboxObjectId) = [sampleUuid 6] := rfl
  have hids : ([upload].map fun e : EvidenceUpload => e.objectId) = [sampleUuid 6] := rfl
  unfold validateResultReferences
  rw [validateResult_of_eq rfl]
  dsimp only
  rw [hrefs, hids, ensure_bind ⟨rfl, rfl⟩,
    ensure_bind ⟨List.nodup_singleton _, fun _ hid => hid, fun _ hid => hid⟩]
  refine ensure_eq_ok.mpr ?_
  intro item hitem u hu _
  obtain rfl := List.mem_singleton.mp hitem
  obtain rfl := List.mem_singleton.mp hu
  simp [referenceMatches, upload, uploadFields]

/-- The record with its result. -/
theorem committed_spec : ∃ item manifest,
    let r := x.filled.committedWith item manifest now
    x.committed.1 = .ok (.snapshot (snapshotOf r)) ∧
      x.committed.2.records.get? (sampleUuid 1) = some r ∧
      Authentic x.config r ([upload], some result.modelDumpJson) := by
  obtain ⟨m, access⟩ := coherent_staged.access (staged_spec h hshort).2
    (show env.clock = some now from rfl) (staged_notAfter h hshort)
  have hauthentic := validatedRecordMaterial_eq_ok.mp access.authentic
  have hm : m.1 = [upload] := by
    have hslots : validatedEvidenceSlots x.config x.filled = .ok ([] ++ [upload]) :=
      slots_withEvidence (r := x.taken) (slots_empty rfl) rfl rfl rfl rfl
    exact (Except.ok.inj (hslots.symm.trans hauthentic.slots)).symm
  obtain ⟨digest, hdigest⟩ := bindingDigest_binding (x := x)
  obtain ⟨manifest, hmanifest⟩ : ∃ manifest, buildCommittedManifest x.config x.binding
      (m.1.map fun e => e.objectId)
      (wrapResult x.config digest result.modelDumpJson env.nonce) = .ok manifest := by
    unfold buildCommittedManifest
    rw [hm, List.map_singleton, ensure_bind (List.nodup_singleton _), hdigest]
    exact ⟨_, rfl⟩
  have hlength : result.modelDumpJson.length ≤ 1048576 := result.length_modelDumpJson_le
  have hbytes : x.filled.evidenceBytes = 9 := rfl
  have hlt : now < deadline := by decide
  have hrefs : validateResultReferences x.config x.binding result.modelDumpJson m.1 = .ok () := by
    rw [hm]
    exact validateResultReferences_result
  refine ⟨wrapResult x.config digest result.modelDumpJson env.nonce, manifest, ?_⟩
  rw [serve_committed, ← and_assoc, ← hm]
  refine ⟨commit_ok (b := x.binding) access rfl rfl rfl hlt ?_ ?_ ?_ ?_ ?_ hdigest hrefs hmanifest
    fun _ => rfl, authentic_committedWith hauthentic hdigest hrefs hmanifest now⟩
  · intro id hid
    obtain rfl := List.mem_singleton.mp hid
    rfl
  · exact fun id hid => hid
  · intro item hitem u hu _
    obtain rfl := List.mem_singleton.mp hitem
    rw [hm] at hu
    obtain rfl := List.mem_singleton.mp hu
    simp [sealMatches, upload, uploadFields, evidenceSeal, sealFields]
  · rw [hbytes]
    show (result.modelDumpJson.length : Int) + 9 ≤ 2097152
    omega
  · have htotal : x.staged.2.totalCommittedBytes = 0 := by
      rw [coherent_staged.totals.2.2,
        Dict.sum_eq_single (staged_spec h hshort).2 fun id hid => staged_alone h hid]
      rfl
    rw [htotal, hbytes]
    show (0 : Int) + (result.modelDumpJson.length + 9) ≤ 67108864
    omega

omit h hshort in
theorem coherent_committed : Coherent x.config x.committed.2 :=
  coherent_step_serve coherent_staged _

theorem committed_notAfter : x.committed.2.notAfter now := by
  obtain ⟨item, manifest, hcommitted, -⟩ := committed_spec h hshort
  rw [serve_committed] at hcommitted ⊢
  exact notAfter_of_ok hcommitted rfl

end

/-- The requests of the sample. -/
def course (x : Sample) : List (Request × Env) :=
  [(.openEmpty x.binding actionKey claimCredential collectionCredential, env),
    (.offer x.binding x.received actionKey collectionCredential issuedCredential, env),
    (.claim x.binding claimCredential, env), (.stageEvidence x.binding issuedCredential upload, env),
    (.commitResult x.binding result.modelDumpJson issuedCredential, env)]

theorem run_course (x : Sample) : run (serve x.config) .empty x.course = x.committed.2 := rfl

/-- One short attribute, and a deadline in its canonical spelling. -/
def small : Sample := ⟨[("a", 4)], "2030-01-01T00:00:00Z"⟩

theorem length_canonical_small : small.canonical.length = 523 := by
  have hdeadline : "2030-01-01T00:00:00Z".length = 20 := by decide
  have hattributes := length_attributesText ("a", 4) []
  rw [canonical, length_actionText, hdeadline]
  show 461 + (attributesText [("a", 4)]).length + 20 = 523
  simp only [List.map_singleton, List.sum_singleton] at hattributes
  have hname : "a".length = 1 := by decide
  omega

theorem small_short : small.canonical.length ≤ maxActionEnvelopeBytes := by
  rw [length_canonical_small]
  decide

theorem small_admissible : small.Admissible where
  received := small_short
  quota := by
    rw [length_canonical_small]
    decide

end Sample
end MyCogni.Mailbox
