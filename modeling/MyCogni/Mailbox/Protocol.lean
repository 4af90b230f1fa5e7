import MyCogni.Base.AesGcm
import MyCogni.Base.Json
import MyCogni.Mailbox.Domain

/-! The wire models that cross the mailbox, and what the mailbox relies on from the validation
library that reads and writes them. -/

namespace MyCogni.Mailbox

inductive Capability where
  | observe | prepare | submit | poll | verify
deriving DecidableEq

def Capability.value : Capability → Text
  | .observe => "observe".toList
  | .prepare => "prepare".toList
  | .submit => "submit".toList
  | .poll => "poll".toList
  | .verify => "verify".toList

def Capability.all : List Capability := [.observe, .prepare, .submit, .poll, .verify]

/-- `Capability(text)`. -/
def Capability.ofText (t : Text) : Option Capability := all.find? fun c => c.value = t

inductive ResultCode where
  | noCandidate | candidateObserved | ambiguousCandidates | payloadPrepared | transportReceipt
  | brokerAcknowledged | brokerProcessing | brokerAssertedComplete | partialResponse
  | brokerDenied | challenge | inconclusive | failed
deriving DecidableEq

def ResultCode.value : ResultCode → Text
  | .noCandidate => "no_candidate".toList
  | .candidateObserved => "candidate_observed".toList
  | .ambiguousCandidates => "ambiguous_candidates".toList
  | .payloadPrepared => "payload_prepared".toList
  | .transportReceipt => "transport_receipt".toList
  | .brokerAcknowledged => "broker_acknowledged".toList
  | .brokerProcessing => "broker_processing".toList
  | .brokerAssertedComplete => "broker_asserted_complete".toList
  | .partialResponse => "partial_response".toList
  | .brokerDenied => "broker_denied".toList
  | .challenge => "challenge".toList
  | .inconclusive => "inconclusive".toList
  | .failed => "failed".toList

inductive ReasonCode where
  | noCandidate | nameAddressMatch | exactMatch | partialMatch | multipleCandidates
  | insufficientMatch | preparationComplete | transportAccepted | brokerAccepted | brokerPending
  | brokerAssertion | partialCompletion | requestDenied | identityNotAccepted | exemptionAsserted
  | captchaRequired | mfaRequired | loginRequired | manualReviewRequired | timeout | rateLimited
  | schemaDrift | evidenceUnavailable | unexpectedResponse | invalidAction | revokedAuthority
  | staleFence | budgetExceeded | connectorError
deriving DecidableEq

def ReasonCode.value : ReasonCode → Text
  | .noCandidate => "no_candidate".toList
  | .nameAddressMatch => "name_address_match".toList
  | .exactMatch => "exact_match".toList
  | .partialMatch => "partial_match".toList
  | .multipleCandidates => "multiple_candidates".toList
  | .insufficientMatch => "insufficient_match".toList
  | .preparationComplete => "preparation_complete".toList
  | .transportAccepted => "transport_accepted".toList
  | .brokerAccepted => "broker_accepted".toList
  | .brokerPending => "broker_pending".toList
  | .brokerAssertion => "broker_assertion".toList
  | .partialCompletion => "partial_completion".toList
  | .requestDenied => "request_denied".toList
  | .identityNotAccepted => "identity_not_accepted".toList
  | .exemptionAsserted => "exemption_asserted".toList
  | .captchaRequired => "captcha_required".toList
  | .mfaRequired => "mfa_required".toList
  | .loginRequired => "login_required".toList
  | .manualReviewRequired => "manual_review_required".toList
  | .timeout => "timeout".toList
  | .rateLimited => "rate_limited".toList
  | .schemaDrift => "schema_drift".toList
  | .evidenceUnavailable => "evidence_unavailable".toList
  | .unexpectedResponse => "unexpected_response".toList
  | .invalidAction => "invalid_action".toList
  | .revokedAuthority => "revoked_authority".toList
  | .staleFence => "stale_fence".toList
  | .budgetExceeded => "budget_exceeded".toList
  | .connectorError => "connector_error".toList

/-- `_REASONS_BY_RESULT`. -/
def reasonsByResult : ResultCode → List ReasonCode
  | .noCandidate => [.noCandidate]
  | .candidateObserved => [.nameAddressMatch, .exactMatch, .partialMatch]
  | .ambiguousCandidates => [.multipleCandidates, .insufficientMatch]
  | .payloadPrepared => [.preparationComplete]
  | .transportReceipt => [.transportAccepted]
  | .brokerAcknowledged => [.brokerAccepted]
  | .brokerProcessing => [.brokerPending]
  | .brokerAssertedComplete => [.brokerAssertion]
  | .partialResponse => [.partialCompletion]
  | .brokerDenied => [.requestDenied, .identityNotAccepted, .exemptionAsserted]
  | .challenge => [.captchaRequired, .mfaRequired, .loginRequired, .manualReviewRequired]
  | .inconclusive => [.timeout, .rateLimited, .schemaDrift, .evidenceUnavailable,
      .unexpectedResponse]
  | .failed => [.invalidAction, .revokedAuthority, .staleFence, .budgetExceeded, .connectorError]

inductive NextStepKind where
  | none | userReview | retryLater | reauthorize
deriving DecidableEq

def NextStepKind.value : NextStepKind → Text
  | .none => "none".toList
  | .userReview => "user_review".toList
  | .retryLater => "retry_later".toList
  | .reauthorize => "reauthorize".toList

structure SealedAttribute where
  attributeType : Text
  ciphertext : Text
deriving DecidableEq

structure ActionBudget where
  wallSeconds : Int
  responseBytes : Int
deriving DecidableEq

structure ActionEnvelope where
  actionId : Uuid
  intentId : Uuid
  attemptId : Uuid
  fence : Int
  authorizationEpoch : Int
  capability : Capability
  connectorRelease : Text
  profileRef : Uuid
  attributes : List SealedAttribute
  allowedOrigins : List Text
  deadlineUtc : Datetime
  attempt : Int
  budget : ActionBudget
deriving DecidableEq

/-! ### Results -/

structure EvidenceReference where
  kind : Text
  mailboxObjectId : Uuid
  payloadDigest : Text
  byteCount : Int
deriving DecidableEq

def EvidenceReference.wellFormed (e : EvidenceReference) : Bool :=
  isEvidenceKind e.kind && e.mailboxObjectId.isV4 && isDigest e.payloadDigest &&
    (0 < e.byteCount && e.byteCount ≤ maxEvidenceBytes)

def EvidenceReference.json (e : EvidenceReference) : Json :=
  .obj [("kind".toList, .str e.kind), ("mailbox_object_id".toList, .str e.mailboxObjectId.str),
    ("payload_digest".toList, .str e.payloadDigest), ("byte_count".toList, .int e.byteCount)]

/-- `[a-z0-9](?:[a-z0-9-]{0,61}[a-z0-9])?`. -/
def isHostLabel (t : Text) : Bool := t.length ≤ 63 && isSlug t

/-- The pattern `_HOST`: a label begins with a letter after the last of one or more dots. -/
def isHostname (t : Text) : Bool :=
  let labels := t.splitOn '.'
  1 ≤ t.length && t.length ≤ 253 && 2 ≤ labels.length && labels.all isHostLabel &&
    (labels.getLast?.bind List.head?).any fun c => 'a' ≤ c && c ≤ 'z'

structure DisclosureRecord where
  attributeType : Text
  destination : Text
deriving DecidableEq

def DisclosureRecord.wellFormed (d : DisclosureRecord) : Bool :=
  isSlug d.attributeType && 4 ≤ d.destination.length && isHostname d.destination

def DisclosureRecord.json (d : DisclosureRecord) : Json :=
  .obj [("attribute_type".toList, .str d.attributeType), ("destination".toList, .str d.destination)]

/-- `[A-Za-z0-9_-]+` of at most 128 characters. -/
def isExternalReference (t : Text) : Bool :=
  1 ≤ t.length && t.length ≤ 128 &&
    t.all fun c => isLowerAlnum c || ('A' ≤ c && c ≤ 'Z') || c = '_' || c = '-'

structure ResultFields where
  actionId : Uuid
  attemptId : Uuid
  result : ResultCode
  reasonCode : ReasonCode
  externalReference : Option Text
  evidence : List EvidenceReference
  disclosures : List DisclosureRecord
  next : NextStepKind
deriving DecidableEq

def maxDisclosureRecords : Nat := 64

/-- The fields and validators of `ResultEnvelope`. -/
def ResultFields.wellFormed (r : ResultFields) : Bool :=
  (r.actionId.isV4 && r.attemptId.isV4) && r.externalReference.all isExternalReference &&
    (r.evidence.length ≤ maxEvidenceItems && r.evidence.all EvidenceReference.wellFormed &&
      (r.evidence.map fun e => e.json.text).Nodup) &&
    (r.disclosures.length ≤ maxDisclosureRecords && r.disclosures.all DisclosureRecord.wellFormed &&
      (r.disclosures.map fun d => d.json.text).Nodup) &&
    r.reasonCode ∈ reasonsByResult r.result &&
    (r.evidence.map EvidenceReference.byteCount).sum ≤ maxEvidenceBytes

structure ResultEnvelope extends ResultFields where
  valid : toResultFields.wellFormed = true
deriving DecidableEq

def ResultFields.json (r : ResultFields) : Json :=
  .obj [("protocol_version".toList, .int 1), ("action_id".toList, .str r.actionId.str),
    ("attempt_id".toList, .str r.attemptId.str), ("result".toList, .str r.result.value),
    ("reason_code".toList, .str r.reasonCode.value),
    ("external_reference".toList, (r.externalReference.map Json.str).getD .null),
    ("evidence".toList, .arr (r.evidence.map EvidenceReference.json)),
    ("disclosures".toList, .arr (r.disclosures.map DisclosureRecord.json)),
    ("next".toList, .obj [("kind".toList, .str r.next.value)])]

/-- `model_dump_json().encode("utf-8")`: the fields in the order of their declaration. -/
def ResultEnvelope.modelDumpJson (r : ResultEnvelope) : Bytes := r.json.text.encode

/-! ### The length of a result -/

theorem length_of_isDigest {t : Text} (h : isDigest t = true) : t.length = 71 := by
  simp only [isDigest, Bool.and_eq_true, decide_eq_true_eq, List.length_drop] at h
  omega

theorem length_of_isEvidenceKind {t : Text} (h : isEvidenceKind t = true) : t.length ≤ 64 := by
  unfold isEvidenceKind isIdentifier at h
  split at h
  · exact nomatch h
  · simp only [Bool.and_eq_true, decide_eq_true_eq] at h
    rw [List.length_cons]
    omega

theorem length_of_isSlug {t : Text} (h : isSlug t = true) : t.length ≤ 64 := by
  simp only [isSlug, Bool.and_eq_true, decide_eq_true_eq] at h
  exact h.1.1.1.2

theorem length_intText_le {i : Int} (h : 0 < i ∧ i ≤ maxEvidenceBytes) : (intText i).length ≤ 8 := by
  unfold intText
  rw [if_neg (by omega), List.nil_append]
  refine (Nat.length_toDigits_le_iff (by decide) (by decide)).mpr ?_
  have := h.2
  simp only [maxEvidenceBytes] at this
  omega

theorem EvidenceReference.length_json_le {e : EvidenceReference} (h : e.wellFormed = true) :
    e.json.text.length ≤ 3100 := by
  simp only [EvidenceReference.wellFormed, Bool.and_eq_true, decide_eq_true_eq] at h
  have hkind := length_str_text_le (length_of_isEvidenceKind h.1.1.1)
  have hid := length_str_text_le (Uuid.length_str e.mailboxObjectId).le
  have hdigest := length_str_text_le (length_of_isDigest h.1.2).le
  have hcount : (Json.int e.byteCount).text.length ≤ 8 := length_intText_le h.2
  have hobj : e.json.text.length ≤ _ := length_obj_text_le (n := 20) (by simp)
  simp only [List.map_cons, List.map_nil, List.sum_cons, List.sum_nil, List.length_cons,
    List.length_nil] at hobj
  omega

theorem DisclosureRecord.length_json_le {d : DisclosureRecord} (h : d.wellFormed = true) :
    d.json.text.length ≤ 4300 := by
  simp only [DisclosureRecord.wellFormed, isHostname, Bool.and_eq_true, decide_eq_true_eq] at h
  have htype := length_str_text_le (length_of_isSlug h.1.1)
  have hdestination := length_str_text_le h.2.1.1.1.2
  have hobj : d.json.text.length ≤ _ := length_obj_text_le (n := 20) (by simp)
  simp only [List.map_cons, List.map_nil, List.sum_cons, List.sum_nil, List.length_cons,
    List.length_nil] at hobj
  omega

/-- No canonical text of a result is longer. -/
def canonicalResultRoom : Nat := 480000

theorem ResultEnvelope.length_modelDumpJson_le_room (r : ResultEnvelope) :
    r.modelDumpJson.length ≤ canonicalResultRoom := by
  have h := r.valid
  simp only [ResultFields.wellFormed, Bool.and_eq_true, decide_eq_true_eq, List.all_eq_true] at h
  obtain ⟨⟨⟨⟨⟨-, hexternal⟩, ⟨hitems, hevidence⟩, -⟩, ⟨hrecords, hdisclosures⟩, -⟩, -⟩, -⟩ := h
  have hresult : r.result.value.length ≤ 30 := by cases r.result <;> decide
  have hreason : r.reasonCode.value.length ≤ 30 := by cases r.reasonCode <;> decide
  have hnext : r.next.value.length ≤ 30 := by cases r.next <;> decide
  have hreference : ((r.externalReference.map Json.str).getD .null).text.length ≤ 12 * 128 + 2 := by
    cases hr : r.externalReference with
    | none => exact Nat.le_of_ble_eq_true rfl
    | some t =>
      simp only [hr, Option.all_some, isExternalReference, Bool.and_eq_true,
        decide_eq_true_eq] at hexternal
      exact length_str_text_le hexternal.1.2
  have hitem : ∀ j ∈ r.evidence.map EvidenceReference.json, j.text.length ≤ 3100 := by
    intro j hj
    obtain ⟨e, he, rfl⟩ := List.mem_map.mp hj
    exact EvidenceReference.length_json_le (hevidence e he)
  have hrecord : ∀ j ∈ r.disclosures.map DisclosureRecord.json, j.text.length ≤ 4300 := by
    intro j hj
    obtain ⟨d, hd, rfl⟩ := List.mem_map.mp hj
    exact DisclosureRecord.length_json_le (hdisclosures d hd)
  have hitems' := length_arr_text_le hitem
  have hrecords' := length_arr_text_le hrecord
  have hstep : (Json.obj [("kind".toList, .str r.next.value)]).text.length ≤ _ :=
    length_obj_text_le (n := 20) (by simp)
  have hobj : r.json.text.length ≤ _ := length_obj_text_le (n := 20) (by simp)
  have hone : (Json.int 1).text.length = 1 := rfl
  have hids := length_str_text_le (Uuid.length_str r.actionId).le
  have hids' := length_str_text_le (Uuid.length_str r.attemptId).le
  have hresult' := length_str_text_le hresult
  have hreason' := length_str_text_le hreason
  have hnext' := length_str_text_le hnext
  simp only [List.map_cons, List.map_nil, List.sum_cons, List.sum_nil, List.length_cons,
    List.length_nil, List.length_map] at hobj hstep hitems' hrecords'
  rw [modelDumpJson, encode_of_isAscii (isAscii_text _), List.length_map]
  simp only [maxEvidenceItems, maxDisclosureRecords, canonicalResultRoom] at hitems hrecords ⊢
  omega

/-- The canonical text of a result is always far shorter than the bound on results. -/
theorem ResultEnvelope.length_modelDumpJson_le (r : ResultEnvelope) :
    r.modelDumpJson.length ≤ maxResultEnvelopeBytes :=
  r.length_modelDumpJson_le_room.trans (by decide)

/-! ### Libraries -/

/-- `model_validate_json` of the two envelopes and `model_dump_json` of actions. A model that was
accepted is accepted again from its canonical bytes, and no model has an empty JSON text. The
canonical bytes may be longer than the bytes that were accepted. -/
structure Pydantic where
  validateAction : Bytes → Option ActionEnvelope
  dumpAction : ActionEnvelope → Bytes
  validateResult : Bytes → Option ResultEnvelope
  action_round_trip : ∀ b m, validateAction b = some m → validateAction (dumpAction m) = some m
  result_round_trip : ∀ b m, validateResult b = some m →
    validateResult m.modelDumpJson = some m
  action_nonempty : validateAction [] = none
  result_nonempty : validateResult [] = none

theorem Pydantic.dumpAction_ne_nil (p : Pydantic) {b : Bytes} {m : ActionEnvelope}
    (h : p.validateAction b = some m) : p.dumpAction m ≠ [] := by
  intro hnil
  have hround := p.action_round_trip b m h
  rw [hnil, p.action_nonempty] at hround
  exact absurd hround (by simp)

end MyCogni.Mailbox
