import MyCogni.Mailbox.OnceOnly

/-! The service boundary: it validates credentials, envelopes and result policy, and hands the
digests and canonical bytes to the repository. -/

namespace MyCogni.Mailbox

/-! ### Result policy -/

/-- `_RESULTS_BY_CAPABILITY`. -/
def resultsByCapability : Capability → List ResultCode
  | .observe => [.noCandidate, .candidateObserved, .ambiguousCandidates, .challenge, .inconclusive,
      .failed]
  | .prepare => [.payloadPrepared, .challenge, .inconclusive, .failed]
  | .submit => [.transportReceipt, .brokerAcknowledged, .brokerProcessing, .brokerAssertedComplete,
      .partialResponse, .brokerDenied, .challenge, .inconclusive, .failed]
  | .poll => [.brokerProcessing, .brokerAssertedComplete, .partialResponse, .brokerDenied,
      .challenge, .inconclusive, .failed]
  | .verify => [.noCandidate, .candidateObserved, .ambiguousCandidates, .brokerProcessing,
      .brokerAssertedComplete, .partialResponse, .brokerDenied, .challenge, .inconclusive, .failed]

/-- `_NEXT_BY_RESULT`. -/
def nextByResult : ResultCode → List NextStepKind
  | .noCandidate => [.none]
  | .candidateObserved => [.none, .userReview]
  | .ambiguousCandidates => [.userReview]
  | .payloadPrepared => [.none, .userReview]
  | .transportReceipt => [.none]
  | .brokerAcknowledged => [.none]
  | .brokerProcessing => [.none]
  | .brokerAssertedComplete => [.none, .userReview]
  | .partialResponse => [.none, .userReview]
  | .brokerDenied => [.none, .userReview, .reauthorize]
  | .challenge => [.userReview, .reauthorize]
  | .inconclusive => [.none, .userReview]
  | .failed => [.none, .userReview, .reauthorize]

def requireResultPolicy (binding : ActionBinding) (result : ResultEnvelope) :
    Except Failure Unit :=
  match Capability.ofText binding.capability with
  | none => .error .valueError
  | some capability => do
    ensure (result.result ∈ resultsByCapability capability) (.denied .capabilityMismatch)
    ensure (result.next ∈ nextByResult result.result) (.denied .capabilityMismatch)

/-! ### Validation -/

/-- `Sha256CredentialDigester.digest`. -/
def credentialDigest (credential : Bytes) : Bytes := Sha256.digest (credentialContext ++ credential)

/-- `RunnerMailboxService._require_credential`. -/
def requireCredentialBytes (credential : Bytes) : Except Failure Unit :=
  ensure (minCredentialBytes ≤ credential.length ∧ credential.length ≤ maxCredentialBytes)
    (.denied .invalidInput)

def requirePairwiseCredentials (credentials : List Bytes) : Except Failure Unit := do
  let _ ← credentials.mapM requireCredentialBytes
  ensure credentials.Nodup (.denied .invalidInput)

def requireMailboxId (mailboxId : Uuid) : Except Failure Unit :=
  ensure (mailboxId.isV4 = true) (.denied .invalidInput)

def requireActionBinding (binding : ActionBinding) (action : ActionEnvelope) (canonical : Bytes) :
    Except Failure Unit :=
  ensure (action.actionId = binding.actionId ∧ action.intentId = binding.intentId ∧
    action.attemptId = binding.attemptId ∧ action.connectorRelease = binding.connectorRelease ∧
    action.capability.value = binding.capability ∧ action.fence = binding.fence ∧
    action.authorizationEpoch = binding.authorizationEpoch ∧
    action.deadlineUtc = binding.deadlineUtc ∧ action.budget.wallSeconds = binding.wallSeconds ∧
    action.budget.responseBytes = binding.responseBytes ∧
    sha256Text canonical = binding.envelopeDigest) (.denied .bindingMismatch)

section
variable (cfg : Config)

def parseAction (actionJson : Bytes) : Except Failure (ActionEnvelope × Bytes) := do
  ensure (actionJson ≠ [] ∧ actionJson.length ≤ maxActionEnvelopeBytes) (.denied .oversize)
  match cfg.pydantic.validateAction actionJson with
  | none => .error (.denied .invalidInput)
  | some action => return (action, cfg.pydantic.dumpAction action)

def parseResult (resultJson : Bytes) : Except Failure (ResultEnvelope × Bytes) := do
  ensure (resultJson ≠ [] ∧ resultJson.length ≤ maxResultEnvelopeBytes) (.denied .oversize)
  match cfg.pydantic.validateResult resultJson with
  | none => .error (.denied .invalidInput)
  | some result => return (result, result.modelDumpJson)

def bindAction (mailboxId : Uuid) (actionJson : Bytes) (selectedArtifactDigest : Text)
    (dispatchEpoch : Int) (claimDeadlineUtc : Datetime) : Except Failure ActionBinding := do
  let (action, canonical) ← parseAction cfg actionJson
  match ActionBinding.make
    { mailboxId := mailboxId
      actionId := action.actionId
      intentId := action.intentId
      attemptId := action.attemptId
      connectorRelease := action.connectorRelease
      capability := action.capability.value
      selectedArtifactDigest := selectedArtifactDigest
      dispatchEpoch := dispatchEpoch
      fence := action.fence
      authorizationEpoch := action.authorizationEpoch
      claimDeadlineUtc := claimDeadlineUtc
      deadlineUtc := action.deadlineUtc
      wallSeconds := action.budget.wallSeconds
      responseBytes := action.budget.responseBytes
      envelopeDigest := sha256Text canonical } with
  | .error _ => .error (.denied .invalidInput)
  | .ok binding => return binding

/-! ### Requests -/

/-- The requests of the service. An offer carries the credential that the source issues for it. -/
inductive Request where
  | openEmpty (binding : ActionBinding) (actionCredential claimCredential
      collectionCredential : Bytes)
  | offer (binding : ActionBinding) (actionJson actionKey collectionCredential
      issuedCredential : Bytes)
  | claim (binding : ActionBinding) (claimCredential : Bytes)
  | stageEvidence (binding : ActionBinding) (resultCredential : Bytes) (evidence : EvidenceUpload)
  | commitResult (binding : ActionBinding) (resultJson resultCredential : Bytes)
  | collect (mailboxId : Uuid) (collectionCredential : Bytes)
  | acknowledgeCollection (mailboxId : Uuid) (collectionCredential : Bytes)
  | abandon (mailboxId : Uuid) (collectionCredential : Bytes)
  | expireDue (maintenanceCredential : Bytes)
  | garbageCollect (maintenanceCredential : Bytes)
  | snapshot (mailboxId : Uuid) (collectionCredential : Bytes)

/-- The call of the repository that a request makes, or the failure that precedes it. -/
def Request.call : Request → Except Failure Call
  | .openEmpty binding actionCredential claimCredential collectionCredential => do
    requirePairwiseCredentials [actionCredential, claimCredential, collectionCredential]
    ensure (actionCredential.length = actionKeyBytes) (.denied .invalidInput)
    return .create binding (credentialDigest actionCredential) (credentialDigest claimCredential)
      (credentialDigest collectionCredential)
  | .offer binding actionJson actionKey collectionCredential issuedCredential => do
    let (action, canonical) ← parseAction cfg actionJson
    requireActionBinding binding action canonical
    requireCredentialBytes actionKey
    ensure (actionKey.length = actionKeyBytes) (.denied .invalidInput)
    requireCredentialBytes collectionCredential
    requirePairwiseCredentials [actionKey, collectionCredential, issuedCredential]
    return .offer binding canonical actionKey (credentialDigest actionKey)
      (credentialDigest collectionCredential) issuedCredential (credentialDigest issuedCredential)
  | .claim binding claimCredential => do
    requireCredentialBytes claimCredential
    return .claim binding (credentialDigest claimCredential)
  | .stageEvidence binding resultCredential evidence => do
    requireCredentialBytes resultCredential
    ensure (evidence.payload.length ≤ maxEvidenceBytes) (.denied .oversize)
    ensure (sha256Text evidence.payload = evidence.payloadDigest) (.denied .digestMismatch)
    return .stageEvidence binding (credentialDigest resultCredential) evidence
  | .commitResult binding resultJson resultCredential => do
    requireCredentialBytes resultCredential
    let (result, canonical) ← parseResult cfg resultJson
    ensure (result.actionId = binding.actionId ∧ result.attemptId = binding.attemptId)
      (.denied .resultMismatch)
    requireResultPolicy binding result
    let seals ← result.evidence.mapM fun item =>
      EvidenceSeal.make ⟨item.mailboxObjectId, item.kind, item.payloadDigest, item.byteCount⟩
    return .commitResult binding (credentialDigest resultCredential) canonical seals
  | .collect mailboxId collectionCredential => do
    requireMailboxId mailboxId
    requireCredentialBytes collectionCredential
    return .collect mailboxId (credentialDigest collectionCredential)
  | .acknowledgeCollection mailboxId collectionCredential => do
    requireMailboxId mailboxId
    requireCredentialBytes collectionCredential
    return .acknowledgeCollection mailboxId (credentialDigest collectionCredential)
  | .abandon mailboxId collectionCredential => do
    requireMailboxId mailboxId
    requireCredentialBytes collectionCredential
    return .abandon mailboxId (credentialDigest collectionCredential)
  | .expireDue maintenanceCredential => do
    requireCredentialBytes maintenanceCredential
    return .expire (credentialDigest maintenanceCredential)
  | .garbageCollect maintenanceCredential => do
    requireCredentialBytes maintenanceCredential
    return .garbageCollect (credentialDigest maintenanceCredential)
  | .snapshot mailboxId collectionCredential => do
    requireMailboxId mailboxId
    requireCredentialBytes collectionCredential
    return .snapshot mailboxId (credentialDigest collectionCredential)

/-- The service over the reference repository. -/
def serve (s : Repository) (i : Request × Env) : Outcome × Repository :=
  attempt s (i.1.call cfg) fun call => apply cfg s (call, i.2)

end

variable {cfg : Config}

/-- A service run is the run of the calls that its requests make. -/
theorem serve_cases (s : Repository) (i : Request × Env) :
    (∃ e, i.1.call cfg = .error e ∧ serve cfg s i = (.error e, s)) ∨
      ∃ call, i.1.call cfg = .ok call ∧ serve cfg s i = apply cfg s (call, i.2) := by
  rcases attempt_cases (p := serve cfg s i) rfl with ⟨e, he, h⟩ | ⟨call, hcall, h⟩
  · exact Or.inl ⟨e, he, h⟩
  · exact Or.inr ⟨call, hcall, h.symm⟩

/-- The calls that a list of requests makes. -/
def calls (cfg : Config) (is : List (Request × Env)) : List (Call × Env) :=
  is.filterMap fun i => (i.1.call cfg).toOption.map fun call => (call, i.2)

theorem run_serve (s : Repository) (is : List (Request × Env)) :
    run (serve cfg) s is = run (apply cfg) s (calls cfg is) := by
  induction is generalizing s with
  | nil => rfl
  | cons i is ih =>
    rw [run_cons, ih]
    unfold calls
    rw [List.filterMap_cons]
    rcases serve_cases s i with ⟨e, he, h⟩ | ⟨call, hcall, h⟩
    · rw [h, he]
      rfl
    · rw [h, hcall]
      rfl

theorem coherent_step_serve {s : Repository} (hs : Coherent cfg s) (i : Request × Env) :
    Coherent cfg (serve cfg s i).2 := by
  rcases serve_cases s i with ⟨e, -, hserve⟩ | ⟨call, -, hserve⟩
  · rw [hserve]
    exact hs
  · rw [hserve]
    exact (apply_step cfg s (call, i.2)).coherent hs

theorem coherent_serve (cfg : Config) (is : List (Request × Env)) :
    Coherent cfg (run (serve cfg) .empty is) := by
  refine run_invariant ?_ is (coherent_empty cfg)
  exact fun _ i h => coherent_step_serve h i

section
variable {s : Repository} {b : ActionBinding} {id : Uuid} {c : Bytes} {env : Env}

theorem serve_claim (h : requireCredentialBytes c = .ok ()) :
    serve cfg s (.claim b c, env) = apply cfg s (.claim b (credentialDigest c), env) := by
  unfold serve
  rw [Request.call, h]
  rfl

theorem serve_collect (hid : id.isV4 = true) (h : requireCredentialBytes c = .ok ()) :
    serve cfg s (.collect id c, env) = apply cfg s (.collect id (credentialDigest c), env) := by
  unfold serve
  rw [Request.call, requireMailboxId, ensure_bind hid, h]
  rfl

end

/-- What the service checked of an action whose canonical bytes it offers. -/
theorem parseAction_eq_ok {actionJson : Bytes} {x : ActionEnvelope × Bytes}
    (h : parseAction cfg actionJson = .ok x) :
    actionJson ≠ [] ∧ actionJson.length ≤ maxActionEnvelopeBytes ∧
      cfg.pydantic.validateAction actionJson = some x.1 ∧ x.2 = cfg.pydantic.dumpAction x.1 ∧
      x.2 ≠ [] := by
  unfold parseAction at h
  rw [bind_eq_ok_iff] at h
  obtain ⟨_, hsize, h⟩ := h
  rw [ensure_eq_ok] at hsize
  split at h
  · exact nomatch h
  · next action haction =>
    obtain rfl := pure_eq_ok_iff.mp h
    exact ⟨hsize.1, hsize.2, haction, rfl, cfg.pydantic.dumpAction_ne_nil haction⟩

theorem parseResult_eq_ok {resultJson : Bytes} {x : ResultEnvelope × Bytes}
    (h : parseResult cfg resultJson = .ok x) :
    resultJson ≠ [] ∧ resultJson.length ≤ maxResultEnvelopeBytes ∧
      cfg.pydantic.validateResult resultJson = some x.1 ∧ x.2 = x.1.modelDumpJson := by
  unfold parseResult at h
  rw [bind_eq_ok_iff] at h
  obtain ⟨_, hsize, h⟩ := h
  rw [ensure_eq_ok] at hsize
  split at h
  · exact nomatch h
  · next result hresult =>
    obtain rfl := pure_eq_ok_iff.mp h
    exact ⟨hsize.1, hsize.2, hresult, rfl⟩

theorem requirePairwiseCredentials_eq_ok {credentials : List Bytes} {u : Unit}
    (h : requirePairwiseCredentials credentials = .ok u) :
    (∀ c ∈ credentials, minCredentialBytes ≤ c.length ∧ c.length ≤ maxCredentialBytes) ∧
      credentials.Nodup := by
  unfold requirePairwiseCredentials at h
  rw [bind_eq_ok_iff] at h
  obtain ⟨us, hall, hnodup⟩ := h
  refine ⟨fun c hc => ?_, ensure_eq_ok.mp hnodup⟩
  obtain ⟨_, _, hsize⟩ := mapM_mem hall hc
  exact ensure_eq_ok.mp hsize

/-- The requests with the calls that they make, and what the service checked before. -/
inductive Request.Makes (cfg : Config) : Request → Call → Prop where
  | openEmpty {b : ActionBinding} {a c k : Bytes} :
      Makes cfg (.openEmpty b a c k)
        (.create b (credentialDigest a) (credentialDigest c) (credentialDigest k))
  | offer {b : ActionBinding} {actionJson key k issued canonical : Bytes}
      {action : ActionEnvelope} :
      parseAction cfg actionJson = .ok (action, canonical) →
      sha256Text canonical = b.envelopeDigest → key.length = actionKeyBytes →
      minCredentialBytes ≤ issued.length ∧ issued.length ≤ maxCredentialBytes →
      Makes cfg (.offer b actionJson key k issued)
        (.offer b canonical key (credentialDigest key) (credentialDigest k) issued
          (credentialDigest issued))
  | claim {b : ActionBinding} {c : Bytes} :
      Makes cfg (.claim b c) (.claim b (credentialDigest c))
  | stageEvidence {b : ActionBinding} {c : Bytes} {u : EvidenceUpload} :
      Makes cfg (.stageEvidence b c u) (.stageEvidence b (credentialDigest c) u)
  | commitResult {b : ActionBinding} {resultJson c canonical : Bytes} {result : ResultEnvelope}
      {seals : List EvidenceSeal} :
      parseResult cfg resultJson = .ok (result, canonical) →
      Makes cfg (.commitResult b resultJson c)
        (.commitResult b (credentialDigest c) canonical seals)
  | collect {id : Uuid} {c : Bytes} : Makes cfg (.collect id c) (.collect id (credentialDigest c))
  | acknowledgeCollection {id : Uuid} {c : Bytes} :
      Makes cfg (.acknowledgeCollection id c) (.acknowledgeCollection id (credentialDigest c))
  | abandon {id : Uuid} {c : Bytes} : Makes cfg (.abandon id c) (.abandon id (credentialDigest c))
  | expireDue {c : Bytes} : Makes cfg (.expireDue c) (.expire (credentialDigest c))
  | garbageCollect {c : Bytes} :
      Makes cfg (.garbageCollect c) (.garbageCollect (credentialDigest c))
  | snapshot {id : Uuid} {c : Bytes} :
      Makes cfg (.snapshot id c) (.snapshot id (credentialDigest c))

theorem Request.call_makes {request : Request} {call : Call} (h : request.call cfg = .ok call) :
    request.Makes cfg call := by
  cases request with
  | openEmpty b a c k =>
    simp only [Request.call, bind_eq_ok_iff, pure_eq_ok_iff] at h
    obtain ⟨_, _, _, _, rfl⟩ := h
    exact .openEmpty
  | offer b actionJson key k issued =>
    simp only [Request.call, bind_eq_ok_iff, pure_eq_ok_iff, requireActionBinding,
      ensure_eq_ok] at h
    obtain ⟨⟨action, canonical⟩, hparse, _, hbinding, _, _, _, hkey, _, _, _, hpair, rfl⟩ := h
    exact .offer hparse hbinding.2.2.2.2.2.2.2.2.2.2 hkey
      ((requirePairwiseCredentials_eq_ok hpair).1 issued (by simp))
  | claim b c =>
    simp only [Request.call, bind_eq_ok_iff, pure_eq_ok_iff] at h
    obtain ⟨_, _, rfl⟩ := h
    exact .claim
  | stageEvidence b c u =>
    simp only [Request.call, bind_eq_ok_iff, pure_eq_ok_iff] at h
    obtain ⟨_, _, _, _, _, _, rfl⟩ := h
    exact .stageEvidence
  | commitResult b resultJson c =>
    simp only [Request.call, bind_eq_ok_iff, pure_eq_ok_iff] at h
    obtain ⟨_, _, ⟨result, canonical⟩, hparse, _, _, _, _, seals, _, rfl⟩ := h
    exact .commitResult hparse
  | collect id c =>
    simp only [Request.call, bind_eq_ok_iff, pure_eq_ok_iff] at h
    obtain ⟨_, _, _, _, rfl⟩ := h
    exact .collect
  | acknowledgeCollection id c =>
    simp only [Request.call, bind_eq_ok_iff, pure_eq_ok_iff] at h
    obtain ⟨_, _, _, _, rfl⟩ := h
    exact .acknowledgeCollection
  | abandon id c =>
    simp only [Request.call, bind_eq_ok_iff, pure_eq_ok_iff] at h
    obtain ⟨_, _, _, _, rfl⟩ := h
    exact .abandon
  | expireDue c =>
    simp only [Request.call, bind_eq_ok_iff, pure_eq_ok_iff] at h
    obtain ⟨_, _, rfl⟩ := h
    exact .expireDue
  | garbageCollect c =>
    simp only [Request.call, bind_eq_ok_iff, pure_eq_ok_iff] at h
    obtain ⟨_, _, rfl⟩ := h
    exact .garbageCollect
  | snapshot id c =>
    simp only [Request.call, bind_eq_ok_iff, pure_eq_ok_iff] at h
    obtain ⟨_, _, _, _, rfl⟩ := h
    exact .snapshot

/-! ### Refused requests -/

theorem quiet_parseAction (json : Bytes) : Quiet (parseAction cfg json) := by
  refine quiet_bind (quiet_ensure rfl) fun _ => ?_
  split
  · exact quiet_error.mpr rfl
  · exact quiet_pure _

theorem quiet_parseResult (json : Bytes) : Quiet (parseResult cfg json) := by
  refine quiet_bind (quiet_ensure rfl) fun _ => ?_
  split
  · exact quiet_error.mpr rfl
  · exact quiet_pure _

theorem quiet_requirePairwiseCredentials (credentials : List Bytes) :
    Quiet (requirePairwiseCredentials credentials) :=
  quiet_bind (quiet_mapM (fun _ => quiet_ensure rfl) _) fun _ => quiet_ensure rfl

theorem quiet_requireResultPolicy (b : ActionBinding) (result : ResultEnvelope) :
    Quiet (requireResultPolicy b result) := by
  unfold requireResultPolicy
  split
  · exact quiet_error.mpr rfl
  · exact quiet_bind (quiet_ensure rfl) fun _ => quiet_ensure rfl

theorem quiet_makeSeal (fields : SealFields) : Quiet (EvidenceSeal.make fields) := by
  unfold EvidenceSeal.make
  split_ifs
  · exact quiet_ok _
  · exact quiet_error.mpr rfl

theorem Request.quiet_call (request : Request) : Quiet (request.call cfg) := by
  cases request with
  | openEmpty =>
    exact quiet_bind (quiet_requirePairwiseCredentials _) fun _ =>
      quiet_bind (quiet_ensure rfl) fun _ => quiet_pure _
  | offer =>
    exact quiet_bind (quiet_parseAction _) fun _ => quiet_bind (quiet_ensure rfl) fun _ =>
      quiet_bind (quiet_ensure rfl) fun _ => quiet_bind (quiet_ensure rfl) fun _ =>
      quiet_bind (quiet_ensure rfl) fun _ =>
      quiet_bind (quiet_requirePairwiseCredentials _) fun _ => quiet_pure _
  | stageEvidence =>
    exact quiet_bind (quiet_ensure rfl) fun _ => quiet_bind (quiet_ensure rfl) fun _ =>
      quiet_bind (quiet_ensure rfl) fun _ => quiet_pure _
  | commitResult =>
    exact quiet_bind (quiet_ensure rfl) fun _ => quiet_bind (quiet_parseResult _) fun _ =>
      quiet_bind (quiet_ensure rfl) fun _ => quiet_bind (quiet_requireResultPolicy _ _) fun _ =>
      quiet_bind (quiet_mapM (fun _ => quiet_makeSeal _) _) fun _ => quiet_pure _
  | claim | expireDue | garbageCollect =>
    exact quiet_bind (quiet_ensure rfl) fun _ => quiet_pure _
  | collect | acknowledgeCollection | abandon | snapshot =>
    exact quiet_bind (quiet_ensure rfl) fun _ => quiet_bind (quiet_ensure rfl) fun _ => quiet_pure _

end MyCogni.Mailbox
