import MyCogni.Base.Dict
import MyCogni.Keys.Provider

/-! The owner-file providers of one process, with the handles and preparations that they issue. The
nonces drawn under a key are kept for the process, under the digest of the key; between two sections
that hold the lock of such a record other threads may change it. -/

namespace MyCogni.Keys.OwnerFile
open Auth Command

/-! ### The source -/

structure DirectoryIdentity where
  device : Nat
  inode : Nat
  mode : Nat
  uid : Nat
  gid : Nat
deriving DecidableEq

structure FileIdentity where
  device : Nat
  inode : Nat
  mode : Nat
  uid : Nat
  gid : Nat
  links : Nat
  size : Nat
  modifiedNs : Nat
  changedNs : Nat
deriving DecidableEq

structure SourcePin where
  parent : DirectoryIdentity
  file : FileIdentity
  materialDigest : Bytes
deriving DecidableEq

/-- What `_open_source` finds. -/
structure Source where
  parent : DirectoryIdentity
  file : FileIdentity
  material : Bytes
deriving DecidableEq

def Source.pin (s : Source) : SourcePin := ⟨s.parent, s.file, Sha256.digest s.material⟩

inductive SourceStatus where
  | readable
  | unavailable
  | unsafeSource
  | corrupt
deriving DecidableEq

/-- `_source_status_for` -/
def sourceStatusFor : SecretFailureCode → SourceStatus
  | .unsafeStorage => .unsafeSource
  | .malformedRecord => .corrupt
  | .catalogKeyMismatch | .nonceReuse | .providerAlreadyActive | .providerMismatch | .usageLimit => .readable
  | _ => .unavailable

/-- `_status_for_pin_difference` -/
def statusForPinDifference (current expected : SourcePin) : SourceStatus :=
  if current.materialDigest ≠ expected.materialDigest then .readable else .unsafeSource

/-- How a session with the key file goes. -/
structure Files where
  before : Except SecretFailureCode Source
  after : Except SecretFailureCode Source
  /-- The descriptors of the first opening are closed. -/
  closes : Bool := true

/-! ### The process -/

/-- What a provider is composed of. -/
structure Composition where
  activeKek : ActiveKekRef
  installationId : OpaqueId
  catalogId : OpaqueId
  sentinelId : OpaqueId
  readinessSentinel : WrappedReadinessSentinel
  processWrapLimit : Nat
deriving DecidableEq

/-- `DEFAULT_PROCESS_WRAP_LIMIT` -/
def defaultProcessWrapLimit : Nat := 100000

/-- The checks of the constructor. -/
structure Composition.Valid (c : Composition) : Prop where
  kind : c.activeKek.providerKind = ownerFileProviderKind
  kek : c.readinessSentinel.kekRef = c.activeKek
  installation : c.readinessSentinel.installationId = c.installationId
  catalog : c.readinessSentinel.catalogId = c.catalogId
  sentinel : c.readinessSentinel.sentinelId = c.sentinelId
  limit : 1 ≤ c.processWrapLimit ∧ c.processWrapLimit ≤ defaultProcessWrapLimit

instance (c : Composition) : Decidable c.Valid :=
  decidable_of_iff (c.activeKek.providerKind = ownerFileProviderKind ∧
    c.readinessSentinel.kekRef = c.activeKek ∧ c.readinessSentinel.installationId = c.installationId ∧
    c.readinessSentinel.catalogId = c.catalogId ∧ c.readinessSentinel.sentinelId = c.sentinelId ∧
    1 ≤ c.processWrapLimit ∧ c.processWrapLimit ≤ defaultProcessWrapLimit)
    ⟨fun ⟨h₁, h₂, h₃, h₄, h₅, h₆⟩ => ⟨h₁, h₂, h₃, h₄, h₅, h₆⟩,
      fun h => ⟨h.kind, h.kek, h.installation, h.catalog, h.sentinel, h.limit⟩⟩

structure OwnerFileSecretProvider where
  composition : Composition
  valid : composition.Valid
  sourcePin : Option SourcePin := none
  recoveryLatched : Bool := false
  latchedSourceStatus : SourceStatus := .unavailable
  /-- The digest under which the process keeps `_wrap_state`. -/
  wrapState : Option Bytes := none
deriving DecidableEq

/-- The issuer is the number of a provider. -/
structure ProfileDekHandle where
  issuer : Nat
  material : Bytes
  active : Bool := false
  closed : Bool := false
  used : Bool := false
deriving DecidableEq

structure ProfileKeyPreparation where
  issuer : Nat
  binding : ProfileKeyBinding
  nonce : Nonce
  consumed : Bool := false
deriving DecidableEq

/-- What other threads do to the records of the process. -/
inductive Elsewhere where
  | creates (digest : Bytes) (limit : Nat)
  | records (digest : Bytes) (nonce : Nonce) (commitment : Bytes)
  | reserves (digest : Bytes) (nonce : Nonce)
  | latches (digest : Bytes)
deriving DecidableEq

/-- A success that concerns a handle or a preparation. -/
inductive Event where
  | entered (handle : Nat)
  | used (handle : Nat)
  | consumed (preparation : Nat)
deriving DecidableEq

structure Process where
  providers : List OwnerFileSecretProvider := []
  /-- `_PROCESS_WRAP_STATES` -/
  wrapStates : Dict Bytes WrapState := .empty
  handles : List ProfileDekHandle := []
  preparations : List ProfileKeyPreparation := []
  /-- What other threads do before each of the sections to come. -/
  elsewhere : List (List Elsewhere) := []
  /-- A record that no function reads, the latest event first. -/
  history : List Event := []

inductive Fault where
  | secret (code : SecretFailureCode)
  | valueError
  | runtimeError
  | invalidTag
  /-- There is no such object. -/
  | missing
deriving DecidableEq

abbrev Act := Command Process Fault

/-- A change of the record of a key that is there. -/
def change (states : Dict Bytes WrapState) (digest : Bytes) (f : WrapState → WrapState) :
    Dict Bytes WrapState :=
  match states.get? digest with
  | some state => states.set digest (f state)
  | none => states

def reserve (nonce : Nonce) (state : WrapState) : WrapState :=
  { state with usedNonces := nonce :: state.usedNonces, count := state.count + 1 }

def Elsewhere.apply (states : Dict Bytes WrapState) : Elsewhere → Dict Bytes WrapState
  | .creates digest limit => if (states.get? digest).isSome then states else states.set digest { limit }
  | .records digest nonce commitment => change states digest fun s => s.recordSentinel nonce commitment
  | .reserves digest nonce => change states digest (reserve nonce)
  | .latches digest => change states digest fun s => { s with nonceReuseLatched := true }

/-- Before a section, other threads have theirs. -/
def others : Act Unit := write fun w =>
  match w.elsewhere with
  | [] => w
  | acts :: rest => { w with elsewhere := rest, wrapStates := acts.foldl Elsewhere.apply w.wrapStates }

def provider (p : Nat) : Act OwnerFileSecretProvider := do
  let w ← read
  demand w.providers[p]? .missing

def setProvider (p : Nat) (f : OwnerFileSecretProvider → OwnerFileSecretProvider) : Act Unit :=
  write fun w => { w with providers := w.providers.modify p f }

def setState (digest : Bytes) (f : WrapState → WrapState) : Act Unit :=
  write fun w => { w with wrapStates := change w.wrapStates digest f }

def note (e : Event) : Act Unit := write fun w => { w with history := e :: w.history }

/-- The record of a key, under its lock. -/
def stateOf (digest : Bytes) : Act WrapState := do
  others
  let w ← read
  demand (w.wrapStates.get? digest) .missing

/-! ### The latch -/

/-- `_latch_recovery` -/
def latchRecovery (p : Nat) (status : SourceStatus) : Act Unit :=
  setProvider p fun o => { o with recoveryLatched := true, latchedSourceStatus := status, sourcePin := none }

def latchUnlatched (p : Nat) (status : SourceStatus) : Act Unit := do
  let o ← provider p
  if o.recoveryLatched = true then pure () else latchRecovery p status

/-- `_latch_or_preserve_recovery` -/
def latchOrPreserveRecovery (p : Nat) (code : SecretFailureCode) : Act SourceStatus := do
  let o ← provider p
  if o.recoveryLatched = true then pure o.latchedSourceStatus
  else do
    latchRecovery p (sourceStatusFor code)
    pure (sourceStatusFor code)

/-- `_assert_domain_unlatched_locked` -/
def assertDomainUnlatched (p : Nat) (digest : Bytes) : Act Unit := do
  let state ← stateOf digest
  if state.nonceReuseLatched = true then do
    latchRecovery p .readable
    stop (.secret .recoveryRequired)
  else pure ()

/-- `_require_ready_state` -/
def requireReadyState (p : Nat) : Act Bytes := do
  let o ← provider p
  demand o.wrapState (.secret .readinessRequired)

/-- `_require_ready` -/
def requireReady (p : Nat) : Act SourcePin := do
  let o ← provider p
  require (o.recoveryLatched = false) (.secret .recoveryRequired)
  let digest ← requireReadyState p
  let pin ← demand o.sourcePin (.secret .readinessRequired)
  assertDomainUnlatched p digest
  pure pin

/-- `_handle_is_current`, for the token of this provider. -/
def isCurrent (p : Nat) : Act Bool := do
  let o ← provider p
  if o.recoveryLatched = true then pure false
  else
    match o.wrapState with
    | none => pure false
    | some digest => do
      let state ← stateOf digest
      pure (!state.nonceReuseLatched)

/-! ### The session -/

/-- The outer clause of `_material_session`. -/
def latchPinned (p : Nat) (pin : Option SourcePin) (code : SecretFailureCode) : Act Unit :=
  if pin.isSome = true ∧ code ≠ .readinessRequired ∧ code ≠ .recoveryRequired then
    latchRecovery p (sourceStatusFor code)
  else pure ()

/-- The source is not the one that is pinned, if one is. -/
def latchDifference (p : Nat) (current : SourcePin) : Option SourcePin → Act Unit
  | some pin => latchRecovery p (statusForPinDifference current pin)
  | none => pure ()

/-- The second opening, with the failure that it finds. -/
def openAgain (p : Nat) (pin : Option SourcePin) (initial : Source) :
    Except SecretFailureCode Source → Act (Option SecretFailureCode)
  | .error code => do
    latchRecovery p (sourceStatusFor code)
    pure (some code)
  | .ok after =>
    if after.pin = initial.pin then pure none
    else do
      latchDifference p after.pin pin
      latchRecovery p (sourceStatusFor .unsafeStorage)
      pure (some .unsafeStorage)

/-- A body with its failure kept. -/
def catching {α : Type} (body : Act α) : Act (Except Fault α) :=
  handle (body >>= fun a => pure (.ok a)) fun e => pure (.error e)

/-- `_material_session` -/
def materialSession {α : Type} (p : Nat) (pin : Option SourcePin) (files : Files) (body : Source → Act α) :
    Act α :=
  match files.before with
  | .error code => do
    latchPinned p pin code
    stop (.secret code)
  | .ok initial =>
    match pin.filter (· ≠ initial.pin) with
    | some pin => do
      latchRecovery p (statusForPinDifference initial.pin pin)
      stop (.secret .recoveryRequired)
    | none => do
      let result ← catching (body initial)
      let failure ← openAgain p pin initial files.after
      match result, failure with
      -- the failure of the body is the one that is raised
      | .error e, _ => stop e
      | .ok _, some code => do
        latchPinned p pin code
        stop (.secret code)
      | .ok a, none =>
        if files.closes = true then pure a
        else do
          latchPinned p pin .unavailable
          stop (.secret .unavailable)

/-! ### Readiness -/

structure KeyReadiness where
  ready : Bool
  sourceStatus : SourceStatus
deriving DecidableEq

/-- `_sentinel_aad` -/
def sentinelAad (c : Composition) : Bytes :=
  ascii "MyCogni\x00readiness-sentinel\x00" ++ toBytesBE 2 c.readinessSentinel.envelope.formatVersion ++
    toBytesBE 2 c.readinessSentinel.envelope.aadVersion ++ c.installationId.value.bytes ++
      c.catalogId.value.bytes ++ c.sentinelId.value.bytes ++ kekAad c.activeKek

/-- `_sentinel_record_commitment` -/
def sentinelRecordCommitment (c : Composition) : Bytes :=
  let ciphertext := c.readinessSentinel.envelope.ciphertext
  Sha256.digest (ascii "MyCogni\x00sentinel-record-commitment\x00" ++
    toBytesBE 4 (sentinelAad c).length ++ sentinelAad c ++ toBytesBE 4 ciphertext.length ++ ciphertext)

/-- `_record_authenticated_sentinel` -/
def recordAuthenticatedSentinel (c : Composition) (digest : Bytes) : Act Unit := do
  others
  write fun w => { w with wrapStates := Elsewhere.apply w.wrapStates (.creates digest c.processWrapLimit) }
  let w ← read
  let state ← demand (w.wrapStates.get? digest) .missing
  require (state.nonceReuseLatched = false) (.secret .nonceReuse)
  let nonce := c.readinessSentinel.nonce
  if nonce ∈ state.usedNonces ∨ ∃ existing ∈ state.sentinelRecord nonce, existing ≠ sentinelRecordCommitment c
  then do
    setState digest fun s => { s with nonceReuseLatched := true }
    stop (.secret .nonceReuse)
  else setState digest fun s => s.recordSentinel nonce (sentinelRecordCommitment c)

/-- `_activate_key_domain` and the pin that is set after it. Another live provider may hold the key. -/
def activateKeyDomain (p : Nat) (snapshot : SourcePin) (shared : Bool) : Act Unit := do
  let o ← provider p
  others
  let w ← read
  let state ← demand (w.wrapStates.get? snapshot.materialDigest) (.secret .unavailable)
  require (state.nonceReuseLatched = false ∧
    state.sentinelRecord o.composition.readinessSentinel.nonce = some (sentinelRecordCommitment o.composition))
    (.secret .nonceReuse)
  require (state.limit = o.composition.processWrapLimit) (.secret .providerMismatch)
  require (shared = false) (.secret .providerAlreadyActive)
  setProvider p fun o => { o with wrapState := some snapshot.materialDigest, sourcePin := some snapshot }

/-- The part of `readiness` with the key, which ends with the status that was latched or with the pin. -/
def authenticate (p : Nat) (c : Composition) (cipherFails : Bool) (source : Source) :
    Act (SourceStatus ⊕ SourcePin) :=
  let latched (status : SourceStatus) : Act (SourceStatus ⊕ SourcePin) := do
    latchRecovery p status
    pure (.inl status)
  if cipherFails = true then latched .unavailable
  else
    let sentinel := c.readinessSentinel
    match AesGcm.decrypt source.material sentinel.nonce.bytes sentinel.envelope.ciphertext (sentinelAad c) with
    | none => latched .readable
    | some plaintext =>
      if plaintext.length ≠ readinessPlaintext.length then latched .unavailable
      else do
        recordAuthenticatedSentinel c source.pin.materialDigest
        if plaintext ≠ readinessPlaintext then latched .readable else pure (.inr source.pin)

def readiness (p : Nat) (files : Files) (cipherFails shared : Bool) : Act KeyReadiness := do
  let o ← provider p
  if o.recoveryLatched = true then pure ⟨false, o.latchedSourceStatus⟩
  else
    handle
      (do
        let verdict ← materialSession p o.sourcePin files (authenticate p o.composition cipherFails)
        match verdict with
        | .inl status => pure ⟨false, status⟩
        | .inr snapshot => do
          activateKeyDomain p snapshot shared
          pure ⟨true, .readable⟩)
      fun
        | .secret code => do
          let status ← latchOrPreserveRecovery p code
          pure ⟨false, status⟩
        | e => stop e

def sourceStatus (p : Nat) (files : Files) : Act SourceStatus := do
  let o ← provider p
  handle
    (match o.sourcePin with
    | none =>
      match files.before with
      | .error code => stop (.secret code)
      | .ok _ => if files.closes = true then pure .readable else stop (.secret .unavailable)
    | some pin => materialSession p (some pin) files fun _ => pure .readable)
    fun
      | .secret code => do
        let o ← provider p
        pure (if code = .recoveryRequired ∧ o.recoveryLatched = true then o.latchedSourceStatus
          else sourceStatusFor code)
      | e => stop e

/-! ### Profile keys -/

/-- `_reserve_nonce`, with what the source of nonces returns. -/
def reserveNonce (p : Nat) (drawn : Option Nonce) : Act Nonce := do
  let digest ← requireReadyState p
  let state ← stateOf digest
  require (state.nonceReuseLatched = false) (.secret .nonceReuse)
  require (state.count < state.limit) (.secret .usageLimit)
  let nonce ← demand drawn (.secret .unavailable)
  if nonce ∈ state.usedNonces ∨ (state.sentinelRecord nonce).isSome = true then do
    setState digest fun s => { s with nonceReuseLatched := true }
    stop (.secret .nonceReuse)
  else do
    setState digest (reserve nonce)
    pure nonce

/-- The preparation is the number that is returned. -/
def prepareProfileKey (p : Nat) (binding : ProfileKeyBinding) (files : Files) (drawn : Option Nonce) :
    Act Nat := do
  let o ← provider p
  require (binding.installationId = o.composition.installationId) (.secret .providerMismatch)
  let pin ← requireReady p
  let nonce ← materialSession p (some pin) files fun _ => reserveNonce p drawn
  let digest ← requireReadyState p
  assertDomainUnlatched p digest
  let w ← read
  write fun w => { w with preparations := w.preparations ++ [{ issuer := p, binding, nonce }] }
  pure w.preparations.length

/-- `_consume` of the preparation of this number, called by this provider. -/
def consume (p k : Nat) : Act (ProfileKeyBinding × Nonce) := do
  let w ← read
  let preparation ← demand w.preparations[k]? .missing
  require (preparation.consumed = false) .runtimeError
  write fun w => { w with preparations := w.preparations.modify k fun x => { x with consumed := true } }
  require (preparation.issuer = p) .runtimeError
  let accepted ← isCurrent preparation.issuer
  require (accepted = true) .runtimeError
  note (.consumed k)
  pure (preparation.binding, preparation.nonce)

/-- The encryption of `complete_profile_key`. -/
def wrap (nonce : Nonce) (aad : Bytes) (generated : Provider.ProfileDek) (cipherFails : Bool) (source : Source) :
    Act Envelope :=
  demand (if cipherFails = true then none
    else Provider.envelope (AesGcm.encrypt source.material nonce.bytes generated.bytes aad))
    (.secret .unavailable)

def completeProfileKey (p k : Nat) (files : Files) (generated : Option Provider.ProfileDek)
    (cipherFails : Bool) : Act WrappedProfileKey := do
  let (binding, nonce) ← handle (consume p k) fun
    | .runtimeError => stop (.secret .malformedRecord)
    | e => stop e
  let pin ← requireReady p
  let o ← provider p
  let dek ← demand generated (.secret .unavailable)
  let envelope ← materialSession p (some pin) files
    (wrap nonce (profileAad o.composition.activeKek binding) dek cipherFails)
  let digest ← requireReadyState p
  assertDomainUnlatched p digest
  pure ⟨o.composition.activeKek, binding, nonce, envelope⟩

/-- The decryption of `unwrap_profile_key`. -/
def unwrap (wrapped : WrappedProfileKey) (aad : Bytes) (cipherFails : Bool) (source : Source) : Act Bytes :=
  if cipherFails = true then stop (.secret .unavailable)
  else
    match AesGcm.decrypt source.material wrapped.nonce.bytes wrapped.envelope.ciphertext aad with
    | none => stop .invalidTag
    | some plaintext => do
      require (plaintext.length = profileDekBytes) (.secret .unavailable)
      pure plaintext

/-- The handle is the number that is returned. -/
def unwrapProfileKey (p : Nat) (wrapped : WrappedProfileKey) (expected : ProfileKeyBinding) (files : Files)
    (cipherFails : Bool) : Act Nat := do
  let o ← provider p
  require (wrapped.kekRef = o.composition.activeKek ∧ wrapped.binding = expected ∧
    expected.installationId = o.composition.installationId) (.secret .providerMismatch)
  let pin ← requireReady p
  let plaintext ← handle
    (materialSession p (some pin) files
      (unwrap wrapped (profileAad o.composition.activeKek expected) cipherFails))
    fun
      | .invalidTag => do
        latchUnlatched p .readable
        stop (.secret .catalogKeyMismatch)
      | e => stop e
  let digest ← requireReadyState p
  assertDomainUnlatched p digest
  let w ← read
  write fun w => { w with handles := w.handles ++ [{ issuer := p, material := plaintext }] }
  pure w.handles.length

/-! ### Handles -/

def handleOf (h : Nat) : Act ProfileDekHandle := do
  let w ← read
  demand w.handles[h]? .missing

def setHandle (h : Nat) (f : ProfileDekHandle → ProfileDekHandle) : Act Unit :=
  write fun w => { w with handles := w.handles.modify h f }

/-- `_assert_issuer_locked` -/
def assertIssuer (x : ProfileDekHandle) : Act Unit := do
  require (x.closed = false) .runtimeError
  let accepted ← isCurrent x.issuer
  require (accepted = true) .runtimeError

/-- `__enter__` -/
def enter (h : Nat) : Act Unit := do
  let x ← handleOf h
  assertIssuer x
  require (x.active = false) .runtimeError
  setHandle h fun x => { x with active := true }
  note (.entered h)

/-- `use`, up to the operation that it runs. -/
def use (h : Nat) : Act Unit := do
  let x ← handleOf h
  assertIssuer x
  require (x.active = true ∧ x.used = false) .runtimeError
  setHandle h fun x => { x with used := true }
  note (.used h)

/-- `close`, which also ends `use`. -/
def close (h : Nat) : Act Unit :=
  setHandle h fun x =>
    if x.closed = true then x
    else { x with material := List.replicate x.material.length 0, closed := true, active := false }

/-! ### Calls -/

/-- The constructor, where the path may be taken and the roots may not be apart. -/
def new (c : Composition) (isSeparate isTaken : Bool) : Act Nat := do
  let w ← read
  if hvalid : c.Valid then do
    require (isSeparate = true) (.secret .unsafeStorage)
    require (isTaken = false) (.secret .providerAlreadyActive)
    write fun w => { w with providers := w.providers ++ [{ composition := c, valid := hvalid }] }
    pure w.providers.length
  else stop .valueError

inductive Call where
  | new (composition : Composition) (isSeparate isTaken : Bool)
  | sourceStatus (p : Nat) (files : Files)
  | readiness (p : Nat) (files : Files) (cipherFails shared : Bool)
  | prepare (p : Nat) (binding : ProfileKeyBinding) (files : Files) (drawn : Option Nonce)
  | complete (p k : Nat) (files : Files) (generated : Option Provider.ProfileDek) (cipherFails : Bool)
  | unwrap (p : Nat) (wrapped : WrappedProfileKey) (expected : ProfileKeyBinding) (files : Files)
      (cipherFails : Bool)
  | enter (h : Nat)
  | use (h : Nat)
  /-- The operation of `use` has ended. -/
  | useEnds (h : Nat)
  | close (h : Nat)
  /-- Other threads have their sections. -/
  | others

inductive Reply where
  | created (p : Nat)
  | status (status : SourceStatus)
  | readiness (readiness : KeyReadiness)
  | preparation (k : Nat)
  | wrapped (wrapped : WrappedProfileKey)
  | handle (h : Nat)
  | done

def call : Call → Act Reply
  | .new composition isSeparate isTaken => Reply.created <$> new composition isSeparate isTaken
  | .sourceStatus p files => Reply.status <$> sourceStatus p files
  | .readiness p files cipherFails shared => Reply.readiness <$> readiness p files cipherFails shared
  | .prepare p binding files drawn => Reply.preparation <$> prepareProfileKey p binding files drawn
  | .complete p k files generated cipherFails =>
    Reply.wrapped <$> completeProfileKey p k files generated cipherFails
  | .unwrap p wrapped expected files cipherFails =>
    Reply.handle <$> unwrapProfileKey p wrapped expected files cipherFails
  | .enter h => (fun _ => Reply.done) <$> enter h
  | .use h => (fun _ => Reply.done) <$> use h
  | .useEnds h | .close h => (fun _ => Reply.done) <$> close h
  | .others => (fun _ => Reply.done) <$> others

def step (w : Process) (c : Call) : Except Fault Reply × Process := call c w

end MyCogni.Keys.OwnerFile
