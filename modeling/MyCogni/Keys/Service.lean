import MyCogni.Keys.Provider

/-! The key catalog service and its native composition, as a machine. Whatever the disk, the key
file and the sources of randomness do is an input of the call. A process that is lost at a commit is
one whose outcome is lost, with a restart after it; a process lost between two commits leaves what
the loss before the next of them leaves. -/

namespace MyCogni.Keys
open Auth Command

/-! ### Units of work of a process -/

/-- A unit of work of a runtime; a failure that is latched closes the runtime. -/
def unitOfWork {α : Type} (needs : Runtime) (report : Failure → Raised × Bool) (commit : Commit)
    (t : Transaction α) : Act α := fun n =>
  if n.runtime = needs then
    match transact commit t n.durable with
    | (.ok a, db) => (.ok a, { n with durable := db })
    | (.error e, db) =>
      (.error (.raised (report e).1), { n with
        durable := db
        runtime := if (report e).2 then .closed else n.runtime })
  else (.error (.raised .notReady), n)

def catalogError (code : KeyCatalogFailureCode) : Fault := .raised (.catalog code)

namespace Node

def loadCatalog (commit : Commit) : Act KeyCatalogSnapshot :=
  unitOfWork .accepting latchLoad commit Keys.loadCatalog

def loadProfileKey (binding : ProfileKeyBinding) (commit : Commit) :
    Act (Option WrappedProfileKey) :=
  unitOfWork .accepting latchLoad commit (Keys.loadProfileKey binding)

def reserveProfilePreparation (preparation : ProfileKeyPreparation) (id : OpaqueId)
    (commit : Commit) : Act OpaqueId :=
  unitOfWork .accepting latchCommitAmbiguity commit (Keys.reserveProfilePreparation preparation id)

/-- The publication, recorded when it reaches the disk. -/
def publishProfileKey (id : OpaqueId) (preparation : ProfileKeyPreparation)
    (wrapped : WrappedProfileKey) (commit : Commit) : Act Unit := fun n =>
  let (result, n') := unitOfWork .accepting latchCommitAmbiguity commit
    (Keys.publishProfileKey id preparation wrapped) n
  (result, if n'.durable = n.durable then n' else { n' with published := n'.published ++ [wrapped] })

def requireRecovery (commit : Commit) : Act Unit :=
  unitOfWork .accepting latchCommitAmbiguity commit Keys.requireRecovery

def beginInitialization (identity : KeyCatalogIdentity) (nonce : Nonce)
    (commitment : SourceCommitment) (id : OpaqueId) (commit : Commit) : Act OpaqueId :=
  unitOfWork .accepting latchCommitAmbiguity commit
    (Keys.beginInitialization identity nonce commitment id)

def loadInitialization (commit : Commit) : Act (OpaqueId × Nonce × SourceCommitment) :=
  unitOfWork .accepting latchLoadInitialization commit loadInitializationRecord

/-- `finish_initialization` commits and reads the catalog back. -/
def finishInitialization (id : OpaqueId) (sentinel : WrappedReadinessSentinel)
    (commit load : Commit) : Act KeyCatalogSnapshot := do
  unitOfWork .accepting latchCommitAmbiguity commit (Keys.finishInitialization id sentinel)
  loadCatalog load

def loadCatalogForReconciliation (commit : Commit) : Act KeyCatalogSnapshot :=
  unitOfWork .reconciling redactReader commit Keys.loadCatalog

def loadInitializationForReconciliation (commit : Commit) :
    Act (OpaqueId × Nonce × SourceCommitment) :=
  unitOfWork .reconciling redactReader commit loadInitializationRecord

def finishInitializationForReconciliation (id : OpaqueId) (sentinel : WrappedReadinessSentinel)
    (commit : Commit) : Act Unit :=
  unitOfWork .reconciling redactReconciliation commit (Keys.finishInitialization id sentinel)

def reconcileProfileKey (binding : ProfileKeyBinding) (commit : Commit) :
    Act (Option WrappedProfileKey) :=
  unitOfWork .reconciling redactReader commit (Keys.reconcileProfileKey binding)

end Node

/-! ### The service -/

structure ReadinessInput where
  load : Commit := .known
  source : Session := .opens
  shared : Bool := false
  recover : Commit := .known
deriving DecidableEq

structure CreateInput where
  readiness : ReadinessInput := {}
  prepare : Session := .opens
  nonce : Option Nonce
  reserve : Commit := .known
  reservationId : OpaqueId
  complete : Session := .opens
  dek : Option Provider.ProfileDek
  publish : Commit := .known
  recover : Commit := .known
deriving DecidableEq

structure OpenInput where
  readiness : ReadinessInput := {}
  load : Commit := .known
  unwrap : Session := .opens
  recover : Commit := .known
deriving DecidableEq

namespace KeyCatalogService

/-- A failure of the provider latches the catalog. -/
def orLatch {α : Type} (recover : Commit) (c : Act α) : Act α := fun n =>
  match c n with
  | (.error (.secret _), n') =>
    (Node.requireRecovery recover >>= fun _ => stop (catalogError .recoveryRequired)) n'
  | r => r

def readiness (key : Bytes) (i : ReadinessInput) : Act KeyCatalogSnapshot := do
  let p ← Provider.live
  let snapshot ← Node.loadCatalog i.load
  require (snapshot.identity = p.identity) (catalogError .identityMismatch)
  require (snapshot.state = .active) (catalogError .recoveryRequired)
  let ready ← Provider.readiness key i.source i.shared
  if ready then pure snapshot
  else do
    Node.requireRecovery i.recover
    stop (catalogError .recoveryRequired)

/-- `_assert_binding` -/
def assertBinding (key : Bytes) (binding : ProfileKeyBinding) (i : ReadinessInput) : Act Unit := do
  let p ← Provider.live
  let snapshot ← readiness key i
  require (binding.installationId = p.identity.installationId ∧
    binding.catalogSchemaVersion = p.identity.schemaVersion ∧ snapshot.identity = p.identity)
    (catalogError .identityMismatch)

def createProfileKey (key : Bytes) (binding : ProfileKeyBinding) (i : CreateInput) :
    Act WrappedProfileKey := do
  assertBinding key binding i.readiness
  let preparation ← orLatch i.recover (Provider.prepareProfileKey binding i.prepare i.nonce)
  let id ← Node.reserveProfilePreparation preparation i.reservationId i.reserve
  let wrapped ← orLatch i.recover (Provider.completeProfileKey key preparation i.complete i.dek)
  Node.publishProfileKey id preparation wrapped i.publish
  pure wrapped

def openProfileKey (key : Bytes) (binding : ProfileKeyBinding) (i : OpenInput) : Act Bytes := do
  assertBinding key binding i.readiness
  let found ← Node.loadProfileKey binding i.load
  let wrapped ← demand found (catalogError .notInitialized)
  orLatch i.recover (Provider.unwrapProfileKey key wrapped binding i.unwrap)

end KeyCatalogService

/-! ### Composition -/

structure ComposeInput where
  load : Commit := .known
  /-- The constructor of the provider refuses its paths. -/
  refused : Option SecretFailureCode := none
  readiness : ReadinessInput := {}
deriving DecidableEq

structure InitializeInput where
  nonce : Option Nonce
  /-- The key file cannot be read for its commitment. -/
  unread : Option SecretFailureCode := none
  reservationId : OpaqueId
  commit : Commit := .known
  sentinel : Session := .opens
  finish : Commit := .known
  load : Commit := .known
  compose : ComposeInput := {}
deriving DecidableEq

structure ResumeInput where
  load : Commit := .known
  record : Commit := .known
  sentinel : Session := .opens
  finish : Commit := .known
  reload : Commit := .known
  compose : ComposeInput := {}
deriving DecidableEq

/-- Stop with the failure of the key file, if there is one. -/
def orRefuse (refused : Option SecretFailureCode) : Act Unit :=
  match refused with
  | none => pure ()
  | some code => stop (.secret code)

/-- A service that is not handed over leaves no provider behind. -/
def orDiscard {α : Type} (c : Act α) : Act α := fun n =>
  match c n with
  | (.error e, n') => (.error e, { n' with provider := none })
  | r => r

def composeNativeKeyCatalog (key : Bytes) (identity : KeyCatalogIdentity) (i : ComposeInput) :
    Act Unit := do
  let snapshot ← Node.loadCatalog i.load
  require (snapshot.identity = identity) (catalogError .identityMismatch)
  require (snapshot.state = .active) (catalogError .recoveryRequired)
  let sentinel ← demand snapshot.sentinel (catalogError .recoveryRequired)
  require (identity.activeKek.providerKind = ownerFileProviderKind) (.raised .valueError)
  require (identity.Owns sentinel) (.raised .valueError)
  orRefuse i.refused
  let n ← read
  -- the key file has a provider already
  require (n.provider = none) (.secret .providerAlreadyActive)
  write fun n => { n with provider := some { identity, sentinel } }
  let _ ← orDiscard (KeyCatalogService.readiness key i.readiness)
  pure ()

def initializeNativeKeyCatalog (key : Bytes) (identity : KeyCatalogIdentity) (i : InitializeInput) :
    Act Unit := do
  let nonce ← demand i.nonce (catalogError .unavailable)
  orRefuse i.unread
  let id ← Node.beginInitialization identity nonce (sourceCommitment key) i.reservationId i.commit
  let sentinel ← Provider.createReadinessSentinel key identity nonce (sourceCommitment key) i.sentinel
  let _ ← Node.finishInitialization id sentinel i.finish i.load
  composeNativeKeyCatalog key identity i.compose

def resumeNativeKeyCatalogInitialization (key : Bytes) (identity : KeyCatalogIdentity)
    (i : ResumeInput) : Act Unit := do
  let snapshot ← Node.loadCatalog i.load
  require (snapshot.identity = identity) (catalogError .identityMismatch)
  require (snapshot.state = .preparing ∧ snapshot.sentinel = none) (catalogError .recoveryRequired)
  let record ← Node.loadInitialization i.record
  let sentinel ← Provider.createReadinessSentinel key identity record.2.1 record.2.2 i.sentinel
  let _ ← Node.finishInitialization record.1 sentinel i.finish i.reload
  composeNativeKeyCatalog key identity i.compose

def reconcileNativeKeyCatalogInitialization (key : Bytes) (identity : KeyCatalogIdentity)
    (i : ResumeInput) : Act KeyCatalogSnapshot := do
  let snapshot ← Node.loadCatalogForReconciliation i.load
  require (snapshot.identity = identity) (catalogError .identityMismatch)
  require (snapshot.state = .preparing ∧ snapshot.sentinel = none) (catalogError .recoveryRequired)
  let record ← Node.loadInitializationForReconciliation i.record
  let sentinel ← Provider.createReadinessSentinel key identity record.2.1 record.2.2 i.sentinel
  Node.finishInitializationForReconciliation record.1 sentinel i.finish
  let reconciled ← Node.loadCatalogForReconciliation i.reload
  require (reconciled.state = .active) (catalogError .recoveryRequired)
  pure reconciled

/-! ### The machine -/

inductive Event where
  /-- A new process, whose runtime finds the database clean, or not. -/
  | restart (runtime : Runtime)
  /-- A new runtime of the same process; its service is let go. -/
  | reopen (runtime : Runtime)
  | initializes (identity : KeyCatalogIdentity) (i : InitializeInput)
  | resumes (identity : KeyCatalogIdentity) (i : ResumeInput)
  | reconcilesInitialization (identity : KeyCatalogIdentity) (i : ResumeInput)
  | composes (identity : KeyCatalogIdentity) (i : ComposeInput)
  | creates (binding : ProfileKeyBinding) (i : CreateInput)
  | opens (binding : ProfileKeyBinding) (i : OpenInput)
  | loads (binding : ProfileKeyBinding) (commit : Commit)
  | reconciles (binding : ProfileKeyBinding) (commit : Commit)
deriving DecidableEq

inductive Reply where
  | done
  | snapshot (s : KeyCatalogSnapshot)
  | wrapped (w : WrappedProfileKey)
  | material (plaintext : Bytes)
  | profileKey (wrapped : Option WrappedProfileKey)
deriving DecidableEq

def serve (key : Bytes) : Event → Act Reply
  | .restart runtime => do
    write fun n => { n with runtime, wrap := none, provider := none }
    pure .done
  | .reopen runtime => do
    write fun n => { n with runtime, provider := none }
    pure .done
  | .initializes identity i => do
    initializeNativeKeyCatalog key identity i
    pure .done
  | .resumes identity i => do
    resumeNativeKeyCatalogInitialization key identity i
    pure .done
  | .reconcilesInitialization identity i => do
    pure (.snapshot (← reconcileNativeKeyCatalogInitialization key identity i))
  | .composes identity i => do
    composeNativeKeyCatalog key identity i
    pure .done
  | .creates binding i => do
    pure (.wrapped (← KeyCatalogService.createProfileKey key binding i))
  | .opens binding i => do
    pure (.material (← KeyCatalogService.openProfileKey key binding i))
  | .loads binding commit => do
    pure (.profileKey (← Node.loadProfileKey binding commit))
  | .reconciles binding commit => do
    pure (.profileKey (← Node.reconcileProfileKey binding commit))

def advance (key : Bytes) (n : Node) (event : Event) : Except Fault Reply × Node := serve key event n

end MyCogni.Keys
