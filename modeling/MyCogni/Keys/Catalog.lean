import MyCogni.Base.Command
import MyCogni.Keys.Domain

/-! The key catalog in SQLite: four tables with their constraints, the strict reader, and the units
of work that change them. A unit of work stages its statements and makes them durable at its commit,
whose outcome the caller may never learn. -/

namespace MyCogni.Keys
open Auth Command

/-! ### Tables -/

inductive Purpose where
  | sentinel
  | profile
deriving DecidableEq

inductive Lifecycle where
  | reserved
  | committed
  | burned
deriving DecidableEq

/-- The columns that name the key under which a nonce is used. -/
structure KekDomain where
  providerInstanceId : OpaqueId
  kekId : OpaqueId
  kekVersion : Nat
deriving DecidableEq

def ActiveKekRef.domain (k : ActiveKekRef) : KekDomain :=
  ⟨k.providerInstanceId, k.kekId, k.kekVersion⟩

structure CatalogRow where
  identity : KeyCatalogIdentity
  revision : Nat
  state : KeyCatalogState
  usageReserved : Nat
  sourceCommitment : SourceCommitment
deriving DecidableEq

structure ReservationRow where
  reservationId : OpaqueId
  catalogId : OpaqueId
  domain : KekDomain
  nonce : Nonce
  purpose : Purpose
  lifecycle : Lifecycle
  usageSequence : Nat
  profile : Option (OpaqueId × Nat)
deriving DecidableEq

structure SentinelRow where
  catalogId : OpaqueId
  sentinelId : OpaqueId
  reservationId : OpaqueId
  envelope : Envelope
deriving DecidableEq

structure WrappedRow where
  profileId : OpaqueId
  profileKeyVersion : Nat
  catalogSchemaVersion : Nat
  installationId : OpaqueId
  reservationId : OpaqueId
  envelope : Envelope
deriving DecidableEq

/-- Rows stand in the order in which they were inserted. -/
structure Database where
  catalog : Option CatalogRow := none
  reservations : List ReservationRow := []
  sentinel : Option SentinelRow := none
  wrapped : List WrappedRow := []
deriving DecidableEq

def WrappedRow.profile (k : WrappedRow) : OpaqueId × Nat := (k.profileId, k.profileKeyVersion)

def ProfileKeyBinding.profile (b : ProfileKeyBinding) : OpaqueId × Nat :=
  (b.profileId, b.profileKeyVersion)

/-- `ck_key_nonce_usage_sequence` and `ck_key_nonce_binding` -/
def ReservationRow.Checked (r : ReservationRow) : Prop :=
  1 ≤ r.usageSequence ∧
    (r.purpose = .sentinel ∧ r.profile = none ∨
      r.purpose = .profile ∧ ∃ p ∈ r.profile, 1 ≤ p.2)

instance (r : ReservationRow) : Decidable r.Checked :=
  inferInstanceAs (Decidable (_ ∧ (_ ∨ _)))

/-- The unique constraints of the reservations. -/
def ReservationRow.Collides (r r' : ReservationRow) : Prop :=
  r.reservationId = r'.reservationId ∨
    r.domain = r'.domain ∧ (r.nonce = r'.nonce ∨ r.usageSequence = r'.usageSequence) ∨
      r.profile.isSome ∧ r.profile = r'.profile

instance (r r' : ReservationRow) : Decidable (r.Collides r') :=
  inferInstanceAs (Decidable (_ ∨ _ ∨ _))

namespace Database
variable (db : Database)

def reservation (id : OpaqueId) : Option ReservationRow :=
  db.reservations.find? fun r => r.reservationId = id

/-- `_profile_row` -/
def profileRow (binding : ProfileKeyBinding) : Option WrappedRow :=
  db.wrapped.find? fun k => k.profile = binding.profile

/-- `_profile_reservation_row` -/
def profileReservationRow (binding : ProfileKeyBinding) : Option ReservationRow :=
  db.reservations.find? fun r => r.purpose = .profile ∧ r.profile = some binding.profile

/-! ### Statements -/

def insertCatalog (row : CatalogRow) : Except Failure Database :=
  if db.catalog = none then .ok { db with catalog := some row } else .error .sqlError

def insertReservation (row : ReservationRow) : Except Failure Database :=
  if row.Checked ∧ (∀ r ∈ db.reservations, ¬row.Collides r) ∧
      ∃ c ∈ db.catalog, c.identity.catalogId = row.catalogId then
    .ok { db with reservations := db.reservations ++ [row] }
  else .error .sqlError

def insertSentinel (row : SentinelRow) : Except Failure Database :=
  if db.sentinel = none ∧ (db.reservation row.reservationId).isSome ∧
      ∃ c ∈ db.catalog, c.identity.catalogId = row.catalogId then
    .ok { db with sentinel := some row }
  else .error .sqlError

def insertWrapped (row : WrappedRow) : Except Failure Database :=
  if (∀ k ∈ db.wrapped, k.profile ≠ row.profile ∧ k.reservationId ≠ row.reservationId) ∧
      (db.reservation row.reservationId).isSome ∧ row.catalogSchemaVersion = 1 then
    .ok { db with wrapped := db.wrapped ++ [row] }
  else .error .sqlError

/-- A reserved row that becomes committed; anything but one row is corruption. -/
def commitReservation (id : OpaqueId) : Except Failure Database :=
  let hit (r : ReservationRow) : Bool := r.reservationId = id ∧ r.lifecycle = .reserved
  if db.reservations.countP hit = 1 then
    .ok { db with
      reservations := db.reservations.map fun r =>
        if hit r then { r with lifecycle := .committed } else r }
  else .error (.catalog .corrupt)

/-- An update of the one catalog row where `p` holds, with `ck_key_catalog_usage_reserved`; no row
is corruption. -/
def updateCatalog (p : CatalogRow → Bool) (f : CatalogRow → CatalogRow) : Except Failure Database :=
  match db.catalog with
  | none => .error (.catalog .corrupt)
  | some row =>
    if p row then
      if 1 ≤ (f row).usageReserved ∧ (f row).usageReserved ≤ (f row).identity.usageLimit then
        .ok { db with catalog := some (f row) }
      else .error .sqlError
    else .error (.catalog .corrupt)

/-! ### The strict reader -/

def Foreign (identity : KeyCatalogIdentity) (r : ReservationRow) : Prop :=
  r.catalogId ≠ identity.catalogId ∨ r.domain ≠ identity.activeKek.domain

instance (identity : KeyCatalogIdentity) (r : ReservationRow) : Decidable (Foreign identity r) :=
  inferInstanceAs (Decidable (_ ∨ _))

/-- A wrapped key that `n`, the reservation it names, does not bear out. -/
def InvalidWrapped (identity : KeyCatalogIdentity) (k : WrappedRow) (n : ReservationRow) : Prop :=
  n.purpose ≠ .profile ∨ n.lifecycle ≠ .committed ∨ (∃ p ∈ n.profile, p ≠ k.profile) ∨
    Foreign identity n ∨ k.installationId ≠ identity.installationId ∨
      k.catalogSchemaVersion ≠ identity.schemaVersion

instance (identity : KeyCatalogIdentity) (k : WrappedRow) (n : ReservationRow) :
    Decidable (InvalidWrapped identity k n) :=
  inferInstanceAs (Decidable (_ ∨ _ ∨ _ ∨ _ ∨ _ ∨ _))

/-- A committed profile reservation without its wrapped key. -/
def Orphan (n : ReservationRow) : Prop :=
  n.purpose = .profile ∧ n.lifecycle = .committed ∧
    ¬∃ k ∈ db.wrapped, k.reservationId = n.reservationId ∧ n.profile = some k.profile

instance (n : ReservationRow) : Decidable (db.Orphan n) :=
  inferInstanceAs (Decidable (_ ∧ _ ∧ _))

/-- `_validate_ledger` -/
def validateLedger (identity : KeyCatalogIdentity) (usageReserved : Nat) : Except Failure Unit := do
  let sequences := db.reservations.map ReservationRow.usageSequence
  let rows (p : ReservationRow → Bool) : Nat := db.reservations.countP p
  ensure (db.reservations.length = usageReserved) (.catalog .corrupt)
  -- the aggregates of an empty table are null
  ensure (sequences ≠ []) .valueError
  ensure (sequences.min? = some 1) (.catalog .corrupt)
  ensure (sequences.max? = some usageReserved) (.catalog .corrupt)
  ensure (rows (fun r => r.purpose = .sentinel) = 1) (.catalog .corrupt)
  ensure (rows (fun r => r.purpose = .sentinel ∧ r.usageSequence = 1) = 1) (.catalog .corrupt)
  ensure (rows (fun r => 1 < r.usageSequence ∧ r.purpose ≠ .profile) = 0) (.catalog .corrupt)
  ensure (rows (fun r => Foreign identity r) = 0) (.catalog .corrupt)
  ensure (∀ k ∈ db.wrapped, ∃ n ∈ db.reservation k.reservationId, ¬InvalidWrapped identity k n)
    (.catalog .corrupt)
  ensure (∀ n ∈ db.reservations, ¬db.Orphan n) (.catalog .corrupt)

/-- The sentinel row joined with its reservation. -/
def readSentinel (row : CatalogRow) : Except Failure (Option WrappedReadinessSentinel) :=
  match db.sentinel with
  | none => .ok none
  | some s =>
    match db.reservation s.reservationId with
    | none => .ok none
    | some n =>
      if n.lifecycle ≠ .committed ∨ n.purpose ≠ .sentinel then .error (.catalog .corrupt)
      else .ok (some
        { kekRef := row.identity.activeKek
          installationId := row.identity.installationId
          catalogId := row.identity.catalogId
          sentinelId := s.sentinelId
          nonce := n.nonce
          envelope := s.envelope })

/-- `_load_snapshot` -/
def loadSnapshot : Except Failure KeyCatalogSnapshot :=
  match db.catalog with
  | none => .error (.catalog .notInitialized)
  | some row => do
    let sentinel ← db.readSentinel row
    db.validateLedger row.identity row.usageReserved
    KeyCatalogSnapshot.make row.identity row.state row.revision sentinel

/-- The wrapped key of a binding, joined with its committed reservation. -/
def readProfileKey (snapshot : KeyCatalogSnapshot) (binding : ProfileKeyBinding) :
    Except Failure (Option WrappedProfileKey) :=
  match db.profileRow binding with
  | none => .ok none
  | some row =>
    match db.reservation row.reservationId with
    | none => .error (.catalog .corrupt)
    | some n =>
      if n.lifecycle ≠ .committed then .error (.catalog .corrupt)
      else .ok (some ⟨snapshot.identity.activeKek, binding, n.nonce, row.envelope⟩)

end Database

/-! ### Units of work -/

/-- How a unit of work reaches the disk. -/
inductive Commit where
  | known
  /-- The outcome is not known, and nothing was written. -/
  | lostBefore
  /-- The outcome is not known, and everything was written. -/
  | lostAfter
  /-- A statement fails in the driver. -/
  | refused
deriving DecidableEq

structure Work where
  durable : Database
  staged : Database
  commit : Commit

abbrev Transaction := Command Work Failure

namespace Transaction

/-- A value computed from the staged tables. -/
def query {α : Type} (f : Database → Except Failure α) : Transaction α := fun w =>
  match f w.staged with
  | .ok a => (.ok a, w)
  | .error e => (.error e, w)

def execute (f : Database → Except Failure Database) : Transaction Unit := fun w =>
  match f w.staged with
  | .ok db => (.ok (), { w with staged := db })
  | .error e => (.error e, w)

/-- The first statement of a unit of work. -/
def start : Transaction Unit := do
  let w ← read
  require (w.commit ≠ .refused) .sqlError

/-- `_commit_or_latch` -/
def commitOrLatch : Transaction Unit := do
  let w ← read
  require (w.commit ≠ .lostBefore) .commitAmbiguous
  write fun w => { w with durable := w.staged }
  require (w.commit ≠ .lostAfter) .commitAmbiguous

end Transaction
open Transaction

/-- What a unit of work returns or raises, and the tables it leaves on the disk. -/
def transact {α : Type} (commit : Commit) (t : Transaction α) (db : Database) :
    Except Failure α × Database :=
  let (result, w) := t ⟨db, db, commit⟩
  (result, w.durable)

structure ProfileKeyPreparation where
  binding : ProfileKeyBinding
  nonce : Nonce
deriving DecidableEq

/-- `_assert_active_binding` -/
def assertActiveBinding (snapshot : KeyCatalogSnapshot) (binding : ProfileKeyBinding) :
    Transaction Unit := do
  require (snapshot.state = .active) (.catalog .recoveryRequired)
  require (binding.installationId = snapshot.identity.installationId ∧
    binding.catalogSchemaVersion = snapshot.identity.schemaVersion) (.catalog .identityMismatch)

/-- `_reservation_matches` -/
def ReservationRow.Matches (r : ReservationRow) (snapshot : KeyCatalogSnapshot)
    (preparation : ProfileKeyPreparation) (lifecycle : Lifecycle) : Prop :=
  r.catalogId = snapshot.identity.catalogId ∧ r.domain = snapshot.identity.activeKek.domain ∧
    r.nonce = preparation.nonce ∧ r.purpose = .profile ∧ r.lifecycle = lifecycle ∧
      r.profile = some preparation.binding.profile

instance (r : ReservationRow) (snapshot : KeyCatalogSnapshot)
    (preparation : ProfileKeyPreparation) (lifecycle : Lifecycle) :
    Decidable (r.Matches snapshot preparation lifecycle) :=
  inferInstanceAs (Decidable (_ ∧ _ ∧ _ ∧ _ ∧ _ ∧ _))

def beginInitialization (identity : KeyCatalogIdentity) (sentinelNonce : Nonce)
    (sourceCommitment : SourceCommitment) (reservationId : OpaqueId) : Transaction OpaqueId := do
  start
  let w ← read
  require (w.staged.catalog = none) (.catalog .identityMismatch)
  execute (·.insertCatalog
    { identity
      revision := 1
      state := .preparing
      usageReserved := 1
      sourceCommitment })
  execute (·.insertReservation
    { reservationId
      catalogId := identity.catalogId
      domain := identity.activeKek.domain
      nonce := sentinelNonce
      purpose := .sentinel
      lifecycle := .reserved
      usageSequence := 1
      profile := none })
  commitOrLatch
  pure reservationId

/-- `_stage_initialization_finish` -/
def stageInitializationFinish (reservationId : OpaqueId) (sentinel : WrappedReadinessSentinel) :
    Transaction Unit := do
  start
  let snapshot ← query Database.loadSnapshot
  require (snapshot.state = .preparing ∧ snapshot.identity.Owns sentinel)
    (.catalog .identityMismatch)
  let w ← read
  let reservation ← demand (w.staged.reservation reservationId) (.catalog .identityMismatch)
  require (reservation.purpose = .sentinel ∧ reservation.lifecycle = .reserved ∧
    reservation.nonce = sentinel.nonce) (.catalog .identityMismatch)
  execute (·.insertSentinel
    { catalogId := snapshot.identity.catalogId
      sentinelId := snapshot.identity.sentinelId
      reservationId
      envelope := sentinel.envelope })
  execute (·.commitReservation reservationId)
  execute (·.updateCatalog (fun c => c.state = .preparing ∧ c.revision = snapshot.revision)
    fun c => { c with state := .active, revision := c.revision + 1 })

def finishInitialization (reservationId : OpaqueId) (sentinel : WrappedReadinessSentinel) :
    Transaction Unit := do
  stageInitializationFinish reservationId sentinel
  commitOrLatch

def reserveProfilePreparation (preparation : ProfileKeyPreparation) (reservationId : OpaqueId) :
    Transaction OpaqueId := do
  let binding := preparation.binding
  start
  let snapshot ← query Database.loadSnapshot
  assertActiveBinding snapshot binding
  let w ← read
  require (w.staged.profileRow binding = none ∧ w.staged.profileReservationRow binding = none)
    (.catalog .duplicateProfileKey)
  require (∀ r ∈ w.staged.reservations,
    ¬(r.domain = snapshot.identity.activeKek.domain ∧ r.nonce = preparation.nonce))
    (.catalog .nonceReuse)
  let row ← demand w.staged.catalog .typeError
  require (row.usageReserved < snapshot.identity.usageLimit) (.catalog .usageLimit)
  execute (·.insertReservation
    { reservationId
      catalogId := snapshot.identity.catalogId
      domain := snapshot.identity.activeKek.domain
      nonce := preparation.nonce
      purpose := .profile
      lifecycle := .reserved
      usageSequence := row.usageReserved + 1
      profile := some binding.profile })
  execute (·.updateCatalog (fun c => c.revision = snapshot.revision ∧ c.state = .active)
    fun c => { c with usageReserved := row.usageReserved + 1, revision := c.revision + 1 })
  commitOrLatch
  pure reservationId

def publishProfileKey (reservationId : OpaqueId) (preparation : ProfileKeyPreparation)
    (wrapped : WrappedProfileKey) : Transaction Unit := do
  require (wrapped.binding = preparation.binding ∧ wrapped.nonce = preparation.nonce)
    (.catalog .identityMismatch)
  start
  let snapshot ← query Database.loadSnapshot
  assertActiveBinding snapshot wrapped.binding
  require (wrapped.kekRef = snapshot.identity.activeKek) (.catalog .identityMismatch)
  let w ← read
  let reservation ← demand (w.staged.reservation reservationId) (.catalog .identityMismatch)
  require (reservation.Matches snapshot preparation .reserved) (.catalog .identityMismatch)
  require (w.staged.profileRow wrapped.binding = none) (.catalog .duplicateProfileKey)
  execute (·.insertWrapped
    { profileId := wrapped.binding.profileId
      profileKeyVersion := wrapped.binding.profileKeyVersion
      catalogSchemaVersion := wrapped.binding.catalogSchemaVersion
      installationId := wrapped.binding.installationId
      reservationId
      envelope := wrapped.envelope })
  execute (·.commitReservation reservationId)
  execute (·.updateCatalog (fun _ => true) fun c => { c with revision := c.revision + 1 })
  commitOrLatch

def requireRecovery : Transaction Unit := do
  start
  let snapshot ← query Database.loadSnapshot
  if snapshot.state = .recoveryRequired then pure ()
  else do
    execute (·.updateCatalog (fun c => c.revision = snapshot.revision)
      fun c => { c with state := .recoveryRequired, revision := c.revision + 1 })
    commitOrLatch

/-- `load_catalog` and its reconciliation form. -/
def loadCatalog : Transaction KeyCatalogSnapshot := do
  start
  query Database.loadSnapshot

def loadProfileKey (binding : ProfileKeyBinding) : Transaction (Option WrappedProfileKey) := do
  start
  let snapshot ← query Database.loadSnapshot
  assertActiveBinding snapshot binding
  query (·.readProfileKey snapshot binding)

def reconcileProfileKey (binding : ProfileKeyBinding) : Transaction (Option WrappedProfileKey) := do
  start
  let snapshot ← query Database.loadSnapshot
  require (binding.installationId = snapshot.identity.installationId ∧
    binding.catalogSchemaVersion = snapshot.identity.schemaVersion) (.catalog .identityMismatch)
  query (·.readProfileKey snapshot binding)

/-- `_load_initialization_record` -/
def loadInitializationRecord : Transaction (OpaqueId × Nonce × SourceCommitment) := do
  start
  let snapshot ← query Database.loadSnapshot
  require (snapshot.state = .preparing) (.catalog .identityMismatch)
  let w ← read
  match w.staged.reservations.filter fun r => r.purpose = .sentinel ∧ r.lifecycle = .reserved with
  | [r] => do
    let row ← demand w.staged.catalog (.catalog .corrupt)
    pure (r.reservationId, r.nonce, row.sourceCommitment)
  | _ => stop (.catalog .corrupt)

/-! ### Operations -/

/-- What the caller of the catalog sees. -/
inductive Raised where
  | catalog (code : KeyCatalogFailureCode)
  | typeError
  | valueError
  /-- The runtime of the database admits no such work. -/
  | notReady
deriving DecidableEq

/-- `_latch_commit_ambiguity`: what is raised, and whether the runtime is abandoned. -/
def latchCommitAmbiguity : Failure → Raised × Bool
  | .commitAmbiguous => (.catalog .commitOutcomeUnknown, true)
  | .catalog code => (.catalog code, code = .corrupt ∨ code = .nonceReuse)
  | .sqlError => (.catalog .unavailable, true)
  | .typeError => (.typeError, false)
  | .valueError => (.valueError, false)

/-- The failures of `load_catalog` and `load_profile_key`. -/
def latchLoad : Failure → Raised × Bool
  | .catalog code => (.catalog code, code = .corrupt)
  | .sqlError => (.catalog .unavailable, true)
  | .typeError | .valueError => (.catalog .corrupt, true)
  | .commitAmbiguous => (.catalog .commitOutcomeUnknown, true)

/-- The failures of `load_initialization`. -/
def latchLoadInitialization : Failure → Raised × Bool
  | .catalog code => (.catalog code, code = .corrupt)
  | _ => (.catalog .corrupt, true)

/-- The failures of the reconciliation readers. -/
def redactReader : Failure → Raised × Bool
  | .catalog code => (.catalog code, false)
  | _ => (.catalog .corrupt, false)

/-- The failures of `finish_initialization_for_reconciliation`. -/
def redactReconciliation : Failure → Raised × Bool
  | .catalog code => (.catalog code, false)
  | .typeError => (.typeError, false)
  | .valueError => (.valueError, false)
  | .sqlError | .commitAmbiguous => (.catalog .unavailable, false)

inductive Op where
  | beginInitialization (identity : KeyCatalogIdentity) (sentinelNonce : Nonce)
      (sourceCommitment : SourceCommitment) (reservationId : OpaqueId)
  | finishInitialization (reservationId : OpaqueId) (sentinel : WrappedReadinessSentinel)
  | finishInitializationForReconciliation (reservationId : OpaqueId)
      (sentinel : WrappedReadinessSentinel)
  | reserveProfilePreparation (preparation : ProfileKeyPreparation) (reservationId : OpaqueId)
  | publishProfileKey (reservationId : OpaqueId) (preparation : ProfileKeyPreparation)
      (wrapped : WrappedProfileKey)
  | requireRecovery
  | loadCatalog
  | loadCatalogForReconciliation
  | loadInitialization
  | loadInitializationForReconciliation
  | loadProfileKey (binding : ProfileKeyBinding)
  | reconcileProfileKey (binding : ProfileKeyBinding)
deriving DecidableEq

/-- The value of an operation, when it returns one. -/
inductive Answer where
  | reservation (id : OpaqueId)
  | snapshot (s : KeyCatalogSnapshot)
  | done
  | record (id : OpaqueId) (nonce : Nonce) (sourceCommitment : SourceCommitment)
  | profileKey (wrapped : Option WrappedProfileKey)
deriving DecidableEq

def Op.transaction : Op → Transaction Answer
  | beginInitialization identity nonce commitment id => do
    pure (.reservation (← Keys.beginInitialization identity nonce commitment id))
  | finishInitialization id sentinel | finishInitializationForReconciliation id sentinel => do
    Keys.finishInitialization id sentinel
    -- the ordinary form reads the catalog back
    pure .done
  | reserveProfilePreparation preparation id => do
    pure (.reservation (← Keys.reserveProfilePreparation preparation id))
  | publishProfileKey id preparation wrapped => do
    Keys.publishProfileKey id preparation wrapped
    pure .done
  | requireRecovery => do
    Keys.requireRecovery
    pure .done
  | loadCatalog | loadCatalogForReconciliation => do
    pure (.snapshot (← Keys.loadCatalog))
  | loadInitialization | loadInitializationForReconciliation => do
    let record ← loadInitializationRecord
    pure (.record record.1 record.2.1 record.2.2)
  | loadProfileKey binding => do
    pure (.profileKey (← Keys.loadProfileKey binding))
  | reconcileProfileKey binding => do
    pure (.profileKey (← Keys.reconcileProfileKey binding))

/-- How an operation reports the failure of its unit of work. -/
def Op.report : Op → Failure → Raised × Bool
  | beginInitialization .. | finishInitialization .. | reserveProfilePreparation ..
  | publishProfileKey .. | requireRecovery => latchCommitAmbiguity
  | loadCatalog | loadProfileKey _ => latchLoad
  | loadInitialization => latchLoadInitialization
  | loadCatalogForReconciliation | loadInitializationForReconciliation
  | reconcileProfileKey _ => redactReader
  | finishInitializationForReconciliation .. => redactReconciliation

/-- One operation on the tables, with the outcome of its commit. -/
def Op.perform (op : Op) (commit : Commit) (db : Database) : Except (Raised × Bool) Answer × Database :=
  let (result, db') := transact commit op.transaction db
  (result.mapError op.report, db')

/-- A step of the catalog alone: any operation, at any moment, with any outcome of its commit. -/
def step (db : Database) (i : Op × Commit) : Except (Raised × Bool) Answer × Database :=
  i.1.perform i.2 db

end MyCogni.Keys
