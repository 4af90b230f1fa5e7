import MyCogni.Keys.Reader

/-! Units of work on a ledger when the disk does not fail: which of them return, what they leave, and
what is refused. -/

namespace MyCogni.Keys
open Auth Command Transaction

section Ledger
variable {db : Database} {row : CatalogRow}

theorem assertActiveBinding_ok {s : KeyCatalogSnapshot} {b : ProfileKeyBinding} {w : Work}
    (hstate : s.state = .active) (hcovers : s.identity.Covers b) :
    assertActiveBinding s b w = (.ok (), w) := by
  unfold assertActiveBinding
  rw [bind_ok (require_pos hstate _ _), require_pos (show _ ∧ _ from hcovers)]

/-- The catalog of a ledger that is active. -/
theorem Ledger.snapshot (hw : Ledger db row) (hcatalog : db.catalog = some row)
    (hactive : row.state = .active) :
    ∃ s, db.loadSnapshot = .ok s ∧ s.identity = row.identity ∧ s.state = .active ∧
      s.revision = row.revision := by
  obtain ⟨s, hs, hidentity, hstate, hrevision⟩ :=
    hw.loadSnapshot hcatalog (by rw [hactive]; exact nofun)
  exact ⟨s, hs, hidentity, hstate.trans hactive, hrevision⟩

/-! ### Reservations -/

/-- No reservation has been made for the profile. -/
def Database.Vacant (db : Database) (b : ProfileKeyBinding) : Prop :=
  ∀ r ∈ db.reservations, r.profile ≠ some b.profile

theorem Ledger.vacant_iff (hw : Ledger db row) (b : ProfileKeyBinding) :
    db.Vacant b ↔ db.profileRow b = none ∧ db.profileReservationRow b = none := by
  constructor
  · intro hvacant
    constructor
    · rw [Database.profileRow, List.find?_eq_none]
      intro k hk hprofile
      obtain ⟨-, -, r, hr, -, -, hr'⟩ := hw.bound k hk
      rw [of_decide_eq_true hprofile] at hr'
      exact hvacant r hr hr'
    · rw [Database.profileReservationRow, List.find?_eq_none]
      intro r hr hrow
      exact hvacant r hr (of_decide_eq_true hrow).2
  · rintro ⟨-, hnone⟩ r hr hprofile
    rw [Database.profileReservationRow, List.find?_eq_none] at hnone
    exact hnone r hr (decide_eq_true ⟨hw.purpose_of_profile hr hprofile, hprofile⟩)

/-- The tables with one reservation more. -/
def Database.withReservation (db : Database) (row : CatalogRow) (preparation : ProfileKeyPreparation)
    (id : OpaqueId) : Database :=
  { db with
    catalog := some { row with
      usageReserved := row.usageReserved + 1
      revision := row.revision + 1 }
    reservations := db.reservations ++ [profileReservation row preparation id] }

variable {preparation : ProfileKeyPreparation} {id : OpaqueId}

/-- What a reservation needs beside room. -/
structure Admissible (db : Database) (preparation : ProfileKeyPreparation) (id : OpaqueId) : Prop where
  vacant : db.Vacant preparation.binding
  nonce : ∀ r ∈ db.reservations, r.nonce ≠ preparation.nonce
  id : ∀ r ∈ db.reservations, r.reservationId ≠ id

theorem Ledger.free (hw : Ledger db row) (ha : Admissible db preparation id) :
    ∀ r ∈ db.reservations, ¬(profileReservation row preparation id).Collides r := by
  rintro r hr (hid | ⟨-, hnonce | hsequence⟩ | ⟨-, hprofile⟩)
  · exact ha.id r hr hid.symm
  · exact ha.nonce r hr hnonce.symm
  · -- the sequences in use end at the number of reservations
    have hmem : r.usageSequence ∈ db.reservations.map ReservationRow.usageSequence :=
      List.mem_map_of_mem hr
    rw [hw.sequences, List.mem_range'_1] at hmem
    change row.usageReserved + 1 = r.usageSequence at hsequence
    omega
  · exact ha.vacant r hr hprofile.symm

theorem Ledger.reserves (hw : Ledger db row) (hcatalog : db.catalog = some row)
    (hactive : row.state = .active) (hcovers : row.identity.Covers preparation.binding)
    (ha : Admissible db preparation id) (hroom : row.usageReserved < row.identity.usageLimit) :
    Reserves db (db.withReservation row preparation id) preparation id :=
  ⟨row, hcatalog, hactive, hcovers, hroom, hw.free ha, rfl⟩

theorem reserveProfilePreparation_ok (hw : Ledger db row) (hcatalog : db.catalog = some row)
    (hactive : row.state = .active) (hcovers : row.identity.Covers preparation.binding)
    (ha : Admissible db preparation id) (hroom : row.usageReserved < row.identity.usageLimit) :
    transact .known (reserveProfilePreparation preparation id) db =
      (.ok id, db.withReservation row preparation id) := by
  obtain ⟨s, hs, hidentity, hstate, hrevision⟩ := hw.snapshot hcatalog hactive
  have hinsert : db.insertReservation (profileReservation row preparation id) =
      .ok { db with reservations := db.reservations ++ [profileReservation row preparation id] } := by
    refine if_pos ⟨⟨Nat.le_add_left .., .inr ⟨rfl, _, rfl, preparation.binding.key_version_ok.1⟩⟩,
      hw.free ha, row, hcatalog, rfl⟩
  have hupdate : Database.updateCatalog
      { db with reservations := db.reservations ++ [profileReservation row preparation id] }
      (fun c => c.revision = s.revision ∧ c.state = .active)
      (fun c => { c with usageReserved := row.usageReserved + 1, revision := c.revision + 1 }) =
        .ok (db.withReservation row preparation id) := by
    unfold Database.updateCatalog
    dsimp only
    rw [hcatalog]
    dsimp only
    rw [if_pos (decide_eq_true ⟨hrevision.symm, hactive⟩), if_pos ⟨Nat.le_add_left .., hroom⟩]
    rfl
  have hnonces : ∀ r ∈ db.reservations,
      ¬(r.domain = s.identity.activeKek.domain ∧ r.nonce = preparation.nonce) :=
    fun r hr h => ha.nonce r hr h.2
  unfold transact reserveProfilePreparation
  dsimp only
  rw [bind_ok (@start_ok ⟨db, db, .known⟩ nofun), bind_ok (query_ok hs),
    bind_ok (assertActiveBinding_ok hstate (hidentity ▸ hcovers)),
    bind_ok (show Command.read _ = (.ok _, _) from rfl),
    bind_ok (require_pos ((hw.vacant_iff _).mp ha.vacant) _ _), bind_ok (require_pos hnonces _ _),
    bind_ok (demand_some hcatalog _ _), bind_ok (require_pos (hidentity ▸ hroom) _ _), hidentity,
    bind_ok (execute_ok hinsert), bind_ok (execute_ok hupdate), bind_ok (commitOrLatch_known rfl)]
  rfl

/-- A binding that is taken is refused before anything else is looked at. -/
theorem reserveProfilePreparation_duplicate (hw : Ledger db row) (hcatalog : db.catalog = some row)
    (hactive : row.state = .active) (hcovers : row.identity.Covers preparation.binding)
    (htaken : ¬db.Vacant preparation.binding) :
    transact .known (reserveProfilePreparation preparation id) db =
      (.error (.catalog .duplicateProfileKey), db) := by
  obtain ⟨s, hs, hidentity, hstate, -⟩ := hw.snapshot hcatalog hactive
  unfold transact reserveProfilePreparation
  dsimp only
  rw [bind_ok (@start_ok ⟨db, db, .known⟩ nofun), bind_ok (query_ok hs),
    bind_ok (assertActiveBinding_ok hstate (hidentity ▸ hcovers)),
    bind_ok (show Command.read _ = (.ok _, _) from rfl),
    bind_error (require_neg (fun h => htaken ((hw.vacant_iff _).mpr h)) _ _)]

theorem reserveProfilePreparation_exhausted (hw : Ledger db row) (hcatalog : db.catalog = some row)
    (hactive : row.state = .active) (hcovers : row.identity.Covers preparation.binding)
    (hvacant : db.Vacant preparation.binding)
    (hnonce : ∀ r ∈ db.reservations, r.nonce ≠ preparation.nonce)
    (hfull : ¬row.usageReserved < row.identity.usageLimit) :
    transact .known (reserveProfilePreparation preparation id) db =
      (.error (.catalog .usageLimit), db) := by
  obtain ⟨s, hs, hidentity, hstate, -⟩ := hw.snapshot hcatalog hactive
  have hnonces : ∀ r ∈ db.reservations,
      ¬(r.domain = s.identity.activeKek.domain ∧ r.nonce = preparation.nonce) :=
    fun r hr h => hnonce r hr h.2
  unfold transact reserveProfilePreparation
  dsimp only
  rw [bind_ok (@start_ok ⟨db, db, .known⟩ nofun), bind_ok (query_ok hs),
    bind_ok (assertActiveBinding_ok hstate (hidentity ▸ hcovers)),
    bind_ok (show Command.read _ = (.ok _, _) from rfl),
    bind_ok (require_pos ((hw.vacant_iff _).mp hvacant) _ _), bind_ok (require_pos hnonces _ _),
    bind_ok (demand_some hcatalog _ _), bind_error (require_neg (hidentity ▸ hfull) _ _)]

/-! ### Publications -/

def Database.withKey (db : Database) (row : CatalogRow) (id : OpaqueId) (w : WrappedProfileKey) :
    Database :=
  { db with
    catalog := some { row with revision := row.revision + 1 }
    reservations := db.commitRows id
    wrapped := db.wrapped ++ [wrappedRow id w] }

theorem Ledger.unpublished (hw : Ledger db row) (ha : Admissible db preparation id) :
    ∀ k ∈ db.wrapped, k.profile ≠ preparation.binding.profile ∧ k.reservationId ≠ id := by
  intro k hk
  obtain ⟨-, -, r, hr, hid, -, hprofile⟩ := hw.bound k hk
  constructor
  · intro h
    rw [h] at hprofile
    exact ha.vacant r hr hprofile
  · rw [← hid]
    exact ha.id r hr

/-- The publication right after the reservation. -/
theorem publishProfileKey_ok (hw : Ledger db row) (hcatalog : db.catalog = some row)
    (hactive : row.state = .active) (hcovers : row.identity.Covers preparation.binding)
    (ha : Admissible db preparation id) (hroom : row.usageReserved < row.identity.usageLimit)
    {w : WrappedProfileKey} (hbinding : w.binding = preparation.binding)
    (hnonce : w.nonce = preparation.nonce) (hkek : w.kekRef = row.identity.activeKek) :
    transact .known (publishProfileKey id preparation w) (db.withReservation row preparation id) =
      (.ok (), (db.withReservation row preparation id).withKey { row with
        usageReserved := row.usageReserved + 1
        revision := row.revision + 1 } id w) := by
  set row' : CatalogRow := { row with
    usageReserved := row.usageReserved + 1
    revision := row.revision + 1 }
  set db' := db.withReservation row preparation id
  have hwell : WellFormed db := by
    unfold WellFormed
    rw [hcatalog]
    exact hw
  have hw' : Ledger db' row' :=
    (hw.reserves hcatalog hactive hcovers ha hroom).ledger hwell
  obtain ⟨s, hs, hidentity, hstate, hrevision⟩ := hw'.snapshot rfl hactive
  have hidentity' : s.identity = row.identity := hidentity
  have hmem : profileReservation row preparation id ∈ db'.reservations :=
    List.mem_append_right _ (List.mem_singleton_self _)
  have hfound : db'.reservation id = some (profileReservation row preparation id) :=
    Database.reservation_of_mem hw'.ids hmem
  have hmatches : (profileReservation row preparation id).Matches s preparation .reserved := by
    unfold ReservationRow.Matches
    rw [hidentity']
    exact ⟨rfl, rfl, rfl, rfl, rfl, rfl⟩
  have hnone : db'.profileRow w.binding = none := by
    rw [Database.profileRow, List.find?_eq_none]
    intro k hk hprofile
    rw [hbinding] at hprofile
    exact (hw.unpublished ha k hk).1 (of_decide_eq_true hprofile)
  have hinsert : db'.insertWrapped (wrappedRow id w) =
      .ok { db' with wrapped := db'.wrapped ++ [wrappedRow id w] } := by
    refine if_pos ⟨fun k hk => ?_, ?_, ?_⟩
    · change k.profile ≠ w.binding.profile ∧ k.reservationId ≠ id
      rw [hbinding]
      exact hw.unpublished ha k hk
    · change (db'.reservation id).isSome = true
      rw [hfound]
      rfl
    · change w.binding.catalogSchemaVersion = 1
      rw [hbinding, hcovers.2, row.identity.schema_ok]
      rfl
  have hcommit : Database.commitReservation
      { db' with wrapped := db'.wrapped ++ [wrappedRow id w] } id =
        .ok { db' with
          reservations := db'.commitRows id
          wrapped := db'.wrapped ++ [wrappedRow id w] } := by
    have hold : db.reservations.countP
        (fun r => r.reservationId = id ∧ r.lifecycle = .reserved) = 0 := by
      rw [List.countP_eq_zero]
      intro r hr h
      exact ha.id r hr (of_decide_eq_true h).1
    have hcount : db'.reservations.countP
        (fun r => r.reservationId = id ∧ r.lifecycle = .reserved) = 1 := by
      change (db.reservations ++ [profileReservation row preparation id]).countP _ = 1
      rw [List.countP_append, hold, List.countP_singleton, if_pos (decide_eq_true ⟨rfl, rfl⟩)]
    unfold Database.commitReservation
    dsimp only
    rw [if_pos hcount]
    simp only [Database.commitRows, decide_eq_true_eq]
  have hupdate : Database.updateCatalog
      { db' with
        reservations := db'.commitRows id
        wrapped := db'.wrapped ++ [wrappedRow id w] }
      (fun _ => true) (fun c => { c with revision := c.revision + 1 }) =
        .ok (db'.withKey row' id w) := by
    unfold Database.updateCatalog
    dsimp only
    change (if true = true then if 1 ≤ row.usageReserved + 1 ∧
      row.usageReserved + 1 ≤ row.identity.usageLimit then _ else _ else _) = _
    rw [if_pos rfl, if_pos ⟨Nat.le_add_left .., hroom⟩]
    rfl
  unfold transact publishProfileKey
  rw [bind_ok (require_pos ⟨hbinding, hnonce⟩ _ _), bind_ok (@start_ok ⟨db', db', .known⟩ (fun h => by cases h)),
    bind_ok (query_ok hs),
    bind_ok (assertActiveBinding_ok hstate (by rw [hidentity', hbinding]; exact hcovers)),
    bind_ok (require_pos (hkek.trans (by rw [hidentity'])) _ _),
    bind_ok (show Command.read _ = (.ok _, _) from rfl), bind_ok (demand_some hfound _ _),
    bind_ok (require_pos hmatches _ _), bind_ok (require_pos hnone _ _),
    bind_ok (execute_ok hinsert), bind_ok (execute_ok hcommit), bind_ok (execute_ok hupdate),
    commitOrLatch_known rfl]

/-! ### Recovery -/

def Database.recovering (db : Database) (row : CatalogRow) : Database :=
  { db with
    catalog := some { row with state := .recoveryRequired, revision := row.revision + 1 } }

theorem requireRecovery_ok (hw : Ledger db row) (hcatalog : db.catalog = some row)
    (hactive : row.state = .active) :
    transact .known requireRecovery db = (.ok (), db.recovering row) := by
  obtain ⟨s, hs, -, hstate, hrevision⟩ := hw.snapshot hcatalog hactive
  have hupdate : db.updateCatalog (fun c => c.revision = s.revision)
      (fun c => { c with state := .recoveryRequired, revision := c.revision + 1 }) =
        .ok (db.recovering row) := by
    unfold Database.updateCatalog
    rw [hcatalog]
    dsimp only
    rw [if_pos (decide_eq_true hrevision.symm), if_pos ⟨hw.usageReserved_pos, hw.limit⟩]
    rfl
  unfold transact requireRecovery
  rw [bind_ok (@start_ok ⟨db, db, .known⟩ nofun), bind_ok (query_ok hs),
    if_neg (by rw [hstate]; exact nofun), bind_ok (execute_ok hupdate), commitOrLatch_known rfl]

end Ledger

/-! ### The first catalog -/

/-- The tables once the sentinel's nonce is reserved. -/
def begun (identity : KeyCatalogIdentity) (nonce : Nonce) (commitment : SourceCommitment)
    (id : OpaqueId) : Database where
  catalog := some ⟨identity, 1, .preparing, 1, commitment⟩
  reservations := [sentinelReservation identity nonce id]

/-- The tables once the sentinel stands. -/
def finished (identity : KeyCatalogIdentity) (nonce : Nonce) (commitment : SourceCommitment)
    (id : OpaqueId) (envelope : Envelope) : Database where
  catalog := some ⟨identity, 2, .active, 1, commitment⟩
  reservations := [{ sentinelReservation identity nonce id with lifecycle := .committed }]
  sentinel := some ⟨identity.catalogId, identity.sentinelId, id, envelope⟩

section First
variable {identity : KeyCatalogIdentity} {nonce : Nonce} {commitment : SourceCommitment}
  {id : OpaqueId}

theorem beginInitialization_ok :
    transact .known (beginInitialization identity nonce commitment id) {} =
      (.ok id, begun identity nonce commitment id) := by
  have hinsert : Database.insertReservation
      { catalog := some ⟨identity, 1, .preparing, 1, commitment⟩ }
      (sentinelReservation identity nonce id) = .ok (begun identity nonce commitment id) :=
    if_pos ⟨⟨le_rfl, .inl ⟨rfl, rfl⟩⟩, nofun, _, rfl, rfl⟩
  unfold transact beginInitialization
  rw [bind_ok (@start_ok ⟨{}, {}, .known⟩ nofun), bind_ok (show Command.read _ = (.ok _, _) from rfl),
    bind_ok (require_pos rfl _ _), bind_ok (execute_ok (if_pos rfl)), bind_ok (execute_ok hinsert),
    bind_ok (commitOrLatch_known rfl)]
  rfl

theorem begun_ledger :
    Ledger (begun identity nonce commitment id) ⟨identity, 1, .preparing, 1, commitment⟩ :=
  @Initializes.ledger {} _ identity nonce commitment id ⟨rfl, rfl⟩ ⟨rfl, rfl, rfl⟩

theorem finishInitialization_ok {sentinel : WrappedReadinessSentinel}
    (howns : identity.Owns sentinel) (hnonce : sentinel.nonce = nonce) :
    transact .known (finishInitialization id sentinel) (begun identity nonce commitment id) =
      (.ok (), finished identity nonce commitment id sentinel.envelope) := by
  set db := begun identity nonce commitment id
  set row : CatalogRow := ⟨identity, 1, .preparing, 1, commitment⟩
  set r := sentinelReservation identity nonce id
  obtain ⟨s, hs, hidentity, hstate, hrevision⟩ :=
    (@begun_ledger identity nonce commitment id).loadSnapshot rfl nofun
  have hidentity' : s.identity = identity := hidentity
  have hfound : db.reservation id = some r :=
    Database.reservation_of_mem begun_ledger.ids (List.mem_singleton_self r)
  have hinsert : db.insertSentinel ⟨identity.catalogId, identity.sentinelId, id, sentinel.envelope⟩ =
      .ok { db with
        sentinel := some ⟨identity.catalogId, identity.sentinelId, id, sentinel.envelope⟩ } :=
    if_pos ⟨rfl, by rw [hfound]; rfl, _, rfl, rfl⟩
  have hcommit : Database.commitReservation
      { db with
        sentinel := some ⟨identity.catalogId, identity.sentinelId, id, sentinel.envelope⟩ } id =
      .ok { db with
        reservations := [{ r with lifecycle := .committed }]
        sentinel := some ⟨identity.catalogId, identity.sentinelId, id, sentinel.envelope⟩ } := by
    have hcount : [r].countP (fun r => r.reservationId = id ∧ r.lifecycle = .reserved) = 1 := by
      rw [List.countP_singleton, if_pos (decide_eq_true ⟨rfl, rfl⟩)]
    unfold Database.commitReservation
    dsimp only
    change (if [r].countP _ = 1 then _ else _) = _
    rw [if_pos hcount]
    change Except.ok { db with reservations := [r].map _, sentinel := _ } = _
    rw [List.map_singleton, if_pos (decide_eq_true ⟨rfl, rfl⟩)]
  have hupdate : Database.updateCatalog
      { db with
        reservations := [{ r with lifecycle := .committed }]
        sentinel := some ⟨identity.catalogId, identity.sentinelId, id, sentinel.envelope⟩ }
      (fun c => c.state = .preparing ∧ c.revision = s.revision)
      (fun c => { c with state := .active, revision := c.revision + 1 }) =
        .ok (finished identity nonce commitment id sentinel.envelope) := by
    have hlimit := identity.limit_ok
    unfold Database.updateCatalog
    change (if decide (row.state = .preparing ∧ row.revision = s.revision) = true then _ else _) = _
    rw [if_pos (decide_eq_true ⟨rfl, hrevision.symm⟩), if_pos ⟨le_rfl, show 1 ≤ identity.usageLimit by omega⟩]
    rfl
  have hstage : stageInitializationFinish id sentinel ⟨db, db, .known⟩ =
      (.ok (), ⟨db, finished identity nonce commitment id sentinel.envelope, .known⟩) := by
    unfold stageInitializationFinish
    rw [bind_ok (@start_ok ⟨db, db, .known⟩ nofun), bind_ok (query_ok hs),
      bind_ok (require_pos ⟨hstate, by rw [hidentity']; exact howns⟩ _ _),
      bind_ok (show Command.read _ = (.ok _, _) from rfl), bind_ok (demand_some hfound _ _),
      bind_ok (require_pos ⟨rfl, rfl, hnonce.symm⟩ _ _), hidentity', bind_ok (execute_ok hinsert),
      bind_ok (execute_ok hcommit), execute_ok hupdate]
  unfold transact finishInitialization
  rw [bind_ok hstage, commitOrLatch_known rfl]

end First

end MyCogni.Keys
