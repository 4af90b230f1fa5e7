import MyCogni.Keys.Change

/-! The ledger of the key catalog: what the four tables hold together in every durable state, and
what no unit of work takes back. -/

namespace MyCogni.Keys
open Auth

/-! ### The invariant -/

structure Ledger (db : Database) (row : CatalogRow) : Prop where
  length_eq : db.reservations.length = row.usageReserved
  limit : row.usageReserved ≤ row.identity.usageLimit
  revision_pos : 1 ≤ row.revision
  /-- The sequences are 1, 2, and so on. -/
  sequences : db.reservations.map ReservationRow.usageSequence = List.range' 1 row.usageReserved
  /-- The first reservation is the sentinel's, the others are of profile keys. -/
  purposes : ∃ n, db.reservations.map ReservationRow.purpose = .sentinel :: List.replicate n .profile
  own : ∀ r ∈ db.reservations, ¬Database.Foreign row.identity r
  checked : ∀ r ∈ db.reservations, r.Checked
  ids : (db.reservations.map ReservationRow.reservationId).Nodup
  nonces : (db.reservations.map ReservationRow.nonce).Nodup
  profiles : (db.reservations.filterMap ReservationRow.profile).Nodup
  wrappedProfiles : (db.wrapped.map WrappedRow.profile).Nodup
  wrappedIds : (db.wrapped.map WrappedRow.reservationId).Nodup
  /-- A wrapped key belongs to a committed reservation of its profile. -/
  bound : ∀ k ∈ db.wrapped, k.installationId = row.identity.installationId ∧
    k.catalogSchemaVersion = row.identity.schemaVersion ∧
      ∃ r ∈ db.reservations, r.reservationId = k.reservationId ∧ r.lifecycle = .committed ∧
        r.profile = some k.profile
  /-- A committed reservation of a profile has its wrapped key. -/
  published : ∀ r ∈ db.reservations, r.purpose = .profile → r.lifecycle = .committed →
    ∃ k ∈ db.wrapped, k.reservationId = r.reservationId ∧ r.profile = some k.profile
  /-- The sentinel stands with a committed reservation of its own. -/
  sentinel : ∀ s, db.sentinel = some s → s.sentinelId = row.identity.sentinelId ∧
    ∃ r ∈ db.reservations, r.reservationId = s.reservationId ∧ r.purpose = .sentinel ∧
      r.lifecycle = .committed
  unfinished : row.state = .preparing → db.sentinel = none
  finished : row.state = .active → db.sentinel ≠ none

/-- A database without a catalog is empty; one with a catalog keeps its ledger. -/
def WellFormed (db : Database) : Prop :=
  match db.catalog with
  | none => db.reservations = [] ∧ db.sentinel = none ∧ db.wrapped = []
  | some row => Ledger db row

theorem WellFormed.ledger {db : Database} {row : CatalogRow} (hw : WellFormed db)
    (hcatalog : db.catalog = some row) : Ledger db row := by
  unfold WellFormed at hw
  rwa [hcatalog] at hw

def Database.revision (db : Database) : Nat :=
  match db.catalog with
  | none => 0
  | some row => row.revision

/-- What a later state of the database owes to an earlier one. -/
structure Extends (db db' : Database) : Prop where
  catalog : ∀ row, db.catalog = some row → ∃ row', db'.catalog = some row' ∧
    row'.identity = row.identity ∧ row'.sourceCommitment = row.sourceCommitment
  /-- A reservation is never taken back, and changes only when it is committed. -/
  reservations : ∀ r ∈ db.reservations, ∃ r' ∈ db'.reservations,
    r' = r ∨ r.lifecycle = .reserved ∧ r' = { r with lifecycle := .committed }
  sentinel : ∀ s, db.sentinel = some s → db'.sentinel = some s
  wrapped : db.wrapped <+: db'.wrapped

theorem Extends.refl (db : Database) : Extends db db where
  catalog row h := ⟨row, h, rfl, rfl⟩
  reservations r h := ⟨r, h, .inl rfl⟩
  sentinel _ h := h
  wrapped := List.prefix_rfl

theorem Extends.trans {db db' db'' : Database} (h : Extends db db') (h' : Extends db' db'') :
    Extends db db'' where
  catalog row hrow := by
    obtain ⟨row', hrow', hidentity, hcommitment⟩ := h.catalog row hrow
    obtain ⟨row'', hrow'', hidentity', hcommitment'⟩ := h'.catalog row' hrow'
    exact ⟨row'', hrow'', hidentity'.trans hidentity, hcommitment'.trans hcommitment⟩
  reservations r hr := by
    obtain ⟨r', hr', hbecame⟩ := h.reservations r hr
    obtain ⟨r'', hr'', hbecame'⟩ := h'.reservations r' hr'
    refine ⟨r'', hr'', ?_⟩
    rcases hbecame with rfl | ⟨hreserved, rfl⟩
    · exact hbecame'
    · rcases hbecame' with rfl | ⟨hlifecycle, rfl⟩
      · exact .inr ⟨hreserved, rfl⟩
      · cases hlifecycle
  sentinel s hs := h'.sentinel s (h.sentinel s hs)
  wrapped := h.wrapped.trans h'.wrapped

/-! ### Committing a reservation -/

namespace Database
variable (db : Database) (id : OpaqueId)

/-- Committing a reservation leaves every other column as it is. -/
theorem map_commitRows {α : Type} (f : ReservationRow → α)
    (hf : ∀ r : ReservationRow, f { r with lifecycle := .committed } = f r) :
    (db.commitRows id).map f = db.reservations.map f := by
  rw [commitRows, List.map_map]
  refine List.map_congr_left fun r _ => ?_
  simp only [Function.comp_apply]
  split_ifs
  · exact hf r
  · rfl

theorem filterMap_commitRows :
    (db.commitRows id).filterMap ReservationRow.profile =
      db.reservations.filterMap ReservationRow.profile := by
  rw [commitRows, List.filterMap_map]
  refine List.filterMap_congr fun r _ => ?_
  simp only [Function.comp_apply]
  split_ifs <;> rfl

variable {db id}

/-- A row of the table after the commit of a reservation, and the row it was. -/
theorem mem_commitRows {r' : ReservationRow} (h : r' ∈ db.commitRows id) :
    ∃ r ∈ db.reservations, (r' = r ∧ ¬(r.reservationId = id ∧ r.lifecycle = .reserved)) ∨
      r.reservationId = id ∧ r.lifecycle = .reserved ∧ r' = { r with lifecycle := .committed } := by
  obtain ⟨r, hr, heq⟩ := List.mem_map.mp h
  refine ⟨r, hr, ?_⟩
  split_ifs at heq with hhit
  · exact .inr ⟨hhit.1, hhit.2, heq.symm⟩
  · exact .inl ⟨heq.symm, hhit⟩

theorem mem_commitRows_of {r : ReservationRow} (h : r ∈ db.reservations) :
    (if r.reservationId = id ∧ r.lifecycle = .reserved then { r with lifecycle := .committed }
      else r) ∈ db.commitRows id :=
  List.mem_map_of_mem h

/-- A committed row stays as it is. -/
theorem mem_commitRows_committed {r : ReservationRow} (h : r ∈ db.reservations)
    (hcommitted : r.lifecycle = .committed) : r ∈ db.commitRows id := by
  have hmem := @mem_commitRows_of db id r h
  rwa [if_neg fun hhit => by rw [hcommitted] at hhit; cases hhit.2] at hmem

/-- A fact about the other columns stays with every row. -/
theorem forall_commitRows {p : ReservationRow → Prop}
    (hp : ∀ r : ReservationRow, p r → p { r with lifecycle := .committed })
    (h : ∀ r ∈ db.reservations, p r) : ∀ r ∈ db.commitRows id, p r := by
  intro r' hr'
  obtain ⟨r, hr, ⟨rfl, -⟩ | ⟨-, -, rfl⟩⟩ := mem_commitRows hr'
  · exact h _ hr
  · exact hp r (h r hr)

theorem mem_of_reservation {r : ReservationRow} (h : db.reservation id = some r) :
    r ∈ db.reservations ∧ r.reservationId = id :=
  ⟨List.mem_of_find?_eq_some h, by simpa using List.find?_some h⟩

theorem reservation_of_mem {r : ReservationRow}
    (hids : (db.reservations.map ReservationRow.reservationId).Nodup) (h : r ∈ db.reservations) :
    db.reservation r.reservationId = some r := by
  cases hfind : db.reservation r.reservationId with
  | none =>
    have := List.find?_eq_none.mp hfind r h
    simp at this
  | some r' =>
    obtain ⟨hr', hid⟩ := mem_of_reservation hfind
    rw [List.inj_on_of_nodup_map hids hr' h hid]

theorem profileRow_of_mem {k : WrappedRow} {binding : ProfileKeyBinding}
    (hprofiles : (db.wrapped.map WrappedRow.profile).Nodup) (h : k ∈ db.wrapped)
    (hk : k.profile = binding.profile) : db.profileRow binding = some k := by
  cases hfind : db.profileRow binding with
  | none =>
    have := List.find?_eq_none.mp hfind k h
    simp [hk] at this
  | some k' =>
    have hk' : k'.profile = binding.profile := by simpa using List.find?_some hfind
    rw [List.inj_on_of_nodup_map hprofiles (List.mem_of_find?_eq_some hfind) h (hk'.trans hk.symm)]

theorem mem_of_profileRow {k : WrappedRow} {binding : ProfileKeyBinding}
    (h : db.profileRow binding = some k) : k ∈ db.wrapped ∧ k.profile = binding.profile :=
  ⟨List.mem_of_find?_eq_some h, by simpa using List.find?_some h⟩

end Database

/-! ### Changes keep the ledger -/

section Keep
variable {db db' : Database}

theorem Initializes.ledger {identity : KeyCatalogIdentity} {nonce : Nonce}
    {commitment : SourceCommitment} {id : OpaqueId}
    (h : Initializes db db' identity nonce commitment id) (hw : WellFormed db) :
    WellFormed db' := by
  obtain ⟨hnone, rfl⟩ := h
  unfold WellFormed at hw
  rw [hnone] at hw
  obtain ⟨hreservations, hsentinel, hwrapped⟩ := hw
  have hlimit : 1 ≤ identity.usageLimit := by
    have := identity.limit_ok
    omega
  change Ledger _ _
  rw [hreservations, hsentinel, hwrapped]
  have hrow : ∀ r ∈ [] ++ [sentinelReservation identity nonce id],
      r = sentinelReservation identity nonce id := by simp
  exact {
    length_eq := rfl
    limit := hlimit
    revision_pos := le_rfl
    sequences := rfl
    purposes := ⟨0, rfl⟩
    own := fun r hr => by rw [hrow r hr]; exact fun h => h.elim (· rfl) (· rfl)
    checked := fun r hr => by rw [hrow r hr]; exact ⟨le_rfl, .inl ⟨rfl, rfl⟩⟩
    ids := List.nodup_singleton _
    nonces := List.nodup_singleton _
    profiles := List.nodup_nil
    wrappedProfiles := List.nodup_nil
    wrappedIds := List.nodup_nil
    bound := nofun
    published := fun r hr hpurpose => by rw [hrow r hr] at hpurpose; cases hpurpose
    sentinel := nofun
    unfinished := fun _ => rfl
    finished := nofun }

/-- The commit of a reservation keeps what stands of the columns and of the wrapped keys. -/
theorem Ledger.bound_commitRows {row : CatalogRow} (hw : Ledger db row) (id : OpaqueId) :
    ∀ k ∈ db.wrapped, k.installationId = row.identity.installationId ∧
      k.catalogSchemaVersion = row.identity.schemaVersion ∧
        ∃ r ∈ db.commitRows id, r.reservationId = k.reservationId ∧ r.lifecycle = .committed ∧
          r.profile = some k.profile := by
  intro k hk
  obtain ⟨hinstallation, hschema, r, hr, hrow⟩ := hw.bound k hk
  exact ⟨hinstallation, hschema, r, Database.mem_commitRows_committed hr hrow.2.1, hrow⟩

theorem Finishes.ledger {id : OpaqueId} {sentinel : WrappedReadinessSentinel}
    (h : Finishes db db' id sentinel) (hw : WellFormed db) : WellFormed db' := by
  obtain ⟨row, r, hcatalog, -, -, hr, hpurpose, hlifecycle, -, -, rfl⟩ := h
  unfold WellFormed at hw
  rw [hcatalog] at hw
  obtain ⟨hmem, hid⟩ := Database.mem_of_reservation hr
  have hcolumn := @Database.map_commitRows db id
  have hcommitted : { r with lifecycle := .committed } ∈ db.commitRows id := by
    have hrow := @Database.mem_commitRows_of db id r hmem
    rwa [if_pos ⟨hid, hlifecycle⟩] at hrow
  change Ledger { db with
    catalog := _
    reservations := db.commitRows id
    sentinel := _ } _
  exact {
    length_eq := by rw [← hw.length_eq, Database.commitRows, List.length_map]
    limit := hw.limit
    revision_pos := by dsimp only; omega
    sequences := (hcolumn _ fun _ => rfl).trans hw.sequences
    purposes := hw.purposes.imp fun _ h => (hcolumn _ fun _ => rfl).trans h
    own := Database.forall_commitRows (fun _ h => h) hw.own
    checked := Database.forall_commitRows (fun _ h => h) hw.checked
    ids := by rw [hcolumn _ fun _ => rfl]; exact hw.ids
    nonces := by rw [hcolumn _ fun _ => rfl]; exact hw.nonces
    profiles := by rw [Database.filterMap_commitRows]; exact hw.profiles
    wrappedProfiles := hw.wrappedProfiles
    wrappedIds := hw.wrappedIds
    bound := hw.bound_commitRows id
    published := by
      intro r' hr' hpurpose' hcommitted'
      obtain ⟨r₀, hr₀, ⟨rfl, -⟩ | ⟨hid₀, -, rfl⟩⟩ := Database.mem_commitRows hr'
      · exact hw.published _ hr₀ hpurpose' hcommitted'
      · -- the row that was committed is the sentinel's
        cases List.inj_on_of_nodup_map hw.ids hr₀ hmem (hid₀.trans hid.symm)
        rw [hpurpose] at hpurpose'
        cases hpurpose'
    sentinel := by
      rintro s ⟨⟩
      exact ⟨rfl, _, hcommitted, hid, hpurpose, rfl⟩
    unfinished := nofun
    finished := fun _ => nofun }

theorem Reserves.ledger {preparation : ProfileKeyPreparation} {id : OpaqueId}
    (h : Reserves db db' preparation id) (hw : WellFormed db) : WellFormed db' := by
  obtain ⟨row, hcatalog, hstate, -, hlimit, hfree, rfl⟩ := h
  unfold WellFormed at hw
  rw [hcatalog] at hw
  have hnew : ∀ {p : ReservationRow → Prop}, (∀ r ∈ db.reservations, p r) →
      p (profileReservation row preparation id) →
        ∀ r ∈ db.reservations ++ [profileReservation row preparation id], p r := by
    intro p hold hnew r hr
    rcases List.mem_append.mp hr with hr | hr
    · exact hold r hr
    · rw [List.mem_singleton.mp hr]
      exact hnew
  -- the new row is in the domain of the others, so its nonce is none of theirs
  have hnonce : ∀ r ∈ db.reservations, r.nonce ≠ preparation.nonce := by
    intro r hr heq
    have hdomain : r.domain = row.identity.activeKek.domain :=
      not_not.mp (not_or.mp (hw.own r hr)).2
    exact hfree r hr (.inr (.inl ⟨hdomain.symm, .inl heq.symm⟩))
  change Ledger { db with
    catalog := _
    reservations := db.reservations ++ [profileReservation row preparation id] } _
  exact {
    length_eq := by rw [List.length_append, hw.length_eq]; rfl
    limit := hlimit
    revision_pos := by dsimp only; omega
    sequences := by
      rw [List.map_append, hw.sequences, List.range'_1_concat, Nat.add_comm 1]
      rfl
    purposes := by
      obtain ⟨n, hn⟩ := hw.purposes
      refine ⟨n + 1, ?_⟩
      rw [List.map_append, hn, List.replicate_succ', List.cons_append]
      rfl
    own := hnew hw.own fun h => h.elim (· rfl) (· rfl)
    checked := by
      refine hnew hw.checked ⟨?_, .inr ⟨rfl, _, rfl, preparation.binding.key_version_ok.1⟩⟩
      exact Nat.le_add_left ..
    ids := by
      rw [List.map_append, List.map_singleton, List.nodup_append]
      refine ⟨hw.ids, List.nodup_singleton _, fun i hi j hj heq => ?_⟩
      obtain ⟨r, hr, rfl⟩ := List.mem_map.mp hi
      exact hfree r hr (.inl ((List.mem_singleton.mp hj).symm.trans heq.symm))
    nonces := by
      rw [List.map_append, List.map_singleton, List.nodup_append]
      refine ⟨hw.nonces, List.nodup_singleton _, fun i hi j hj heq => ?_⟩
      obtain ⟨r, hr, rfl⟩ := List.mem_map.mp hi
      exact hnonce r hr (heq.trans (List.mem_singleton.mp hj))
    profiles := by
      rw [List.filterMap_append, List.nodup_append]
      refine ⟨hw.profiles, List.nodup_singleton _, fun p hp q hq heq => ?_⟩
      obtain ⟨r, hr, hprofile⟩ := List.mem_filterMap.mp hp
      have hq' : q = preparation.binding.profile := List.mem_singleton.mp hq
      refine hfree r hr (.inr (.inr ⟨rfl, ?_⟩))
      rw [hprofile, heq, hq']
      rfl
    wrappedProfiles := hw.wrappedProfiles
    wrappedIds := hw.wrappedIds
    bound := by
      intro k hk
      obtain ⟨hinstallation, hschema, r, hr, hrow⟩ := hw.bound k hk
      exact ⟨hinstallation, hschema, r, List.mem_append_left _ hr, hrow⟩
    published := hnew hw.published nofun
    sentinel := by
      intro s hs
      obtain ⟨hid, r, hr, hrow⟩ := hw.sentinel s hs
      exact ⟨hid, r, List.mem_append_left _ hr, hrow⟩
    unfinished := hw.unfinished
    finished := hw.finished }

theorem Publishes.ledger {id : OpaqueId} {wrapped : WrappedProfileKey}
    (h : Publishes db db' id wrapped) (hw : WellFormed db) : WellFormed db' := by
  obtain ⟨row, r, hcatalog, -, hcovers, -, hr, -, hlifecycle, -, hprofile, hfree, rfl⟩ := h
  unfold WellFormed at hw
  rw [hcatalog] at hw
  obtain ⟨hmem, hid⟩ := Database.mem_of_reservation hr
  have hcolumn := @Database.map_commitRows db id
  have hcommitted : { r with lifecycle := .committed } ∈ db.commitRows id := by
    have hrow := @Database.mem_commitRows_of db id r hmem
    rwa [if_pos ⟨hid, hlifecycle⟩] at hrow
  change Ledger { db with
    catalog := _
    reservations := db.commitRows id
    wrapped := db.wrapped ++ [wrappedRow id wrapped] } _
  exact {
    length_eq := by rw [← hw.length_eq, Database.commitRows, List.length_map]
    limit := hw.limit
    revision_pos := by dsimp only; omega
    sequences := (hcolumn _ fun _ => rfl).trans hw.sequences
    purposes := hw.purposes.imp fun _ h => (hcolumn _ fun _ => rfl).trans h
    own := Database.forall_commitRows (fun _ h => h) hw.own
    checked := Database.forall_commitRows (fun _ h => h) hw.checked
    ids := by rw [hcolumn _ fun _ => rfl]; exact hw.ids
    nonces := by rw [hcolumn _ fun _ => rfl]; exact hw.nonces
    profiles := by rw [Database.filterMap_commitRows]; exact hw.profiles
    wrappedProfiles := by
      rw [List.map_append, List.map_singleton, List.nodup_append]
      refine ⟨hw.wrappedProfiles, List.nodup_singleton _, fun p hp q hq heq => ?_⟩
      obtain ⟨k, hk, rfl⟩ := List.mem_map.mp hp
      exact (hfree k hk).1 (heq.trans (List.mem_singleton.mp hq))
    wrappedIds := by
      rw [List.map_append, List.map_singleton, List.nodup_append]
      refine ⟨hw.wrappedIds, List.nodup_singleton _, fun p hp q hq heq => ?_⟩
      obtain ⟨k, hk, rfl⟩ := List.mem_map.mp hp
      exact (hfree k hk).2 (heq.trans (List.mem_singleton.mp hq))
    bound := by
      intro k hk
      rcases List.mem_append.mp hk with hk | hk
      · exact hw.bound_commitRows id k hk
      · rw [List.mem_singleton.mp hk]
        exact ⟨hcovers.1, hcovers.2, _, hcommitted, hid, rfl, hprofile⟩
    published := by
      intro r' hr' hpurpose' hcommitted'
      obtain ⟨r₀, hr₀, ⟨rfl, -⟩ | ⟨hid₀, -, rfl⟩⟩ := Database.mem_commitRows hr'
      · obtain ⟨k, hk, hrow⟩ := hw.published _ hr₀ hpurpose' hcommitted'
        exact ⟨k, List.mem_append_left _ hk, hrow⟩
      · cases List.inj_on_of_nodup_map hw.ids hr₀ hmem (hid₀.trans hid.symm)
        exact ⟨_, List.mem_append_right _ (List.mem_singleton_self _), hid.symm, hprofile⟩
    sentinel := by
      intro s hs
      obtain ⟨hsid, r', hr', hrow⟩ := hw.sentinel s hs
      exact ⟨hsid, r', Database.mem_commitRows_committed hr' hrow.2.2, hrow⟩
    unfinished := hw.unfinished
    finished := hw.finished }

theorem Recovers.ledger (h : Recovers db db') (hw : WellFormed db) : WellFormed db' := by
  obtain ⟨row, hcatalog, -, rfl⟩ := h
  unfold WellFormed at hw
  rw [hcatalog] at hw
  change Ledger { db with catalog := _ } _
  exact { hw with
    revision_pos := by dsimp only; omega
    unfinished := nofun
    finished := nofun }

theorem Change.ledger (h : Change db db') (hw : WellFormed db) : WellFormed db' := by
  cases h with
  | initializes h => exact h.ledger hw
  | finishes h => exact h.ledger hw
  | reserves h => exact h.ledger hw
  | publishes h => exact h.ledger hw
  | recovers h => exact h.ledger hw

/-! ### Nothing is taken back -/

theorem became_commitRows {id : OpaqueId} :
    ∀ r ∈ db.reservations, ∃ r' ∈ db.commitRows id,
      r' = r ∨ r.lifecycle = .reserved ∧ r' = { r with lifecycle := .committed } := by
  intro r hr
  refine ⟨_, Database.mem_commitRows_of hr, ?_⟩
  split_ifs with hhit
  · exact .inr ⟨hhit.2, rfl⟩
  · exact .inl rfl

theorem Change.extends (h : Change db db') : Extends db db' ∧ db'.revision = db.revision + 1 := by
  cases h with
  | initializes h =>
    obtain ⟨hnone, rfl⟩ := h
    refine ⟨⟨fun row hrow => ?_, fun r hr => ⟨r, List.mem_append_left _ hr, .inl rfl⟩, fun _ hs => hs,
      List.prefix_rfl⟩, ?_⟩
    · rw [hnone] at hrow
      cases hrow
    · rw [Database.revision, Database.revision, hnone]
  | finishes h =>
    obtain ⟨row, r, hcatalog, -, -, -, -, -, -, hnone, rfl⟩ := h
    refine ⟨⟨fun row' hrow' => ?_, became_commitRows, fun s hs => ?_, List.prefix_rfl⟩, ?_⟩
    · cases hcatalog.symm.trans hrow'
      exact ⟨_, rfl, rfl, rfl⟩
    · rw [hnone] at hs
      cases hs
    · rw [Database.revision, Database.revision, hcatalog]
  | reserves h =>
    obtain ⟨row, hcatalog, -, -, -, -, rfl⟩ := h
    refine ⟨⟨fun row' hrow' => ?_, fun r hr => ⟨r, List.mem_append_left _ hr, .inl rfl⟩,
      fun _ hs => hs, List.prefix_rfl⟩, ?_⟩
    · cases hcatalog.symm.trans hrow'
      exact ⟨_, rfl, rfl, rfl⟩
    · rw [Database.revision, Database.revision, hcatalog]
  | publishes h =>
    obtain ⟨row, r, hcatalog, -, -, -, -, -, -, -, -, -, rfl⟩ := h
    refine ⟨⟨fun row' hrow' => ?_, became_commitRows, fun _ hs => hs, List.prefix_append ..⟩, ?_⟩
    · cases hcatalog.symm.trans hrow'
      exact ⟨_, rfl, rfl, rfl⟩
    · rw [Database.revision, Database.revision, hcatalog]
  | recovers h =>
    obtain ⟨row, hcatalog, -, rfl⟩ := h
    refine ⟨⟨fun row' hrow' => ?_, fun r hr => ⟨r, hr, .inl rfl⟩, fun _ hs => hs,
      List.prefix_rfl⟩, ?_⟩
    · cases hcatalog.symm.trans hrow'
      exact ⟨_, rfl, rfl, rfl⟩
    · rw [Database.revision, Database.revision, hcatalog]

end Keep

/-! ### Runs -/

theorem run_wellFormed (is : List (Op × Commit)) {db : Database} (hw : WellFormed db) :
    WellFormed (run step db is) := by
  refine run_invariant (fun db i hw => ?_) is hw
  rcases step_change db i with h | h
  · rwa [h]
  · exact h.ledger hw

theorem step_extends (db : Database) (i : Op × Commit) : Extends db (step db i).2 := by
  rcases step_change db i with h | h
  · rw [h]
    exact .refl db
  · exact h.extends.1

theorem run_extends (is : List (Op × Commit)) (db : Database) : Extends db (run step db is) := by
  induction is generalizing db with
  | nil => exact .refl db
  | cons i is ih => exact (step_extends db i).trans (ih _)

/-- After any operations with any outcomes of their commits, the ledger stands; the next operation
leaves the tables alone or raises the revision by one; and nothing written before is taken back. -/
theorem ledger_kept (is : List (Op × Commit)) :
    WellFormed (run step {} is) ∧
      (∀ i, (step (run step {} is) i).2 = run step {} is ∨
        (step (run step {} is) i).2.revision = (run step {} is).revision + 1) ∧
      ∀ js ks, is = js ++ ks → Extends (run step {} js) (run step {} is) := by
  refine ⟨run_wellFormed is ⟨rfl, rfl, rfl⟩, fun i => ?_, fun js ks h => ?_⟩
  · exact (step_change _ i).imp_right fun h => h.extends.2
  · rw [h, run_append]
    exact run_extends ks _

end MyCogni.Keys
