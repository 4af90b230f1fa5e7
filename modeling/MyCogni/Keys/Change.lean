import MyCogni.Keys.Catalog

/-! What a committed unit of work changes in the key catalog, and under which guards. -/

namespace MyCogni.Keys
open Auth Command Transaction

/-! ### Rules for units of work -/

section Rules
variable {α : Type} {post : α → Work → Prop} {halt : Failure → Work → Prop}

@[simp] theorem wp_query (f : Database → Except Failure α) :
    wp (query f) post halt = fun w =>
      (∀ a, f w.staged = .ok a → post a w) ∧ ∀ e, f w.staged = .error e → halt e w := by
  funext w
  unfold wp query
  rcases f w.staged with e | a <;> simp

@[simp] theorem wp_execute {post : Unit → Work → Prop} (f : Database → Except Failure Database) :
    wp (execute f) post halt = fun w =>
      (∀ db, f w.staged = .ok db → post () { w with staged := db }) ∧
        ∀ e, f w.staged = .error e → halt e w := by
  funext w
  unfold wp execute
  rcases f w.staged with e | db <;> simp

@[simp] theorem wp_commitOrLatch {post : Unit → Work → Prop} :
    wp commitOrLatch post halt = fun w =>
      (w.commit = .lostBefore → halt .commitAmbiguous w) ∧
        (w.commit = .lostAfter → halt .commitAmbiguous { w with durable := w.staged }) ∧
          (w.commit ≠ .lostBefore → w.commit ≠ .lostAfter →
            post () { w with durable := w.staged }) := by
  funext w
  rcases w with ⟨durable, staged, commit⟩
  cases commit <;> simp [commitOrLatch]

end Rules

section Running
variable {α : Type} {w : Work}

theorem start_ok (h : w.commit ≠ .refused) : start w = (.ok (), w) := by
  unfold start
  rw [bind_ok (show Command.read w = (.ok w, w) from rfl), require_pos h]

theorem query_ok {f : Database → Except Failure α} {a : α} (h : f w.staged = .ok a) :
    query f w = (.ok a, w) := by
  unfold query
  rw [h]

theorem query_error {f : Database → Except Failure α} {e : Failure} (h : f w.staged = .error e) :
    query f w = (.error e, w) := by
  unfold query
  rw [h]

theorem execute_ok {f : Database → Except Failure Database} {db : Database}
    (h : f w.staged = .ok db) : execute f w = (.ok (), { w with staged := db }) := by
  unfold execute
  rw [h]

theorem commitOrLatch_known (h : w.commit = .known) :
    commitOrLatch w = (.ok (), { w with durable := w.staged }) := by
  unfold commitOrLatch
  rw [bind_ok (show Command.read w = (.ok w, w) from rfl), bind_ok (require_pos (by simp [h]) _ _)]
  simp only [bind, write]
  rw [require_pos (by simp [h])]

theorem commitOrLatch_lostAfter (h : w.commit = .lostAfter) :
    commitOrLatch w = (.error .commitAmbiguous, { w with durable := w.staged }) := by
  unfold commitOrLatch
  rw [bind_ok (show Command.read w = (.ok w, w) from rfl), bind_ok (require_pos (by simp [h]) _ _)]
  simp only [bind, write]
  rw [require_neg (by simp [h])]

end Running

/-! ### Statements -/

namespace Database
variable {db db' : Database}

/-- The reservations after one of them is committed. -/
def commitRows (db : Database) (id : OpaqueId) : List ReservationRow :=
  db.reservations.map fun r =>
    if r.reservationId = id ∧ r.lifecycle = .reserved then { r with lifecycle := .committed } else r

theorem insertReservation_ok {row : ReservationRow} (h : db.insertReservation row = .ok db') :
    row.Checked ∧ (∀ r ∈ db.reservations, ¬row.Collides r) ∧
      db' = { db with reservations := db.reservations ++ [row] } := by
  unfold insertReservation at h
  split_ifs at h with hrow
  cases h
  exact ⟨hrow.1, hrow.2.1, rfl⟩

theorem insertCatalog_ok {row : CatalogRow} (h : db.insertCatalog row = .ok db') :
    db' = { db with catalog := some row } := by
  unfold insertCatalog at h
  split_ifs at h
  cases h
  rfl

theorem insertSentinel_ok {row : SentinelRow} (h : db.insertSentinel row = .ok db') :
    db.sentinel = none ∧ db' = { db with sentinel := some row } := by
  unfold insertSentinel at h
  split_ifs at h with hrow
  cases h
  exact ⟨hrow.1, rfl⟩

theorem insertWrapped_ok {row : WrappedRow} (h : db.insertWrapped row = .ok db') :
    (∀ k ∈ db.wrapped, k.profile ≠ row.profile ∧ k.reservationId ≠ row.reservationId) ∧
      db' = { db with wrapped := db.wrapped ++ [row] } := by
  unfold insertWrapped at h
  split_ifs at h with hrow
  cases h
  exact ⟨hrow.1, rfl⟩

theorem commitReservation_ok {id : OpaqueId} (h : db.commitReservation id = .ok db') :
    db' = { db with reservations := db.commitRows id } := by
  unfold commitReservation at h
  dsimp only at h
  split_ifs at h
  cases h
  simp only [commitRows, decide_eq_true_eq]

theorem updateCatalog_ok {p : CatalogRow → Bool} {f : CatalogRow → CatalogRow}
    (h : db.updateCatalog p f = .ok db') :
    ∃ row, db.catalog = some row ∧ p row = true ∧ db' = { db with catalog := some (f row) } := by
  unfold updateCatalog at h
  split at h
  · cases h
  · next row hrow =>
    split_ifs at h with hp
    cases h
    exact ⟨row, hrow, hp, rfl⟩

theorem loadSnapshot_ok {s : KeyCatalogSnapshot} (h : db.loadSnapshot = .ok s) :
    ∃ row, db.catalog = some row ∧ s.identity = row.identity ∧ s.state = row.state ∧
      s.revision = row.revision := by
  unfold loadSnapshot at h
  split at h
  · cases h
  · next row hrow =>
    obtain ⟨sentinel, -, h⟩ := bind_eq_ok_iff.mp h
    obtain ⟨_, -, h⟩ := bind_eq_ok_iff.mp h
    obtain ⟨hidentity, hstate, hrevision, -⟩ := KeyCatalogSnapshot.make_ok h
    exact ⟨row, hrow, hidentity, hstate, hrevision⟩

end Database

/-! ### Changes -/

/-- The reservation of the sentinel, as `begin_initialization` writes it. -/
def sentinelReservation (identity : KeyCatalogIdentity) (nonce : Nonce) (id : OpaqueId) :
    ReservationRow where
  reservationId := id
  catalogId := identity.catalogId
  domain := identity.activeKek.domain
  nonce
  purpose := .sentinel
  lifecycle := .reserved
  usageSequence := 1
  profile := none

/-- The reservation of a profile key. -/
def profileReservation (row : CatalogRow) (preparation : ProfileKeyPreparation) (id : OpaqueId) :
    ReservationRow where
  reservationId := id
  catalogId := row.identity.catalogId
  domain := row.identity.activeKek.domain
  nonce := preparation.nonce
  purpose := .profile
  lifecycle := .reserved
  usageSequence := row.usageReserved + 1
  profile := some preparation.binding.profile

def wrappedRow (id : OpaqueId) (wrapped : WrappedProfileKey) : WrappedRow where
  profileId := wrapped.binding.profileId
  profileKeyVersion := wrapped.binding.profileKeyVersion
  catalogSchemaVersion := wrapped.binding.catalogSchemaVersion
  installationId := wrapped.binding.installationId
  reservationId := id
  envelope := wrapped.envelope

/-- The binding belongs to the installation and the schema of the catalog. -/
def KeyCatalogIdentity.Covers (identity : KeyCatalogIdentity) (binding : ProfileKeyBinding) :
    Prop :=
  binding.installationId = identity.installationId ∧
    binding.catalogSchemaVersion = identity.schemaVersion

def Initializes (db db' : Database) (identity : KeyCatalogIdentity) (nonce : Nonce)
    (commitment : SourceCommitment) (id : OpaqueId) : Prop :=
  db.catalog = none ∧
    db' = { db with
      catalog := some ⟨identity, 1, .preparing, 1, commitment⟩
      reservations := db.reservations ++ [sentinelReservation identity nonce id] }

def Finishes (db db' : Database) (id : OpaqueId) (sentinel : WrappedReadinessSentinel) : Prop :=
  ∃ row r, db.catalog = some row ∧ row.state = .preparing ∧ row.identity.Owns sentinel ∧
    db.reservation id = some r ∧ r.purpose = .sentinel ∧ r.lifecycle = .reserved ∧
      r.nonce = sentinel.nonce ∧ db.sentinel = none ∧
        db' = { db with
          catalog := some { row with state := .active, revision := row.revision + 1 }
          reservations := db.commitRows id
          sentinel := some ⟨row.identity.catalogId, row.identity.sentinelId, id,
            sentinel.envelope⟩ }

def Reserves (db db' : Database) (preparation : ProfileKeyPreparation) (id : OpaqueId) : Prop :=
  ∃ row, db.catalog = some row ∧ row.state = .active ∧ row.identity.Covers preparation.binding ∧
    row.usageReserved < row.identity.usageLimit ∧
      (∀ r ∈ db.reservations, ¬(profileReservation row preparation id).Collides r) ∧
        db' = { db with
          catalog := some { row with
            usageReserved := row.usageReserved + 1
            revision := row.revision + 1 }
          reservations := db.reservations ++ [profileReservation row preparation id] }

def Publishes (db db' : Database) (id : OpaqueId) (wrapped : WrappedProfileKey) : Prop :=
  ∃ row r, db.catalog = some row ∧ row.state = .active ∧ row.identity.Covers wrapped.binding ∧
    wrapped.kekRef = row.identity.activeKek ∧ db.reservation id = some r ∧
      r.purpose = .profile ∧ r.lifecycle = .reserved ∧ r.nonce = wrapped.nonce ∧
        r.profile = some wrapped.binding.profile ∧
          (∀ k ∈ db.wrapped, k.profile ≠ wrapped.binding.profile ∧ k.reservationId ≠ id) ∧
            db' = { db with
              catalog := some { row with revision := row.revision + 1 }
              reservations := db.commitRows id
              wrapped := db.wrapped ++ [wrappedRow id wrapped] }

def Recovers (db db' : Database) : Prop :=
  ∃ row, db.catalog = some row ∧ row.state ≠ .recoveryRequired ∧
    db' = { db with
      catalog := some { row with state := .recoveryRequired, revision := row.revision + 1 } }

/-- What a unit of work can have done once it is durable. -/
inductive Change (db db' : Database) : Prop
  | initializes {identity : KeyCatalogIdentity} {nonce : Nonce} {commitment : SourceCommitment}
      {id : OpaqueId} (h : Initializes db db' identity nonce commitment id)
  | finishes {id : OpaqueId} {sentinel : WrappedReadinessSentinel} (h : Finishes db db' id sentinel)
  | reserves {preparation : ProfileKeyPreparation} {id : OpaqueId}
      (h : Reserves db db' preparation id)
  | publishes {id : OpaqueId} {wrapped : WrappedProfileKey} (h : Publishes db db' id wrapped)
  | recovers (h : Recovers db db')

/-! ### Effects -/

/-- A unit of work that returns has done `c`. One that raises has done nothing, unless it was
written and its outcome was lost. -/
def Effect {α : Type} (t : Transaction α) (c : α → Database → Database → Prop) : Prop :=
  ∀ db commit, wp t (fun a w => c a db w.durable)
    (fun e w => w.durable = db ∨
      commit = .lostAfter ∧ e = .commitAmbiguous ∧ ∃ a, c a db w.durable) ⟨db, db, commit⟩

/-- What the ends of a unit of work have to allow. -/
structure Ends {α : Type} (c : α → Database → Database → Prop) (db : Database) (commit : Commit)
    (post : α → Work → Prop) (halt : Failure → Work → Prop) : Prop where
  same (e : Failure) {w : Work} : w.durable = db → halt e w
  lost (a : α) {w : Work} : commit = .lostAfter → c a db w.durable → halt .commitAmbiguous w
  done {a : α} {w : Work} : c a db w.durable → post a w

theorem effect_of {α : Type} {t : Transaction α} {c : α → Database → Database → Prop}
    (h : ∀ db commit post halt, Ends c db commit post halt → wp t post halt ⟨db, db, commit⟩) :
    Effect t c := by
  intro db commit
  refine h db commit _ _ ⟨fun _ _ hw => .inl hw, fun a _ hcommit hc => ?_, fun hc => hc⟩
  exact .inr ⟨hcommit, rfl, a, hc⟩

/-- The commit at the end of a unit of work that has staged its change. -/
theorem Ends.commit {α : Type} {c : α → Database → Database → Prop} {db staged : Database}
    {commit : Commit} {post : α → Work → Prop} {halt : Failure → Work → Prop}
    (ends : Ends c db commit post halt) {a : α} (h : c a db staged) :
    wp commitOrLatch (fun _ => post a) halt ⟨db, staged, commit⟩ := by
  rw [wp_commitOrLatch]
  exact ⟨fun _ => ends.same _ rfl, fun hafter => ends.lost a hafter h, fun _ _ => ends.done h⟩

theorem beginInitialization_effect (identity : KeyCatalogIdentity) (nonce : Nonce)
    (commitment : SourceCommitment) (id : OpaqueId) :
    Effect (beginInitialization identity nonce commitment id)
      fun a db db' => a = id ∧ Initializes db db' identity nonce commitment id := by
  refine effect_of fun db commit post halt ends => ?_
  unfold beginInitialization start
  simp only [wp_bind, wp_read, wp_require, wp_execute, wp_pure]
  refine ⟨fun _ => ⟨fun hnone => ?_, fun _ => ends.same _ rfl⟩, fun _ => ends.same _ rfl⟩
  refine ⟨fun db₁ h₁ => ⟨fun db₂ h₂ => ?_, fun e _ => ends.same e rfl⟩, fun e _ => ends.same e rfl⟩
  have hdb₁ := Database.insertCatalog_ok h₁
  obtain ⟨-, -, hdb₂⟩ := Database.insertReservation_ok h₂
  subst hdb₁ hdb₂
  exact ends.commit ⟨rfl, hnone, rfl⟩

theorem finishInitialization_effect (id : OpaqueId) (sentinel : WrappedReadinessSentinel) :
    Effect (finishInitialization id sentinel) fun _ db db' => Finishes db db' id sentinel := by
  refine effect_of fun db commit post halt ends => ?_
  unfold finishInitialization stageInitializationFinish start
  simp only [wp_bind, wp_read, wp_require, wp_execute, wp_query, wp_demand]
  refine ⟨fun _ => ⟨fun snapshot hsnapshot => ?_, fun e _ => ends.same e rfl⟩,
    fun _ => ends.same _ rfl⟩
  refine ⟨fun howns => ⟨fun r hr => ⟨fun hrow => ?_, fun _ => ends.same _ rfl⟩,
    fun _ => ends.same _ rfl⟩, fun _ => ends.same _ rfl⟩
  refine ⟨fun db₁ h₁ => ⟨fun db₂ h₂ => ⟨fun db₃ h₃ => ?_, fun e _ => ends.same e rfl⟩,
    fun e _ => ends.same e rfl⟩, fun e _ => ends.same e rfl⟩
  obtain ⟨row, hcatalog, hidentity, hstate, -⟩ := Database.loadSnapshot_ok hsnapshot
  obtain ⟨hnone, hdb₁⟩ := Database.insertSentinel_ok h₁
  have hdb₂ := Database.commitReservation_ok h₂
  obtain ⟨row', hrow', -, hdb₃⟩ := Database.updateCatalog_ok h₃
  subst hdb₁ hdb₂ hdb₃
  cases hcatalog.symm.trans hrow'
  rw [hidentity] at howns
  refine ends.commit (a := ()) ⟨row, r, hcatalog, hstate ▸ howns.1, howns.2, hr, hrow.1, hrow.2.1, hrow.2.2,
    hnone, ?_⟩
  rw [hidentity]
  rfl

theorem reserveProfilePreparation_effect (preparation : ProfileKeyPreparation) (id : OpaqueId) :
    Effect (reserveProfilePreparation preparation id)
      fun a db db' => a = id ∧ Reserves db db' preparation id := by
  refine effect_of fun db commit post halt ends => ?_
  unfold reserveProfilePreparation assertActiveBinding start
  simp only [wp_bind, wp_read, wp_require, wp_execute, wp_query, wp_demand, wp_pure]
  refine ⟨fun _ => ⟨fun snapshot hsnapshot => ?_, fun e _ => ends.same e rfl⟩,
    fun _ => ends.same _ rfl⟩
  refine ⟨fun hactive => ⟨fun hcovers => ⟨fun _ => ⟨fun _ => ?_, fun _ => ends.same _ rfl⟩,
    fun _ => ends.same _ rfl⟩, fun _ => ends.same _ rfl⟩, fun _ => ends.same _ rfl⟩
  refine ⟨fun row hcatalog => ⟨fun hlimit => ?_, fun _ => ends.same _ rfl⟩,
    fun _ => ends.same _ rfl⟩
  refine ⟨fun db₁ h₁ => ⟨fun db₂ h₂ => ?_, fun e _ => ends.same e rfl⟩, fun e _ => ends.same e rfl⟩
  obtain ⟨row', hrow', hidentity, hstate, -⟩ := Database.loadSnapshot_ok hsnapshot
  cases hcatalog.symm.trans hrow'
  rw [hidentity] at hcovers hlimit h₁
  obtain ⟨-, hfree, hdb₁⟩ := Database.insertReservation_ok h₁
  obtain ⟨row', hrow', -, hdb₂⟩ := Database.updateCatalog_ok h₂
  subst hdb₁ hdb₂
  cases hcatalog.symm.trans hrow'
  exact ends.commit ⟨rfl, row, hcatalog, hstate ▸ hactive, hcovers, hlimit, hfree, rfl⟩

theorem publishProfileKey_effect (id : OpaqueId) (preparation : ProfileKeyPreparation)
    (wrapped : WrappedProfileKey) :
    Effect (publishProfileKey id preparation wrapped)
      fun _ db db' => Publishes db db' id wrapped := by
  refine effect_of fun db commit post halt ends => ?_
  unfold publishProfileKey assertActiveBinding start
  simp only [wp_bind, wp_read, wp_require, wp_execute, wp_query, wp_demand]
  refine ⟨fun hsame => ⟨fun _ => ⟨fun snapshot hsnapshot => ?_, fun e _ => ends.same e rfl⟩,
    fun _ => ends.same _ rfl⟩, fun _ => ends.same _ rfl⟩
  refine ⟨fun hactive => ⟨fun hcovers => ⟨fun hkek => ?_, fun _ => ends.same _ rfl⟩,
    fun _ => ends.same _ rfl⟩, fun _ => ends.same _ rfl⟩
  refine ⟨fun r hr => ⟨fun hmatches => ⟨fun _ => ?_, fun _ => ends.same _ rfl⟩,
    fun _ => ends.same _ rfl⟩, fun _ => ends.same _ rfl⟩
  refine ⟨fun db₁ h₁ => ⟨fun db₂ h₂ => ⟨fun db₃ h₃ => ?_, fun e _ => ends.same e rfl⟩,
    fun e _ => ends.same e rfl⟩, fun e _ => ends.same e rfl⟩
  obtain ⟨row, hcatalog, hidentity, hstate, -⟩ := Database.loadSnapshot_ok hsnapshot
  obtain ⟨-, -, hnonce, hpurpose, hlifecycle, hprofile⟩ := hmatches
  obtain ⟨hfree, hdb₁⟩ := Database.insertWrapped_ok h₁
  have hdb₂ := Database.commitReservation_ok h₂
  obtain ⟨row', hrow', -, hdb₃⟩ := Database.updateCatalog_ok h₃
  subst hdb₁ hdb₂ hdb₃
  cases hcatalog.symm.trans hrow'
  rw [hidentity] at hcovers hkek
  rw [← hsame.1] at hprofile
  exact ends.commit (a := ()) ⟨row, r, hcatalog, hstate ▸ hactive, hcovers, hkek, hr, hpurpose,
    hlifecycle, hnonce.trans hsame.2.symm, hprofile, hfree, rfl⟩

theorem requireRecovery_effect :
    Effect requireRecovery fun _ db db' =>
      (db' = db ∧ ∃ row, db.catalog = some row ∧ row.state = .recoveryRequired) ∨
        Recovers db db' := by
  refine effect_of fun db commit post halt ends => ?_
  unfold requireRecovery start
  simp only [wp_bind, wp_read, wp_require, wp_execute, wp_query, wp_ite, wp_pure]
  refine ⟨fun _ => ⟨fun snapshot hsnapshot => ?_, fun e _ => ends.same e rfl⟩,
    fun _ => ends.same _ rfl⟩
  obtain ⟨row, hcatalog, hidentity, hstate, -⟩ := Database.loadSnapshot_ok hsnapshot
  refine ⟨fun h => ends.done (.inl ⟨rfl, row, hcatalog, hstate ▸ h⟩), fun hne => ?_⟩
  refine ⟨fun db₁ h₁ => ?_, fun e _ => ends.same e rfl⟩
  obtain ⟨row', hrow', -, hdb₁⟩ := Database.updateCatalog_ok h₁
  subst hdb₁
  cases hcatalog.symm.trans hrow'
  exact ends.commit (a := ()) (.inr ⟨row, hcatalog, hstate ▸ hne, rfl⟩)

def SameDurable (w w' : Work) : Prop := w'.durable = w.durable

theorem SameDurable.refl (w : Work) : SameDurable w w := rfl

/-- A unit of work that only reads. -/
def Reads {α : Type} (t : Transaction α) : Prop := Respects SameDurable t

theorem Reads.bind {α β : Type} {t : Transaction α} {f : α → Transaction β} (ht : Reads t)
    (hf : ∀ a, Reads (f a)) : Reads (t >>= f) :=
  Respects.bind (fun _ _ _ h h' => h'.trans h) ht hf

theorem reads_query {α : Type} (f : Database → Except Failure α) : Reads (query f) := by
  intro w
  unfold query
  rcases f w.staged with e | a <;> rfl

theorem reads_start : Reads start :=
  .bind (respects_read SameDurable.refl) fun _ => respects_require SameDurable.refl _ _

theorem loadCatalog_reads : Reads loadCatalog := reads_start.bind fun _ => reads_query _

theorem assertActiveBinding_reads (snapshot : KeyCatalogSnapshot) (binding : ProfileKeyBinding) :
    Reads (assertActiveBinding snapshot binding) :=
  .bind (respects_require SameDurable.refl _ _) fun _ => respects_require SameDurable.refl _ _

theorem loadProfileKey_reads (binding : ProfileKeyBinding) : Reads (loadProfileKey binding) :=
  reads_start.bind fun _ => (reads_query _).bind fun _ =>
    (assertActiveBinding_reads _ _).bind fun _ => reads_query _

theorem reconcileProfileKey_reads (binding : ProfileKeyBinding) :
    Reads (reconcileProfileKey binding) :=
  reads_start.bind fun _ => (reads_query _).bind fun _ =>
    .bind (respects_require SameDurable.refl _ _) fun _ => reads_query _

theorem loadInitializationRecord_reads : Reads loadInitializationRecord := by
  refine reads_start.bind fun _ => (reads_query _).bind fun _ =>
    .bind (respects_require SameDurable.refl _ _) fun _ => .bind (respects_read SameDurable.refl) fun w => ?_
  split
  · exact .bind (respects_demand SameDurable.refl _ _) fun _ => respects_pure SameDurable.refl _
  · exact respects_stop SameDurable.refl _

/-! ### Steps -/

/-- What a call leaves on the disk does not depend on how its value is packed. -/
theorem transact_map {α β : Type} (commit : Commit) (t : Transaction α) (f : α → β) (db : Database) :
    (transact commit (do pure (f (← t))) db).2 = (transact commit t db).2 := by
  unfold transact
  simp only [bind, pure]
  rcases t ⟨db, db, commit⟩ with ⟨e | a, w⟩ <;> rfl

theorem Reads.transact {α : Type} {t : Transaction α} (ht : Reads t) (commit : Commit)
    (db : Database) : (transact commit t db).2 = db := ht ⟨db, db, commit⟩

theorem Effect.transact {α : Type} {t : Transaction α} {c : α → Database → Database → Prop}
    (ht : Effect t c) (commit : Commit) (db : Database) :
    (transact commit t db).2 = db ∨ ∃ a, c a db (transact commit t db).2 := by
  obtain ⟨hok, herror⟩ := wp_iff.mp (ht db commit)
  unfold Keys.transact
  rcases h : t ⟨db, db, commit⟩ with ⟨e | a, w⟩
  · rw [h] at herror
    exact (herror e rfl).imp_right fun h => h.2.2
  · rw [h] at hok
    exact .inr ⟨a, hok a rfl⟩

/-- The change that an operation makes when it is durable. -/
def Op.Does : Op → Database → Database → Prop
  | beginInitialization identity nonce commitment id, db, db' =>
    Initializes db db' identity nonce commitment id
  | finishInitialization id sentinel, db, db' => Finishes db db' id sentinel
  | finishInitializationForReconciliation id sentinel, db, db' => Finishes db db' id sentinel
  | reserveProfilePreparation preparation id, db, db' => Reserves db db' preparation id
  | publishProfileKey id _ wrapped, db, db' => Publishes db db' id wrapped
  | requireRecovery, db, db' => Recovers db db'
  | _, _, _ => False

theorem Op.Does.change {op : Op} {db db' : Database} (h : op.Does db db') : Change db db' := by
  cases op with
  | beginInitialization => exact .initializes h
  | finishInitialization => exact .finishes h
  | finishInitializationForReconciliation => exact .finishes h
  | reserveProfilePreparation => exact .reserves h
  | publishProfileKey => exact .publishes h
  | requireRecovery => exact .recovers h
  | _ => exact h.elim

theorem step_does (db : Database) (op : Op) (commit : Commit) :
    (step db (op, commit)).2 = db ∨ op.Does db (step db (op, commit)).2 := by
  change (transact commit op.transaction db).2 = db ∨
    op.Does db (transact commit op.transaction db).2
  cases op with
  | beginInitialization identity nonce commitment id =>
    rw [Op.transaction, transact_map]
    exact ((beginInitialization_effect _ _ _ _).transact commit db).imp_right
      fun ⟨_, _, h⟩ => h
  | finishInitialization id sentinel =>
    have h := (finishInitialization_effect id sentinel).transact commit db
    rw [Op.transaction, transact_map commit _ fun _ => Answer.done]
    exact h.imp_right fun ⟨_, h⟩ => h
  | finishInitializationForReconciliation id sentinel =>
    have h := (finishInitialization_effect id sentinel).transact commit db
    rw [Op.transaction, transact_map commit _ fun _ => Answer.done]
    exact h.imp_right fun ⟨_, h⟩ => h
  | reserveProfilePreparation preparation id =>
    rw [Op.transaction, transact_map]
    exact ((reserveProfilePreparation_effect _ _).transact commit db).imp_right
      fun ⟨_, _, h⟩ => h
  | publishProfileKey id preparation wrapped =>
    have h := (publishProfileKey_effect id preparation wrapped).transact commit db
    rw [Op.transaction, transact_map commit _ fun _ => Answer.done]
    exact h.imp_right fun ⟨_, h⟩ => h
  | requireRecovery =>
    have h := requireRecovery_effect.transact commit db
    rw [Op.transaction, transact_map commit _ fun _ => Answer.done]
    rcases h with h | ⟨_, ⟨h, -⟩ | h⟩
    · exact .inl h
    · exact .inl h
    · exact .inr h
  | loadCatalog =>
    rw [Op.transaction, transact_map]
    exact .inl (loadCatalog_reads.transact commit db)
  | loadCatalogForReconciliation =>
    rw [Op.transaction, transact_map]
    exact .inl (loadCatalog_reads.transact commit db)
  | loadInitialization =>
    rw [Op.transaction, transact_map]
    exact .inl (loadInitializationRecord_reads.transact commit db)
  | loadInitializationForReconciliation =>
    rw [Op.transaction, transact_map]
    exact .inl (loadInitializationRecord_reads.transact commit db)
  | loadProfileKey binding =>
    rw [Op.transaction, transact_map]
    exact .inl ((loadProfileKey_reads binding).transact commit db)
  | reconcileProfileKey binding =>
    rw [Op.transaction, transact_map]
    exact .inl ((reconcileProfileKey_reads binding).transact commit db)

/-- Every operation leaves the tables as they are or makes one of the changes. -/
theorem step_change (db : Database) (i : Op × Commit) :
    (step db i).2 = db ∨ Change db (step db i).2 :=
  (step_does db i.1 i.2).imp_right Op.Does.change

/-- A latch whose commit does not reach the disk changes nothing. -/
theorem requireRecovery_lost {commit : Commit} (h : commit = .lostBefore ∨ commit = .refused)
    (db : Database) : (step db (.requireRecovery, commit)).2 = db := by
  have hwp : wp requireRecovery (fun _ w => w.durable = db) (fun _ w => w.durable = db)
      ⟨db, db, commit⟩ := by
    unfold requireRecovery start
    simp only [wp_bind, wp_read, wp_require, wp_execute, wp_query, wp_ite, wp_pure,
      wp_commitOrLatch]
    refine ⟨fun hne => ⟨fun _ _ => ⟨fun _ => trivial, fun _ => ⟨fun db' _ => ?_, fun _ _ => trivial⟩⟩,
      fun _ _ => trivial⟩, fun _ => trivial⟩
    rcases h with rfl | rfl
    · exact ⟨fun _ => trivial, nofun, fun h => absurd rfl h⟩
    · exact absurd rfl hne
  change (transact commit Op.requireRecovery.transaction db).2 = db
  rw [Op.transaction, transact_map commit _ fun _ => Answer.done]
  obtain ⟨hok, herror⟩ := wp_iff.mp hwp
  unfold transact
  rcases hrun : requireRecovery ⟨db, db, commit⟩ with ⟨e | a, w⟩
  · rw [hrun] at herror
    exact herror e rfl
  · rw [hrun] at hok
    exact hok a rfl

end MyCogni.Keys
