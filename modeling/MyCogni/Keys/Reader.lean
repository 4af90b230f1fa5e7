import MyCogni.Keys.Ledger

/-! Which durable states the strict reader of the key catalog accepts. -/

namespace MyCogni.Keys
open Auth

/-! ### A ledger passes its validation -/

namespace Ledger
variable {db : Database} {row : CatalogRow}

/-- The first reservation, and the ones after it. -/
theorem first (hw : Ledger db row) : ∃ r rest, db.reservations = r :: rest ∧
    r.purpose = .sentinel ∧ r.usageSequence = 1 ∧ ∀ r' ∈ rest, r'.purpose = .profile := by
  obtain ⟨n, hpurposes⟩ := hw.purposes
  have hsequences := hw.sequences
  rw [← hw.length_eq] at hsequences
  rcases hrows : db.reservations with _ | ⟨r, rest⟩
  · rw [hrows] at hpurposes
    cases hpurposes
  · rw [hrows, List.map_cons] at hpurposes hsequences
    rw [List.length_cons, List.range'_succ] at hsequences
    obtain ⟨hpurpose, hrest⟩ := List.cons.inj hpurposes
    refine ⟨r, rest, rfl, hpurpose, (List.cons.inj hsequences).1, fun r' hr' => ?_⟩
    have hmem : r'.purpose ∈ rest.map ReservationRow.purpose := List.mem_map_of_mem hr'
    rw [hrest] at hmem
    exact List.eq_of_mem_replicate hmem

theorem usageReserved_pos (hw : Ledger db row) : 1 ≤ row.usageReserved := by
  obtain ⟨r, rest, hrows, -⟩ := hw.first
  rw [← hw.length_eq, hrows, List.length_cons]
  omega

theorem min_range (n : Nat) : (List.range' 1 (n + 1)).min? = some 1 := by
  rw [List.min?_eq_some_iff]
  refine ⟨List.mem_range'_1.mpr (by omega), fun b hb => ?_⟩
  rw [List.mem_range'_1] at hb
  omega

theorem max_range (n : Nat) : (List.range' 1 (n + 1)).max? = some (n + 1) := by
  rw [List.max?_eq_some_iff]
  refine ⟨List.mem_range'_1.mpr (by omega), fun b hb => ?_⟩
  rw [List.mem_range'_1] at hb
  omega

/-- Only the first reservation is the sentinel's. -/
theorem countP_first (hw : Ledger db row) (p : ReservationRow → Bool)
    (hsentinel : ∀ r : ReservationRow, r.purpose = .sentinel → r.usageSequence = 1 → p r = true)
    (hprofile : ∀ r : ReservationRow, r.purpose = .profile → p r = false) :
    db.reservations.countP p = 1 := by
  obtain ⟨r, rest, hrows, hpurpose, hsequence, hrest⟩ := hw.first
  have hnone : rest.countP p = 0 := by
    rw [List.countP_eq_zero]
    intro r' hr'
    rw [hprofile r' (hrest r' hr')]
    exact Bool.false_ne_true
  rw [hrows, List.countP_cons, hnone, hsentinel r hpurpose hsequence, if_pos rfl]

theorem countP_later (hw : Ledger db row) :
    db.reservations.countP (fun r => 1 < r.usageSequence ∧ r.purpose ≠ .profile) = 0 := by
  obtain ⟨r, rest, hrows, -, hsequence, hrest⟩ := hw.first
  rw [List.countP_eq_zero]
  intro r' hr'
  rw [decide_eq_true_eq]
  rintro ⟨hlater, hpurpose⟩
  rw [hrows] at hr'
  rcases List.mem_cons.mp hr' with rfl | hr'
  · omega
  · exact hpurpose (hrest r' hr')

/-- The reservation of a profile names it. -/
theorem purpose_of_profile (hw : Ledger db row) {r : ReservationRow} (hr : r ∈ db.reservations)
    {p : OpaqueId × Nat} (hp : r.profile = some p) : r.purpose = .profile := by
  rcases (hw.checked r hr).2 with ⟨-, hnone⟩ | ⟨hpurpose, -⟩
  · rw [hp] at hnone
    cases hnone
  · exact hpurpose

theorem wrapped_valid (hw : Ledger db row) :
    ∀ k ∈ db.wrapped, ∃ n ∈ db.reservation k.reservationId,
      ¬Database.InvalidWrapped row.identity k n := by
  intro k hk
  obtain ⟨hinstallation, hschema, r, hr, hid, hcommitted, hprofile⟩ := hw.bound k hk
  refine ⟨r, ?_, ?_⟩
  · rw [← hid]
    exact Database.reservation_of_mem hw.ids hr
  · rintro (h | h | ⟨p, hp, h⟩ | h | h | h)
    · exact h (hw.purpose_of_profile hr hprofile)
    · exact h hcommitted
    · rw [hprofile] at hp
      cases hp
      exact h rfl
    · exact hw.own r hr h
    · exact h hinstallation
    · exact h hschema

theorem not_orphan (hw : Ledger db row) : ∀ n ∈ db.reservations, ¬db.Orphan n := by
  rintro n hn ⟨hpurpose, hcommitted, hnone⟩
  exact hnone (hw.published n hn hpurpose hcommitted)

theorem validateLedger (hw : Ledger db row) :
    db.validateLedger row.identity row.usageReserved = .ok () := by
  obtain ⟨n, hn⟩ : ∃ n, row.usageReserved = n + 1 :=
    ⟨row.usageReserved - 1, by have := hw.usageReserved_pos; omega⟩
  have hsequences := hw.sequences
  rw [hn] at hsequences
  have hforeign : db.reservations.countP (fun r => Database.Foreign row.identity r) = 0 := by
    rw [List.countP_eq_zero]
    intro r hr
    rw [decide_eq_true_eq]
    exact hw.own r hr
  unfold Database.validateLedger
  dsimp only
  rw [hsequences, hn, ensure_bind (hw.length_eq.trans hn), ensure_bind (by simp),
    ensure_bind (min_range n), ensure_bind (max_range n), ensure_bind, ensure_bind, ensure_bind,
    ensure_bind hforeign, ensure_bind hw.wrapped_valid, ensure_ok hw.not_orphan]
  · exact hw.countP_later
  · exact hw.countP_first _ (fun r h h' => by simp [h, h']) fun r h => by simp [h]
  · exact hw.countP_first _ (fun r h _ => by simp [h]) fun r h => by simp [h]

theorem readSentinel (hw : Ledger db row) : ∃ sentinel, db.readSentinel row = .ok sentinel ∧
    (sentinel = none ↔ db.sentinel = none) ∧ ∀ s, sentinel = some s → row.identity.Owns s := by
  unfold Database.readSentinel
  cases hs : db.sentinel with
  | none => exact ⟨none, rfl, ⟨fun _ => rfl, fun _ => rfl⟩, (fun _ h => by cases h)⟩
  | some s =>
    obtain ⟨hid, r, hr, hreservation, hpurpose, hcommitted⟩ := hw.sentinel s hs
    have hfind : db.reservation s.reservationId = some r := by
      rw [← hreservation]
      exact Database.reservation_of_mem hw.ids hr
    dsimp only
    rw [hfind]
    dsimp only
    rw [if_neg (not_or.mpr ⟨not_not.mpr hcommitted, not_not.mpr hpurpose⟩)]
    refine ⟨_, rfl, ⟨(fun h => by cases h), (fun h => by cases h)⟩, ?_⟩
    rintro _ ⟨⟩
    exact ⟨rfl, rfl, rfl, hid⟩

/-- A ledger is read, unless it asks for recovery and has no sentinel. -/
theorem loadSnapshot (hw : Ledger db row) (hcatalog : db.catalog = some row)
    (hreadable : row.state = .recoveryRequired → db.sentinel ≠ none) :
    ∃ s, db.loadSnapshot = .ok s ∧ s.identity = row.identity ∧ s.state = row.state ∧
      s.revision = row.revision := by
  obtain ⟨sentinel, hread, hnone, howns⟩ := hw.readSentinel
  have hstate : row.state = .preparing ↔ sentinel = none := by
    rw [hnone]
    refine ⟨hw.unfinished, fun hsentinel => ?_⟩
    cases hrow : row.state with
    | preparing => rfl
    | active => exact (hw.finished hrow hsentinel).elim
    | recoveryRequired => exact (hreadable hrow hsentinel).elim
  obtain ⟨s, hs⟩ := KeyCatalogSnapshot.make_of_valid hw.revision_pos hstate howns
  obtain ⟨hidentity, hsstate, hrevision, -⟩ := KeyCatalogSnapshot.make_ok hs
  refine ⟨s, ?_, hidentity, hsstate, hrevision⟩
  unfold Database.loadSnapshot
  rw [hcatalog]
  dsimp only
  rw [hread, ok_bind, hw.validateLedger, ok_bind, hs]

/-- One that asks for recovery without a sentinel is not. -/
theorem loadSnapshot_unreadable (hw : Ledger db row) (hcatalog : db.catalog = some row)
    (hstate : row.state = .recoveryRequired) (hsentinel : db.sentinel = none) :
    db.loadSnapshot = .error .typeError := by
  have hread : db.readSentinel row = .ok none := by
    unfold Database.readSentinel
    rw [hsentinel]
  unfold Database.loadSnapshot
  rw [hcatalog]
  dsimp only
  rw [hread, ok_bind, hw.validateLedger, ok_bind, KeyCatalogSnapshot.make, dif_pos hw.revision_pos]
  dsimp only
  rw [dif_neg (by rw [hstate]; exact nofun)]

end Ledger

/-! ### Loads -/

theorem transact_loadCatalog (db : Database) :
    transact .known loadCatalog db = (db.loadSnapshot, db) := by
  have hstart : Transaction.start ⟨db, db, .known⟩ = (.ok (), ⟨db, db, .known⟩) := start_ok nofun
  unfold transact loadCatalog
  rw [Command.bind_ok hstart]
  unfold Transaction.query
  rcases db.loadSnapshot with e | s <;> rfl

theorem loadCatalog_known {db : Database} {r : Except Failure KeyCatalogSnapshot}
    (h : db.loadSnapshot = r) :
    (step db (.loadCatalog, .known)).1 = (r.map Answer.snapshot).mapError latchLoad ∧
      (step db (.loadCatalogForReconciliation, .known)).1 =
        (r.map Answer.snapshot).mapError redactReader := by
  have hrun := transact_loadCatalog db
  rw [h] at hrun
  simp only [step, Op.perform, transact, Op.transaction, bind, pure] at hrun ⊢
  generalize loadCatalog ⟨db, db, .known⟩ = p at hrun ⊢
  obtain ⟨q, w⟩ := p
  obtain rfl : q = r := (Prod.mk.inj hrun).1
  rcases q with e | s <;> exact ⟨rfl, rfl⟩

/-- Both loads return a snapshot of the catalog. -/
def Accepted (db : Database) (row : CatalogRow) : Prop :=
  ∃ s : KeyCatalogSnapshot, s.identity = row.identity ∧ s.state = row.state ∧
    s.revision = row.revision ∧ (step db (.loadCatalog, .known)).1 = .ok (.snapshot s) ∧
      (step db (.loadCatalogForReconciliation, .known)).1 = .ok (.snapshot s)

theorem accepted_iff {db : Database} {row : CatalogRow} (hw : Ledger db row)
    (hcatalog : db.catalog = some row) :
    Accepted db row ↔ (row.state = .recoveryRequired → db.sentinel ≠ none) := by
  constructor
  · rintro ⟨s, -, -, -, hload, -⟩ hstate hsentinel
    rw [(loadCatalog_known (hw.loadSnapshot_unreadable hcatalog hstate hsentinel)).1] at hload
    cases hload
  · intro hreadable
    obtain ⟨s, hs, hidentity, hstate, hrevision⟩ := hw.loadSnapshot hcatalog hreadable
    exact ⟨s, hidentity, hstate, hrevision, loadCatalog_known hs⟩

/-! ### States -/

def Database.state (db : Database) : Option KeyCatalogState := db.catalog.map CatalogRow.state

/-- The moves of the state. -/
inductive Moves : Option KeyCatalogState → Option KeyCatalogState → Prop
  | stays (s : Option KeyCatalogState) : Moves s s
  | begins : Moves none (some .preparing)
  | finishes : Moves (some .preparing) (some .active)
  | abandons : Moves (some .preparing) (some .recoveryRequired)
  | latches : Moves (some .active) (some .recoveryRequired)

theorem Change.moves {db db' : Database} (h : Change db db') : Moves db.state db'.state := by
  cases h with
  | initializes h =>
    obtain ⟨hnone, rfl⟩ := h
    rw [Database.state, hnone]
    exact .begins
  | finishes h =>
    obtain ⟨row, r, hcatalog, hstate, -, -, -, -, -, -, rfl⟩ := h
    rw [Database.state, hcatalog, Option.map_some, hstate]
    exact .finishes
  | reserves h =>
    obtain ⟨row, hcatalog, -, -, -, -, rfl⟩ := h
    rw [Database.state, hcatalog]
    exact .stays _
  | publishes h =>
    obtain ⟨row, r, hcatalog, -, -, -, -, -, -, -, -, -, rfl⟩ := h
    rw [Database.state, hcatalog]
    exact .stays _
  | recovers h =>
    obtain ⟨row, hcatalog, hstate, rfl⟩ := h
    rw [Database.state, hcatalog, Option.map_some]
    cases hrow : row.state with
    | preparing => exact .abandons
    | active => exact .latches
    | recoveryRequired => exact (hstate hrow).elim

theorem step_moves (db : Database) (i : Op × Commit) : Moves db.state (step db i).2.state := by
  rcases step_change db i with h | h
  · rw [h]
    exact .stays _
  · exact h.moves

/-! ### Runs -/

/-- The recovery latch of a catalog that is still preparing reaches the disk. -/
def LatchesPreparing (db : Database) (i : Op × Commit) : Prop :=
  i.1 = .requireRecovery ∧ (i.2 = .known ∨ i.2 = .lostAfter) ∧ db.state = some .preparing

/-- A catalog that asks for recovery has its sentinel. -/
def Readable (db : Database) : Prop :=
  db.state = some .recoveryRequired → db.sentinel ≠ none

theorem step_readable (db : Database) (i : Op × Commit) (hw : WellFormed db) (hr : Readable db) :
    Readable (step db i).2 ∨ LatchesPreparing db i := by
  obtain ⟨op, commit⟩ := i
  rcases step_does db op commit with h | h
  · rw [h]
    exact .inl hr
  generalize hdb : (step db (op, commit)).2 = db' at h ⊢
  cases op with
  | beginInitialization =>
    obtain ⟨-, rfl⟩ := h
    exact .inl nofun
  | finishInitialization =>
    obtain ⟨row, r, -, -, -, -, -, -, -, -, rfl⟩ := h
    exact .inl nofun
  | finishInitializationForReconciliation =>
    obtain ⟨row, r, -, -, -, -, -, -, -, -, rfl⟩ := h
    exact .inl nofun
  | reserveProfilePreparation =>
    obtain ⟨row, -, hstate, -, -, -, rfl⟩ := h
    refine .inl fun h => ?_
    cases hstate.symm.trans (Option.some.inj h)
  | publishProfileKey =>
    obtain ⟨row, r, -, hstate, -, -, -, -, -, -, -, -, rfl⟩ := h
    refine .inl fun h => ?_
    cases hstate.symm.trans (Option.some.inj h)
  | requireRecovery =>
    obtain ⟨row, hcatalog, hstate, hdb'⟩ := h
    have hrow := hw.ledger hcatalog
    cases hrowState : row.state with
    | recoveryRequired => exact (hstate hrowState).elim
    | active =>
      left
      rw [hdb']
      exact fun _ => hrow.finished hrowState
    | preparing =>
      refine .inr ⟨rfl, ?_, ?_⟩
      · cases commit with
        | known => exact .inl rfl
        | lostAfter => exact .inr rfl
        | lostBefore =>
          rw [requireRecovery_lost (.inl rfl)] at hdb
          rw [← hdb] at hdb'
          have hrevision := congrArg (fun d : Database => d.revision) hdb'
          simp [Database.revision, hcatalog] at hrevision
        | refused =>
          rw [requireRecovery_lost (.inr rfl)] at hdb
          rw [← hdb] at hdb'
          have hrevision := congrArg (fun d : Database => d.revision) hdb'
          simp [Database.revision, hcatalog] at hrevision
      · rw [Database.state, hcatalog, Option.map_some, hrowState]
  | _ => exact h.elim

/-- The latch of a preparing catalog that is read, once it is on the disk. -/
theorem step_latchesPreparing {db : Database} {i : Op × Commit} (hl : LatchesPreparing db i)
    (hw : WellFormed db) :
    ∃ row, (step db i).2.catalog = some row ∧ ¬Accepted (step db i).2 row := by
  obtain ⟨op, commit⟩ := i
  obtain ⟨hop, hcommit, hstate⟩ := hl
  cases hop
  change commit = .known ∨ commit = .lostAfter at hcommit
  have hnotRefused : commit ≠ .refused := by
    rcases hcommit with rfl | rfl <;> (intro h; cases h)
  obtain ⟨row, hcatalog, hrowState⟩ := Option.map_eq_some_iff.mp hstate
  have hrow := hw.ledger hcatalog
  have hsentinel := hrow.unfinished hrowState
  -- the tables that the latch stages
  obtain ⟨s, hs, -, hsstate, hrevision⟩ := hrow.loadSnapshot hcatalog (by rw [hrowState]; exact (fun h => by cases h))
  set db' : Database := { db with
    catalog := some { row with state := .recoveryRequired, revision := row.revision + 1 } }
  have hupdate : db.updateCatalog (fun c => c.revision = s.revision)
      (fun c => { c with state := .recoveryRequired, revision := c.revision + 1 }) = .ok db' := by
    unfold Database.updateCatalog
    rw [hcatalog]
    dsimp only
    rw [if_pos (by simp [hrevision]), if_pos ⟨hrow.usageReserved_pos, hrow.limit⟩]
  have hdb' : (step db (.requireRecovery, commit)).2 = db' := by
    change (transact commit Op.requireRecovery.transaction db).2 = db'
    rw [Op.transaction, transact_map commit _ fun _ => Answer.done]
    unfold transact requireRecovery
    rw [Command.bind_ok (start_ok hnotRefused),
      Command.bind_ok (query_ok hs), if_neg (by rw [hsstate, hrowState]; exact (fun h => by cases h)),
      Command.bind_ok (execute_ok hupdate)]
    rcases hcommit with h | h
    · rw [commitOrLatch_known h]
    · rw [commitOrLatch_lostAfter h]
  have hledger : Ledger db' { row with state := .recoveryRequired, revision := row.revision + 1 } :=
    Recovers.ledger ⟨row, hcatalog, by rw [hrowState]; exact (fun h => by cases h), rfl⟩ hw
  rw [hdb']
  refine ⟨_, rfl, fun haccepted => ?_⟩
  exact (accepted_iff hledger rfl).mp haccepted rfl hsentinel

/-- Every state of the run is read, and its state moves as the diagram says. -/
def Inspectable (is : List (Op × Commit)) : Prop :=
  (∀ js ks, is = js ++ ks → ∀ row, (run step {} js).catalog = some row →
    Accepted (run step {} js) row) ∧
  ∀ js i ks, is = js ++ i :: ks →
    Moves (run step {} js).state (run step {} (js ++ [i])).state

theorem inspectable_iff (is : List (Op × Commit)) :
    Inspectable is ↔ Never step LatchesPreparing {} is := by
  constructor
  · rintro ⟨haccepted, -⟩ js i ks hsplit hl
    have hw := @run_wellFormed js {} ⟨rfl, rfl, rfl⟩
    obtain ⟨row, hcatalog, hnot⟩ := step_latchesPreparing hl hw
    have hstep : run step {} (js ++ [i]) = (step (run step {} js) i).2 := run_append ..
    rw [← hstep] at hcatalog hnot
    exact hnot (haccepted (js ++ [i]) ks (by rw [hsplit, List.append_cons]) row hcatalog)
  · intro hnever
    refine ⟨fun js ks hsplit row hcatalog => ?_, fun js i ks hsplit => ?_⟩
    · have hprefix : Never step LatchesPreparing {} js := by
        intro js₁ i js₂ hjs
        exact hnever js₁ i (js₂ ++ ks) (by rw [hsplit, hjs, List.append_assoc, List.cons_append])
      have hw := @run_wellFormed js {} ⟨rfl, rfl, rfl⟩
      have hreadable : Readable (run step {} js) :=
        run_of_never (fun db i hw => run_wellFormed [i] hw) step_readable ⟨rfl, rfl, rfl⟩ nofun
          hprefix
      have hledger := hw.ledger hcatalog
      refine (accepted_iff hledger hcatalog).mpr fun hstate => hreadable ?_
      rw [Database.state, hcatalog, Option.map_some, hstate]
    · rw [run_append]
      exact step_moves _ i

namespace Sample

def id (n : UInt8) : OpaqueId := .ofByte n

def kek : ActiveKekRef := ⟨"owner-file".toList, id 1, id 2, 1, by decide, by decide⟩

def identity : KeyCatalogIdentity := ⟨id 3, id 4, id 5, kek, 2, 1, by decide, schemaVersion_current⟩

def nonce (n : UInt8) : Nonce := ⟨List.replicate 12 n, rfl⟩

def commitment : SourceCommitment := ⟨List.replicate 32 7, rfl⟩

/-- An initialization that is given up before its sentinel is there. -/
def abandoned : List (Op × Commit) :=
  [(.beginInitialization identity (nonce 1) commitment (id 6), .known), (.requireRecovery, .known)]

/-- The durable state that the diagram of the design allows is reported as corrupt. -/
theorem abandoned_corrupt :
    (step (run step {} abandoned) (.loadCatalog, .known)).1 = .error (.catalog .corrupt, true) ∧
      ¬Inspectable abandoned := by
  have hcatalog : (run step {} abandoned).catalog =
      some ⟨identity, 2, .recoveryRequired, 1, commitment⟩ := by decide +kernel
  have hload : (step (run step {} abandoned) (.loadCatalog, .known)).1 =
      .error (.catalog .corrupt, true) := by decide +kernel
  refine ⟨hload, fun h => ?_⟩
  obtain ⟨s, -, -, -, hok, -⟩ := h.1 abandoned [] (List.append_nil _).symm _ hcatalog
  rw [hload] at hok
  cases hok

end Sample

end MyCogni.Keys
