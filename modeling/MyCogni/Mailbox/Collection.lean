import MyCogni.Mailbox.Progress

/-! What a garbage collection removes: the records that ended long enough ago, the longest ended
first, as far as there is room for their tombstones. -/

namespace MyCogni.Mailbox
variable {cfg : Config} {s : Repository} {now expiresAt : Datetime}

/-! ### Records that ended hold nothing -/

theorem RecordCoherent.ended_weights {highWater : Option Datetime} {id : Uuid} {r : Record}
    (h : RecordCoherent cfg highWater id r) (hended : r.terminalAt ≠ none) :
    r.activeBytes = 0 ∧ r.evidenceBytes = 0 ∧ r.resultBytes = 0 := by
  obtain ⟨m, hm⟩ := h.material
  have hlifecycle := h.lifecycle
  have hactive : r.activeBytes = 0 ∧ r.state ≠ .claimedOnce ∧
      (r.state = .resultCommitted → r.collectionState = .acknowledged) := by
    have hsome : r.terminalAt.isSome = true := Option.isSome_iff_ne_none.mpr hended
    unfold Record.activeBytes
    rcases hstate : r.state with _ | _ | _ | _ | _ | _ <;>
      simp_all [Record.validLifecycle, Record.noActive]
  obtain ⟨hactive, hstate, hack⟩ := hactive
  have hnone : ∀ evidence : List EvidenceUpload, validatedEvidenceSlots cfg r = .ok evidence →
      evidence = [] → r.evidenceBytes = 0 := by
    rintro _ hslots rfl
    rw [← slots_byteCount hslots]
    rfl
  refine ⟨hactive, ?_⟩
  cases hm with
  | acknowledged hslots _ _ _ hresult =>
    exact ⟨hnone _ hslots rfl, by simp [Record.resultBytes, hresult]⟩
  | retained _ hcommitted _ hready =>
    rw [hack hcommitted] at hready
    rcases hready with h | h <;> cases h
  | uncommitted hslots _ _ hresult _ _ hempty =>
    exact ⟨hnone _ hslots (hempty.resolve_left hstate), by simp [Record.resultBytes, hresult]⟩

/-! ### The loop -/

theorem gcStep_removed {removed : List Uuid} {e : Uuid × Record} (hdue : terminalDue cfg now e.2 = true)
    (hroom : s.tombstones.size < cfg.limits.maxTombstones)
    (hweights : e.2.activeBytes = 0 ∧ e.2.evidenceBytes = 0 ∧ e.2.resultBytes = 0) :
    gcStep cfg now expiresAt (s, removed) e =
      ({ s with
          records := s.records.erase e.1
          tombstones := s.tombstones.set e.1 ⟨now, expiresAt⟩ }, removed ++ [e.1]) := by
  obtain ⟨hactive, hevidence, hresult⟩ := hweights
  have hdiscard : (discardRecord (s, e.2)).1 = s := by
    unfold discardRecord clearClaimDeliveryMaterial releaseRecordPayloads
    simp only [Record.evidenceBytes, Record.resultBytes] at hevidence hresult ⊢
    rw [hactive, hevidence, hresult]
    simp
  unfold gcStep
  rw [if_pos ⟨hdue, hroom⟩]
  simp only [hdiscard]

/-- The loop removes the records that are due, in its order, until the room is used up. -/
theorem gc_fold_exact (es : List (Uuid × Record)) (hnodup : (es.map Prod.fst).Nodup)
    (hfree : ∀ e ∈ es, s.tombstones.get? e.1 = none)
    (hweights : ∀ e ∈ es, terminalDue cfg now e.2 = true →
      e.2.activeBytes = 0 ∧ e.2.evidenceBytes = 0 ∧ e.2.resultBytes = 0) (removed : List Uuid) :
    ∃ s', es.foldl (gcStep cfg now expiresAt) (s, removed) =
        (s', removed ++ ((es.filter fun e => terminalDue cfg now e.2).take
          (cfg.limits.maxTombstones - s.tombstones.size)).map Prod.fst) ∧
      s'.totalActiveMaterialBytes = s.totalActiveMaterialBytes ∧
      s'.totalEvidenceBytes = s.totalEvidenceBytes ∧
      s'.totalCommittedBytes = s.totalCommittedBytes ∧
      s'.tombstones.size = s.tombstones.size + min (es.filter fun e => terminalDue cfg now e.2).length
        (cfg.limits.maxTombstones - s.tombstones.size) := by
  induction es generalizing s removed with
  | nil => exact ⟨s, by simp, rfl, rfl, rfl, by simp⟩
  | cons e es ih =>
    rw [List.map_cons, List.nodup_cons] at hnodup
    obtain ⟨hfree, hfrees⟩ := List.forall_mem_cons.mp hfree
    obtain ⟨hweight, hweights⟩ := List.forall_mem_cons.mp hweights
    rw [List.foldl_cons]
    by_cases hdue : terminalDue cfg now e.2 = true
    · rw [List.filter_cons_of_pos (by simpa using hdue)]
      by_cases hroom : s.tombstones.size < cfg.limits.maxTombstones
      · rw [gcStep_removed hdue hroom (hweight hdue)]
        have hsize := Dict.size_set_of_none hfree (⟨now, expiresAt⟩ : Tombstone)
        have hrest : ∀ e' ∈ es, (s.tombstones.set e.1 (⟨now, expiresAt⟩ : Tombstone)).get? e'.1 =
            none := by
          intro e' he'
          have hne : e'.1 ≠ e.1 := fun h => hnodup.1 (List.mem_map.mpr ⟨e', he', h⟩)
          rw [Dict.get?_set_ne _ _ hne]
          exact hfrees e' he'
        obtain ⟨s', hfold, hactive, hevidence, hcommitted, hcount⟩ := @ih { s with
          records := s.records.erase e.1
          tombstones := s.tombstones.set e.1 ⟨now, expiresAt⟩ } hnodup.2 hrest hweights
          (removed ++ [e.1])
        dsimp only at hfold hactive hevidence hcommitted hcount
        rw [hsize] at hfold hcount
        refine ⟨s', ?_, hactive, hevidence, hcommitted, ?_⟩
        · obtain ⟨n, hn⟩ : ∃ n, cfg.limits.maxTombstones - s.tombstones.size = n + 1 :=
            ⟨_, (Nat.succ_pred_eq_of_pos (Nat.sub_pos_of_lt hroom)).symm⟩
          have hn' : cfg.limits.maxTombstones - (s.tombstones.size + 1) = n := by omega
          rw [hfold, hn, hn', List.take_succ_cons, List.map_cons, List.append_assoc]
          rfl
        · rw [hcount, List.length_cons]
          omega
      · -- without room the loop passes over what is due
        have hskip : gcStep cfg now expiresAt (s, removed) e = (s, removed) := by
          unfold gcStep
          rw [if_neg fun h => hroom h.2]
        have hzero : cfg.limits.maxTombstones - s.tombstones.size = 0 := by omega
        obtain ⟨s', hfold, hrest⟩ := ih hnodup.2 hfrees hweights removed
        rw [hzero] at hfold hrest ⊢
        rw [hskip]
        exact ⟨s', hfold, by simpa using hrest⟩
    · have hskip : gcStep cfg now expiresAt (s, removed) e = (s, removed) := by
        unfold gcStep
        rw [if_neg fun h => hdue h.1]
      rw [hskip, List.filter_cons_of_neg (by simpa using hdue)]
      exact ih hnodup.2 hfrees hweights removed

/-! ### The order -/

section Order

instance : Std.Total (gcLe now) :=
  ⟨fun a b => by
    unfold gcLe
    rcases lt_trichotomy (a.2.terminalAt.getD now) (b.2.terminalAt.getD now) with hlt | heq | hgt
    · exact .inl (.inl hlt)
    · exact (Std.Total.total (r := Uuid.leStr) a.1 b.1).imp (fun h => .inr ⟨heq, h⟩)
        fun h => .inr ⟨heq.symm, h⟩
    · exact .inr (.inl hgt)⟩

instance : IsTrans (Uuid × Record) (gcLe now) :=
  ⟨fun a b c hab hbc => by
    unfold gcLe at *
    rcases hab with hab | ⟨hab, hab'⟩
    · rcases hbc with hbc | ⟨hbc, -⟩
      · exact .inl (hab.trans hbc)
      · exact .inl (hbc ▸ hab)
    · rcases hbc with hbc | ⟨hbc, hbc'⟩
      · exact .inl (hab ▸ hbc)
      · exact .inr ⟨hab.trans hbc, IsTrans.trans _ _ _ hab' hbc'⟩⟩

theorem gcLe_antisymm {a b : Uuid × Record} (h : gcLe now a b) (h' : gcLe now b a) : a.1 = b.1 := by
  unfold gcLe at h h'
  rcases h with h | ⟨heq, h⟩
  · rcases h' with h' | ⟨heq, -⟩
    · exact absurd h (lt_asymm h')
    · exact absurd heq.symm (ne_of_lt h)
  · rcases h' with h' | ⟨-, h'⟩
    · exact absurd heq.symm (ne_of_lt h')
    · exact Uuid.leStr_antisymm h h'

/-- Choosing rows from the ordered list, or ordering the rows that were chosen. -/
theorem filter_insertionSort {es : List (Uuid × Record)} (hnodup : (es.map Prod.fst).Nodup)
    (p : Uuid × Record → Bool) :
    (es.insertionSort (gcLe now)).filter p = (es.filter p).insertionSort (gcLe now) := by
  have hperm := List.perm_insertionSort (gcLe now) es
  refine @List.Perm.eq_of_pairwise _ (gcLe now) _ _ (fun a b ha hb h h' => ?_) ?_ ?_ ?_
  · have ha := hperm.mem_iff.mp (List.mem_filter.mp ha).1
    have hb := (List.mem_filter.mp ((List.perm_insertionSort _ _).mem_iff.mp hb)).1
    exact List.inj_on_of_nodup_map hnodup ha hb (gcLe_antisymm h h')
  · exact (List.pairwise_insertionSort _ _).filter _
  · exact List.pairwise_insertionSort _ _
  · exact (hperm.filter p).trans (List.perm_insertionSort _ _).symm

end Order

/-! ### The collection -/

/-- The identifiers of the records that ended a retention ago or earlier, the longest ended first. -/
structure InDueOrder (cfg : Config) (s : Repository) (now : Datetime) (due : List Uuid) : Prop where
  mem_iff : ∀ id, id ∈ due ↔ ∃ r ended, s.records.get? id = some r ∧ r.terminalAt = some ended ∧
    ended.val + cfg.limits.terminalRetention ≤ now.val
  nodup : due.Nodup
  ordered : due.Pairwise fun a b => ∃ ra rb endedA endedB,
    s.records.get? a = some ra ∧ ra.terminalAt = some endedA ∧
    s.records.get? b = some rb ∧ rb.terminalAt = some endedB ∧
    (endedA < endedB ∨ endedA = endedB ∧ Uuid.leStr a b)

/-- The tombstones that a collection leaves in place. -/
def keptTombstones (s : Repository) (now : Datetime) : Dict Uuid Tombstone :=
  s.tombstones.filter fun _ t => now < t.expiresAt

def tombstoneRoom (cfg : Config) (s : Repository) (now : Datetime) : Nat :=
  cfg.limits.maxTombstones - (keptTombstones s now).size

/-- What a collection that removes `removed` leaves behind. -/
structure GarbageCollected (s : Repository) (now expiresAt : Datetime) (removed : List Uuid)
    (s' : Repository) : Prop where
  records : ∀ id, s'.records.get? id =
    if id ∈ removed then none else (s.records.get? id).map fun r => r.seen now
  tombstones : ∀ id, s'.tombstones.get? id =
    if id ∈ removed then some ⟨now, expiresAt⟩ else (keptTombstones s now).get? id
  active : s'.totalActiveMaterialBytes = s.totalActiveMaterialBytes
  evidence : s'.totalEvidenceBytes = s.totalEvidenceBytes
  committed : s'.totalCommittedBytes = s.totalCommittedBytes
  time : s'.installationLastSeenUtc = some now

def dueEntries (cfg : Config) (s : Repository) (now : Datetime) : List (Uuid × Record) :=
  (s.records.entries.filter fun e => terminalDue cfg now e.2).insertionSort (gcLe now)

def dueIds (cfg : Config) (s : Repository) (now : Datetime) : List Uuid :=
  (dueEntries cfg s now).map Prod.fst

theorem mem_dueEntries {e : Uuid × Record} :
    e ∈ dueEntries cfg s now ↔ s.records.get? e.1 = some e.2 ∧ terminalDue cfg now e.2 = true := by
  unfold dueEntries
  rw [(List.perm_insertionSort _ _).mem_iff, List.mem_filter, Dict.get?_eq_some]

theorem terminalDue_iff {r : Record} : terminalDue cfg now r = true ↔
    ∃ ended, r.terminalAt = some ended ∧
      ended.val + cfg.limits.terminalRetention ≤ now.val := by
  unfold terminalDue
  rw [Option.any_eq_true]
  simp

theorem inDueOrder_dueIds (cfg : Config) (s : Repository) (now : Datetime) :
    InDueOrder cfg s now (dueIds cfg s now) where
  mem_iff id := by
    constructor
    · intro h
      obtain ⟨⟨id, r⟩, he, rfl⟩ := List.mem_map.mp h
      obtain ⟨hget, hdue⟩ := mem_dueEntries.mp he
      obtain ⟨ended, hended, hle⟩ := terminalDue_iff.mp hdue
      exact ⟨r, ended, hget, hended, hle⟩
    · rintro ⟨r, ended, hget, hended, hle⟩
      have hdue := terminalDue_iff.mpr ⟨ended, hended, hle⟩
      exact List.mem_map.mpr ⟨(id, r), mem_dueEntries.mpr ⟨hget, hdue⟩, rfl⟩
  nodup := by
    unfold dueIds dueEntries
    rw [((List.perm_insertionSort _ _).map _).nodup_iff]
    exact s.records.nodup.sublist (List.filter_sublist.map _)
  ordered := by
    refine List.pairwise_map.mpr ?_
    -- the order's substitute for a missing time is never used here
    refine List.Pairwise.imp_of_mem ?_ (List.pairwise_insertionSort (gcLe now) _)
    intro a b ha hb hle
    obtain ⟨hgeta, hduea⟩ := mem_dueEntries.mp ha
    obtain ⟨hgetb, hdueb⟩ := mem_dueEntries.mp hb
    obtain ⟨endedA, hendedA, -⟩ := terminalDue_iff.mp hduea
    obtain ⟨endedB, hendedB, -⟩ := terminalDue_iff.mp hdueb
    unfold gcLe at hle
    rw [hendedA, hendedB] at hle
    exact ⟨a.2, b.2, endedA, endedB, hgeta, hendedA, hgetb, hendedB, hle⟩

/-- Seeing the records at the collection's time changes neither what is due nor in which order. -/
theorem dueIds_seen (cfg : Config) (s : Repository) (now : Datetime) :
    ((((s.records.mapValues fun r => r.seen now).entries.insertionSort (gcLe now)).filter
      fun e => terminalDue cfg now e.2).map Prod.fst) = dueIds cfg s now := by
  rw [filter_insertionSort (s.records.mapValues _).nodup]
  have hentries : (s.records.mapValues fun r => r.seen now).entries =
      s.records.entries.map fun e => (e.1, e.2.seen now) := rfl
  rw [hentries, List.filter_map, ← List.map_insertionSort (r := gcLe now), List.map_map]
  · rfl
  · exact fun a _ b _ => Iff.rfl

theorem Coherent.maintenanceAccess_ok (h : Coherent cfg s) {env : Env} (hclock : env.clock = some now)
    (hafter : s.notAfter now) :
    maintenanceAccess cfg s cfg.maintenanceCredentialDigest env = .ok now := by
  refine maintenanceAccess_eq_ok.mpr ⟨rfl, exists_mapM_ok fun r hr => ?_, hclock, hafter, ?_⟩
  · obtain ⟨id, hid⟩ := Dict.mem_values.mp hr
    obtain ⟨m, hm⟩ := (h.record id r hid).material
    exact ⟨m, validatedRecordMaterial_eq_ok.mpr hm⟩
  · intro id r hr
    obtain ⟨t, ht, hle⟩ := (h.record id r hr).seen
    exact hle.trans (hafter t ht)

/-- What an authorised collection does. -/
theorem garbageCollect_collected (h : Coherent cfg s) {env : Env} (hclock : env.clock = some now)
    (hafter : s.notAfter now) (hexpires : now.add cfg.limits.tombstoneRetention = some expiresAt) :
    ∃ s', apply cfg s (.garbageCollect cfg.maintenanceCredentialDigest, env) =
        (.ok (.ids (Uuid.sorted ((dueIds cfg s now).take (tombstoneRoom cfg s now)))), s') ∧
      GarbageCollected s now expiresAt ((dueIds cfg s now).take (tombstoneRoom cfg s now)) s' ∧
      s'.tombstones.size = (keptTombstones s now).size +
        min (dueIds cfg s now).length (tombstoneRoom cfg s now) := by
  have hok := h.maintenanceAccess_ok hclock hafter
  have hlive : advanceInstallationTime
      { s with records := s.records.mapValues fun r => { r with lastSeenUtc := now } } now =
      { s with
          records := s.records.mapValues fun r => r.seen now
          installationLastSeenUtc := some now } :=
    advanceInstallationTime_eq (s := { s with records := s.records.mapValues fun r => r.seen now })
      hafter
  set live := s.records.mapValues fun r => r.seen now with hlivedef
  have hget : ∀ id, live.get? id = (s.records.get? id).map fun r => r.seen now :=
    fun id => Dict.get?_mapValues ..
  have hperm := List.perm_insertionSort (gcLe now) live.entries
  set start : Repository := { s with
    records := live
    installationLastSeenUtc := some now
    tombstones := keptTombstones s now } with hstart
  have hnodup := (hperm.map Prod.fst).nodup_iff.mpr live.nodup
  have hfound : ∀ e ∈ live.entries.insertionSort (gcLe now), start.records.get? e.1 = some e.2 :=
    fun e he => Dict.get?_eq_some.mpr (hperm.mem_iff.mp he)
  have hold : ∀ e ∈ live.entries.insertionSort (gcLe now),
      ∃ r, s.records.get? e.1 = some r ∧ r.seen now = e.2 := by
    intro e he
    exact Option.map_eq_some_iff.mp ((hget e.1).symm.trans (hfound e he))
  obtain ⟨s', removed, hfold, -, hburied⟩ := gc_fold cfg now expiresAt _ hnodup (start, []) hfound
  obtain ⟨s'', hexact, hactive, hevidence, hcommitted, hsize⟩ := 
    @gc_fold_exact cfg start now expiresAt _ hnodup (by
      intro e he
      obtain ⟨r, hr, -⟩ := hold e he
      show (keptTombstones s now).get? e.1 = none
      rw [keptTombstones, Dict.get?_filter, h.disjoint e.1 r hr]
      rfl) (by
      intro e he hdue
      obtain ⟨r, hr, hseen⟩ := hold e he
      obtain ⟨ended, hended, -⟩ := terminalDue_iff.mp hdue
      rw [← hseen] at hended ⊢
      exact (h.record e.1 r hr).ended_weights (by
        rw [show r.terminalAt = some ended from hended]
        nofun)) []
  obtain ⟨rfl, hremoved⟩ := Prod.mk.injEq .. ▸ hexact.symm.trans hfold
  rw [List.nil_append, List.nil_append, List.map_take, dueIds_seen] at hremoved
  have hlength := congrArg List.length (dueIds_seen cfg s now)
  rw [List.length_map] at hlength
  refine ⟨s'', ?_, ⟨fun id => ?_, fun id => ?_, hactive, hevidence, hcommitted, hburied.time⟩, ?_⟩
  · show reply .ids (garbageCollect cfg s cfg.maintenanceCredentialDigest env) = _
    generalize hx : garbageCollect cfg s cfg.maintenanceCredentialDigest env = x
    rcases attempt_cases hx with ⟨f, hf, -⟩ | ⟨a, ha, rfl⟩
    · rw [hok] at hf
      dsimp only [bind, Except.bind] at hf
      rw [hexpires] at hf
      exact nomatch hf
    · rw [hok] at ha
      dsimp only [bind, Except.bind] at ha
      rw [hexpires] at ha
      obtain rfl := pure_eq_ok_iff.mp ha
      dsimp only
      rw [hlive]
      show reply .ids (.ok (Uuid.sorted (List.foldl _ (start, []) _).2),
        (List.foldl _ (start, []) _).1) = _
      rw [hexact, ← dueIds_seen, ← List.map_take]
      rfl
  · rw [hburied.records, ← hremoved, ← hget]
    rfl
  · rw [hburied.tombstones, ← hremoved]
    rfl
  · rw [hsize, hlength]
    rfl

theorem GarbageCollected.kept {s' : Repository} {removed : List Uuid}
    (h : GarbageCollected s now expiresAt removed s') (hlt : now < expiresAt) :
    keptTombstones s' now = s'.tombstones := by
  refine Dict.ext_entries (List.filter_eq_self.mpr fun e he => ?_)
  have hget := Dict.get?_eq_some.mpr he
  rw [h.tombstones] at hget
  split_ifs at hget
  · have hnew : e.2.expiresAt = expiresAt := (congrArg Tombstone.expiresAt (Option.some.inj hget)).symm
    exact decide_eq_true (hnew.symm ▸ hlt)
  · rw [keptTombstones, Dict.get?_filter, Option.filter_eq_some_iff] at hget
    exact hget.2

/-- Either every record that was due is gone, or there is no room left. -/
theorem GarbageCollected.nothing_more {s' : Repository}
    (h : GarbageCollected s now expiresAt ((dueIds cfg s now).take (tombstoneRoom cfg s now)) s')
    (hsize : s'.tombstones.size = (keptTombstones s now).size +
      min (dueIds cfg s now).length (tombstoneRoom cfg s now)) (hlt : now < expiresAt) :
    (dueIds cfg s' now).take (tombstoneRoom cfg s' now) = [] := by
  by_cases hfits : (dueIds cfg s now).length ≤ tombstoneRoom cfg s now
  · rw [List.take_of_length_le hfits] at h
    have hnone : dueIds cfg s' now = [] := by
      refine List.eq_nil_iff_forall_not_mem.mpr fun id hid => ?_
      obtain ⟨r', ended, hr', hended, hle⟩ := ((inDueOrder_dueIds cfg s' now).mem_iff id).mp hid
      rw [h.records] at hr'
      split_ifs at hr' with hmem
      obtain ⟨r, hr, rfl⟩ := Option.map_eq_some_iff.mp hr'
      exact hmem (((inDueOrder_dueIds cfg s now).mem_iff id).mpr ⟨r, ended, hr, hended, hle⟩)
    rw [hnone, List.take_nil]
  · have hroom : tombstoneRoom cfg s' now = 0 := by
      rw [tombstoneRoom, h.kept hlt, hsize]
      unfold tombstoneRoom at hfits ⊢
      omega
    rw [hroom, List.take_zero]

/-- In every state that calls can reach, an authorised collection at a time that is not rolled back
drops the tombstones that expired, and removes the records that ended a retention ago, the longest
ended first, as far as the tombstones have room; a repetition at that time removes nothing more. -/
theorem garbageCollect_exact (cfg : Config) (is : List (Call × Env)) (env : Env)
    (now expiresAt : Datetime) (hclock : env.clock = some now)
    (hafter : (run (apply cfg) .empty is).notAfter now)
    (hexpires : now.add cfg.limits.tombstoneRetention = some expiresAt) :
    let s := run (apply cfg) .empty is
    let d := cfg.maintenanceCredentialDigest
    ∃ due s', InDueOrder cfg s now due ∧
      apply cfg s (.garbageCollect d, env) =
        (.ok (.ids (Uuid.sorted (due.take (tombstoneRoom cfg s now)))), s') ∧
      GarbageCollected s now expiresAt (due.take (tombstoneRoom cfg s now)) s' ∧
      ∀ env' : Env, env'.clock = some now →
        ∃ s'', apply cfg s' (.garbageCollect d, env') = (.ok (.ids []), s'') ∧
          GarbageCollected s' now expiresAt [] s'' ∧
          (∀ id, s''.records.get? id = s'.records.get? id) ∧
          ∀ id, s''.tombstones.get? id = s'.tombstones.get? id := by
  intro s d
  have hcoherent : Coherent cfg s := coherent_run cfg is
  have hlt : now < expiresAt := by
    have hpos := cfg.limits.positive
    unfold Datetime.add at hexpires
    split_ifs at hexpires
    rw [← Option.some.inj hexpires]
    show now.val < now.val + cfg.limits.tombstoneRetention
    omega
  obtain ⟨s', happly, hcollected, hsize⟩ := garbageCollect_collected hcoherent hclock hafter hexpires
  refine ⟨dueIds cfg s now, s', inDueOrder_dueIds cfg s now, happly, hcollected, fun env' hclock' => ?_⟩
  have hcoherent' : Coherent cfg s' := by
    have hstep := (apply_step cfg s (.garbageCollect d, env)).coherent hcoherent
    rwa [happly] at hstep
  have hafter' : s'.notAfter now := by
    intro t ht
    rw [hcollected.time] at ht
    exact (Option.some.inj ht).symm.le
  obtain ⟨s'', happly', hcollected', -⟩ :=
    garbageCollect_collected hcoherent' hclock' hafter' hexpires
  rw [hcollected.nothing_more hsize hlt] at happly' hcollected'
  refine ⟨s'', happly', hcollected', fun id => ?_, fun id => ?_⟩
  · rw [hcollected'.records, if_neg List.not_mem_nil, hcollected.records]
    split_ifs
    · rfl
    · rw [Option.map_map]
      rfl
  · rw [hcollected'.tombstones, if_neg List.not_mem_nil, hcollected.kept hlt]

namespace Sample

/-- The time of the sample, a tombstone's retention later. -/
def muchLater : Datetime := ⟨64031472000000000, by decide⟩

theorem now_add : Sample.now.add (30 * microsPerDay) = some muchLater := by
  refine (dif_pos ?_).trans ?_
  · decide
  · decide

/-- A collection while the mailbox of the sample is open. -/
theorem garbageCollect_opened :
    ∃ due s', InDueOrder small.config small.opened.2 Sample.now due ∧
      apply small.config small.opened.2
          (.garbageCollect small.config.maintenanceCredentialDigest, env) =
        (.ok (.ids (Uuid.sorted
          (due.take (tombstoneRoom small.config small.opened.2 Sample.now)))), s') ∧
      GarbageCollected small.opened.2 Sample.now muchLater
        (due.take (tombstoneRoom small.config small.opened.2 Sample.now)) s' := by
  have hrun : run (apply small.config) .empty [(.create small.binding (credentialDigest actionKey)
      (credentialDigest claimCredential) (credentialDigest collectionCredential), env)] =
      small.opened.2 := by
    rw [serve_opened]
    rfl
  have hafter : small.opened.2.notAfter Sample.now := by
    intro t ht
    rw [opened_state] at ht
    exact (Option.some.inj ht).symm.le
  obtain ⟨due, s', hdue, happly, hcollected, -⟩ := garbageCollect_exact small.config _ env
    Sample.now muchLater rfl (hrun.symm ▸ hafter) now_add
  rw [hrun] at hdue happly hcollected
  exact ⟨due, s', hdue, happly, hcollected⟩

end Sample

end MyCogni.Mailbox
