import MyCogni.Auth.Consistency

/-! How many ceremonies a service keeps. A sweep makes expired ceremonies into tombstones, and only a
call that registers or burns a ceremony goes on to trim the tombstones, of its own service. -/

namespace MyCogni.Auth
open Command

/-- What the constructor of the policy admits for ceremonies. -/
structure CeremonyPolicy where
  capacity : Nat
  tombstoneCapacity : Nat
  replaySeconds : Nat
  capacity_range : 1 ≤ capacity ∧ capacity ≤ 1024
  tombstoneCapacity_range : 1 ≤ tombstoneCapacity ∧ tombstoneCapacity ≤ 1024
  replaySeconds_range : replaySeconds ≤ daySeconds
deriving DecidableEq

/-- The service hands its policy to the store. -/
def Op.Follows (p : CeremonyPolicy) : Op → Prop
  | createReprovisionCeremony _ _ _ _ _ _ _ active tombstones replay =>
    active = p.capacity ∧ tombstones = p.tombstoneCapacity ∧ replay = p.replaySeconds
  | exchangeReprovisionBootstrap _ _ _ _ _ _ _ _ _ _ tombstones replay =>
    tombstones = p.tombstoneCapacity ∧ replay = p.replaySeconds
  | _ => True

instance (p : CeremonyPolicy) (op : Op) : Decidable (op.Follows p) := by
  unfold Op.Follows
  split <;> infer_instance

/-! ### Counts -/

section Counts
variable {s : Store} {now : Datetime} {h : OpaqueId}

/-- `reprovision_ceremony_counts(service_handle)["active"]` -/
def Store.active (s : Store) (serviceHandle : OpaqueId) : Nat :=
  s.reprovisionCeremonies.count fun c => c.serviceHandle = serviceHandle && c.terminalAtUtc.isNone

/-- The ceremonies of a service that a sweep leaves as tombstones. -/
def Store.entombed (s : Store) (serviceHandle : OpaqueId) (now : Datetime) : Nat :=
  s.reprovisionCeremonies.count fun c => c.serviceHandle = serviceHandle &&
    (c.expire now).terminalAtUtc.isSome && !(c.expire now).forgotten now

theorem Store.length_tombstones (s : Store) (h : OpaqueId) : (s.tombstones h).length =
    s.reprovisionCeremonies.count fun c => c.serviceHandle = h && c.terminalAtUtc.isSome :=
  (List.countP_eq_length_filter ..).symm

theorem ReprovisionCeremonyRecord.serviceHandle_expire (c : ReprovisionCeremonyRecord) :
    (c.expire now).serviceHandle = c.serviceHandle := by
  unfold expire
  split_ifs <;> rfl

theorem ReprovisionCeremonyRecord.expire_terminal {c : ReprovisionCeremonyRecord}
    (h : c.terminalAtUtc.isSome) : c.expire now = c := by
  unfold expire
  rw [if_neg]
  rintro ⟨hnone, -⟩
  rw [hnone] at h
  cases h

theorem ReprovisionCeremonyRecord.active_of_expire {c : ReprovisionCeremonyRecord}
    (h : (c.expire now).terminalAtUtc = none) : c.expire now = c := by
  unfold expire at h ⊢
  split_ifs at h with hdue
  rw [if_neg hdue]

theorem Store.length_tombstones_gc (s : Store) (h : OpaqueId) (now : Datetime) :
    ((s.gcCeremonies now).tombstones h).length = s.entombed h now := by
  rw [Store.length_tombstones]
  unfold Store.entombed Table.count
  change ((s.reprovisionCeremonies.rows.map (·.expire now)).filter _).countP _ = _
  rw [List.countP_filter, List.countP_map]
  refine List.countP_congr fun c _ => ?_
  simp only [Function.comp_apply, ReprovisionCeremonyRecord.serviceHandle_expire]

theorem Store.active_gc_le (s : Store) (h : OpaqueId) (now : Datetime) :
    (s.gcCeremonies now).active h ≤ s.active h := by
  unfold Store.active Table.count
  change ((s.reprovisionCeremonies.rows.map (·.expire now)).filter _).countP _ ≤ _
  rw [List.countP_filter, List.countP_map]
  refine List.countP_mono_left fun c _ hc => ?_
  simp only [Function.comp_apply, Bool.and_eq_true, Option.isNone_iff_eq_none] at hc ⊢
  obtain ⟨⟨hservice, hnone⟩, -⟩ := hc
  rw [ReprovisionCeremonyRecord.active_of_expire hnone] at hservice hnone
  exact ⟨hservice, hnone⟩

/-- The count over the rows after one of them is written. -/
theorem Table.count_put {κ ρ : Type} [LinearOrder κ] {key : ρ → κ} (t : Table key) (r : ρ)
    (p : ρ → Bool) :
    (t.put r).count p = (t.rows.filter fun a => key a ≠ key r).countP p + if p r then 1 else 0 := by
  rw [Table.count, (t.put_perm r).countP_eq, List.countP_cons]

theorem Table.countP_filter_ne_le {κ ρ : Type} [LinearOrder κ] {key : ρ → κ} (t : Table key) (k : κ)
    (p : ρ → Bool) : (t.rows.filter fun a => key a ≠ k).countP p ≤ t.count p :=
  List.filter_sublist.countP_le

theorem Table.count_put_new {κ ρ : Type} [LinearOrder κ] {key : ρ → κ} (t : Table key) {r : ρ}
    (hnew : t.get? (key r) = none) (p : ρ → Bool) :
    (t.put r).count p = t.count p + if p r then 1 else 0 := by
  rw [Table.count_put, List.filter_eq_self.mpr]
  · rfl
  · intro a ha
    simpa using Table.get?_eq_none.mp hnew a ha

end Counts

/-! ### Trimming -/

section Trim
variable (s : Store) (h : OpaqueId) (capacity : Nat)

instance : Std.Total tombstoneLe :=
  ⟨fun a b => by
    unfold tombstoneLe
    rcases lt_trichotomy a.terminalInstant b.terminalInstant with hlt | heq | hgt
    · exact .inl (.inl hlt)
    · exact (le_total a.handle b.handle).imp (fun hle => .inr ⟨heq, hle⟩)
        fun hle => .inr ⟨heq.symm, hle⟩
    · exact .inr (.inl hgt)⟩

instance : IsTrans ReprovisionCeremonyRecord tombstoneLe :=
  ⟨fun a b c hab hbc => by
    unfold tombstoneLe at *
    rcases hab with hab | ⟨hab, hab'⟩
    · rcases hbc with hbc | ⟨hbc, -⟩
      · exact .inl (hab.trans hbc)
      · exact .inl (hbc ▸ hab)
    · rcases hbc with hbc | ⟨hbc, hbc'⟩
      · exact .inl (hab ▸ hbc)
      · exact .inr ⟨hab.trans hbc, hab'.trans hbc'⟩⟩

/-- The tombstones of a service, from the oldest. -/
def Store.byAge : List ReprovisionCeremonyRecord := (s.tombstones h).insertionSort tombstoneLe

def Store.excess : Nat := (s.byAge h).length - capacity

theorem Store.byAge_perm : (s.byAge h).Perm (s.tombstones h) := List.perm_insertionSort _ _

theorem Store.overflow_eq :
    s.overflow h capacity = ((s.byAge h).take (s.excess h capacity)).map (·.handle) := by
  have hexcess : ((s.byAge h).length - (capacity : Int)).toNat = s.excess h capacity := by
    unfold Store.excess
    omega
  rw [← hexcess]
  rfl

theorem Store.nodup_byAge : ((s.byAge h).map (·.handle)).Nodup := by
  refine ((s.byAge_perm h).map _).nodup_iff.mpr ?_
  exact (List.filter_sublist.map _).nodup s.reprovisionCeremonies.nodup_keys

/-- What is kept is the younger part. -/
theorem Store.trim_perm :
    ((s.trimTombstones h capacity).tombstones h).Perm ((s.byAge h).drop (s.excess h capacity)) := by
  have hkept : (s.trimTombstones h capacity).tombstones h =
      (s.tombstones h).filter fun c => c.handle ∉ s.overflow h capacity := by
    unfold Store.tombstones
    change (List.filter _ (s.reprovisionCeremonies.rows.filter _)) = _
    rw [List.filter_filter, List.filter_filter]
    refine List.filter_congr fun c _ => ?_
    exact Bool.and_comm ..
  have hsplit := List.take_append_drop (s.excess h capacity) (s.byAge h)
  have hnodup := s.nodup_byAge h
  rw [← hsplit, List.map_append] at hnodup
  have hdisjoint := List.disjoint_of_nodup_append hnodup
  rw [hkept]
  refine ((s.byAge_perm h).symm.filter _).trans ?_
  conv_lhs => rw [← hsplit]
  rw [List.filter_append, Store.overflow_eq, List.filter_eq_nil_iff.mpr, List.filter_eq_self.mpr,
    List.nil_append]
  · intro c hc
    simpa using fun hmem => hdisjoint (by simpa using hmem) (List.mem_map_of_mem hc)
  · intro c hc
    simpa using List.mem_map_of_mem (f := ReprovisionCeremonyRecord.handle) hc

theorem Store.length_trim :
    ((s.trimTombstones h capacity).tombstones h).length = min (s.tombstones h).length capacity := by
  rw [(s.trim_perm h capacity).length_eq, List.length_drop, Store.excess,
    (s.byAge_perm h).length_eq]
  omega

theorem Store.active_trim_le (h' : OpaqueId) :
    (s.trimTombstones h capacity).active h' ≤ s.active h' :=
  List.filter_sublist.countP_le

theorem Store.mem_overflow {k : OpaqueId} (hk : k ∈ s.overflow h capacity) :
    ∃ c ∈ (s.byAge h).take (s.excess h capacity), c.handle = k := by
  rw [Store.overflow_eq] at hk
  exact List.mem_map.mp hk

/-- The tombstones of another service stay. -/
theorem Store.tombstones_trim_of_ne {h' : OpaqueId} (hne : h' ≠ h) :
    (s.trimTombstones h capacity).tombstones h' = s.tombstones h' := by
  unfold Store.tombstones
  change (List.filter _ (s.reprovisionCeremonies.rows.filter _)) = _
  rw [List.filter_filter]
  refine List.filter_congr fun c hc => ?_
  by_cases hservice : c.serviceHandle = h'
  · have hkept : c.handle ∉ s.overflow h capacity := by
      intro hmem
      obtain ⟨c', hc', hhandle⟩ := s.mem_overflow h capacity hmem
      have htomb := (s.byAge_perm h).subset (List.mem_of_mem_take hc')
      obtain ⟨hrow, hof⟩ := List.mem_filter.mp htomb
      have hsame := List.inj_on_of_nodup_map s.reprovisionCeremonies.nodup_keys hrow hc hhandle
      rw [hsame] at hof
      exact hne (hservice.symm.trans (by simpa using (Bool.and_eq_true_iff.mp hof).1))
    simp [hkept]
  · simp [hservice]

/-- A tombstone is the oldest of its service, whose tombstones fill the capacity. -/
def OldestBeyond (capacity : Nat) (s : Store) (c : ReprovisionCeremonyRecord) : Prop :=
  (s.tombstones c.serviceHandle).length = capacity ∧
    ∀ c' ∈ s.tombstones c.serviceHandle, tombstoneLe c c'

theorem Store.trim_drops {c : ReprovisionCeremonyRecord} (hc : c ∈ s.reprovisionCeremonies.rows)
    (hdropped : (s.trimTombstones h capacity).reprovisionCeremonies.get? c.handle = none) :
    c.serviceHandle = h ∧ c.terminalAtUtc.isSome ∧
      OldestBeyond capacity (s.trimTombstones h capacity) c := by
  have hmem : c.handle ∈ s.overflow h capacity := by
    by_contra hkept
    refine Table.get?_eq_none.mp hdropped c ?_ rfl
    exact List.mem_filter.mpr ⟨hc, by simpa using hkept⟩
  obtain ⟨c', hc', hhandle⟩ := s.mem_overflow h capacity hmem
  obtain ⟨hrow, hof⟩ := List.mem_filter.mp ((s.byAge_perm h).subset (List.mem_of_mem_take hc'))
  obtain rfl := List.inj_on_of_nodup_map s.reprovisionCeremonies.nodup_keys hrow hc hhandle
  obtain ⟨rfl, hterminal⟩ : c'.serviceHandle = h ∧ c'.terminalAtUtc.isSome := by simpa using hof
  have hexcess : 0 < s.excess c'.serviceHandle capacity := by
    rcases Nat.eq_zero_or_pos (s.excess c'.serviceHandle capacity) with h0 | hpos
    · rw [h0] at hc'
      cases hc'
    · exact hpos
  refine ⟨rfl, hterminal, ?_, fun c'' hc'' => ?_⟩
  · rw [Store.length_trim]
    unfold Store.excess at hexcess
    rw [(s.byAge_perm c'.serviceHandle).length_eq] at hexcess
    omega
  · have hsorted := List.pairwise_insertionSort tombstoneLe (s.tombstones c'.serviceHandle)
    rw [← List.take_append_drop (s.excess c'.serviceHandle capacity)
      ((s.tombstones c'.serviceHandle).insertionSort tombstoneLe)] at hsorted
    exact (List.pairwise_append.mp hsorted).2.2 c' hc' c''
      ((s.trim_perm c'.serviceHandle capacity).subset hc'')

end Trim

/-! ### What a call does to the ceremonies -/

/-- The service whose ceremony an exchange burns, once it has swept the store. -/
def Store.burns (s : Store) (binding : CompositionBindingRecord) (handle ceremony : OpaqueId)
    (now : Datetime) : Option OpaqueId := do
  let proof ← (s.gcCeremonies now).reprovisionCeremonies.get? ceremony
  guard (proof.terminalAtUtc = none)
  let record ← s.bootstraps.get? handle
  let rootId ← record.rootCapabilityId
  let root ← s.roots.get? rootId
  guard (record.rootPurpose = some .reprovision ∧ root.installationId = proof.installationId)
  pure binding.serviceHandle

/-- The service for which a ceremony is registered, once the store is swept. -/
def Store.registers (s : Store) (binding : CompositionBindingRecord) (root : RootCapabilityRecord)
    (ceremony : OpaqueId) (now : Datetime) (activeCapacity replaySeconds : Int) : Option OpaqueId :=
  if ((s.gcCeremonies now).activeCeremonies binding.serviceHandle root.installationId : Int) <
      activeCapacity ∧ (s.gcCeremonies now).reprovisionCeremonies.get? ceremony = none ∧
      replaySeconds ≤ daySeconds then some binding.serviceHandle
  else none

/-- The time at which a call sweeps the ceremonies, if it gets so far, and the service whose
tombstones it goes on to trim. -/
def Op.sweep (s : Store) : Op → Option (Datetime × Option OpaqueId)
  | createReprovisionCeremony sv sd o od handle issue now active tombstones replay => do
    guard (1 ≤ active ∧ 1 ≤ tombstones ∧ 0 ≤ replay)
    let bootstrap ← s.bootstraps.get? handle
    guard (bootstrap.rootPurpose = some .reprovision)
    let rootId ← bootstrap.rootCapabilityId
    let root ← s.roots.get? rootId
    let binding ← s.compositionBindings.get? root.installationId
    guard (sv.handle = binding.serviceHandle ∧ sd = binding.serviceDigest ∧ sd = sv.digest ∧
      o.handle = binding.operatorHandle ∧ od = binding.operatorDigest ∧ od = o.digest)
    pure (now, s.registers binding root issue.handle now active replay)
  | exchangeReprovisionBootstrap handle _ sv sd ceremony cd now _ _ _ _ _ => do
    let proof ← s.reprovisionCeremonies.get? ceremony.handle
    let binding ← s.compositionBindings.get? proof.installationId
    guard (proof.serviceHandle = binding.serviceHandle ∧ proof.bootstrapHandle = handle ∧
      sv.handle = binding.serviceHandle ∧ sd = binding.serviceDigest ∧ sd = sv.digest ∧
      proof.digest = cd ∧ cd = ceremony.digest)
    pure (now, s.burns binding handle ceremony.handle now)
  | garbageCollect now retention => do
    guard (0 ≤ retention ∧ retention ≤ 86400)
    pure (now, none)
  | _ => none

/-- The ceremonies after a call, by how far it got. -/
inductive Swept (p : CeremonyPolicy) (s s' : Store) : Option (Datetime × Option OpaqueId) → Prop
  | untouched (same : SameCeremonies s s') : Swept p s s' none
  | swept (now : Datetime) (same : SameCeremonies (s.gcCeremonies now) s') :
      Swept p s s' (some (now, none))
  | registered (now : Datetime) {c : ReprovisionCeremonyRecord} (active : c.terminalAtUtc = none)
      (unused : (s.gcCeremonies now).reprovisionCeremonies.get? c.handle = none)
      (room : (s.gcCeremonies now).activeCeremonies c.serviceHandle c.installationId < p.capacity)
      (composed : ∃ binding, s.compositionBindings.get? c.installationId = some binding ∧
        binding.serviceHandle = c.serviceHandle)
      (same : SameCeremonies (((s.gcCeremonies now).putCeremony c).trimTombstones c.serviceHandle
        p.tombstoneCapacity) s') : Swept p s s' (some (now, some c.serviceHandle))
  | burned (now : Datetime) {c c' : ReprovisionCeremonyRecord}
      (found : (s.gcCeremonies now).reprovisionCeremonies.get? c.handle = some c)
      (active : c.terminalAtUtc = none)
      (burned : c'.handle = c.handle ∧ c'.serviceHandle = c.serviceHandle ∧
        c'.terminalAtUtc = some now)
      (same : SameCeremonies (((s.gcCeremonies now).putCeremony c').trimTombstones c.serviceHandle
        p.tombstoneCapacity) s') : Swept p s s' (some (now, some c.serviceHandle))

section Calls
variable {p : CeremonyPolicy} {s : Store} {now : Datetime}

theorem guard_some {c : Prop} [Decidable c] (h : c) : (guard c : Option Unit) = some () := if_pos h

theorem guard_none {c : Prop} [Decidable c] (h : ¬c) : (guard c : Option Unit) = none := if_neg h

theorem createReprovisionCeremony_swept (sv : OpaqueCredential) (sd : SecretDigest)
    (o : OpaqueCredential) (od : SecretDigest) (handle : OpaqueId)
    (issue : ReprovisionCeremonyIssue) :
    wp (createReprovisionCeremony sv sd o od handle issue now p.capacity p.tombstoneCapacity
        p.replaySeconds)
      (fun _ s' => Swept p s s' ((Op.createReprovisionCeremony sv sd o od handle issue now p.capacity
        p.tombstoneCapacity p.replaySeconds).sweep s))
      (fun _ s' => Swept p s s' ((Op.createReprovisionCeremony sv sd o od handle issue now p.capacity
        p.tombstoneCapacity p.replaySeconds).sweep s)) s := by
  simp only [createReprovisionCeremony, gcReprovisionCeremoniesLocked,
    trimReprovisionTombstonesLocked, wp_bind, wp_read, wp_demand, wp_require, wp_write, wp_pure]
  refine ⟨fun hpolicy => ⟨fun b hb => ⟨fun hpurpose => ⟨fun rootId hid => ⟨fun root hroot =>
    ⟨fun binding hbinding => ⟨fun hident => ?_, fun hident => ?_⟩, fun hbinding => ?_⟩,
    fun hroot => ?_⟩, fun hid => ?_⟩, fun hpurpose => ?_⟩, fun hb => ?_⟩, fun hpolicy => ?_⟩
  case refine_1 =>
    have hsweep : (Op.createReprovisionCeremony sv sd o od handle issue now p.capacity
        p.tombstoneCapacity p.replaySeconds).sweep s = some (now, s.registers binding root
          issue.handle now p.capacity p.replaySeconds) := by
      simp only [Op.sweep, guard_some hpolicy, hb, guard_some hpurpose, hid, hroot, hbinding,
        guard_some hident, Option.bind_eq_bind, Option.bind_some, Option.pure_def]
    rw [hsweep]
    unfold Store.registers
    refine ⟨fun hroom => ⟨fun hunused => ⟨fun hvalid => ?_, fun hvalid => ?_⟩, fun hunused => ?_⟩,
      fun hroom => ?_⟩
    · rw [if_pos ⟨hroom, hunused, hvalid.1.2⟩]
      exact .registered now rfl hunused (by exact_mod_cast hroom) ⟨binding, hbinding, rfl⟩ rfl
    · rw [if_neg fun hall => hvalid ⟨⟨hpolicy.2.2, hall.2.2⟩, by simp⟩]
      exact .swept now rfl
    · rw [if_neg fun hall => hunused hall.2.1]
      exact .swept now rfl
    · rw [if_neg fun hall => hroom hall.1]
      exact .swept now rfl
  all_goals
    have hsweep : (Op.createReprovisionCeremony sv sd o od handle issue now p.capacity
        p.tombstoneCapacity p.replaySeconds).sweep s = none := by
      simp_all [Op.sweep]
    rw [hsweep]
    exact .untouched rfl

theorem burnProof_swept (handle : OpaqueId) (d : SecretDigest) (sv : OpaqueCredential)
    (sd : SecretDigest) (ceremony : OpaqueCredential) (cd : SecretDigest) (session : SessionRecord)
    (recovery : RecoveryRecord) (replacement : RootCapabilityIssue) :
    wp (burnProof handle sv sd ceremony cd now p.tombstoneCapacity p.replaySeconds)
      (fun _ s' => Swept p s s' ((Op.exchangeReprovisionBootstrap handle d sv sd ceremony cd now
        session recovery replacement p.tombstoneCapacity p.replaySeconds).sweep s))
      (fun _ s' => Swept p s s' ((Op.exchangeReprovisionBootstrap handle d sv sd ceremony cd now
        session recovery replacement p.tombstoneCapacity p.replaySeconds).sweep s)) s := by
  simp only [burnProof, gcReprovisionCeremoniesLocked, burnCeremony,
    trimReprovisionTombstonesLocked, wp_bind, wp_read, wp_demand, wp_require, wp_write, wp_pure,
    wp_ite, wp_deny]
  refine ⟨fun proof hproof => ⟨fun binding hbinding => ⟨fun hident => ?_, fun hident => ?_⟩,
    fun hbinding => ?_⟩, fun hproof => ?_⟩
  case refine_1 =>
    have hsweep : (Op.exchangeReprovisionBootstrap handle d sv sd ceremony cd now session recovery
        replacement p.tombstoneCapacity p.replaySeconds).sweep s =
          some (now, s.burns binding handle ceremony.handle now) := by
      simp only [Op.sweep, hproof, hbinding, guard_some hident, Option.bind_eq_bind,
        Option.bind_some, Option.pure_def]
    rw [hsweep]
    unfold Store.burns
    refine ⟨fun proof' hproof' => ⟨fun hactive => ⟨fun record hrecord => ⟨fun rootId hid =>
      ⟨fun root hroot => ⟨fun hpurpose => ⟨fun hinst => ?_, fun hinst => ?_⟩, fun hpurpose => ?_⟩,
      fun hroot => ?_⟩, fun hid => ?_⟩, fun hrecord => ?_⟩, fun hactive => ?_⟩, fun hproof' => ?_⟩
    case refine_1 =>
      obtain ⟨rfl, hunexpired⟩ := gcCeremonies_active hproof hproof' hactive
      have hkey : proof'.handle = ceremony.handle := Table.key_of_get? hproof'
      have hservice : proof'.serviceHandle = binding.serviceHandle := hident.1
      have hfound : s.bootstraps.get? handle = some record := hrecord
      have hfound' : s.roots.get? rootId = some root := hroot
      simp only [hproof', guard_some hactive, hfound, hid, hfound',
        guard_some (And.intro hpurpose hinst), Option.bind_eq_bind, Option.bind_some,
        Option.pure_def, ← hservice]
      have hburned : ∀ s' denial, SameCeremonies (s.burned proof' now denial p.replaySeconds
          proof'.serviceHandle p.tombstoneCapacity) s' →
            Swept p s s' (some (now, some proof'.serviceHandle)) := fun s' denial hsame =>
        @Swept.burned p s s' now proof' { proof' with
          terminalAtUtc := some now, terminalDenial := some denial
          replaySeconds := p.replaySeconds } (by rwa [hkey]) hactive ⟨rfl, rfl, rfl⟩ hsame
      refine ⟨fun hexpired => absurd hexpired (not_le.mpr hunexpired), fun _ => ?_⟩
      exact wp_crashIfArmed (fun _ => hburned _ .replayed rfl) fun _ => hburned _ .replayed rfl
    all_goals
      refine cast (congrArg (fun o => Swept p s _ (some (now, o))) (Eq.symm ?_)) (.swept now rfl)
      simp_all
  all_goals
    have hsweep : (Op.exchangeReprovisionBootstrap handle d sv sd ceremony cd now session recovery
        replacement p.tombstoneCapacity p.replaySeconds).sweep s = none := by
      simp_all [Op.sweep]
    rw [hsweep]
    exact .untouched rfl

theorem Swept.same {s' s'' : Store} {o : Option (Datetime × Option OpaqueId)} (h : Swept p s s' o)
    (hsame : SameCeremonies s' s'') : Swept p s s'' o := by
  cases h with
  | untouched h => exact .untouched (Frame.trans _ _ _ h hsame)
  | swept now h => exact .swept now (Frame.trans _ _ _ h hsame)
  | registered now active unused room composed h =>
    exact .registered now active unused room composed (Frame.trans _ _ _ h hsame)
  | burned now found active burned h =>
    exact .burned now found active burned (Frame.trans _ _ _ h hsame)

theorem Op.sweep_eq_none {op : Op} (hroutine : op.IsRoutine) (hceremonies : ¬op.IsOfCeremonies) :
    op.sweep s = none := by
  cases op with
  | createReprovisionCeremony => exact absurd trivial hceremonies
  | exchangeReprovisionBootstrap => exact absurd trivial hceremonies
  | garbageCollect => exact hroutine.elim
  | _ => rfl

theorem apply_swept {op : Op} (hop : op.Follows p) : Swept p s (apply s op).2 (op.sweep s) := by
  have hwp : ∀ {α : Type} {c : Decision α} {o : Option (Datetime × Option OpaqueId)},
      wp c (fun _ s' => Swept p s s' o) (fun _ s' => Swept p s s' o) s → Swept p s (c s).2 o := by
    intro α c o h
    obtain ⟨hok, herror⟩ := wp_iff.mp h
    rcases hc : (c s).1 with e | a
    · exact herror e hc
    · exact hok a hc
  by_cases hroutine : op.IsRoutine ∧ ¬op.IsOfCeremonies
  · rw [Op.sweep_eq_none hroutine.1 hroutine.2]
    exact .untouched (apply_sameCeremonies hroutine.1 hroutine.2 s)
  cases op with
  | createReprovisionCeremony sv sd o od handle issue now active tombstones replay =>
    obtain ⟨rfl, rfl, rfl⟩ := hop
    refine hwp ?_
    rw [Op.decide, wp_bind]
    exact createReprovisionCeremony_swept sv sd o od handle issue
  | exchangeReprovisionBootstrap handle d sv sd c cd now session recovery replacement tombstones
      replay =>
    obtain ⟨rfl, rfl⟩ := hop
    refine hwp ?_
    rw [Op.decide, wp_bind, exchangeReprovisionBootstrap, wp_bind]
    refine wp_mono (burnProof_swept handle d sv sd c cd session recovery replacement) ?_
      fun _ _ h => h
    intro burned s₁ hs₁
    have hsame : SameCeremonies s₁
        (reprovision burned.1 burned.2 d now session recovery replacement s₁).2 :=
      reprovision_steady (fun _ _ => rfl) burned.1 burned.2 d session recovery replacement s₁
    exact wp_iff.mpr ⟨fun _ _ => hs₁.same hsame, fun _ _ => hs₁.same hsame⟩
  | garbageCollect now retention =>
    by_cases hretention : RetentionOk retention
    · rw [apply_garbageCollect now hretention, Op.sweep,
        guard_some (show 0 ≤ retention ∧ retention ≤ 86400 from hretention)]
      exact .swept now rfl
    · rw [apply_garbageCollect_refused now hretention, Op.sweep,
        guard_none (show ¬(0 ≤ retention ∧ retention ≤ 86400) from hretention)]
      exact .untouched rfl
  | armCrashOnce point => exact .untouched rfl
  | initializeInstallation i a p records o sv now =>
    rcases apply_initializeInstallation (s := s) i a p records o sv now with heq | ⟨-, heq⟩
    · exact .untouched (congrArg Store.reprovisionCeremonies heq)
    · exact .untouched (congrArg Store.reprovisionCeremonies heq :
        _ = (s.install i a p records o sv now).reprovisionCeremonies)
  | _ => exact absurd ⟨trivial, fun h => h⟩ hroutine

end Calls

/-! ### One service, one installation -/

/-- No two installations have one service identity. -/
def Services (s : Store) : Prop :=
  ∀ i i' b b', s.compositionBindings.get? i = some b → s.compositionBindings.get? i' = some b' →
    b.serviceHandle = b'.serviceHandle → i = i'

section Services
variable {s : Store}

theorem Services.of_same {s' : Store} (hs : Services s)
    (h : s'.compositionBindings = s.compositionBindings) : Services s' := by
  unfold Services
  rw [h]
  exact hs

theorem Services.install (hs : Services s) {i a p : OpaqueId} {records : List RootCapabilityRecord}
    {o sv : RootCapabilityIssue} (now : Datetime) (hi : Installable s i a p records o sv) :
    Services (s.install i a p records o sv now) := by
  -- the new service identity is under no installation that was there
  have hnew : ∀ j b, s.compositionBindings.get? j = some b → b.serviceHandle ≠ sv.handle := by
    intro j b hb hsame
    have hunheld := (hi.compositionHandles sv.handle (by simp)).1
    exact hunheld (.inr ⟨b, (Table.get?_eq_some.mp hb).1, .inr hsame⟩)
  intro j j' b b' hb hb' hsame
  rw [Store.install_compositionBindings, Table.get?_put] at hb hb'
  split_ifs at hb hb' with hj hj'
  · exact hj.trans hj'.symm
  · cases hb
    exact absurd hsame.symm (hnew j' b' hb')
  · cases hb'
    exact absurd hsame (hnew j b hb)
  · exact hs j j' b b' hb hb' hsame

theorem apply_services (s : Store) (op : Op) (hs : Services s) : Services (apply s op).2 := by
  by_cases hroutine : op.IsRoutine
  · exact hs.of_same (apply_steady hroutine s).compositions
  · cases op with
    | armCrashOnce point => exact hs.of_same rfl
    | initializeInstallation i a p records o sv now =>
      rcases apply_initializeInstallation (s := s) i a p records o sv now with heq | ⟨hi, heq⟩
      · exact hs.of_same (congrArg _ heq)
      · rw [heq]
        exact hs.install now hi
    | garbageCollect now n =>
      by_cases hn : RetentionOk n
      · rw [apply_garbageCollect now hn]
        exact hs.of_same rfl
      · rw [apply_garbageCollect_refused now hn]
        exact hs
    | _ => exact absurd trivial hroutine

/-- The active ceremonies of a service are all of its one installation. -/
theorem Services.activeCeremonies_eq (hs : Services s) (hbound : Bound s) {i h : OpaqueId}
    (hi : ∃ binding, s.compositionBindings.get? i = some binding ∧ binding.serviceHandle = h) :
    s.activeCeremonies h i = s.active h := by
  obtain ⟨binding, hbinding, rfl⟩ := hi
  refine List.countP_congr fun c hc => ?_
  obtain ⟨b, hb, hservice⟩ := hbound.ceremonies c.handle c (Table.mem_rows.mp hc)
  simp only [Bool.and_eq_true, decide_eq_true_eq]
  constructor
  · rintro ⟨⟨h, -⟩, hactive⟩
    exact ⟨h, hactive⟩
  · rintro ⟨h, hactive⟩
    exact ⟨⟨h, hs _ _ _ _ hb hbinding (hservice.trans h)⟩, hactive⟩

end Services

/-! ### What one call leaves -/

section Step
variable {p : CeremonyPolicy} {s s' : Store} {now : Datetime} {k : OpaqueId}

theorem SameCeremonies.tombstones (h : SameCeremonies s s') : s'.tombstones k = s.tombstones k := by
  unfold Store.tombstones
  rw [h]

theorem SameCeremonies.active (h : SameCeremonies s s') : s'.active k = s.active k := by
  unfold Store.active
  rw [h]

theorem Store.length_tombstones_put_new {c : ReprovisionCeremonyRecord}
    (hactive : c.terminalAtUtc = none) (hnew : s.reprovisionCeremonies.get? c.handle = none) :
    ((s.putCeremony c).tombstones k).length = (s.tombstones k).length := by
  rw [Store.length_tombstones, Store.length_tombstones, Store.putCeremony_reprovisionCeremonies,
    Table.count_put_new _ hnew, if_neg (by simp [hactive]), Nat.add_zero]

theorem Store.length_tombstones_burn {c c' : ReprovisionCeremonyRecord}
    (hfound : s.reprovisionCeremonies.get? c.handle = some c) (hactive : c.terminalAtUtc = none)
    (hhandle : c'.handle = c.handle) (hne : c'.serviceHandle ≠ k) :
    ((s.putCeremony c').tombstones k).length = (s.tombstones k).length := by
  rw [Store.length_tombstones, Store.length_tombstones, Store.putCeremony_reprovisionCeremonies,
    Table.count_put, if_neg (by simp [hne]), Nat.add_zero, List.countP_filter]
  refine List.countP_congr fun a ha => ?_
  by_cases hkey : a.handle = c'.handle
  · -- the row under the handle is the active one
    have hsame : a = c := by
      have hrow := Table.mem_rows.mp ha
      rw [hkey, hhandle, hfound] at hrow
      exact (Option.some.inj hrow).symm
    simp [hsame, hactive]
  · simp [hkey]

theorem Swept.tombstones_untrimmed {trimmed : Option OpaqueId}
    (h : Swept p s s' (some (now, trimmed))) (hk : trimmed ≠ some k) :
    (s'.tombstones k).length = s.entombed k now := by
  rw [← Store.length_tombstones_gc]
  cases h with
  | swept now same => rw [same.tombstones]
  | registered now active unused room composed same =>
    rw [same.tombstones, Store.tombstones_trim_of_ne _ _ _ fun h => hk (congrArg some h.symm),
      Store.length_tombstones_put_new active unused]
  | burned now found active burned same =>
    rw [same.tombstones, Store.tombstones_trim_of_ne _ _ _ fun h => hk (congrArg some h.symm),
      Store.length_tombstones_burn found active burned.1]
    rw [burned.2.1]
    exact fun h => hk (congrArg some h)

theorem Swept.tombstones_trimmed (h : Swept p s s' (some (now, some k))) :
    (s'.tombstones k).length ≤ p.tombstoneCapacity := by
  cases h with
  | registered now active unused room composed same =>
    rw [same.tombstones, Store.length_trim]
    exact min_le_right _ _
  | burned now found active burned same =>
    rw [same.tombstones, Store.length_trim]
    exact min_le_right _ _

theorem Swept.active_le {o : Option (Datetime × Option OpaqueId)} (h : Swept p s s' o)
    (hs : Services s) (hbound : Bound s) (hactive : s.active k ≤ p.capacity) :
    s'.active k ≤ p.capacity := by
  have hgc : ∀ now, (s.gcCeremonies now).active k ≤ p.capacity :=
    fun now => (s.active_gc_le k now).trans hactive
  cases h with
  | untouched same =>
    rw [same.active]
    exact hactive
  | swept now same =>
    rw [same.active]
    exact hgc now
  | @registered now c active unused room composed same =>
    rw [same.active]
    refine (Store.active_trim_le _ _ _ k).trans ?_
    rw [Store.active, Store.putCeremony_reprovisionCeremonies, Table.count_put_new _ unused]
    have hswept : Bound (s.gcCeremonies now) :=
      @Move.bound (fun _ => False) False s _ (.gcCeremonies s now) hbound
    rw [@Services.activeCeremonies_eq (s.gcCeremonies now) (hs.of_same rfl) hswept _ _ composed]
      at room
    split_ifs with hservice
    · have hk : c.serviceHandle = k := by simpa [active] using hservice
      subst hk
      exact room
    · exact hgc now
  | @burned now c c' found active burned same =>
    rw [same.active]
    refine (Store.active_trim_le _ _ _ k).trans ?_
    rw [Store.active, Store.putCeremony_reprovisionCeremonies, Table.count_put,
      if_neg (by simp [burned.2.2])]
    exact (Table.countP_filter_ne_le _ _ _).trans (hgc now)

/-- What a call at `now` makes of a ceremony: the sweep may expire it, or its proof is burned. -/
def ReprovisionCeremonyRecord.Becomes (c : ReprovisionCeremonyRecord) (now : Datetime)
    (c' : ReprovisionCeremonyRecord) : Prop :=
  c' = c.expire now ∨ c.terminalAtUtc = none ∧ c'.handle = c.handle ∧
    c'.serviceHandle = c.serviceHandle ∧ c'.terminalAtUtc = some now

theorem SameCeremonies.oldestBeyond (h : SameCeremonies s s') {capacity : Nat}
    {c : ReprovisionCeremonyRecord} (hc : OldestBeyond capacity s c) : OldestBeyond capacity s' c := by
  unfold OldestBeyond
  rw [h.tombstones]
  exact hc

theorem Store.get?_gc {c : ReprovisionCeremonyRecord} (hc : c ∈ s.reprovisionCeremonies.rows)
    (hkept : (c.expire now).forgotten now = false) :
    (s.gcCeremonies now).reprovisionCeremonies.get? c.handle = some (c.expire now) := by
  rw [Store.gcCeremonies_reprovisionCeremonies, Table.get?_filter, Table.get?_map,
    Table.mem_rows.mp hc, Option.map_some, Option.filter_some, hkept]
  rfl

/-- A row that stays in its place when another is written, and is then trimmed. -/
theorem Store.put_trim_drops {c c₀ : ReprovisionCeremonyRecord} {capacity : Nat}
    (hc : s.reprovisionCeremonies.get? c.handle = some c) (hne : c.handle ≠ c₀.handle)
    (hgone : ((s.putCeremony c₀).trimTombstones k capacity).reprovisionCeremonies.get? c.handle =
      none) : OldestBeyond capacity ((s.putCeremony c₀).trimTombstones k capacity) c := by
  refine (Store.trim_drops _ k capacity (Table.mem_rows.mpr ?_) hgone).2.2
  rw [Store.putCeremony_reprovisionCeremonies, Table.get?_put_of_ne _ hne]
  exact hc

/-- A ceremony that a call drops is past its replay horizon, or is the oldest tombstone beyond the
capacity. -/
theorem Swept.drops {o : Option (Datetime × Option OpaqueId)} (h : Swept p s s' o)
    {c : ReprovisionCeremonyRecord} (hc : c ∈ s.reprovisionCeremonies.rows)
    (hgone : s'.reprovisionCeremonies.get? c.handle = none) :
    ∃ now trimmed, o = some (now, trimmed) ∧ ((c.expire now).forgotten now = true ∨
      ∃ c', c.Becomes now c' ∧ OldestBeyond p.tombstoneCapacity s' c') := by
  have hhandle : ∀ now, (c.expire now).handle = c.handle := fun now => c.handle_expire now
  cases h with
  | untouched same =>
    rw [same, Table.mem_rows.mp hc] at hgone
    cases hgone
  | swept now same =>
    refine ⟨now, none, rfl, .inl ?_⟩
    by_contra hkept
    rw [same, Store.get?_gc hc (Bool.eq_false_iff.mpr hkept)] at hgone
    cases hgone
  | @registered now c₀ active unused room composed same =>
    refine ⟨now, _, rfl, or_iff_not_imp_left.mpr fun hkept => ⟨c.expire now, .inl rfl, ?_⟩⟩
    have hfound := Store.get?_gc hc (Bool.eq_false_iff.mpr hkept)
    rw [same] at hgone
    refine same.oldestBeyond (Store.put_trim_drops ?_ ?_ ?_)
    · rw [hhandle]
      exact hfound
    · rw [hhandle]
      intro heq
      rw [heq, unused] at hfound
      cases hfound
    · rw [hhandle]
      exact hgone
  | @burned now c₀ c₁ found active burned same =>
    refine ⟨now, _, rfl, or_iff_not_imp_left.mpr fun hkept => ?_⟩
    have hfound := Store.get?_gc hc (Bool.eq_false_iff.mpr hkept)
    rw [same] at hgone
    by_cases hsame : c.handle = c₀.handle
    · -- the proof that is burned
      rw [hsame, found] at hfound
      have hactive : (c.expire now).terminalAtUtc = none := by
        rw [← Option.some.inj hfound]
        exact active
      have hc₀ : c₀ = c := (Option.some.inj hfound).trans
        (ReprovisionCeremonyRecord.active_of_expire hactive)
      subst hc₀
      refine ⟨c₁, .inr ⟨active, burned.1, burned.2.1, burned.2.2⟩, same.oldestBeyond ?_⟩
      rw [← burned.1] at hgone
      refine (Store.trim_drops _ _ _ (Table.mem_rows.mpr ?_) hgone).2.2
      exact Table.get?_put_self _ _
    · refine ⟨c.expire now, .inl rfl, same.oldestBeyond (Store.put_trim_drops ?_ ?_ ?_)⟩
      · rw [hhandle]
        exact hfound
      · rw [hhandle, burned.1]
        exact hsame
      · rw [hhandle]
        exact hgone

end Step

/-! ### Runs -/

/-- The bounds of the policy on what a service keeps. -/
def WithinPolicy (p : CeremonyPolicy) (s : Store) : Prop :=
  ∀ k, s.active k ≤ p.capacity ∧ (s.tombstones k).length ≤ p.tombstoneCapacity

/-- The call drops only ceremonies past their replay horizon, and the oldest tombstones beyond the
capacity. -/
def DropsOldest (p : CeremonyPolicy) (s : Store) (op : Op) : Prop :=
  ∀ c ∈ s.reprovisionCeremonies.rows,
    (apply s op).2.reprovisionCeremonies.get? c.handle = none →
      ∃ now, op.time? = some now ∧ ((c.expire now).forgotten now = true ∨
        ∃ c', c.Becomes now c' ∧ OldestBeyond p.tombstoneCapacity (apply s op).2 c')

/-- A sweep leaves no service that is not trimmed next with more tombstones than its capacity. -/
def SweepsWithin (p : CeremonyPolicy) (s : Store) (op : Op) : Prop :=
  ∀ sweep ∈ op.sweep s, ∀ c ∈ s.reprovisionCeremonies.rows, sweep.2 ≠ some c.serviceHandle →
    s.entombed c.serviceHandle sweep.1 ≤ p.tombstoneCapacity

instance (p : CeremonyPolicy) (s : Store) (op : Op) : Decidable (SweepsWithin p s op) :=
  inferInstanceAs (Decidable (∀ sweep ∈ op.sweep s, _))

section Runs
variable {p : CeremonyPolicy} {s : Store} {op : Op}

theorem Op.time_of_sweep {now : Datetime} {trimmed : Option OpaqueId}
    (h : op.sweep s = some (now, trimmed)) : op.time? = some now := by
  cases op with
  | createReprovisionCeremony sv sd o od handle issue now' active tombstones replay =>
    simp only [Op.sweep, Option.bind_eq_bind, Option.bind_eq_some_iff, Option.pure_def,
      Option.some.injEq, Prod.mk.injEq] at h
    obtain ⟨-, -, -, -, -, -, -, -, -, -, -, -, -, -, rfl, -⟩ := h
    rfl
  | exchangeReprovisionBootstrap handle d sv sd c cd now' session recovery replacement t r =>
    simp only [Op.sweep, Option.bind_eq_bind, Option.bind_eq_some_iff, Option.pure_def,
      Option.some.injEq, Prod.mk.injEq] at h
    obtain ⟨-, -, -, -, -, -, rfl, -⟩ := h
    rfl
  | garbageCollect now' n =>
    simp only [Op.sweep, Option.bind_eq_bind, Option.bind_eq_some_iff, Option.pure_def,
      Option.some.injEq, Prod.mk.injEq] at h
    obtain ⟨-, -, rfl, -⟩ := h
    rfl
  | _ => cases h

theorem apply_dropsOldest (hop : op.Follows p) : DropsOldest p s op := by
  intro c hc hgone
  obtain ⟨now, trimmed, hsweep, hcase⟩ := (apply_swept hop).drops hc hgone
  exact ⟨now, Op.time_of_sweep hsweep, hcase⟩

theorem Store.entombed_eq_zero {k : OpaqueId} (now : Datetime)
    (h : ∀ c ∈ s.reprovisionCeremonies.rows, c.serviceHandle ≠ k) : s.entombed k now = 0 :=
  List.countP_eq_zero.mpr fun c hc => by simp [h c hc]

theorem apply_tombstones (hop : op.Follows p) (hs : WithinPolicy p s) :
    (∀ k, ((apply s op).2.tombstones k).length ≤ p.tombstoneCapacity) ↔ SweepsWithin p s op := by
  have hswept := apply_swept (s := s) hop
  constructor
  · rintro hall ⟨now, trimmed⟩ hsweep c - htrimmed
    rw [Option.mem_def.mp hsweep] at hswept
    rw [← hswept.tombstones_untrimmed htrimmed]
    exact hall _
  · intro hwithin k
    rcases hsweep : op.sweep s with _ | ⟨now, trimmed⟩
    · rw [hsweep] at hswept
      cases hswept with
      | untouched same =>
        rw [same.tombstones]
        exact (hs k).2
    · rw [hsweep] at hswept
      by_cases htrimmed : trimmed = some k
      · subst htrimmed
        exact hswept.tombstones_trimmed
      · rw [hswept.tombstones_untrimmed htrimmed]
        by_cases hrow : ∃ c ∈ s.reprovisionCeremonies.rows, c.serviceHandle = k
        · obtain ⟨c, hc, rfl⟩ := hrow
          exact hwithin _ hsweep c hc htrimmed
        · rw [Store.entombed_eq_zero now fun c hc hk => hrow ⟨c, hc, hk⟩]
          exact Nat.zero_le _

/-- What every state of a run has, whatever the sweeps. -/
structure Composed (p : CeremonyPolicy) (s : Store) : Prop where
  bound : Bound s
  services : Services s
  active : ∀ k, s.active k ≤ p.capacity

theorem run_composed {ops : List Op} (hops : ∀ op ∈ ops, op.Follows p) :
    Composed p (run apply Store.empty ops) := by
  induction ops using List.reverseRecOn with
  | nil => exact ⟨bound_empty, nofun, fun _ => Nat.zero_le _⟩
  | append_singleton ops op ih =>
    have hpre := ih fun op hop => hops op (List.mem_append_left _ hop)
    have hop : op.Follows p := hops op (by simp)
    rw [run_append, run_cons, run_nil]
    exact ⟨apply_bound _ op hpre.bound, apply_services _ op hpre.services, fun k =>
      (apply_swept hop).active_le hpre.services hpre.bound (hpre.active k)⟩

end Runs

/-- Under a fixed policy, every state of a run is within the bounds of the policy and every call drops
the oldest only, exactly when every sweep of the run stays within the capacity for tombstones. -/
theorem ceremonies_retained {p : CeremonyPolicy} {ops : List Op} (hops : ∀ op ∈ ops, op.Follows p) :
    ((∀ pre post, ops = pre ++ post → WithinPolicy p (run apply Store.empty pre)) ∧
      ∀ pre op post, ops = pre ++ op :: post → DropsOldest p (run apply Store.empty pre) op) ↔
    ∀ pre op post, ops = pre ++ op :: post → SweepsWithin p (run apply Store.empty pre) op := by
  constructor
  · rintro ⟨hall, -⟩ pre op post rfl
    have hop : op.Follows p := hops op (by simp)
    refine (apply_tombstones hop (hall pre (op :: post) rfl)).mp fun k => ?_
    have hafter := hall (pre ++ [op]) post (by simp)
    rw [run_append, run_cons, run_nil] at hafter
    exact (hafter k).2
  · intro hwithin
    refine ⟨fun pre post heq => ?_, fun pre op post heq => ?_⟩
    · induction pre using List.reverseRecOn generalizing post with
      | nil => exact fun _ => ⟨Nat.zero_le _, Nat.zero_le _⟩
      | append_singleton pre op ih =>
        rw [List.append_assoc] at heq
        have hop : op.Follows p := hops op (by simp [heq])
        have hpre := ih (op :: post) heq
        have hcomposed : Composed p (run apply Store.empty (pre ++ [op])) :=
          run_composed fun op' hop' => hops op' (by
            rw [heq]
            rcases List.mem_append.mp hop' with h | h
            · exact List.mem_append_left _ h
            · exact List.mem_append_right _ (List.mem_append_left _ h))
        refine fun k => ⟨hcomposed.active k, ?_⟩
        rw [run_append, run_cons, run_nil]
        exact (apply_tombstones hop hpre).mpr (hwithin pre op post heq) k
    · exact apply_dropsOldest (hops op (by simp [heq]))

namespace Sample

def policy : CeremonyPolicy := ⟨2, 1, 300, by decide, by decide, fiveMinutes_le_day⟩

/-- A ceremony under the policy, which expires at 500. -/
def ceremonyOf (n : UInt8) : Op :=
  .createReprovisionCeremony (credential 15) (credential 15).digest (credential 14)
    (credential 14).digest (id 61) ⟨id n, (credential n).digest, time 500⟩ (time 80) 2 1 300

/-- The installation with a bootstrap, `61`, from its reprovision root. -/
def reopening : List Op :=
  opening ++ [.createReprovisionBootstrap (credential 13) (digest 13)
    ⟨id 61, digest 61, time 0, time 600, 3⟩ (time 70)]

/-- Two ceremonies expire in one collection, and the one tombstone of the policy becomes two. -/
theorem collection_overfills :
    (∀ op ∈ reopening ++ [ceremonyOf 71, ceremonyOf 72, .garbageCollect (time 550) 0],
      op.Follows policy) ∧
    ¬WithinPolicy policy (run apply Store.empty
      (reopening ++ [ceremonyOf 71, ceremonyOf 72, .garbageCollect (time 550) 0])) := by
  refine ⟨by decide +kernel, fun hwithin => absurd (hwithin (id 15)).2 ?_⟩
  decide +kernel

theorem ceremonies_retained_once :
    (∀ op ∈ reopening ++ [ceremonyOf 71, .garbageCollect (time 550) 0], op.Follows policy) ∧
    (((∀ pre post, reopening ++ [ceremonyOf 71, .garbageCollect (time 550) 0] = pre ++ post →
        WithinPolicy policy (run apply Store.empty pre)) ∧
      ∀ pre op post, reopening ++ [ceremonyOf 71, .garbageCollect (time 550) 0] = pre ++ op :: post →
        DropsOldest policy (run apply Store.empty pre) op) ↔
    ∀ pre op post, reopening ++ [ceremonyOf 71, .garbageCollect (time 550) 0] = pre ++ op :: post →
      SweepsWithin policy (run apply Store.empty pre) op) := by
  have hops : ∀ op ∈ reopening ++ [ceremonyOf 71, .garbageCollect (time 550) 0],
      op.Follows policy := by decide +kernel
  exact ⟨hops, ceremonies_retained hops⟩

end Sample

end MyCogni.Auth
