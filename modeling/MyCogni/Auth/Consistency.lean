import MyCogni.Auth.Coherence
import MyCogni.Auth.Epoch
import MyCogni.Auth.Roots
import MyCogni.Auth.Snapshot
import MyCogni.Auth.Steady

/-! The conditions between records, along every run that issues no handle twice. Each call but
the collection of old records preserves them. A collection does exactly when it removes no record
that one it keeps still refers to. -/

namespace MyCogni.Auth

/-- References that are still needed find their records. -/
structure Retained (s : Store) : Prop where
  bootstraps : Table.All (fun b => ∀ h ∈ b.rootCapabilityId, (s.roots.get? h).isSome) s.bootstraps
  stepUps : Table.All (fun c => c.consumed = false → (s.sessions.get? c.sessionId).isSome) s.stepUps
  ceremonies : Table.All (fun c => c.terminalAtUtc = none →
    (s.bootstraps.get? c.bootstrapHandle).isSome) s.reprovisionCeremonies

def CompositionBindingRecord.identities (c : CompositionBindingRecord) : List OpaqueId :=
  [c.operatorHandle, c.serviceHandle]

/-- The identities of the compositions were issued, and stand for nothing else. -/
structure Apart (used : List OpaqueId) (s : Store) : Prop where
  issued : ∀ i c, s.compositionBindings.get? i = some c → ∀ h ∈ c.identities, h ∈ used
  notRoot : ∀ i c, s.compositionBindings.get? i = some c →
    ∀ h ∈ c.identities, s.roots.get? h = none
  distinct : ∀ i c, s.compositionBindings.get? i = some c → c.identities.Nodup
  disjoint : ∀ i c i' c', s.compositionBindings.get? i = some c →
    s.compositionBindings.get? i' = some c' → i ≠ i' → c.identities.Disjoint c'.identities

variable {s s' : Store} {op : Op} {used : List OpaqueId}

/-! ### From lookups to the checks of a snapshot -/

theorem OfActor.represents {a p : OpaqueId} (h : OfActor s a p) : s.Represents a p := by
  obtain ⟨actor, hactor, rfl⟩ := h
  rw [Store.Represents, hactor]
  rfl

theorem InEpoch.reached {a : OpaqueId} {n : Nat} {live : Prop} (h : InEpoch s a n live) :
    s.Reached a n := by
  obtain ⟨actor, hactor, hle, -⟩ := h
  rintro actor' hactor'
  obtain rfl : actor = actor' := Option.some.inj (hactor.symm.trans hactor')
  exact hle

theorem Apart.nodup (h : Apart used s) : s.authorityHandles.Nodup := by
  have hget : ∀ c ∈ s.compositionBindings.rows,
      s.compositionBindings.get? c.installationId = some c := fun c => Table.mem_rows.mp
  have hidentities : (s.compositionBindings.rows.flatMap (·.identities)).Nodup := by
    refine List.nodup_flatMap.mpr ⟨fun c hc => h.distinct _ c (hget c hc), ?_⟩
    refine s.compositionBindings.sorted.imp_of_mem fun {c c'} hc hc' hlt => ?_
    exact h.disjoint _ c _ c' (hget c hc) (hget c' hc') hlt.ne
  refine List.nodup_append'.mpr ⟨s.roots.nodup_keys, hidentities, ?_⟩
  intro k hroot hidentity
  obtain ⟨r, hr, rfl⟩ := List.mem_map.mp hroot
  obtain ⟨c, hc, hmem⟩ := List.mem_flatMap.mp hidentity
  have hnone := h.notRoot _ c (hget c hc) r.handle hmem
  rw [Table.mem_rows.mp hr] at hnone
  exact nomatch hnone

theorem Sole.pairwise (h : Sole s) : s.roots.rows.Pairwise Exclusive := by
  refine s.roots.sorted.imp_of_mem fun {r r'} hr hr' hlt => ?_
  intro hlive hlive' hinst hpurpose
  exact hlt.ne (h _ _ r r' (Table.mem_rows.mp hr) (Table.mem_rows.mp hr') hlive hlive' hinst hpurpose)

theorem SessionLink.agrees (hb : Bound s) {h a p : OpaqueId} {n : Nat}
    (hl : SessionLink used s h a n) (hactor : OfActor s a p) : s.SessionAgrees h a p n := by
  intro r hr
  obtain ⟨ha, hn⟩ := hl.2 r hr
  have hr' : OfActor s r.actorId r.representedProfileId := hb.sessions h r hr
  rw [ha] at hr'
  exact ⟨ha.symm, hactor.profile_eq hr', hn.symm⟩

section Checks
variable (hc : Coherent used s) (hr : Retained s)
include hc hr

theorem Retained.bootstrapBound {b : BootstrapRecord} (hb : b ∈ s.bootstraps.rows) :
    s.BootstrapBound b := by
  have hget := Table.mem_rows.mp hb
  have hactor : OfActor s b.actorId b.representedProfileId := hc.bound.bootstraps _ b hget
  refine ⟨hactor.represents, fun rootId hid => ?_⟩
  obtain ⟨root, hroot⟩ := Option.isSome_iff_exists.mp (hr.bootstraps _ b hget rootId hid)
  obtain ⟨ha, hpurpose⟩ := (hc.linked.bootstraps _ b hget rootId hid).2 root hroot
  have hroot' : OfActor s root.actorId root.representedProfileId := (hc.bound.roots _ root hroot).1
  rw [ha] at hroot'
  exact ⟨root, hroot, hpurpose, ha.symm, hactor.profile_eq hroot'⟩

theorem Retained.ceremonyBound {c : ReprovisionCeremonyRecord}
    (hmem : c ∈ s.reprovisionCeremonies.rows) : s.CeremonyBound c := by
  have hget := Table.mem_rows.mp hmem
  obtain ⟨binding, hbinding, hservice⟩ := hc.bound.ceremonies _ c hget
  refine ⟨?_, fun hnone hactive => ?_, fun b hb => ?_⟩
  · rw [hbinding, Option.map_some, hservice]
  · have hsome := hr.ceremonies _ c hget hactive
    rw [hnone] at hsome
    exact nomatch hsome
  · obtain ⟨hpurpose, rootId, -, hid, hinst⟩ := (hc.linked.ceremonies _ c hget).2 b hb
    have hbget : s.bootstraps.get? b.handle = some b := Table.get?_key hb
    obtain ⟨-, hroots⟩ := hr.bootstrapBound hc (Table.mem_rows.mpr hbget)
    obtain ⟨root, hroot, hpurpose', ha, hp⟩ := hroots rootId hid
    refine ⟨hpurpose, rootId, hid, root, hroot, ?_, hinst root hroot, ha.symm, hp.symm⟩
    exact Option.some.inj (hpurpose'.symm.trans hpurpose)

end Checks

theorem Coherent.consistent (hc : Coherent used s) (hd : Dated s) (hr : Retained s)
    (hsole : Sole s) (ha : Apart used s) : Consistent s where
  actorsOnce := by
    have hinj : s.installationActors.rows.Pairwise fun p p' => p.2 ≠ p'.2 := by
      refine s.installationActors.sorted.imp_of_mem fun {p p'} hp hp' hlt hsame => ?_
      refine hlt.ne (hc.bound.single p.1 p'.1 p.2 (Table.mem_rows.mp hp) ?_)
      rw [hsame]
      exact Table.mem_rows.mp hp'
    exact List.nodup_iff_pairwise_ne.mpr (List.pairwise_map.mpr hinj)
  installed p hp := by
    have hget : OfInstallation s p.1 p.2 := Table.mem_rows.mp hp
    exact ⟨hc.bound.known p.1 p.2 hget, (hc.bound.composed p.1).mpr ⟨p.2, hget⟩⟩
  covered actor hactor := by
    have hsome : (s.actors.get? actor.actorId).isSome := by rw [Table.mem_rows.mp hactor]; rfl
    obtain ⟨i, hi⟩ := hc.bound.covered _ hsome
    exact List.mem_map.mpr ⟨(i, actor.actorId), (Table.get?_eq_some.mp hi).1, rfl⟩
  composed c hmem := by
    have hsome : (s.compositionBindings.get? c.installationId).isSome := by
      rw [Table.mem_rows.mp hmem]; rfl
    obtain ⟨a, hi⟩ := (hc.bound.composed _).mp hsome
    exact Option.isSome_iff_exists.mpr ⟨_, hi⟩
  roots r hmem := by
    obtain ⟨hactor, hinst⟩ := hc.bound.roots _ r (Table.mem_rows.mp hmem)
    exact ⟨hinst, hactor.represents⟩
  activeRoots := hsole.pairwise
  authorities := ha.nodup
  bootstraps _ := hr.bootstrapBound hc
  sessions r hmem := by
    have hget := Table.mem_rows.mp hmem
    exact ⟨(hc.bound.sessions _ r hget).represents, (hd.sessions _ r hget).reached⟩
  recoveries r hmem := by
    have hget := Table.mem_rows.mp hmem
    exact ⟨(hc.bound.recoveries _ r hget).represents, (hd.recoveries _ r hget).reached⟩
  stepUps c hmem := by
    have hget := Table.mem_rows.mp hmem
    have hactor : OfActor s c.actorId c.representedProfileId := hc.bound.stepUps _ c hget
    refine ⟨hactor.represents, (hd.stepUps _ c hget).reached, fun hnone => ?_,
      (hc.linked.stepUps _ c hget).agrees hc.bound hactor⟩
    cases hlive : c.consumed with
    | true => rfl
    | false =>
      have hsome := hr.stepUps _ c hget hlive
      rw [hnone] at hsome
      exact nomatch hsome
  grants p hmem := by
    have hget := Table.mem_rows.mp hmem
    have hactor : OfActor s p.grant.actorId p.grant.representedProfileId := hc.bound.grants _ p hget
    obtain ⟨hsession, hstep⟩ := hc.linked.grants _ p hget
    refine ⟨hactor.represents, (hd.grants _ p hget).reached, hsession.agrees hc.bound hactor,
      fun c hc' => ?_⟩
    rw [← (hstep c hc').1]
    exact ⟨rfl, rfl, rfl, rfl, rfl, rfl⟩
  ceremonies _ := hr.ceremonyBound hc

/-! ### Calls -/

/-- The references of a new record find their records in the store that issues it. -/
theorem Authorizes.root_found {b : BootstrapRecord} (h : Authorizes s op (.bootstrap b))
    {rootId : OpaqueId} (hid : b.rootCapabilityId = some rootId) : (s.roots.get? rootId).isSome := by
  cases op <;> try exact h.elim
  case createRootBootstrap =>
    obtain ⟨rfl, root, actor, -, -, hrooted⟩ := h
    obtain rfl := Option.some.inj (hrooted.rootId.symm.trans hid)
    exact Option.isSome_iff_exists.mpr ⟨root, hrooted.found⟩
  case createAuthenticatedBootstrap =>
    obtain ⟨rfl, hnone, -⟩ := h
    exact nomatch hnone.symm.trans hid
  case createReprovisionBootstrap =>
    obtain ⟨root, actor, hlive, rfl⟩ := h
    obtain rfl : root.handle = rootId := Option.some.inj hid
    exact Option.isSome_iff_exists.mpr ⟨root, Table.get?_key hlive.found⟩

theorem Authorizes.session_found {c : StepUpRecord} (h : Authorizes s op (.stepUp c)) :
    (s.sessions.get? c.sessionId).isSome := by
  cases op <;> try exact h.elim
  case createStepUp =>
    obtain ⟨r, actor, hlive, -, -, rfl⟩ := h
    exact Option.isSome_iff_exists.mpr ⟨r, Table.get?_key hlive.found⟩

theorem Authorizes.bootstrap_found {c : ReprovisionCeremonyRecord}
    (h : Authorizes s op (.ceremony c)) : (s.bootstraps.get? c.bootstrapHandle).isSome := by
  cases op <;> try exact h.elim
  case createReprovisionCeremony =>
    obtain ⟨-, -, -, b, root, binding, hconfirmed, -⟩ := h
    exact Option.isSome_iff_exists.mpr ⟨b, hconfirmed.foundBootstrap⟩

/-- A call that removes no root, bootstrap or session. -/
theorem Retained.apply (hs : Retained s)
    (hroots : ∀ k, (s.roots.get? k).isSome → ((apply s op).2.roots.get? k).isSome)
    (hbootstraps : ∀ k, (s.bootstraps.get? k).isSome →
      ((apply s op).2.bootstraps.get? k).isSome)
    (hsessions : ∀ k, (s.sessions.get? k).isSome → ((apply s op).2.sessions.get? k).isSome) :
    Retained (apply s op).2 where
  bootstraps k b' hb' h hid := by
    obtain ⟨b, ⟨u, -, rfl⟩, -, hb | hb⟩ := (apply_descent s op).bootstraps k b' hb'
    · exact hroots h (hs.bootstraps k b hb h hid)
    · exact hroots h (hb.1.root_found hid)
  stepUps k c' hc' hlive := by
    obtain ⟨c, ⟨u, hu, rfl⟩, -, hc | hc⟩ := (apply_descent s op).stepUps k c' hc'
    · refine hsessions _ (hs.stepUps k c hc ?_)
      cases hc' : c.consumed with
      | false => rfl
      | true =>
        have hspent : u.consumed = true := hu.spent hc'
        exact nomatch hspent.symm.trans hlive
    · exact hsessions _ hc.1.session_found
  ceremonies k c' hc' hactive := by
    obtain ⟨c, hages, -, hc⟩ := (apply_descent s op).ceremonies k c' hc'
    rcases hages with rfl | ⟨-, t, d, n, rfl⟩
    · rcases hc with hc | ⟨-, hnew⟩
      · exact hbootstraps _ (hs.ceremonies k c' hc hactive)
      · exact hbootstraps _ hnew.1.bootstrap_found
    · exact nomatch hactive

theorem Apart.mono (h : Apart used s) {more : List OpaqueId} (hmore : ∀ k ∈ used, k ∈ more)
    (hcomp : s'.compositionBindings = s.compositionBindings)
    (hroots : ∀ k ∈ used, s.roots.get? k = none → s'.roots.get? k = none) : Apart more s' where
  issued i c hc k hk := by
    rw [hcomp] at hc
    exact hmore k (h.issued i c hc k hk)
  notRoot i c hc k hk := by
    rw [hcomp] at hc
    exact hroots k (h.issued i c hc k hk) (h.notRoot i c hc k hk)
  distinct i c hc := by
    rw [hcomp] at hc
    exact h.distinct i c hc
  disjoint i c i' c' hc hc' := by
    rw [hcomp] at hc hc'
    exact h.disjoint i c i' c' hc hc'

theorem root_absent (hfresh : ∀ h ∈ op.issues, h ∉ used) {k : OpaqueId} (hk : k ∈ used)
    (h : s.roots.get? k = none) : (apply s op).2.roots.get? k = none := by
  cases hget : (apply s op).2.roots.get? k with
  | none => rfl
  | some r' =>
    obtain ⟨r, hr, -⟩ := root_kept (fun hmem => hfresh k hmem hk) hget
    exact nomatch h.symm.trans hr

theorem Apart.install (h : Apart used s) {i a p : OpaqueId} {records : List RootCapabilityRecord}
    {o sv : RootCapabilityIssue} (now : Datetime) (hi : Installable s i a p records o sv) :
    Apart (used ++ (records.map (·.handle) ++ [o.handle, sv.handle]))
      (s.install i a p records o sv now) := by
  have hcases : ∀ j c, (s.install i a p records o sv now).compositionBindings.get? j = some c →
      j = i ∧ c.identities = [o.handle, sv.handle] ∨
        j ≠ i ∧ s.compositionBindings.get? j = some c := by
    intro j c hc
    rw [Store.install_compositionBindings, Table.get?_put] at hc
    split_ifs at hc with hj
    · obtain rfl := Option.some.inj hc
      exact Or.inl ⟨hj, rfl⟩
    · exact Or.inr ⟨hj, hc⟩
  -- An identity in the store is none of the new handles.
  have hheld : ∀ {j c}, s.compositionBindings.get? j = some c → ∀ k ∈ c.identities,
      s.HoldsAuthority k := by
    intro j c hc k hk
    refine Or.inr ⟨c, (Table.get?_eq_some.mp hc).1, ?_⟩
    simpa [CompositionBindingRecord.identities, eq_comm] using hk
  have hdisjoint : ∀ {j c}, s.compositionBindings.get? j = some c →
      c.identities.Disjoint [o.handle, sv.handle] :=
    fun hc k hk hmem => (hi.compositionHandles k hmem).1 (hheld hc k hk)
  have hroots : ∀ {k}, k ∉ records.map (·.handle) → s.roots.get? k = none →
      (s.install i a p records o sv now).roots.get? k = none :=
    fun hk hnone => (Table.get?_foldl_put_of_notMem records s.roots hk).trans hnone
  refine ⟨fun j c hc k hk => ?_, fun j c hc k hk => ?_, fun j c hc => ?_,
    fun j c j' c' hc hc' hne => ?_⟩
  · rcases hcases j c hc with ⟨-, hids⟩ | ⟨-, hc⟩
    · rw [hids] at hk
      exact List.mem_append_right _ (List.mem_append_right _ hk)
    · exact List.mem_append_left _ (h.issued j c hc k hk)
  · rcases hcases j c hc with ⟨-, hids⟩ | ⟨-, hc⟩
    · rw [hids] at hk
      obtain ⟨hfree, hother⟩ := hi.compositionHandles k hk
      refine hroots hother ?_
      cases hget : s.roots.get? k with
      | none => rfl
      | some r => exact absurd (Or.inl (by rw [hget]; rfl)) hfree
    · refine hroots (fun hmem => ?_) (h.notRoot j c hc k hk)
      obtain ⟨r, hr, rfl⟩ := List.mem_map.mp hmem
      exact hi.rootHandles r hr (hheld hc _ hk)
  · rcases hcases j c hc with ⟨-, hids⟩ | ⟨-, hc⟩
    · rw [hids]
      simpa using hi.distinct
    · exact h.distinct j c hc
  · rcases hcases j c hc with ⟨hj, hids⟩ | ⟨-, hold⟩ <;>
      rcases hcases j' c' hc' with ⟨hj', hids'⟩ | ⟨-, hold'⟩
    · exact absurd (hj.trans hj'.symm) hne
    · rw [hids]
      exact (hdisjoint hold').symm
    · rw [hids']
      exact hdisjoint hold
    · exact h.disjoint j c j' c' hold hold' hne

/-! ### Collection -/

/-- The collection removes no record that one it keeps still refers to: no root of a bootstrap, no
session of an unconsumed challenge, no bootstrap of a ceremony that is then active. -/
structure CollectsWhole (s : Store) (now : Datetime) (retentionSeconds : Nat) : Prop where
  bootstraps : Table.All (fun b => ∀ h ∈ b.rootCapabilityId, ∀ root ∈ s.roots.get? h,
    retired now retentionSeconds root.retiredAtUtc none = true →
      retired now retentionSeconds b.retiredAtUtc (some b.expiresAtUtc) = true) s.bootstraps
  stepUps : Table.All (fun c => c.consumed = false → ∀ r ∈ s.sessions.get? c.sessionId,
    retired now retentionSeconds r.retiredAtUtc (some r.expiresAtUtc) = true →
      retired now retentionSeconds c.retiredAtUtc (some c.expiresAtUtc) = true) s.stepUps
  ceremonies : Table.All (fun c => c.terminalAtUtc = none → now < c.expiresAtUtc →
    ∀ b ∈ s.bootstraps.get? c.bootstrapHandle,
      retired now retentionSeconds b.retiredAtUtc (some b.expiresAtUtc) = false)
    s.reprovisionCeremonies

section Collect
variable {now : Datetime} {n : Nat}

/-- A ceremony that is active after the sweep was active before, and is not expired. -/
theorem gcCeremonies_get? {k : OpaqueId} {c : ReprovisionCeremonyRecord}
    (h : (s.gcCeremonies now).reprovisionCeremonies.get? k = some c)
    (hactive : c.terminalAtUtc = none) :
    s.reprovisionCeremonies.get? k = some c ∧ now < c.expiresAtUtc := by
  rw [Store.gcCeremonies_reprovisionCeremonies, Table.get?_filter, Option.filter_eq_some_iff,
    Table.get?_map, Option.map_eq_some_iff] at h
  obtain ⟨⟨c', hc', hexp⟩, -⟩ := h
  unfold ReprovisionCeremonyRecord.expire at hexp
  split_ifs at hexp with hdue
  · rw [← hexp] at hactive
    exact nomatch hactive
  · subst hexp
    exact ⟨hc', lt_of_not_ge fun hle => hdue ⟨hactive, hle⟩⟩

theorem Retained.collect (hs : Retained s) (h : CollectsWhole s now n) :
    Retained ((s.collect now n).gcCeremonies now) where
  bootstraps k b hb rootId hid := by
    obtain ⟨hb, hkept⟩ := Option.filter_eq_some_iff.mp ((Table.get?_filter ..).symm.trans hb)
    obtain ⟨root, hroot⟩ := Option.isSome_iff_exists.mp (hs.bootstraps k b hb rootId hid)
    change ((s.roots.filter _).get? rootId).isSome
    rw [Table.get?_filter, hroot, Option.filter_some, if_pos]
    · rfl
    · refine Bool.not_eq_true' _ ▸ Bool.eq_false_iff.mpr fun hgone => ?_
      rw [h.bootstraps k b hb rootId hid root hroot hgone] at hkept
      exact nomatch hkept
  stepUps k c hc hlive := by
    obtain ⟨hc, hkept⟩ := Option.filter_eq_some_iff.mp ((Table.get?_filter ..).symm.trans hc)
    obtain ⟨r, hr⟩ := Option.isSome_iff_exists.mp (hs.stepUps k c hc hlive)
    change ((s.sessions.filter _).get? c.sessionId).isSome
    rw [Table.get?_filter, hr, Option.filter_some, if_pos]
    · rfl
    · refine Bool.not_eq_true' _ ▸ Bool.eq_false_iff.mpr fun hgone => ?_
      rw [h.stepUps k c hc hlive r hr hgone] at hkept
      exact nomatch hkept
  ceremonies k c hc hactive := by
    obtain ⟨hc, hlive⟩ := gcCeremonies_get? hc hactive
    obtain ⟨b, hb⟩ := Option.isSome_iff_exists.mp (hs.ceremonies k c hc hactive)
    change ((s.bootstraps.filter _).get? c.bootstrapHandle).isSome
    rw [Table.get?_filter, hb, Option.filter_some, if_pos]
    · rfl
    · rw [h.ceremonies k c hc hactive hlive b hb]
      rfl

end Collect

/-- Retentions that collection accepts; it raises a `ValueError` on others. -/
def RetentionOk (retentionSeconds : Int) : Prop := 0 ≤ retentionSeconds ∧ retentionSeconds ≤ 86400

theorem apply_garbageCollect (now : Datetime) {n : Int} (h : RetentionOk n) :
    (apply s (.garbageCollect now n)).2 = (s.collect now n.toNat).gcCeremonies now := by
  have hwp := Command.wp_iff.mp (decide_spec s (.garbageCollect now n))
  cases hv : (apply s (.garbageCollect now n)).1 with
  | ok v => exact (hwp.1 v hv).2.2
  | error e =>
    simp only [apply, Op.decide, garbageCollect, Command.require,
      if_pos (show 0 ≤ n ∧ n ≤ 86400 from h)] at hv
    cases hv

theorem apply_garbageCollect_refused (now : Datetime) {n : Int} (h : ¬RetentionOk n) :
    (apply s (.garbageCollect now n)).2 = s := by
  simp only [apply, Op.decide, garbageCollect, Command.require,
    if_neg (show ¬(0 ≤ n ∧ n ≤ 86400) from h)]
  rfl

/-- What holds in every state of a run whose collections leave no reference behind. -/
structure Whole (used : List OpaqueId) (s : Store) : Prop where
  coherent : Coherent used s
  dated : Dated s
  retained : Retained s
  sole : Sole s
  apart : Apart used s

theorem Whole.consistent (h : Whole used s) : Consistent s :=
  h.coherent.consistent h.dated h.retained h.sole h.apart

theorem apply_sole (s : Store) (op : Op) (hs : Bound s ∧ Sole s) :
    Bound (apply s op).2 ∧ Sole (apply s op).2 :=
  @Moves.preserves _ _ _ _ (fun s => Bound s ∧ Sole s)
    (fun _ _ hm h => ⟨hm.bound h.1, hm.sole h.1 h.2⟩) (apply_moves s op) hs

/-- Setup that is refused changes nothing. -/
theorem apply_initializeInstallation (i a p : OpaqueId) (records : List RootCapabilityRecord)
    (o sv : RootCapabilityIssue) (now : Datetime) :
    (apply s (.initializeInstallation i a p records o sv now)).2 = s ∨
      Installable s i a p records o sv ∧
        (apply s (.initializeInstallation i a p records o sv now)).2 =
          s.install i a p records o sv now := by
  have hwp : Command.wp (initializeInstallation i a p records o sv now)
      (fun _ s' => Installable s i a p records o sv ∧ s' = s.install i a p records o sv now)
      (fun _ s' => s' = s) s := by
    simp only [initializeInstallation, Command.wp_bind, Command.wp_read, Command.wp_require,
      Command.wp_write]
    refine ⟨fun hnew => ⟨fun _ => ⟨fun hhandles => ⟨fun hpurposes => ⟨fun hbound =>
      ⟨fun hroots => ⟨fun hdistinct => ⟨fun hcomposition => ?_, fun _ => trivial⟩,
      fun _ => trivial⟩, fun _ => trivial⟩, fun _ => trivial⟩, fun _ => trivial⟩,
      fun _ => trivial⟩, fun _ => trivial⟩, fun _ => trivial⟩
    exact ⟨⟨hnew.1, hnew.2, hhandles, hpurposes, hbound, hroots, hdistinct, hcomposition⟩, trivial⟩
  have hcall : Command.wp (Op.decide (.initializeInstallation i a p records o sv now))
      (fun _ s' => Installable s i a p records o sv ∧ s' = s.install i a p records o sv now)
      (fun _ s' => s' = s) s := Command.wp_bind _ _ ▸ hwp
  cases hv : (apply s (.initializeInstallation i a p records o sv now)).1 with
  | ok v => exact Or.inr ((Command.wp_iff.mp hcall).1 v hv)
  | error e => exact Or.inl ((Command.wp_iff.mp hcall).2 e hv)

theorem Installable.roots_kept {i a p : OpaqueId} {records : List RootCapabilityRecord}
    {o sv : RootCapabilityIssue} (h : Installable s i a p records o sv) (now : Datetime)
    {k : OpaqueId} (hk : (s.roots.get? k).isSome) :
    ((s.install i a p records o sv now).roots.get? k).isSome := by
  rw [Store.install_roots]
  by_cases hmem : k ∈ records.map (·.handle)
  · obtain ⟨r, hr, rfl⟩ := List.mem_map.mp hmem
    rw [Table.get?_foldl_put_of_mem s.roots h.handles hr]
    rfl
  · rw [Table.get?_foldl_put_of_notMem records s.roots hmem]
    exact hk

section Step
variable (hs : Whole used s) (hfresh : ∀ h ∈ op.issues, h ∉ used)
include hs

theorem Whole.retained_apply
    (hgc : ∀ now n, op = .garbageCollect now n → RetentionOk n → CollectsWhole s now n.toNat) :
    Retained (Auth.apply s op).2 := by
  by_cases hroutine : op.IsRoutine
  · have hsteady := apply_steady hroutine s
    exact hs.retained.apply hsteady.roots hsteady.bootstraps hsteady.sessions
  · cases op <;> try exact absurd trivial hroutine
    case armCrashOnce => exact hs.retained.apply (fun _ => id) (fun _ => id) fun _ => id
    case initializeInstallation i a p records o sv now =>
      rcases apply_initializeInstallation (s := s) i a p records o sv now with heq | ⟨hi, heq⟩
      · rw [heq]
        exact hs.retained
      · refine hs.retained.apply (fun k hk => ?_) (fun k hk => ?_) fun k hk => ?_
        · rw [heq]
          exact hi.roots_kept now hk
        · rw [heq]
          exact hk
        · rw [heq]
          exact hk
    case garbageCollect now n =>
      by_cases hn : RetentionOk n
      · rw [apply_garbageCollect now hn]
        exact hs.retained.collect (hgc now n rfl hn)
      · rw [apply_garbageCollect_refused now hn]
        exact hs.retained

include hfresh

theorem Whole.apart_apply : Apart (used ++ op.issues) (Auth.apply s op).2 := by
  have hmore : ∀ k ∈ used, k ∈ used ++ op.issues := fun k => List.mem_append_left _
  have habsent : ∀ k ∈ used, s.roots.get? k = none → (Auth.apply s op).2.roots.get? k = none :=
    fun k hk => root_absent hfresh hk
  by_cases hroutine : op.IsRoutine
  · exact hs.apart.mono hmore (apply_steady hroutine s).compositions habsent
  · cases op <;> try exact absurd trivial hroutine
    case armCrashOnce => exact hs.apart.mono hmore rfl habsent
    case initializeInstallation i a p records o sv now =>
      rcases apply_initializeInstallation (s := s) i a p records o sv now with heq | ⟨hi, heq⟩
      · exact hs.apart.mono hmore (congrArg _ heq) habsent
      · rw [heq]
        exact hs.apart.install now hi
    case garbageCollect now n =>
      refine hs.apart.mono hmore ?_ habsent
      by_cases hn : RetentionOk n
      · rw [apply_garbageCollect now hn]
        rfl
      · rw [apply_garbageCollect_refused now hn]

theorem Whole.apply
    (hgc : ∀ now n, op = .garbageCollect now n → RetentionOk n → CollectsWhole s now n.toNat) :
    Whole (used ++ op.issues) (Auth.apply s op).2 where
  coherent := hs.coherent.apply hfresh
  dated := apply_dated s op hs.dated
  retained := hs.retained_apply hgc
  sole := (apply_sole s op ⟨hs.coherent.bound, hs.sole⟩).2
  apart := hs.apart_apply hfresh

end Step

end MyCogni.Auth
