import MyCogni.Auth.Binding

/-! Roots and bootstraps that are not spent: of each installation at most one root for each purpose
and, as long as no call ends with an exception, one root to reprovision it; of each actor at most
one bootstrap. -/

namespace MyCogni.Auth

/-- No two unconsumed roots of one installation have one purpose. -/
def Sole (s : Store) : Prop :=
  ∀ k k' r r', s.roots.get? k = some r → s.roots.get? k' = some r' → r.consumed = false →
    r'.consumed = false → r.installationId = r'.installationId → r.purpose = r'.purpose → k = k'

/-- No two unconsumed bootstraps belong to one actor. -/
def Lone (s : Store) : Prop :=
  ∀ k k' b b', s.bootstraps.get? k = some b → s.bootstraps.get? k' = some b' →
    b.consumed = false → b'.consumed = false → b.actorId = b'.actorId → k = k'

/-- A root as setup and replacement register it. -/
def RootCapabilityRecord.Unspent (r : RootCapabilityRecord) : Prop :=
  r.consumed = false ∧ r.retiredAtUtc = none

/-- The root is the one to reprovision the installation. -/
structure Anchor (s : Store) (installationId : OpaqueId) (r : RootCapabilityRecord) : Prop where
  found : s.roots.get? r.handle = some r
  installation : r.installationId = installationId
  purpose : r.purpose = .reprovision
  unspent : r.Unspent

def Anchored (s : Store) : Prop := ∀ i a, OfInstallation s i a → ∃ r, Anchor s i r

variable {new : Issue → Prop} {lossy : Prop} {s s' : Store}

theorem Sole.consume (hs : Sole s) {root : RootCapabilityRecord} (now : Datetime) :
    Sole (s.putRoot (root.spend now)) := by
  -- Whatever is unconsumed afterwards was there before.
  have hold : ∀ k r, (s.putRoot (root.spend now)).roots.get? k = some r → r.consumed = false →
      s.roots.get? k = some r := by
    intro k r hr hlive
    rw [Store.putRoot_roots, Table.get?_put] at hr
    split_ifs at hr with hk
    · obtain rfl := Option.some.inj hr
      exact nomatch hlive
    · exact hr
  intro k k' r r' hr hr' hlive hlive'
  exact hs k k' r r' (hold k r hr hlive) (hold k' r' hr' hlive') hlive hlive'

theorem Sole.replace (hs : Sole s) {root : RootCapabilityRecord} (issue : RootCapabilityIssue)
    (now : Datetime) (found : s.roots.get? root.handle = some root) (live : root.consumed = false)
    (purpose : root.purpose = .reprovision) :
    Sole ((s.putRoot (root.spend now)).putRoot (root.successor issue)) := by
  have hcases : ∀ k r,
      ((s.putRoot (root.spend now)).putRoot (root.successor issue)).roots.get? k = some r →
      r.consumed = false → k = issue.handle ∧ r = root.successor issue ∨
        k ≠ root.handle ∧ s.roots.get? k = some r := by
    intro k r hr hlive
    rw [Store.putRoot_roots, Table.get?_put] at hr
    split_ifs at hr with hk
    · exact Or.inl ⟨hk, (Option.some.inj hr).symm⟩
    · rw [Store.putRoot_roots, Table.get?_put] at hr
      split_ifs at hr with hk'
      · obtain rfl := Option.some.inj hr
        exact nomatch hlive
      · exact Or.inr ⟨hk', hr⟩
  intro k k' r r' hr hr' hlive hlive' hinst hpurpose
  rcases hcases k r hr hlive with ⟨rfl, rfl⟩ | ⟨hne, hr⟩ <;>
    rcases hcases k' r' hr' hlive' with ⟨rfl, rfl⟩ | ⟨hne', hr'⟩
  · rfl
  · exact absurd (hs k' _ r' root hr' found hlive' live hinst.symm
      (hpurpose.symm.trans purpose.symm)) hne'
  · exact absurd (hs k _ r root hr found hlive live hinst (hpurpose.trans purpose.symm)) hne
  · exact hs k k' r r' hr hr' hlive hlive' hinst hpurpose

theorem Installable.root_cases {i a p : OpaqueId} {records : List RootCapabilityRecord}
    {o sv : RootCapabilityIssue} (h : Installable s i a p records o sv) (now : Datetime)
    {k : OpaqueId} {r : RootCapabilityRecord}
    (hr : (s.install i a p records o sv now).roots.get? k = some r) :
    r ∈ records ∧ r.handle = k ∨ s.roots.get? k = some r := by
  by_cases hk : k ∈ records.map (·.handle)
  · obtain ⟨r', hr', rfl⟩ := List.mem_map.mp hk
    have hget := Table.get?_foldl_put_of_mem s.roots h.handles hr'
    obtain rfl : r' = r := Option.some.inj (hget.symm.trans hr)
    exact Or.inl ⟨hr', rfl⟩
  · exact Or.inr ((Table.get?_foldl_put_of_notMem records s.roots hk).symm.trans hr)

theorem Sole.install (hs : Sole s) (hb : Bound s) {i a p : OpaqueId}
    {records : List RootCapabilityRecord} {o sv : RootCapabilityIssue} (now : Datetime)
    (h : Installable s i a p records o sv) : Sole (s.install i a p records o sv now) := by
  -- The installation is new, so no root in the store can be one of its roots.
  have hnew : ∀ {k r}, s.roots.get? k = some r → r.installationId ≠ i := by
    rintro k r hr rfl
    exact nomatch h.installation.symm.trans (hb.roots k r hr).2
  have hpurposes : (records.map (·.purpose)).Nodup := h.purposes.nodup_iff.mpr (by decide)
  intro k k' r r' hr hr' hlive hlive' hinst hpurpose
  rcases h.root_cases now hr with ⟨hmem, rfl⟩ | hr <;>
    rcases h.root_cases now hr' with ⟨hmem', rfl⟩ | hr'
  · rw [List.inj_on_of_nodup_map hpurposes hmem hmem' hpurpose]
  · exact absurd (hinst.symm.trans (h.bound r hmem).1) (hnew hr')
  · exact absurd (hinst.trans (h.bound r' hmem').1) (hnew hr)
  · exact hs k k' r r' hr hr' hlive hlive' hinst hpurpose

theorem Move.sole (h : Move new lossy s s') (hb : Bound s) (hs : Sole s) : Sole s' := by
  cases h with
  | install now h hn => exact hs.install hb now h
  | consumeRoot now found live hl => exact hs.consume now
  | replaceRoot issue now found live purpose unused hn => exact hs.replace issue now found live purpose
  | collect now retentionSeconds =>
    intro k k' r r' hr hr'
    rw [Store.collect_roots, Table.get?_filter, Option.filter_eq_some_iff] at hr hr'
    exact hs k k' r r' hr.1 hr'.1
  | _ => exact hs

/-! ### Unconsumed bootstraps -/

theorem Lone.issue (hs : Lone s) {b : BootstrapRecord}
    (alone : ∀ h b', s.bootstraps.get? h = some b' → b'.actorId = b.actorId → b'.consumed = true) :
    Lone (s.putBootstrap b) := by
  have hother : ∀ {k b'}, s.bootstraps.get? k = some b' → b'.consumed = false →
      b'.actorId ≠ b.actorId := by
    intro k b' hb' hlive hactor
    rw [alone k b' hb' hactor] at hlive
    exact nomatch hlive
  intro k k' c c' hc hc' hlive hlive' hactor
  rw [Store.putBootstrap_bootstraps, Table.get?_put] at hc hc'
  split_ifs at hc hc' with hk hk' hk'
  · rw [hk, hk']
  · obtain rfl := Option.some.inj hc
    exact absurd hactor.symm (hother hc' hlive')
  · obtain rfl := Option.some.inj hc'
    exact absurd hactor (hother hc hlive)
  · exact hs k k' c c' hc hc' hlive hlive' hactor

theorem Anchor.of_get? {i : OpaqueId} {r : RootCapabilityRecord} (h : Anchor s i r)
    (hget : s'.roots.get? r.handle = some r) : Anchor s' i r :=
  ⟨hget, h.installation, h.purpose, h.unspent⟩

theorem Anchor.install {j : OpaqueId} {r : RootCapabilityRecord} (hr : Anchor s j r)
    {i a p : OpaqueId} {records : List RootCapabilityRecord} {o sv : RootCapabilityIssue}
    (now : Datetime) (h : Installable s i a p records o sv) :
    Anchor (s.install i a p records o sv now) j r := by
  have hk : r.handle ∉ records.map (·.handle) := by
    intro hmem
    obtain ⟨r', hr', hsame⟩ := List.mem_map.mp hmem
    refine h.rootHandles r' hr' (Or.inl ?_)
    rw [hsame, hr.found]
    rfl
  exact hr.of_get? ((Table.get?_foldl_put_of_notMem records s.roots hk).trans hr.found)

theorem Anchor.consume {i : OpaqueId} {r : RootCapabilityRecord} (hr : Anchor s i r)
    {root : RootCapabilityRecord} (now : Datetime) (found : s.roots.get? root.handle = some root)
    (purpose : root.purpose ≠ .reprovision) : Anchor (s.putRoot (root.spend now)) i r := by
  refine hr.of_get? ?_
  have hne : r.handle ≠ (root.spend now).handle := by
    intro (hsame : r.handle = root.handle)
    have hr' := hr.found
    rw [hsame, found] at hr'
    exact purpose (Option.some.inj hr' ▸ hr.purpose)
  rw [Store.putRoot_roots, Table.get?_put_of_ne _ hne]
  exact hr.found

/-- A root that is not retired is not collected. -/
theorem Anchor.collect {i : OpaqueId} {r : RootCapabilityRecord} (hr : Anchor s i r)
    (now : Datetime) (retentionSeconds : Nat) : Anchor (s.collect now retentionSeconds) i r := by
  refine hr.of_get? ?_
  rw [Store.collect_roots, Table.get?_filter, hr.found, Option.filter_some, if_pos]
  rw [hr.unspent.2]
  rfl

theorem Anchored.of_kept (hs : Anchored s) (hinst : s'.installationActors = s.installationActors)
    (h : ∀ i r, Anchor s i r → ∃ r', Anchor s' i r') : Anchored s' := by
  intro i a hia
  unfold OfInstallation at hia
  rw [hinst] at hia
  obtain ⟨r, hr⟩ := hs i a hia
  exact h i r hr

theorem Anchored.install (hs : Anchored s) {i a p : OpaqueId}
    {records : List RootCapabilityRecord} {o sv : RootCapabilityIssue} (now : Datetime)
    (h : Installable s i a p records o sv) (hrecords : ∀ r ∈ records, r.Unspent) :
    Anchored (s.install i a p records o sv now) := by
  intro j b hjb
  by_cases hj : j = i
  · subst hj
    have hmem : RootPurpose.reprovision ∈ records.map (·.purpose) :=
      h.purposes.mem_iff.mpr (by decide)
    obtain ⟨r, hr, hpurpose⟩ := List.mem_map.mp hmem
    exact ⟨r, Table.get?_foldl_put_of_mem s.roots h.handles hr, (h.bound r hr).1, hpurpose,
      hrecords r hr⟩
  · have hjb' : OfInstallation s j b := (Table.get?_put_of_ne _ hj).symm.trans hjb
    obtain ⟨r, hr⟩ := hs j b hjb'
    exact ⟨r, hr.install now h⟩

theorem Anchored.replace (hs : Anchored s) {root : RootCapabilityRecord}
    (issue : RootCapabilityIssue) (now : Datetime) (found : s.roots.get? root.handle = some root)
    (unused : s.roots.get? issue.handle = none) :
    Anchored ((s.putRoot (root.spend now)).putRoot (root.successor issue)) := by
  refine hs.of_kept rfl fun i r hr => ?_
  by_cases hsame : r.handle = root.handle
  · have hr' := hr.found
    rw [hsame, found] at hr'
    obtain rfl := Option.some.inj hr'
    exact ⟨root.successor issue, Table.get?_put_self _ _, hr.installation, rfl, rfl, rfl⟩
  · have hne : r.handle ≠ (root.successor issue).handle := by
      intro (h : r.handle = issue.handle)
      rw [← h, hr.found] at unused
      exact nomatch unused
    have hne' : r.handle ≠ (root.spend now).handle := hsame
    refine ⟨r, hr.of_get? ?_⟩
    rw [Store.putRoot_roots, Table.get?_put_of_ne _ hne, Store.putRoot_roots,
      Table.get?_put_of_ne _ hne']
    exact hr.found

/-- A move that is not lossy keeps the way back of every installation. -/
theorem Move.anchored (hnew : ∀ r, new (.root r) → r.Unspent) (h : Move new False s s')
    (hs : Anchored s) : Anchored s' := by
  cases h with
  | install now h hn => exact hs.install now h fun r hr => hnew r (hn r hr)
  | consumeRoot now found live hl => exact hs.of_kept rfl fun i r hr => ⟨r, hr.consume now found hl⟩
  | replaceRoot issue now found live purpose unused hn => exact hs.replace issue now found unused
  | collect now retentionSeconds =>
    exact hs.of_kept rfl fun i r hr => ⟨r, hr.collect now retentionSeconds⟩
  | _ => exact hs.of_kept rfl fun i r hr => ⟨r, hr.of_get? hr.found⟩

/-- A move that registers no root keeps the root itself. -/
theorem Move.keeps_anchor (hnew : ∀ r, ¬new (.root r)) (h : Move new False s s') {i : OpaqueId}
    {r : RootCapabilityRecord} (hr : Anchor s i r) : Anchor s' i r := by
  cases h with
  | install now h hn => exact hr.install now h
  | consumeRoot now found live hl => exact hr.consume now found hl
  | replaceRoot issue now found live purpose unused hn => exact absurd hn (hnew _)
  | collect now retentionSeconds => exact hr.collect now retentionSeconds
  | _ => exact hr.of_get? hr.found

end MyCogni.Auth
