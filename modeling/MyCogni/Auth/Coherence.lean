import MyCogni.Auth.Binding

/-! Records that name other records. As long as no handle is issued twice, a bootstrap, challenge,
grant or ceremony and the record it names agree on their actor, and a call that issues anything
returns its value. -/

namespace MyCogni.Auth

/-! ### Attempts -/

def Attempts.Ready (u : Attempts) : Prop := u.consumed = false → 1 ≤ u.attemptsRemaining

theorem Attempts.ready_spend (u : Attempts) (now : Datetime) : (u.spend now).Ready :=
  fun h => nomatch h

theorem Attempts.ready_wrongProof (u : Attempts) (now : Datetime) : (u.wrongProof now).Ready := by
  unfold wrongProof
  split_ifs with hlast
  · exact fun h => nomatch h
  · exact fun _ => Nat.one_le_iff_ne_zero.mpr hlast

/-- Every one-use record that is not spent has an attempt left. -/
structure Ready (s : Store) : Prop where
  bootstraps : Table.All (fun b => b.toAttempts.Ready) s.bootstraps
  recoveries : Table.All (fun r => r.toAttempts.Ready) s.recoveries
  stepUps : Table.All (fun c => c.toAttempts.Ready) s.stepUps

variable {new : Issue → Prop} {lossy : Prop} {s s' : Store} {op : Op} {used : List OpaqueId}

theorem BootstrapRecord.ready_sweep (p : BootstrapRecord → Bool) (now : Datetime)
    {b : BootstrapRecord} (h : b.toAttempts.Ready) : (b.sweep p now).toAttempts.Ready := by
  unfold sweep
  split_ifs
  · exact b.toAttempts.ready_spend now
  · exact h

theorem RecoveryRecord.ready_sweep (p : RecoveryRecord → Bool) (now : Datetime)
    {r : RecoveryRecord} (h : r.toAttempts.Ready) : (r.sweep p now).toAttempts.Ready := by
  unfold sweep
  split_ifs
  · exact r.toAttempts.ready_spend now
  · exact h

theorem StepUpRecord.ready_sweep (p : StepUpRecord → Bool) (now : Datetime) {c : StepUpRecord}
    (h : c.toAttempts.Ready) : (c.sweep p now).toAttempts.Ready := by
  unfold sweep
  split_ifs
  · exact c.toAttempts.ready_spend now
  · exact h

theorem Move.ready (h : Move new lossy s s') (hs : Ready s) : Ready s' := by
  cases h with
  | advance now found =>
    exact { hs with
      stepUps := hs.stepUps.map (StepUpRecord.handle_sweep _ now) fun _ => StepUpRecord.ready_sweep _ now
      recoveries := hs.recoveries.map (RecoveryRecord.handle_sweep _ now)
        fun _ => RecoveryRecord.ready_sweep _ now }
  | spendBootstraps p now =>
    exact { hs with
      bootstraps := hs.bootstraps.map (BootstrapRecord.handle_sweep p now)
        fun _ => BootstrapRecord.ready_sweep p now }
  | missBootstrap now found live =>
    exact { hs with bootstraps := hs.bootstraps.put (Attempts.ready_wrongProof _ now) }
  | issueBootstrap hn valid alone source =>
    exact { hs with bootstraps := hs.bootstraps.put fun _ => valid.2.1 }
  | spendRecoveries p now =>
    exact { hs with
      recoveries := hs.recoveries.map (RecoveryRecord.handle_sweep p now)
        fun _ => RecoveryRecord.ready_sweep p now }
  | missRecovery now found live =>
    exact { hs with recoveries := hs.recoveries.put (Attempts.ready_wrongProof _ now) }
  | issueRecovery hn valid known current ofProfile =>
    exact { hs with recoveries := hs.recoveries.put fun _ => valid.2.2 }
  | spendStepUps p now =>
    exact { hs with
      stepUps := hs.stepUps.map (StepUpRecord.handle_sweep p now)
        fun _ => StepUpRecord.ready_sweep p now }
  | missStepUp now found live =>
    exact { hs with stepUps := hs.stepUps.put (Attempts.ready_wrongProof _ now) }
  | issueStepUp hn valid found known current ofSession =>
    exact { hs with stepUps := hs.stepUps.put fun _ => valid.2.2.2 }
  | recordGrant now hn valid found live session =>
    exact { hs with stepUps := hs.stepUps.put (Attempts.ready_spend _ now) }
  | collect now retentionSeconds =>
    exact { hs with
      bootstraps := hs.bootstraps.filter _
      recoveries := hs.recoveries.filter _
      stepUps := hs.stepUps.filter _ }
  | _ => exact { hs with }

/-! ### Links -/

/-- The handle was issued, and the root that stands under it is the bootstrap's. -/
def RootLink (used : List OpaqueId) (s : Store) (b : BootstrapRecord) (h : OpaqueId) : Prop :=
  h ∈ used ∧ ∀ root, s.roots.get? h = some root →
    root.actorId = b.actorId ∧ b.rootPurpose = some root.purpose

/-- The handle was issued, and the session that stands under it has the given actor and epoch. -/
def SessionLink (used : List OpaqueId) (s : Store) (h actorId : OpaqueId) (epoch : Nat) : Prop :=
  h ∈ used ∧ ∀ r, s.sessions.get? h = some r → r.actorId = actorId ∧ r.epoch = epoch

/-- The handle was issued, and the bootstrap that stands under it reprovisions the installation. -/
def BootstrapLink (used : List OpaqueId) (s : Store) (h installationId : OpaqueId) : Prop :=
  h ∈ used ∧ ∀ b, s.bootstraps.get? h = some b → b.rootPurpose = some .reprovision ∧
    ∃ rootId ∈ used, b.rootCapabilityId = some rootId ∧
      ∀ root, s.roots.get? rootId = some root → root.installationId = installationId

structure Linked (used : List OpaqueId) (s : Store) : Prop where
  held : ∀ h, s.Holds h → h ∈ used
  bootstraps : Table.All (fun b => ∀ h ∈ b.rootCapabilityId, RootLink used s b h) s.bootstraps
  stepUps : Table.All (fun c => SessionLink used s c.sessionId c.actorId c.epoch) s.stepUps
  grants : Table.All (fun p => SessionLink used s p.grant.sessionId p.grant.actorId p.grant.epoch ∧
    ∀ c, s.stepUps.get? p.grant.authorityEvidenceId = some c →
      c.grant = p.grant ∧ c.consumed = true) s.grantProvenance
  ceremonies : Table.All (fun c => BootstrapLink used s c.bootstrapHandle c.installationId)
    s.reprovisionCeremonies

/-- What holds in every state of a run that issues no handle twice. -/
structure Coherent (used : List OpaqueId) (s : Store) : Prop where
  bound : Bound s
  ready : Ready s
  linked : Linked used s

theorem coherent_empty : Coherent [] Store.empty where
  bound := bound_empty
  ready := ⟨Table.all_empty, Table.all_empty, Table.all_empty⟩
  linked := ⟨fun h hs => absurd hs (Store.not_holds_empty h), Table.all_empty, Table.all_empty,
    Table.all_empty, Table.all_empty⟩

/-! ### A coherent store refuses no outcome it has begun to store -/

theorem Coherent.not_leaves (hs : Coherent used s) (x : Issue) : ¬Leaves s op x := by
  rintro ⟨-, h⟩
  cases op <;> try exact h
  case consumeStepUp =>
    obtain ⟨c, hc, hlive, hzero⟩ := h
    have hready : 1 ≤ c.attemptsRemaining := hs.ready.stepUps _ c hc hlive
    omega
  case exchangeReprovisionBootstrap =>
    obtain ⟨proof, binding, b, root, actor, hlive, hmismatch⟩ := h
    have hfound := hlive.bootstrap.observable.found
    have hroot := (hs.linked.bootstraps _ b hlive.foundRecord root.handle hlive.rootId).2 root
      hlive.foundRoot
    have hkey : actor.actorId = b.actorId := Table.key_of_get? hfound
    obtain ⟨actor', hactor', hprofile⟩ := (hs.bound.roots _ root hlive.foundRoot).1
    obtain rfl : actor = actor' := by
      rw [hroot.1, hfound] at hactor'
      exact Option.some.inj hactor'
    exact hmismatch ⟨hroot.1.trans hkey.symm, hprofile.symm⟩

theorem Coherent.issues (hs : Coherent used s) {x : Issue} (h : Issues s op x) :
    Authorizes s op x ∧ ∃ v, (apply s op).1 = .ok v := by
  obtain ⟨hauth, hv | ⟨-, hleft⟩⟩ := h
  · exact ⟨hauth, hv⟩
  · exact absurd hleft (hs.not_leaves x)

/-! ### Links along a call -/

section Step
variable (hfresh : ∀ h ∈ op.issues, h ∉ used)
include hfresh

theorem RootLink.apply {b : BootstrapRecord} {h : OpaqueId} (hl : RootLink used s b h) :
    RootLink (used ++ op.issues) (apply s op).2 b h := by
  refine ⟨List.mem_append_left _ hl.1, fun root' hroot' => ?_⟩
  obtain ⟨root, hroot, hages⟩ := root_kept (fun hmem => hfresh h hmem hl.1) hroot'
  obtain ⟨hactor, hpurpose⟩ := hl.2 root hroot
  rcases hages with rfl | ⟨-, t, rfl⟩ <;> exact ⟨hactor, hpurpose⟩

theorem SessionLink.apply {h a : OpaqueId} {n : Nat} (hl : SessionLink used s h a n) :
    SessionLink (used ++ op.issues) (apply s op).2 h a n := by
  refine ⟨List.mem_append_left _ hl.1, fun r' hr' => ?_⟩
  obtain ⟨r, hr, hages⟩ := session_kept (fun hmem => hfresh h hmem hl.1) hr'
  obtain ⟨hactor, hepoch⟩ := hl.2 r hr
  rcases hages with rfl | ⟨t, rfl⟩ <;> exact ⟨hactor, hepoch⟩

theorem BootstrapLink.apply {h i : OpaqueId} (hl : BootstrapLink used s h i) :
    BootstrapLink (used ++ op.issues) (apply s op).2 h i := by
  refine ⟨List.mem_append_left _ hl.1, fun b' hb' => ?_⟩
  obtain ⟨b, hb, u, -, rfl⟩ := bootstrap_kept (fun hmem => hfresh h hmem hl.1) hb'
  obtain ⟨hpurpose, rootId, hused, hid, hroot⟩ := hl.2 b hb
  refine ⟨hpurpose, rootId, List.mem_append_left _ hused, hid, fun root' hroot' => ?_⟩
  obtain ⟨root, hget, hages⟩ := root_kept (fun hmem => hfresh rootId hmem hused) hroot'
  have hinst := hroot root hget
  rcases hages with rfl | ⟨-, t, rfl⟩ <;> exact hinst

end Step

/-! ### The links of new records -/

section New
variable (hs : Linked used s)
include hs

theorem Linked.new_bootstrap {b : BootstrapRecord} (h : Authorizes s op (.bootstrap b))
    {rootId : OpaqueId} (hid : b.rootCapabilityId = some rootId) : RootLink used s b rootId := by
  have hlink : ∀ root, s.roots.get? rootId = some root → root.actorId = b.actorId →
      b.rootPurpose = some root.purpose → RootLink used s b rootId := by
    intro root hroot hactor hpurpose
    refine ⟨hs.held _ (.root hroot), fun root' hroot' => ?_⟩
    obtain rfl : root = root' := Option.some.inj (hroot.symm.trans hroot')
    exact ⟨hactor, hpurpose⟩
  cases op <;> try exact h.elim
  case createRootBootstrap =>
    obtain ⟨rfl, root, actor, -, -, hrooted⟩ := h
    obtain rfl := Option.some.inj (hrooted.rootId.symm.trans hid)
    exact hlink root hrooted.found hrooted.ofActor.symm hrooted.purpose
  case createAuthenticatedBootstrap =>
    obtain ⟨rfl, hnone, -⟩ := h
    exact nomatch hnone.symm.trans hid
  case createReprovisionBootstrap =>
    obtain ⟨root, actor, hlive, rfl⟩ := h
    obtain rfl : root.handle = rootId := Option.some.inj hid
    have hkey : root.handle = _ := Table.key_of_get? hlive.found
    refine hlink root (hkey ▸ hlive.found) rfl ?_
    rw [hlive.purpose]
    rfl

theorem Linked.new_stepUp {c : StepUpRecord} (h : Authorizes s op (.stepUp c)) :
    SessionLink used s c.sessionId c.actorId c.epoch := by
  cases op <;> try exact h.elim
  case createStepUp =>
    obtain ⟨r, actor, hlive, hactor, -, rfl⟩ := h
    have hkey : r.handle = _ := Table.key_of_get? hlive.found
    have hfound : s.sessions.get? r.handle = some r := hkey ▸ hlive.found
    refine ⟨hs.held _ (.session hfound), fun r' hr' => ?_⟩
    obtain rfl : r = r' := Option.some.inj (hfound.symm.trans hr')
    exact ⟨hactor.symm, rfl⟩

theorem Linked.new_grant {g : AuthorityGrant} (h : Authorizes s op (.grant g)) :
    SessionLink used s g.sessionId g.actorId g.epoch := by
  obtain hmem | ⟨c, hc, hfound, -⟩ := h.handle
  · cases op <;> first | exact h.elim | exact nomatch hmem
  · obtain rfl := Issue.grant.inj hc
    exact hs.stepUps _ c hfound

theorem Linked.new_ceremony {c : ReprovisionCeremonyRecord} (h : Authorizes s op (.ceremony c)) :
    BootstrapLink used s c.bootstrapHandle c.installationId := by
  cases op <;> try exact h.elim
  case createReprovisionCeremony =>
    obtain ⟨-, -, -, b, root, binding, hconfirmed, -⟩ := h
    refine ⟨hs.held _ (.bootstrap hconfirmed.foundBootstrap), fun b' hb' => ?_⟩
    obtain rfl : b = b' := Option.some.inj (hconfirmed.foundBootstrap.symm.trans hb')
    refine ⟨hconfirmed.purpose, root.handle, hs.held _ (.root hconfirmed.foundRoot),
      hconfirmed.rootId, fun root' hroot' => ?_⟩
    obtain rfl : root = root' := Option.some.inj (hconfirmed.foundRoot.symm.trans hroot')
    exact hconfirmed.installation

end New

/-- A new grant finds its challenge spent. -/
theorem Coherent.grant_spent (hs : Coherent used s) {g : AuthorityGrant}
    (h : Issues s op (.grant g)) :
    ∃ c, (apply s op).2.stepUps.get? g.authorityEvidenceId = some c ∧ c.grant = g ∧
      c.consumed = true := by
  obtain ⟨hauth, v, hv⟩ := hs.issues h
  have hallowed := (apply_allowed hv).2
  cases op <;> try exact hauth.elim
  case consumeStepUp now =>
    obtain ⟨c, actor, r, ractor, hlive, -, -, -, -, -, rfl⟩ := hauth
    obtain ⟨c', actor', r', ractor', hlive', -, hs'⟩ := hallowed
    obtain rfl : c = c' := Option.some.inj (hlive.found.symm.trans hlive'.found)
    refine ⟨{ c with toAttempts := c.toAttempts.spend now }, ?_, rfl, rfl⟩
    rw [hs']
    exact Table.get?_put_self _ _

theorem Coherent.apply (hs : Coherent used s) (hfresh : ∀ h ∈ op.issues, h ∉ used) :
    Coherent (used ++ op.issues) (apply s op).2 where
  bound := apply_bound s op hs.bound
  ready := (apply_moves s op).preserves (fun _ _ => Move.ready) hs.ready
  linked :=
    { held := fun h hh => by
        rw [List.mem_append]
        exact (apply_holds hh).imp_left (hs.linked.held h)
      bootstraps := fun k b' hb' h hmem => by
        obtain ⟨b, ⟨u, -, rfl⟩, -, hb | hb⟩ := (apply_descent s op).bootstraps k b' hb'
        · exact (hs.linked.bootstraps k b hb h hmem).apply hfresh
        · exact (hs.linked.new_bootstrap hb.1 hmem).apply hfresh
      stepUps := fun k c' hc' => by
        obtain ⟨c, ⟨u, -, rfl⟩, -, hc | hc⟩ := (apply_descent s op).stepUps k c' hc'
        · exact (hs.linked.stepUps k c hc).apply hfresh
        · exact (hs.linked.new_stepUp hc.1).apply hfresh
      grants := fun k p' hp' => by
        obtain ⟨p, hages, hkey, hp⟩ := (apply_descent s op).grants k p' hp'
        have hsame : p'.grant = p.grant := by
          rcases hages with rfl | ⟨-, t, rfl⟩ <;> rfl
        rw [hsame]
        rcases hp with hp | ⟨-, hnew⟩
        · obtain ⟨hsession, hstep⟩ := hs.linked.grants k p hp
          refine ⟨hsession.apply hfresh, fun c' hc' => ?_⟩
          have hused : p.grant.authorityEvidenceId ∈ used := by
            rw [show p.grant.authorityEvidenceId = k from hkey]
            exact hs.linked.held k (.grant hp)
          obtain ⟨c, hc, u, hu, rfl⟩ := stepUp_kept (fun hmem => hfresh _ hmem hused) hc'
          exact ⟨(hstep c hc).1, hu.spent (hstep c hc).2⟩
        · refine ⟨(hs.linked.new_grant hnew.1).apply hfresh, fun c' hc' => ?_⟩
          obtain ⟨c, hc, hgrant, hspent⟩ := hs.grant_spent hnew
          obtain rfl : c = c' := Option.some.inj (hc.symm.trans hc')
          exact ⟨hgrant, hspent⟩
      ceremonies := fun k c' hc' => by
        obtain ⟨c, hages, -, hc⟩ := (apply_descent s op).ceremonies k c' hc'
        have hsame : c'.bootstrapHandle = c.bootstrapHandle ∧
            c'.installationId = c.installationId := by
          rcases hages with rfl | ⟨-, t, d, n, rfl⟩ <;> exact ⟨rfl, rfl⟩
        rw [hsame.1, hsame.2]
        rcases hc with hc | ⟨-, hnew⟩
        · exact (hs.linked.ceremonies k c hc).apply hfresh
        · exact (hs.linked.new_ceremony hnew.1).apply hfresh }

theorem Coherent.run {ops : List Op} (hs : Coherent used s)
    (hfresh : (used ++ ops.flatMap Op.issues).Nodup) :
    Coherent (used ++ ops.flatMap Op.issues) (run Auth.apply s ops) := by
  induction ops generalizing used s with
  | nil => simpa using hs
  | cons op ops ih =>
    rw [List.flatMap_cons, ← List.append_assoc] at hfresh ⊢
    have hdisjoint := List.disjoint_of_nodup_append (List.Nodup.of_append_left hfresh)
    exact ih (hs.apply fun h hmem hused => hdisjoint hused hmem) hfresh

theorem run_coherent {ops : List Op} (hfresh : Fresh ops) :
    Coherent (ops.flatMap Op.issues) (MyCogni.run Auth.apply Store.empty ops) := by
  have hnodup : ([] ++ ops.flatMap Op.issues).Nodup := hfresh
  exact coherent_empty.run hnodup

end MyCogni.Auth
