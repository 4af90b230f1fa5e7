import MyCogni.Auth.Coherence

/-! One-use material. Once spent it stays unusable, also after its tombstone was collected, because
nothing new ever stands under its handle. -/

namespace MyCogni.Auth

inductive Material where
  | root (handle : OpaqueId)
  | bootstrap (handle : OpaqueId)
  | stepUp (handle : OpaqueId)
  | recovery (handle : OpaqueId)
  | ceremony (handle : OpaqueId)
  | grant (g : AuthorityGrant)

def Material.handle : Material → OpaqueId
  | root h => h
  | bootstrap h => h
  | stepUp h => h
  | recovery h => h
  | ceremony h => h
  | grant g => g.authorityEvidenceId

/-- The call is one that consumes the material. A root is consumed by the revocation that presents
it, or by the exchange of a bootstrap that was made from it. -/
def Op.Consumes (s : Store) (op : Op) : Material → Prop
  | .root h => (∃ root d now, op = .emergencyRevoke root d now ∧ root.credential.handle = h) ∨
      ∃ k b, op.presentsBootstrap = some k ∧ s.bootstraps.get? k = some b ∧
        b.rootCapabilityId = some h
  | .bootstrap h => op.presentsBootstrap = some h
  | .stepUp h => op.presentsStepUp = some h
  | .recovery h => op.presentsRecovery = some h
  | .ceremony h => op.presentsCeremony = some h
  | .grant g => op.presentsGrant = some g

/-- The call consumes the material and returns a value. -/
def Consumed (s : Store) (op : Op) (m : Material) : Prop :=
  op.Consumes s m ∧ ∃ v, (apply s op).1 = .ok v

/-- Nothing usable stands under the handle of the material. -/
def Dead (s : Store) : Material → Prop
  | .root h => ∀ r, s.roots.get? h = some r → r.consumed = true
  | .bootstrap h => ∀ b, s.bootstraps.get? h = some b → b.consumed = true
  | .stepUp h => ∀ c, s.stepUps.get? h = some c → c.consumed = true
  | .recovery h => ∀ r, s.recoveries.get? h = some r → r.consumed = true
  | .ceremony h => ∀ c, s.reprovisionCeremonies.get? h = some c → c.terminalAtUtc ≠ none
  | .grant g => (∀ p, s.grantProvenance.get? g.authorityEvidenceId = some p → p.usedAtUtc ≠ none) ∧
      ∀ c, s.stepUps.get? g.authorityEvidenceId = some c → c.consumed = true

variable {s : Store} {op : Op} {m : Material} {used : List OpaqueId} {v : Value} {s' : Store}

theorem Allowed.ceremony (h : Allowed s op v s') {k : OpaqueId}
    (hk : op.presentsCeremony = some k) :
    ∃ c, s.reprovisionCeremonies.get? k = some c ∧ c.terminalAtUtc = none := by
  cases op <;> cases hk
  case exchangeReprovisionBootstrap =>
    obtain ⟨proof, binding, b, root, actor, hlive, -⟩ := h
    exact ⟨proof, hlive.foundProof, hlive.active⟩

/-- The root of an exchanged bootstrap is unconsumed. -/
theorem Allowed.root (h : Allowed s op v s') {k rootId : OpaqueId} {b : BootstrapRecord}
    (hk : op.presentsBootstrap = some k) (hb : s.bootstraps.get? k = some b)
    (hid : b.rootCapabilityId = some rootId) :
    ∃ root, s.roots.get? rootId = some root ∧ root.consumed = false := by
  cases op <;> cases hk
  case exchangeBootstrap =>
    obtain ⟨b', actor, hlive, -, hopen, -⟩ := h
    obtain rfl : b' = b := Option.some.inj (hlive.found.symm.trans hb)
    obtain ⟨root, hroot, hlive', -⟩ := hopen rootId hid
    exact ⟨root, hroot, hlive'⟩
  case exchangeReprovisionBootstrap =>
    obtain ⟨proof, binding, b', root, actor, hlive, -⟩ := h
    obtain rfl : b' = b := Option.some.inj (hlive.foundRecord.symm.trans hb)
    obtain rfl : root.handle = rootId := Option.some.inj (hlive.rootId.symm.trans hid)
    exact ⟨root, hlive.foundRoot, hlive.rootLive⟩

/-! ### What is consumed was there and usable -/

theorem Consumed.live (h : Consumed s op m) : s.Holds m.handle ∧ ¬Dead s m := by
  obtain ⟨hop, v, hv⟩ := h
  have hev := (apply_allowed hv).2
  cases m with
  | root h =>
    obtain ⟨root, hroot, hlive⟩ : ∃ root, s.roots.get? h = some root ∧ root.consumed = false := by
      rcases hop with ⟨cap, d, now, rfl, rfl⟩ | ⟨k, b, hk, hb, hid⟩
      · obtain ⟨r, actor, hlive, -⟩ := hev
        exact ⟨r, hlive.found, hlive.live⟩
      · exact hev.root hk hb hid
    exact ⟨.root hroot, fun hdead => by simp [hdead root hroot] at hlive⟩
  | bootstrap h =>
    obtain ⟨d, now, b, actor, hlive⟩ := hev.bootstrap hop
    refine ⟨.bootstrap hlive.found, fun hdead => ?_⟩
    simpa [hdead b hlive.found] using hlive.live
  | stepUp h =>
    obtain ⟨d, now, c, actor, r, ractor, sd, hlive⟩ := hev.stepUp hop
    refine ⟨.stepUp hlive.found, fun hdead => ?_⟩
    simpa [hdead c hlive.found] using hlive.live
  | recovery h =>
    obtain ⟨d, now, r, actor, hlive⟩ := hev.recovery hop
    refine ⟨.recovery hlive.found, fun hdead => ?_⟩
    simpa [hdead r hlive.found] using hlive.live
  | ceremony h =>
    obtain ⟨c, hc, hactive⟩ := hev.ceremony hop
    exact ⟨.ceremony hc, fun hdead => hdead c hc hactive⟩
  | grant g =>
    obtain ⟨session, d, now, p, r, actor, hlive, -⟩ := hev.grant hop
    exact ⟨.grant hlive.found, fun hdead => hdead.1 p hlive.found hlive.unused⟩

/-! ### What is dead stays dead -/

theorem Dead.apply (h : Dead s m) (hfresh : m.handle ∉ op.issues) : Dead (apply s op).2 m := by
  have hstep : ∀ {k}, k ∉ op.issues → (∀ c, s.stepUps.get? k = some c → c.consumed = true) →
      ∀ c', (Auth.apply s op).2.stepUps.get? k = some c' → c'.consumed = true := by
    intro k hk hdead c' hc'
    obtain ⟨c, hc, u, hu, rfl⟩ := stepUp_kept hk hc'
    exact hu.spent (hdead c hc)
  cases m with
  | root k =>
    intro r' hr'
    obtain ⟨r, hr, hages⟩ := root_kept hfresh hr'
    rcases hages with rfl | ⟨-, t, rfl⟩
    · exact h _ hr
    · rfl
  | bootstrap k =>
    intro b' hb'
    obtain ⟨b, hb, u, hu, rfl⟩ := bootstrap_kept hfresh hb'
    exact hu.spent (h b hb)
  | stepUp k => exact hstep hfresh h
  | recovery k =>
    intro r' hr'
    obtain ⟨r, hr, u, hu, rfl⟩ := recovery_found hfresh hr'
    exact hu.spent (h r hr)
  | ceremony k =>
    intro c' hc'
    obtain ⟨c, hc, hages⟩ := ceremony_kept hfresh hc'
    rcases hages with rfl | ⟨-, t, d, n, rfl⟩
    · exact h _ hc
    · exact fun hnone => nomatch hnone
  | grant g =>
    refine ⟨fun p' hp' => ?_, hstep hfresh h.2⟩
    obtain ⟨p, hages, hkey, hp | ⟨-, hnew⟩⟩ := (apply_descent s op).grants _ p' hp'
    · rcases hages with rfl | ⟨-, t, rfl⟩
      · exact h.1 _ hp
      · exact fun hnone => nomatch hnone
    · -- A grant can only be recorded again from its challenge, which is spent.
      rcases hnew.1.handle with hmem | ⟨c, -, hc, hlive⟩
      · exact absurd hmem (show p.evidenceId ∉ op.issues from hkey ▸ hfresh)
      · have hspent := h.2 c (hkey ▸ hc)
        simp [hspent] at hlive

theorem Dead.run (h : Dead s m) {ops : List Op} (hfresh : m.handle ∉ ops.flatMap Op.issues) :
    Dead (run Auth.apply s ops) m := by
  induction ops generalizing s with
  | nil => exact h
  | cons op ops ih =>
    rw [List.flatMap_cons, List.mem_append, not_or] at hfresh
    exact ih (h.apply hfresh.1) hfresh.2

/-! ### What is consumed is dead -/

theorem Store.claimed_root {b : BootstrapRecord} {actor : ActorRecord} (now : Datetime)
    {root : RootCapabilityRecord} {rootId : OpaqueId} (hid : b.rootCapabilityId = some rootId)
    (hroot : s.roots.get? rootId = some root) :
    (s.claimed b actor now).roots.get? rootId = some (root.spend now) := by
  have hkey : root.handle = rootId := Table.key_of_get? hroot
  rw [claimed, hid, Option.bind_some, hroot]
  exact Table.get?_put_of_eq _ hkey

theorem Allowed.root_dead (h : Allowed s op v s') {k rootId : OpaqueId} {b : BootstrapRecord}
    (hk : op.presentsBootstrap = some k) (hb : s.bootstraps.get? k = some b)
    (hid : b.rootCapabilityId = some rootId) : Dead s' (.root rootId) := by
  cases op <;> cases hk
  case exchangeBootstrap now _ _ _ =>
    obtain ⟨b', actor, hlive, -, hopen, rfl⟩ := h
    obtain rfl : b' = b := Option.some.inj (hlive.found.symm.trans hb)
    obtain ⟨root, hroot, -⟩ := hopen rootId hid
    intro r hr
    have hclaimed : (((s.observed actor now).claimed b' { actor with lastObservedUtc := now }
        now).roots.get? rootId) = some (root.spend now) := Store.claimed_root now hid hroot
    rw [← Option.some.inj (hclaimed.symm.trans hr)]
    rfl
  case exchangeReprovisionBootstrap now _ _ replacement _ _ =>
    obtain ⟨proof, binding, b', root, actor, hlive, hunused, rfl⟩ := h
    obtain rfl : b' = b := Option.some.inj (hlive.foundRecord.symm.trans hb)
    obtain rfl : root.handle = rootId := Option.some.inj (hlive.rootId.symm.trans hid)
    intro r hr
    have hne : root.handle ≠ (root.successor replacement).handle := by
      intro heq
      have hfound := hlive.foundRoot
      rw [heq] at hfound
      exact nomatch hunused.symm.trans hfound
    have hspent : ((s.roots.put (root.spend now)).put (root.successor replacement)).get?
        root.handle = some (root.spend now) := by
      rw [Table.get?_put_of_ne _ hne]
      exact Table.get?_put_self _ _
    rw [← Option.some.inj (hspent.symm.trans hr)]
    rfl

theorem Allowed.bootstrap_dead (h : Allowed s op v s') {k : OpaqueId}
    (hk : op.presentsBootstrap = some k) : Dead s' (.bootstrap k) := by
  cases op <;> cases hk
  case exchangeBootstrap now _ _ _ =>
    obtain ⟨b, actor, hlive, -, -, rfl⟩ := h
    have hkey : b.handle = k := Table.key_of_get? hlive.found
    intro b' hb'
    rw [Table.eq_of_get?_put hb' hkey]
    rfl
  case exchangeReprovisionBootstrap now _ _ replacement _ _ =>
    obtain ⟨proof, binding, b, root, actor, hlive, -, rfl⟩ := h
    have hkey : b.handle = k := Table.key_of_get? hlive.foundRecord
    intro b' hb'
    rw [Table.eq_of_get?_put hb' hkey]
    rfl

theorem Allowed.stepUp_dead (h : Allowed s op v s') {k : OpaqueId}
    (hk : op.presentsStepUp = some k) : Dead s' (.stepUp k) := by
  cases op <;> cases hk
  case consumeStepUp =>
    obtain ⟨c, actor, r, ractor, hlive, -, rfl⟩ := h
    have hkey : c.handle = _ := Table.key_of_get? hlive.found
    intro c' hc'
    rw [Table.eq_of_get?_put hc' hkey]
    rfl

/-- An advanced store has spent every recovery of its actor. -/
theorem Store.advanced_spent {actor : ActorRecord} {now : Datetime} {k : OpaqueId}
    {r : RecoveryRecord} (h : (s.advanced actor now).recoveries.get? k = some r)
    (hr : r.actorId = actor.actorId) : r.consumed = true := by
  rw [Store.advanced_recoveries, Table.get?_map, Option.map_eq_some_iff] at h
  obtain ⟨r₀, -, rfl⟩ := h
  unfold RecoveryRecord.sweep at hr ⊢
  split_ifs at hr ⊢ with hown
  · rfl
  · exact absurd (by simpa using hr) hown

theorem Allowed.recovery_dead (h : Allowed s op v s') {k : OpaqueId}
    (hk : op.presentsRecovery = some k) (hfresh : k ∉ op.issues) : Dead s' (.recovery k) := by
  cases op <;> cases hk
  case recover recovery d now session replacement =>
    obtain ⟨r, actor, hlive, rfl⟩ := h
    have hne : recovery.handle ≠ (replacement.bindTo actor.next).handle := by
      intro heq
      exact hfresh (heq ▸ List.mem_cons_of_mem _ List.mem_cons_self)
    intro r' hr'
    have hr' := (Table.get?_put_of_ne _ hne).symm.trans hr'
    refine Store.advanced_spent hr' ?_
    -- The recovery that stood under the handle was the actor's, and still is.
    have hown : r.actorId = actor.actorId := (Table.key_of_get? hlive.observable.found).symm
    rw [Store.putSession_recoveries, Store.advanced_recoveries, Table.get?_map,
      Option.map_eq_some_iff] at hr'
    obtain ⟨r₁, hr₁, rfl⟩ := hr'
    rw [Store.spendRecoveries_recoveries, Table.get?_map, Option.map_eq_some_iff] at hr₁
    obtain ⟨r₂, hr₂, rfl⟩ := hr₁
    obtain rfl : r = r₂ := Option.some.inj (hlive.found.symm.trans hr₂)
    have hages := RecoveryRecord.Ages.trans _ _ _
      (r.ages_sweep now fun r => r.actorId = actor.actorId)
      (RecoveryRecord.ages_sweep now (fun r => r.actorId = actor.actorId) _)
    obtain ⟨u, -, hu⟩ := hages
    rw [hu]
    exact hown

theorem Allowed.ceremony_dead (h : Allowed s op v s') {k : OpaqueId}
    (hk : op.presentsCeremony = some k) : Dead s' (.ceremony k) := by
  cases op <;> cases hk
  case exchangeReprovisionBootstrap now _ _ replacement _ _ =>
    obtain ⟨proof, binding, b, root, actor, hlive, -, rfl⟩ := h
    have hkey : proof.handle = _ := Table.key_of_get? hlive.foundProof
    intro c hc
    have hc := (Option.filter_eq_some_iff.mp ((Table.get?_filter _ _ _).symm.trans hc)).1
    rw [Table.eq_of_get?_put hc hkey]
    exact fun hnone => nomatch hnone

/-- The provenance of a grant that was accepted is marked as used. -/
theorem Allowed.grant_used (h : Allowed s op v s') {g : AuthorityGrant}
    (hg : op.presentsGrant = some g) :
    ∃ p, s'.grantProvenance.get? g.authorityEvidenceId = some p ∧ p.grant = g ∧
      p.usedAtUtc ≠ none := by
  have hused : ∀ {session d now p r actor}, LiveGrant s session d g now p r actor →
      ∃ p', (s.granted actor p now).grantProvenance.get? g.authorityEvidenceId = some p' ∧
        p'.grant = g ∧ p'.usedAtUtc ≠ none := by
    intro session d now p r actor hlive
    have hkey : p.evidenceId = g.authorityEvidenceId := Table.key_of_get? hlive.found
    exact ⟨_, Table.get?_put_of_eq _ hkey, hlive.recorded, fun hnone => nomatch hnone⟩
  cases op <;> cases hg
  case createAuthenticatedBootstrap =>
    obtain ⟨b, p, r, actor, -, hlive, -, rfl⟩ := h
    exact hused hlive
  case renewRecovery =>
    obtain ⟨p, r, actor, hlive, rfl⟩ := h
    exact hused hlive
  case revokeAllAuthenticated =>
    obtain ⟨p, r, actor, hlive, rfl⟩ := h
    exact hused hlive
  case validateGrant =>
    obtain ⟨p, r, actor, hlive, -, rfl⟩ := h
    exact hused hlive

theorem Consumed.dead (hs' : Coherent used (apply s op).2) (hfresh : m.handle ∉ op.issues)
    (h : Consumed s op m) : Dead (apply s op).2 m := by
  obtain ⟨hop, v, hv⟩ := h
  have hev := (apply_allowed hv).2
  cases m with
  | root k =>
    rcases hop with ⟨root, d, now, rfl, rfl⟩ | ⟨h, b, hk, hb, hid⟩
    · obtain ⟨r, actor, hlive, -, -, hstate⟩ := hev
      have hkey : r.handle = root.credential.handle := Table.key_of_get? hlive.found
      intro r' hr'
      rw [hstate] at hr'
      rw [Table.eq_of_get?_put hr' hkey]
      rfl
    · exact hev.root_dead hk hb hid
  | bootstrap k => exact hev.bootstrap_dead hop
  | stepUp k => exact hev.stepUp_dead hop
  | recovery k => exact hev.recovery_dead hop hfresh
  | ceremony k => exact hev.ceremony_dead hop
  | grant g =>
    obtain ⟨p, hp, hgrant, hunused⟩ := hev.grant_used hop
    refine ⟨fun p' hp' => ?_, fun c hc => ?_⟩
    · rw [← Option.some.inj (hp.symm.trans hp')]
      exact hunused
    · have hlink := (hs'.linked.grants _ p hp).2
      rw [hgrant] at hlink
      exact (hlink c hc).2

/-! ### Whole runs -/

theorem Fresh.append {pre post : List Op} (h : Fresh (pre ++ post)) :
    Fresh pre ∧ ∀ k ∈ pre.flatMap Op.issues, k ∉ post.flatMap Op.issues := by
  unfold Fresh at h
  rw [List.flatMap_append] at h
  exact ⟨List.Nodup.of_append_left h, fun k hk => List.disjoint_of_nodup_append h hk⟩

theorem not_consumed_of_dead {pre mid post : List Op} {op : Op}
    (hfresh : Fresh (pre ++ (mid ++ op :: post))) (hm : m.handle ∈ pre.flatMap Op.issues)
    (h : Dead (run apply Store.empty pre) m) :
    ¬Consumed (run apply Store.empty (pre ++ mid)) op m := by
  have hlater := hfresh.append.2 m.handle hm
  rw [List.flatMap_append, List.mem_append, not_or] at hlater
  rw [run_append]
  exact fun hc => hc.live.2 (h.run hlater.1)

/-- In a run that issues no handle twice, one-use material yields at most one consuming outcome;
and material that is spent, or whose record was removed, yields none. -/
theorem one_use {ops : List Op} (hfresh : Fresh ops) (m : Material) :
    (∀ pre op mid op' post, ops = pre ++ op :: (mid ++ op' :: post) →
      Consumed (run apply Store.empty pre) op m →
        ¬Consumed (run apply Store.empty (pre ++ op :: mid)) op' m) ∧
    ∀ pre mid op post, ops = pre ++ (mid ++ op :: post) → m.handle ∈ pre.flatMap Op.issues →
      Dead (run apply Store.empty pre) m →
        ¬Consumed (run apply Store.empty (pre ++ mid)) op m := by
  refine ⟨?_, fun pre mid op post hops => not_consumed_of_dead (hops ▸ hfresh)⟩
  rintro pre op mid op' post rfl h
  have hsplit : pre ++ op :: (mid ++ op' :: post) = (pre ++ [op]) ++ (mid ++ op' :: post) := by simp
  rw [hsplit] at hfresh
  have hstate : run apply Store.empty (pre ++ [op]) = (apply (run apply Store.empty pre) op).2 :=
    run_append ..
  have hpre := hfresh.append.1
  -- What is consumed was issued before, so the consuming call does not issue it again.
  have hm : m.handle ∈ pre.flatMap Op.issues :=
    (run_coherent hpre.append.1).linked.held _ h.live.1
  have hnew : m.handle ∉ op.issues := by simpa using hpre.append.2 m.handle hm
  have hdead : Dead (run apply Store.empty (pre ++ [op])) m := by
    have hs' := run_coherent hpre
    rw [hstate] at hs' ⊢
    exact h.dead hs' hnew
  have hmem : m.handle ∈ (pre ++ [op]).flatMap Op.issues := by
    rw [List.flatMap_append]
    exact List.mem_append_left _ hm
  have hnext : pre ++ op :: mid = (pre ++ [op]) ++ mid := by simp
  rw [hnext]
  exact not_consumed_of_dead hfresh hmem hdead

namespace Sample

/-- The first bootstrap of the sample is exchanged, and not a second time. -/
theorem exchanged_once :
    Consumed (run apply Store.empty (opening.take 2)) (exchange 16 (time 20) 21 22 23)
        (.bootstrap (id 16)) ∧
      ¬Consumed (run apply Store.empty opening) (exchange 16 (time 30) 24 25 26)
        (.bootstrap (id 16)) := by
  have hfresh : Fresh (opening ++ [exchange 16 (time 30) 24 25 26]) := by
    unfold Fresh
    decide +kernel
  have hfirst : Consumed (run apply Store.empty (opening.take 2)) (exchange 16 (time 20) 21 22 23)
      (.bootstrap (id 16)) := ⟨rfl, exists_ok_of_isOk (by decide +kernel)⟩
  exact ⟨hfirst, (one_use hfresh (.bootstrap (id 16))).1 (opening.take 2) _ [] _ [] rfl hfirst⟩

end Sample

end MyCogni.Auth
