import MyCogni.Auth.Coherence

/-! Emergency revocation. It retires the sessions, recoveries and challenges of its actor, but no
bootstrap; a bootstrap without a root that was issued before stays a way back. Where none is open,
nothing of the actor is accepted until a reprovision. -/

namespace MyCogni.Auth

/-- A record of the actor that the call presents for a decision. -/
inductive UsesAuthority (s : Store) (op : Op) (a : OpaqueId) : Prop
  | session {h : OpaqueId} {r : SessionRecord} (presents : op.presentsSession = some h)
      (found : s.sessions.get? h = some r) (own : r.actorId = a)
  | recovery {h : OpaqueId} {r : RecoveryRecord} (presents : op.presentsRecovery = some h)
      (found : s.recoveries.get? h = some r) (own : r.actorId = a)
  | stepUp {h : OpaqueId} {c : StepUpRecord} (presents : op.presentsStepUp = some h)
      (found : s.stepUps.get? h = some c) (own : c.actorId = a)
  | grant {g : AuthorityGrant} (presents : op.presentsGrant = some g) (own : g.actorId = a)
  | bootstrap {h : OpaqueId} {b : BootstrapRecord} (presents : op.presentsBootstrap = some h)
      (generic : op.presentsCeremony = none) (found : s.bootstraps.get? h = some b)
      (own : b.actorId = a)

/-- A reprovision for the actor succeeds. -/
def Reprovisions (s : Store) (op : Op) (a : OpaqueId) : Prop :=
  op.presentsCeremony ≠ none ∧ op.actor? s = some a ∧ ∃ v, (apply s op).1 = .ok v

/-- A bootstrap of the actor without a root that could be exchanged at `now` or later. -/
def OpenBootstrap (s : Store) (a : OpaqueId) (now : Datetime) : Prop :=
  ∃ h b, s.bootstraps.get? h = some b ∧ b.actorId = a ∧ b.rootCapabilityId = none ∧
    b.consumed = false ∧ now < b.expiresAtUtc

/-- Nothing of the actor is usable but a bootstrap from its reprovision root. -/
structure Locked (s : Store) (a : OpaqueId) : Prop where
  initialized : ∃ actor, s.actors.get? a = some actor ∧ actor.initialized = true
  sessions : Table.All (fun r => r.actorId = a → r.revoked = true) s.sessions
  recoveries : Table.All (fun r => r.actorId = a → r.consumed = true) s.recoveries
  stepUps : Table.All (fun c => c.actorId = a → c.consumed = true) s.stepUps
  bootstraps : Table.All (fun b => b.actorId = a → b.rootCapabilityId = none →
    b.consumed = true ∨ ∃ actor, s.actors.get? a = some actor ∧
      b.expiresAtUtc ≤ actor.lastObservedUtc) s.bootstraps

variable {new : Issue → Prop} {lossy : Prop} {s s' : Store} {op : Op} {a : OpaqueId}
  {used : List OpaqueId} {v : Value}

/-! ### Purposes of bootstraps -/

def Purposed (s : Store) : Prop :=
  Table.All (fun b => b.rootPurpose ≠ some .emergencyRevoke) s.bootstraps

theorem Move.purposed (h : Move new lossy s s') (hs : Purposed s) : Purposed s' := by
  cases h with
  | spendBootstraps p now =>
    refine hs.map (BootstrapRecord.handle_sweep p now) fun b hb => ?_
    obtain ⟨u, -, hu⟩ := b.ages_sweep now p
    rw [hu]
    exact hb
  | missBootstrap now found live =>
    have hb := hs _ _ found
    exact hs.put hb
  | @issueBootstrap b hn valid alone source =>
    refine hs.put ?_
    rcases source with ⟨root, actor, hroot⟩ | ⟨session, hopen⟩
    · rw [hroot.purpose]
      rcases hroot.initial with ⟨h, -⟩ | ⟨h, -⟩ <;> simp [h]
    · rw [valid.2.2.mp hopen.rootId]
      exact fun hnone => nomatch hnone
  | collect now retentionSeconds => exact hs.filter _
  | _ => exact hs

theorem run_purposed (ops : List Op) : Purposed (run apply Store.empty ops) :=
  run_invariant (fun s op hs => (apply_moves s op).preserves (fun _ _ => Move.purposed) hs) ops
    Table.all_empty

/-! ### A locked actor -/

theorem Locked.not_session (hl : Locked s a) {h : OpaqueId} {d : SecretDigest} {now : Datetime}
    {r : SessionRecord} {actor : ActorRecord} (hr : LiveSession s h d now r actor) :
    r.actorId ≠ a := fun hown => by simpa [hl.sessions h r hr.found hown] using hr.live

theorem Locked.not_recovery (hl : Locked s a) {h : OpaqueId} {d : SecretDigest} {now : Datetime}
    {r : RecoveryRecord} {actor : ActorRecord} (hr : LiveRecovery s h d now r actor) :
    r.actorId ≠ a := fun hown => by simpa [hl.recoveries h r hr.found hown] using hr.live

theorem Locked.not_bootstrap (hl : Locked s a) (hp : Purposed s) {h : OpaqueId} {d : SecretDigest}
    {now : Datetime} {b : BootstrapRecord} {actor : ActorRecord}
    (hb : LiveBootstrap s h d now b actor) (hpurpose : b.rootPurpose ≠ some .reprovision)
    (hopen : RootOpen s b actor) : b.actorId ≠ a := by
  rintro rfl
  obtain ⟨actor', hactor', hinit⟩ := hl.initialized
  obtain rfl : actor = actor' := Option.some.inj (hb.observable.found.symm.trans hactor')
  cases hid : b.rootCapabilityId with
  | none =>
    rcases hl.bootstraps h b hb.found rfl hid with hspent | ⟨actor', hactor', hexpired⟩
    · simpa [hspent] using hb.live
    · obtain rfl : actor = actor' := Option.some.inj (hb.observable.found.symm.trans hactor')
      exact absurd (hexpired.trans hb.observable.notAfter) (not_le.mpr hb.window.2)
  | some rootId =>
    -- Its root is the initial one, which an initialized actor cannot claim.
    obtain ⟨root, hroot, -, hsame, hinitial⟩ := hopen rootId hid
    have hne : b.rootPurpose ≠ some .emergencyRevoke := hp h b hb.found
    rw [← hsame] at hne hpurpose
    cases hcase : root.purpose with
    | initialBootstrap => exact hinitial ⟨hcase, hinit⟩
    | emergencyRevoke => exact hne (by rw [hcase])
    | reprovision => exact hpurpose (by rw [hcase])

theorem Locked.not_used (hl : Locked s a) (hp : Purposed s) (hu : UsesAuthority s op a) :
    ¬∃ v, (apply s op).1 = .ok v := by
  rintro ⟨v, hv⟩
  have hev := (apply_allowed hv).2
  cases hu with
  | session presents found own =>
    obtain ⟨d, now, r, actor, hlive⟩ := hev.session presents
    obtain rfl := Option.some.inj (hlive.found.symm.trans found)
    exact hl.not_session hlive own
  | recovery presents found own =>
    obtain ⟨d, now, r, actor, hlive⟩ := hev.recovery presents
    obtain rfl := Option.some.inj (hlive.found.symm.trans found)
    exact hl.not_recovery hlive own
  | @stepUp h c presents found own =>
    obtain ⟨d, now, c', actor, r, ractor, sd, hlive⟩ := hev.stepUp presents
    obtain rfl := Option.some.inj (hlive.found.symm.trans found)
    simpa [hl.stepUps h c' found own] using hlive.live
  | grant presents own =>
    obtain ⟨session, d, now, p, r, actor, hlive, -⟩ := hev.grant presents
    exact hl.not_session hlive.live (hlive.ofActor.symm.trans own)
  | bootstrap presents generic found own =>
    cases op <;> cases presents
    case bootstrap.exchangeBootstrap.refl =>
      obtain ⟨b, actor, hlive, hpurpose, hopen, -⟩ := hev
      obtain rfl := Option.some.inj (hlive.found.symm.trans found)
      exact hl.not_bootstrap hp hlive hpurpose hopen own
    case bootstrap.exchangeReprovisionBootstrap.refl => exact nomatch generic

/-! ### Calls on a locked actor -/

section New
variable (hl : Locked s a) (hp : Purposed s)
include hl

theorem Locked.new_stepUp {c : StepUpRecord} (h : Authorizes s op (.stepUp c)) : c.actorId ≠ a := by
  cases op <;> try exact h.elim
  case createStepUp =>
    obtain ⟨r, actor, hlive, hactor, -, rfl⟩ := h
    exact fun hown => hl.not_session hlive (hactor.symm.trans hown)

theorem Locked.new_bootstrap {b : BootstrapRecord} (h : Authorizes s op (.bootstrap b))
    (hid : b.rootCapabilityId = none) : b.actorId ≠ a := by
  cases op <;> try exact h.elim
  case createRootBootstrap =>
    obtain ⟨rfl, root, actor, -, -, hrooted⟩ := h
    exact nomatch hid.symm.trans hrooted.rootId
  case createAuthenticatedBootstrap =>
    obtain ⟨rfl, -, -, hactor, -, p, r, actor, hlive⟩ := h
    exact fun hown => hl.not_session hlive.live (hlive.ofActor.symm.trans (hactor.symm.trans hown))
  case createReprovisionBootstrap =>
    obtain ⟨root, actor, -, rfl⟩ := h
    exact nomatch hid

include hp

theorem Locked.new_session {r : SessionRecord} (h : Authorizes s op (.session r))
    (hv : (apply s op).1 = .ok v) (hown : r.actorId = a) : Reprovisions s op a := by
  cases op <;> try exact h.elim
  case exchangeBootstrap =>
    obtain ⟨b, actor, hlive, hpurpose, hopen, rfl⟩ := h
    have hkey : actor.actorId = b.actorId := Table.key_of_get? hlive.observable.found
    exact absurd (hkey.symm.trans hown) (hl.not_bootstrap hp hlive hpurpose hopen)
  case exchangeReprovisionBootstrap =>
    obtain ⟨proof, binding, b, root, actor, hlive, rfl⟩ := h
    have hkey : actor.actorId = b.actorId := Table.key_of_get? hlive.bootstrap.observable.found
    refine ⟨fun hnone => (nomatch hnone), ?_, v, hv⟩
    rw [Op.actor?, hlive.foundRecord, Option.map_some]
    exact congrArg some (hkey.symm.trans hown)
  case rotateSession =>
    obtain ⟨prior, actor, hlive, rfl⟩ := h
    exact (hl.not_session hlive hown).elim
  case recover =>
    obtain ⟨record, actor, hlive, rfl⟩ := h
    have hkey : actor.actorId = record.actorId := Table.key_of_get? hlive.observable.found
    exact absurd (hkey.symm.trans hown) (hl.not_recovery hlive)

theorem Locked.new_recovery {r : RecoveryRecord} (h : Authorizes s op (.recovery r))
    (hv : (apply s op).1 = .ok v) (hown : r.actorId = a) : Reprovisions s op a := by
  have hgrant : ∀ {session d g now p record actor},
      LiveGrant s session d g now p record actor → actor.actorId ≠ a := by
    intro session d g now p record actor hlive hown
    have hkey : actor.actorId = record.actorId := Table.key_of_get? hlive.live.observable.found
    exact hl.not_session hlive.live (hkey.symm.trans hown)
  cases op <;> try exact h.elim
  case exchangeBootstrap =>
    obtain ⟨b, actor, hlive, hpurpose, hopen, rfl⟩ := h
    have hkey : actor.actorId = b.actorId := Table.key_of_get? hlive.observable.found
    exact absurd (hkey.symm.trans hown) (hl.not_bootstrap hp hlive hpurpose hopen)
  case exchangeReprovisionBootstrap =>
    obtain ⟨proof, binding, b, root, actor, hlive, rfl⟩ := h
    have hkey : actor.actorId = b.actorId := Table.key_of_get? hlive.bootstrap.observable.found
    refine ⟨fun hnone => (nomatch hnone), ?_, v, hv⟩
    rw [Op.actor?, hlive.foundRecord, Option.map_some]
    exact congrArg some (hkey.symm.trans hown)
  case renewRecovery =>
    obtain ⟨-, p, record, actor, hlive, rfl⟩ := h
    exact absurd hown (hgrant hlive)
  case revokeAllAuthenticated =>
    obtain ⟨-, p, record, actor, hlive, rfl⟩ := h
    exact (hgrant hlive hown).elim
  case recover =>
    obtain ⟨record, actor, hlive, rfl⟩ := h
    have hkey : actor.actorId = record.actorId := Table.key_of_get? hlive.observable.found
    exact absurd (hkey.symm.trans hown) (hl.not_recovery hlive)

end New

theorem Locked.apply (hl : Locked s a) (hp : Purposed s) (hs : Coherent used s) (op : Op) :
    Locked (apply s op).2 a ∨ Reprovisions s op a := by
  by_cases hrep : Reprovisions s op a
  · exact Or.inr hrep
  have hd := apply_descent s op
  have hactors := (apply_moves s op).actors
  refine Or.inl ⟨?_, fun k r' hr' hown => ?_, fun k r' hr' hown => ?_, fun k c' hc' hown => ?_,
    fun k b' hb' hown hid => ?_⟩
  · obtain ⟨actor, hactor, hinit⟩ := hl.initialized
    obtain ⟨actor', hactor', hages⟩ := hactors a actor hactor
    exact ⟨actor', hactor', hages.initialized hinit⟩
  · obtain ⟨r, hages, -, hr | hnew⟩ := hd.sessions k r' hr'
    · rcases hages with rfl | ⟨t, rfl⟩
      · exact hl.sessions k _ hr hown
      · rfl
    · obtain ⟨hauth, v, hv⟩ := hs.issues hnew
      have hown₀ : r.actorId = a := by
        rcases hages with rfl | ⟨t, rfl⟩ <;> exact hown
      exact absurd (hl.new_session hp hauth hv hown₀) hrep
  · obtain ⟨r, ⟨u, hu, rfl⟩, -, hr | hnew⟩ := hd.recoveries k r' hr'
    · exact hu.spent (hl.recoveries k r hr hown)
    · obtain ⟨hauth, v, hv⟩ := hs.issues hnew
      exact absurd (hl.new_recovery hp hauth hv hown) hrep
  · obtain ⟨c, ⟨u, hu, rfl⟩, -, hc | hnew⟩ := hd.stepUps k c' hc'
    · exact hu.spent (hl.stepUps k c hc hown)
    · exact (hl.new_stepUp hnew.1 hown).elim
  · obtain ⟨b, ⟨u, hu, rfl⟩, -, hb | hnew⟩ := hd.bootstraps k b' hb'
    · rcases hl.bootstraps k b hb hown hid with hspent | ⟨actor, hactor, hexpired⟩
      · exact Or.inl (hu.spent hspent)
      · obtain ⟨actor', hactor', hages⟩ := hactors a actor hactor
        exact Or.inr ⟨actor', hactor', hexpired.trans hages.observed⟩
    · exact (hl.new_bootstrap hnew.1 hid hown).elim

/-- The revocation locks its actor, unless a bootstrap without a root is open. -/
theorem locked_of_emergencyRevoke {root : RootCapability} {d : SecretDigest} {now : Datetime}
    (hv : (apply s (.emergencyRevoke root d now)).1 = .ok v) {actor : ActorRecord}
    (hactor : s.actors.get? root.actorId = some actor) (hinit : actor.initialized = true)
    (hclosed : ¬OpenBootstrap s root.actorId now) :
    Locked (apply s (.emergencyRevoke root d now)).2 root.actorId := by
  obtain ⟨r, actor', hlive, -, hobs, hs'⟩ := (apply_allowed hv).2
  obtain rfl : actor = actor' := by
    have hfound := hobs.found
    rw [← hlive.actor, hactor] at hfound
    exact Option.some.inj hfound
  have hkey : actor.actorId = root.actorId := Table.key_of_get? hactor
  rw [hs']
  refine ⟨⟨_, Table.get?_put_of_eq _ hkey, hinit⟩, fun k r' hr' hown => ?_, fun k r' hr' hown => ?_,
    fun k c' hc' hown => ?_, fun k b hb hown hid => ?_⟩
  · rw [Store.advanced_sessions, Table.get?_map, Option.map_eq_some_iff] at hr'
    obtain ⟨r₀, -, rfl⟩ := hr'
    unfold SessionRecord.sweep at hown ⊢
    split_ifs at hown ⊢ with hswept
    · rfl
    · exact absurd (by simpa [hkey] using hown) hswept
  · rw [Store.advanced_recoveries, Table.get?_map, Option.map_eq_some_iff] at hr'
    obtain ⟨r₀, -, rfl⟩ := hr'
    unfold RecoveryRecord.sweep at hown ⊢
    split_ifs at hown ⊢ with hswept
    · rfl
    · exact absurd (by simpa [hkey] using hown) hswept
  · rw [Store.advanced_stepUps, Table.get?_map, Option.map_eq_some_iff] at hc'
    obtain ⟨c₀, -, rfl⟩ := hc'
    unfold StepUpRecord.sweep at hown ⊢
    split_ifs at hown ⊢ with hswept
    · rfl
    · exact absurd (by simpa [hkey] using hown) hswept
  · by_cases hspent : b.consumed = true
    · exact Or.inl hspent
    · refine Or.inr ⟨_, Table.get?_put_of_eq _ hkey, ?_⟩
      by_contra hlate
      exact hclosed ⟨k, b, hb, hown, hid, by simpa using hspent, not_le.mp hlate⟩

theorem Locked.run (hl : Locked s a) (hp : Purposed s) (hs : Coherent used s) {ops : List Op}
    (hfresh : (used ++ ops.flatMap Op.issues).Nodup) :
    Locked (run Auth.apply s ops) a ∨ ∃ ops₁ op ops₂, ops = ops₁ ++ op :: ops₂ ∧
      Reprovisions (MyCogni.run Auth.apply s ops₁) op a := by
  induction ops generalizing used s with
  | nil => exact Or.inl hl
  | cons op ops ih =>
    rw [List.flatMap_cons, ← List.append_assoc] at hfresh
    have hdisjoint := List.disjoint_of_nodup_append (List.Nodup.of_append_left hfresh)
    rcases hl.apply hp hs op with hnext | hrep
    · have hp' := (apply_moves s op).preserves (fun _ _ => Move.purposed) hp
      have hs' := hs.apply fun h hmem hused => hdisjoint hused hmem
      rcases ih hnext hp' hs' hfresh with h | ⟨ops₁, op', ops₂, rfl, h⟩
      · exact Or.inl h
      · exact Or.inr ⟨op :: ops₁, op', ops₂, rfl, h⟩
    · exact Or.inr ⟨[], op, ops, rfl, hrep⟩

/-- After an emergency revocation that finds no open bootstrap without a root, nothing of the actor
is accepted before a reprovision succeeds. -/
theorem emergency_lockout {pre later : List Op} {root : RootCapability} {d : SecretDigest}
    {now : Datetime} {last : Op} {actor : ActorRecord} {v v' : Value}
    (hfresh : Fresh (pre ++ .emergencyRevoke root d now :: later))
    (hactor : (run apply Store.empty pre).actors.get? root.actorId = some actor)
    (hinit : actor.initialized = true)
    (hclosed : ¬OpenBootstrap (run apply Store.empty pre) root.actorId now)
    (hrevoke : (apply (run apply Store.empty pre) (.emergencyRevoke root d now)).1 = .ok v)
    (hlast : (apply (run apply Store.empty (pre ++ .emergencyRevoke root d now :: later)) last).1 =
      .ok v')
    (huses : UsesAuthority (run apply Store.empty (pre ++ .emergencyRevoke root d now :: later))
      last root.actorId) :
    ∃ later₁ op later₂, later = later₁ ++ op :: later₂ ∧
      Reprovisions (run apply Store.empty (pre ++ .emergencyRevoke root d now :: later₁)) op
        root.actorId := by
  have hsplit : ∀ ops, run apply Store.empty (pre ++ .emergencyRevoke root d now :: ops) =
      run apply (apply (run apply Store.empty pre) (.emergencyRevoke root d now)).2 ops :=
    fun ops => run_append ..
  have hnodup : (pre.flatMap Op.issues ++ later.flatMap Op.issues).Nodup := by
    simpa [Fresh, Op.issues] using hfresh
  have hpre : Fresh pre := List.Nodup.of_append_left hnodup
  have hs := @Coherent.apply _ (.emergencyRevoke root d now) _ (run_coherent hpre)
    fun h hmem => nomatch hmem
  rw [show Op.issues (.emergencyRevoke root d now) = [] from rfl, List.append_nil] at hs
  have hp := (apply_moves _ (.emergencyRevoke root d now)).preserves (fun _ _ => Move.purposed)
    (run_purposed pre)
  have hlocked := locked_of_emergencyRevoke hrevoke hactor hinit hclosed
  simp only [hsplit] at hlast huses ⊢
  rcases hlocked.run hp hs hnodup with h | h
  · have hp' := run_invariant
      (fun s op hs => (apply_moves s op).preserves (fun _ _ => Move.purposed) hs) later hp
    exact absurd ⟨v', hlast⟩ (h.not_used hp' huses)
  · exact h

namespace Sample

/-- A bootstrap issued under a session before the revocation gives its bearer a new session. -/
theorem revoked_yet_exchanged :
    Fresh (opening ++ delegation ++ [revocation, exchange 41 (time 70) 51 52 53]) ∧
      (∃ actor, (run apply Store.empty (opening ++ delegation)).actors.get? (id 2) = some actor ∧
        actor.initialized = true) ∧
      (∃ v, (apply (run apply Store.empty (opening ++ delegation)) revocation).1 = .ok v) ∧
      UsesAuthority (run apply Store.empty (opening ++ delegation ++ [revocation]))
        (exchange 41 (time 70) 51 52 53) (id 2) ∧
      ∃ v, (apply (run apply Store.empty (opening ++ delegation ++ [revocation]))
        (exchange 41 (time 70) 51 52 53)).1 = .ok v := by
  refine ⟨?_, ?_, exists_ok_of_isOk (by decide +kernel), ?_, exists_ok_of_isOk (by decide +kernel)⟩
  · unfold Fresh
    decide +kernel
  · refine ⟨{ actorId := id 2, representedProfileId := id 3, epoch := 1
              lastObservedUtc := time 50, initialized := true }, ?_, rfl⟩
    decide +kernel
  · have hfound : (run apply Store.empty (opening ++ delegation ++ [revocation])).bootstraps.get?
        (id 41) = some (bootstrap 41 none none) := by decide +kernel
    exact .bootstrap rfl rfl hfound rfl

/-- Without such a bootstrap the way back is the reprovision. -/
theorem lockout_opening :
    ∃ later₁ op later₂, reprovision = later₁ ++ op :: later₂ ∧
      Reprovisions (run apply Store.empty (opening ++ revocation :: later₁)) op (id 2) := by
  have hfresh : Fresh (opening ++ revocation :: reprovision) := by
    unfold Fresh
    decide +kernel
  have hactor : (run apply Store.empty opening).actors.get? (id 2) =
      some { actorId := id 2, representedProfileId := id 3, epoch := 1
             lastObservedUtc := time 20, initialized := true } := by decide +kernel
  have hclosed : ¬OpenBootstrap (run apply Store.empty opening) (id 2) (time 60) := by
    rintro ⟨h, b, hb, -, hid, -⟩
    have hall : ∀ b ∈ (run apply Store.empty opening).bootstraps.rows,
        b.rootCapabilityId ≠ none := by decide +kernel
    exact hall b (Table.get?_eq_some.mp hb).1 hid
  obtain ⟨v, hrevoke⟩ : ∃ v, (apply (run apply Store.empty opening) revocation).1 = .ok v :=
    exists_ok_of_isOk (by decide +kernel)
  obtain ⟨v', hlast⟩ : ∃ v, (apply (run apply Store.empty (opening ++ revocation :: reprovision))
      (.authenticateSession (credential 63) (digest 63) (time 100))).1 = .ok v :=
    exists_ok_of_isOk (by decide +kernel)
  have hfound : (run apply Store.empty (opening ++ revocation :: reprovision)).sessions.get?
      (id 63) = some { session 63 with epoch := 3 } := by decide +kernel
  exact emergency_lockout hfresh hactor rfl hclosed hrevoke hlast (.session rfl hfound rfl)

end Sample

end MyCogni.Auth
