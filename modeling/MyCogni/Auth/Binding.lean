import MyCogni.Auth.Descent

/-! Every record of a store belongs to a registered actor, represents the profile of that actor,
and so belongs to exactly one installation. -/

namespace MyCogni.Auth

def OfActor (s : Store) (actorId representedProfileId : OpaqueId) : Prop :=
  ∃ actor, s.actors.get? actorId = some actor ∧ actor.representedProfileId = representedProfileId

def OfInstallation (s : Store) (installationId actorId : OpaqueId) : Prop :=
  s.installationActors.get? installationId = some (installationId, actorId)

structure Bound (s : Store) : Prop where
  roots : Table.All (fun r => OfActor s r.actorId r.representedProfileId ∧
    OfInstallation s r.installationId r.actorId) s.roots
  bootstraps : Table.All (fun b => OfActor s b.actorId b.representedProfileId) s.bootstraps
  sessions : Table.All (fun r => OfActor s r.actorId r.representedProfileId) s.sessions
  recoveries : Table.All (fun r => OfActor s r.actorId r.representedProfileId) s.recoveries
  stepUps : Table.All (fun c => OfActor s c.actorId c.representedProfileId) s.stepUps
  grants : Table.All (fun p => OfActor s p.grant.actorId p.grant.representedProfileId)
    s.grantProvenance
  ceremonies : Table.All (fun c => ∃ binding, s.compositionBindings.get? c.installationId =
    some binding ∧ binding.serviceHandle = c.serviceHandle) s.reprovisionCeremonies
  known : ∀ i a, OfInstallation s i a → (s.actors.get? a).isSome
  covered : ∀ a, (s.actors.get? a).isSome → ∃ i, OfInstallation s i a
  single : ∀ i i' a, OfInstallation s i a → OfInstallation s i' a → i = i'
  composed : ∀ i, (s.compositionBindings.get? i).isSome ↔ ∃ a, OfInstallation s i a

variable {new : Issue → Prop} {lossy : Prop} {s s' : Store}

/-- Two records of one actor represent one profile. -/
theorem OfActor.profile_eq {a p p' : OpaqueId} (h : OfActor s a p) (h' : OfActor s a p') :
    p = p' := by
  obtain ⟨actor, hactor, rfl⟩ := h
  obtain ⟨actor', hactor', rfl⟩ := h'
  rw [Option.some.inj (hactor.symm.trans hactor')]

theorem bound_empty : Bound Store.empty where
  roots := Table.all_empty
  bootstraps := Table.all_empty
  sessions := Table.all_empty
  recoveries := Table.all_empty
  stepUps := Table.all_empty
  grants := Table.all_empty
  ceremonies := Table.all_empty
  known _ _ h := nomatch h
  covered _ h := nomatch h
  single _ _ _ h := nomatch h
  composed _ := by
    constructor
    · intro h
      exact nomatch h
    · rintro ⟨_, h⟩
      exact nomatch h

/-! ### Aged records -/

theorem BootstrapRecord.Ages.ofActor {b b' : BootstrapRecord} (h : b.Ages b')
    (hb : OfActor s b.actorId b.representedProfileId) :
    OfActor s b'.actorId b'.representedProfileId := by
  obtain ⟨u, -, rfl⟩ := h
  exact hb

theorem RecoveryRecord.Ages.ofActor {r r' : RecoveryRecord} (h : r.Ages r')
    (hr : OfActor s r.actorId r.representedProfileId) :
    OfActor s r'.actorId r'.representedProfileId := by
  obtain ⟨u, -, rfl⟩ := h
  exact hr

theorem StepUpRecord.Ages.ofActor {c c' : StepUpRecord} (h : c.Ages c')
    (hc : OfActor s c.actorId c.representedProfileId) :
    OfActor s c'.actorId c'.representedProfileId := by
  obtain ⟨u, -, rfl⟩ := h
  exact hc

theorem SessionRecord.Ages.ofActor {r r' : SessionRecord} (h : r.Ages r')
    (hr : OfActor s r.actorId r.representedProfileId) :
    OfActor s r'.actorId r'.representedProfileId := by
  rcases h with rfl | ⟨t, rfl⟩
  · exact hr
  · exact hr

/-! ### Single moves -/

/-- Writing an actor that is registered, with its profile. -/
theorem Bound.putActor (h : Bound s) {a actor : ActorRecord}
    (found : s.actors.get? a.actorId = some actor)
    (profile : a.representedProfileId = actor.representedProfileId) : Bound (s.putActor a) := by
  have hactors : Table.Keeps (fun r r' : ActorRecord => r'.representedProfileId =
      r.representedProfileId) s.actors (s.actors.put a) := by
    refine Table.keeps_put (fun _ => ?_) fun r hr => ?_
    · rfl
    · rw [profile, Option.some.inj (found.symm.trans hr)]
  have hmono : ∀ {a' p}, OfActor s a' p → OfActor (s.putActor a) a' p := by
    rintro a' p ⟨x, hx, rfl⟩
    exact hactors a' x hx
  have hsome : ∀ a', ((s.putActor a).actors.get? a').isSome ↔ (s.actors.get? a').isSome := by
    intro a'
    rw [Store.putActor_actors, Table.get?_put]
    split_ifs with hk
    · simp [hk, found]
    · rfl
  exact
    { h with
      roots := h.roots.mono fun _ hr => ⟨hmono hr.1, hr.2⟩
      bootstraps := h.bootstraps.mono fun _ => hmono
      sessions := h.sessions.mono fun _ => hmono
      recoveries := h.recoveries.mono fun _ => hmono
      stepUps := h.stepUps.mono fun _ => hmono
      grants := h.grants.mono fun _ => hmono
      known := fun i a' hi => (hsome a').mpr (h.known i a' hi)
      covered := fun a' ha' => h.covered a' ((hsome a').mp ha') }

theorem Bound.install (h : Bound s) {i a p : OpaqueId} {records : List RootCapabilityRecord}
    {o sv : RootCapabilityIssue} (now : Datetime) (hi : Installable s i a p records o sv) :
    Bound (s.install i a p records o sv now) := by
  have hactor : ∀ {a' p'}, OfActor s a' p' → OfActor (s.install i a p records o sv now) a' p' := by
    rintro a' p' ⟨x, hx, rfl⟩
    have hne : a' ≠ a := by
      rintro rfl
      exact nomatch hi.actor.symm.trans hx
    exact ⟨x, (Table.get?_put_of_ne _ hne).trans hx, rfl⟩
  have hinst : ∀ i' a', OfInstallation (s.install i a p records o sv now) i' a' ↔
      OfInstallation s i' a' ∨ i' = i ∧ a' = a := by
    intro i' a'
    unfold OfInstallation
    rw [Store.install_installationActors, Table.get?_put]
    split_ifs with hk
    · obtain rfl : i' = i := hk
      rw [hi.installation]
      simp [eq_comm]
    · simp [show i' ≠ i from hk]
  have hsome : ∀ a', ((s.install i a p records o sv now).actors.get? a').isSome ↔
      (s.actors.get? a').isSome ∨ a' = a := by
    intro a'
    rw [Store.install_actors, Table.get?_put]
    split_ifs with hk
    · simp [show a' = a from hk]
    · simp [show a' ≠ a from hk]
  have hcomp : ∀ i', ((s.install i a p records o sv now).compositionBindings.get? i').isSome ↔
      (s.compositionBindings.get? i').isSome ∨ i' = i := by
    intro i'
    rw [Store.install_compositionBindings, Table.get?_put]
    split_ifs with hk
    · simp [show i' = i from hk]
    · simp [show i' ≠ i from hk]
  -- No record can belong to the actor or the installation that is about to be registered.
  have hfresh : ∀ i', ¬OfInstallation s i' a := by
    intro i' h'
    have := h.known i' a h'
    rw [hi.actor] at this
    exact nomatch this
  exact
    { roots := by
        refine (h.roots.mono fun r hr => ⟨hactor hr.1, (hinst _ _).mpr (Or.inl hr.2)⟩).foldl_put
          fun r hr => ?_
        obtain ⟨hri, hra, hrp⟩ := hi.bound r hr
        refine ⟨⟨_, Table.get?_put_of_eq _ hra.symm, hrp.symm⟩, (hinst _ _).mpr (Or.inr ⟨hri, hra⟩)⟩
      bootstraps := h.bootstraps.mono fun _ => hactor
      sessions := h.sessions.mono fun _ => hactor
      recoveries := h.recoveries.mono fun _ => hactor
      stepUps := h.stepUps.mono fun _ => hactor
      grants := h.grants.mono fun _ => hactor
      ceremonies := by
        refine h.ceremonies.mono ?_
        rintro c ⟨binding, hbinding, hservice⟩
        obtain ⟨a', ha'⟩ := (h.composed c.installationId).mp (by simp [hbinding])
        have hne : c.installationId ≠ i := by
          rintro rfl
          exact nomatch hi.installation.symm.trans ha'
        exact ⟨binding, (Table.get?_put_of_ne _ hne).trans hbinding, hservice⟩
      known := fun i' a' h' => by
        rw [hsome]
        rcases (hinst i' a').mp h' with h' | ⟨-, h'⟩
        · exact Or.inl (h.known i' a' h')
        · exact Or.inr h'
      covered := fun a' h' => by
        rcases (hsome a').mp h' with h' | rfl
        · obtain ⟨i', hi'⟩ := h.covered a' h'
          exact ⟨i', (hinst _ _).mpr (Or.inl hi')⟩
        · exact ⟨i, (hinst _ _).mpr (Or.inr ⟨rfl, rfl⟩)⟩
      single := fun i₁ i₂ a' h₁ h₂ => by
        rcases (hinst i₁ a').mp h₁ with h₁ | ⟨hi₁, ha₁⟩
        · rcases (hinst i₂ a').mp h₂ with h₂ | ⟨-, ha₂⟩
          · exact h.single _ _ _ h₁ h₂
          · exact absurd (ha₂ ▸ h₁) (hfresh _)
        · rcases (hinst i₂ a').mp h₂ with h₂ | ⟨hi₂, -⟩
          · exact absurd (ha₁ ▸ h₂) (hfresh _)
          · exact hi₁.trans hi₂.symm
      composed := fun i' => by
        rw [hcomp, h.composed]
        simp only [hinst, exists_or]
        simp }

theorem Move.bound (h : Move new lossy s s') (hs : Bound s) : Bound s' := by
  cases h with
  | install now h hn => exact hs.install now h
  | observe h => exact hs.putActor h.found rfl
  | setInitialized found => exact hs.putActor found rfl
  | @advance actor now found =>
    have hactor : Bound (s.putActor actor.next) := hs.putActor found rfl
    exact { hactor with
      sessions := hactor.sessions.map (SessionRecord.handle_sweep _ now)
        fun r => (r.ages_sweep now _).ofActor
      stepUps := hactor.stepUps.map (StepUpRecord.handle_sweep _ now)
        fun c => (c.ages_sweep now _).ofActor
      recoveries := hactor.recoveries.map (RecoveryRecord.handle_sweep _ now)
        fun r => (r.ages_sweep now _).ofActor }
  | consumeRoot now found live hl =>
    have hroot := hs.roots _ _ found
    exact { hs with roots := hs.roots.put hroot }
  | replaceRoot issue now found live purpose unused hn =>
    have hroot := hs.roots _ _ found
    refine { hs with roots := Table.All.put (Table.All.put hs.roots ?_) ?_ }
    · exact hroot
    · exact hroot
  | spendBootstraps p now =>
    exact { hs with
      bootstraps := hs.bootstraps.map (BootstrapRecord.handle_sweep p now)
        fun b => (b.ages_sweep now _).ofActor }
  | missBootstrap now found live =>
    have hb := hs.bootstraps _ _ found
    exact { hs with bootstraps := hs.bootstraps.put hb }
  | @issueBootstrap b hn valid alone source =>
    have hb : OfActor s b.actorId b.representedProfileId := by
      rcases source with ⟨root, actor, hroot⟩ | ⟨session, hopen⟩
      · rcases hroot.ofProfile with hp | hp
        · rw [hroot.ofActor, hp]
          exact (hs.roots _ _ hroot.found).1
        · rw [hroot.ofActor, hp]
          exact ⟨actor, hroot.known, rfl⟩
      · rw [hopen.ofActor, hopen.ofProfile]
        exact hs.sessions _ _ hopen.found
    exact { hs with bootstraps := hs.bootstraps.put hb }
  | revokeSessions p now =>
    exact { hs with
      sessions := hs.sessions.map (SessionRecord.handle_sweep p now)
        fun r => (r.ages_sweep now _).ofActor }
  | @issueSession r actor hn valid known current ofProfile =>
    have hr : OfActor s r.actorId r.representedProfileId := by
      rcases ofProfile with hp | ⟨h, prior, hprior, ha, hp⟩
      · exact ⟨actor, known, hp.symm⟩
      · rw [← ha, ← hp]
        exact hs.sessions _ _ hprior
    exact { hs with sessions := hs.sessions.put hr }
  | spendRecoveries p now =>
    exact { hs with
      recoveries := hs.recoveries.map (RecoveryRecord.handle_sweep p now)
        fun r => (r.ages_sweep now _).ofActor }
  | missRecovery now found live =>
    have hr := hs.recoveries _ _ found
    exact { hs with recoveries := hs.recoveries.put hr }
  | issueRecovery hn valid known current ofProfile =>
    exact { hs with recoveries := hs.recoveries.put ⟨_, known, ofProfile.symm⟩ }
  | spendStepUps p now =>
    exact { hs with
      stepUps := hs.stepUps.map (StepUpRecord.handle_sweep p now)
        fun c => (c.ages_sweep now _).ofActor }
  | missStepUp now found live =>
    have hc := hs.stepUps _ _ found
    exact { hs with stepUps := hs.stepUps.put hc }
  | @issueStepUp c session actor hn valid found known current ofSession =>
    have hc : OfActor s c.actorId c.representedProfileId := by
      rw [ofSession.2.1, ofSession.2.2.1]
      exact hs.sessions _ _ found
    exact { hs with stepUps := hs.stepUps.put hc }
  | recordGrant now hn valid found live session =>
    have hc := hs.stepUps _ _ found
    exact { hs with
      stepUps := hs.stepUps.put hc
      grants := hs.grants.put hc }
  | useGrant now found unused notBefore =>
    have hp := hs.grants _ _ found
    exact { hs with grants := hs.grants.put hp }
  | gcCeremonies now =>
    refine { hs with ceremonies := Table.All.filter (hs.ceremonies.map (·.handle_expire now) ?_) _ }
    intro c hc
    unfold ReprovisionCeremonyRecord.expire
    split_ifs
    · exact hc
    · exact hc
  | trimTombstones serviceHandle capacity =>
    exact { hs with ceremonies := hs.ceremonies.filter _ }
  | registerCeremony hn valid h =>
    exact { hs with ceremonies := hs.ceremonies.put ⟨_, h.composition, h.service⟩ }
  | burnCeremony now denial replaySeconds found active =>
    have hc := hs.ceremonies _ _ found
    exact { hs with ceremonies := hs.ceremonies.put hc }
  | collect now retentionSeconds =>
    exact { hs with
      roots := hs.roots.filter _
      bootstraps := hs.bootstraps.filter _
      sessions := hs.sessions.filter _
      recoveries := hs.recoveries.filter _
      stepUps := hs.stepUps.filter _
      grants := hs.grants.filter _ }
  | _ => exact { hs with }

theorem apply_bound (s : Store) (op : Op) (hs : Bound s) : Bound (apply s op).2 :=
  (apply_moves s op).preserves (fun _ _ => Move.bound) hs

theorem run_bound (ops : List Op) : Bound (run apply Store.empty ops) :=
  run_invariant apply_bound ops bound_empty

end MyCogni.Auth
