import MyCogni.Auth.Spec

/-! Where the records of a store come from. Along any moves a record keeps its identity and is only
ever spent, and every record that was not there before was issued. -/

namespace MyCogni.Auth

/-! ### Aging of a record -/

structure Attempts.Ages (u u' : Attempts) : Prop where
  spent : u.consumed = true → u'.consumed = true
  attempts : u'.attemptsRemaining ≤ u.attemptsRemaining

theorem Attempts.Ages.refl (u : Attempts) : u.Ages u := ⟨id, le_rfl⟩

theorem Attempts.Ages.trans {u u' u'' : Attempts} (h : u.Ages u') (h' : u'.Ages u'') :
    u.Ages u'' := ⟨h'.spent ∘ h.spent, h'.attempts.trans h.attempts⟩

theorem Attempts.ages_spend (u : Attempts) (now : Datetime) : u.Ages (u.spend now) :=
  ⟨fun _ => rfl, le_rfl⟩

theorem Attempts.ages_wrongProof (u : Attempts) (now : Datetime) : u.Ages (u.wrongProof now) := by
  unfold wrongProof
  split_ifs
  · exact ⟨fun _ => rfl, Nat.zero_le _⟩
  · exact ⟨id, Nat.sub_le _ _⟩

def BootstrapRecord.Ages (b b' : BootstrapRecord) : Prop :=
  ∃ u, b.toAttempts.Ages u ∧ b' = { b with toAttempts := u }

def RecoveryRecord.Ages (r r' : RecoveryRecord) : Prop :=
  ∃ u, r.toAttempts.Ages u ∧ r' = { r with toAttempts := u }

def StepUpRecord.Ages (c c' : StepUpRecord) : Prop :=
  ∃ u, c.toAttempts.Ages u ∧ c' = { c with toAttempts := u }

def SessionRecord.Ages (r r' : SessionRecord) : Prop :=
  r' = r ∨ ∃ t, r' = { r with revoked := true, retiredAtUtc := some t }

def RootCapabilityRecord.Ages (r r' : RootCapabilityRecord) : Prop :=
  r' = r ∨ r.consumed = false ∧ ∃ t, r' = r.spend t

def GrantProvenanceRecord.Ages (p p' : GrantProvenanceRecord) : Prop :=
  p' = p ∨ p.usedAtUtc = none ∧ ∃ t, p' = { p with usedAtUtc := some t }

def ReprovisionCeremonyRecord.Ages (c c' : ReprovisionCeremonyRecord) : Prop :=
  c' = c ∨ c.terminalAtUtc = none ∧ ∃ t d n, c' =
    { c with terminalAtUtc := some t, terminalDenial := some d, replaySeconds := n }

section Refl

theorem BootstrapRecord.Ages.refl (b : BootstrapRecord) : b.Ages b :=
  ⟨b.toAttempts, Attempts.Ages.refl _, rfl⟩

theorem RecoveryRecord.Ages.refl (r : RecoveryRecord) : r.Ages r :=
  ⟨r.toAttempts, Attempts.Ages.refl _, rfl⟩

theorem StepUpRecord.Ages.refl (c : StepUpRecord) : c.Ages c :=
  ⟨c.toAttempts, Attempts.Ages.refl _, rfl⟩

theorem SessionRecord.Ages.refl (r : SessionRecord) : r.Ages r := Or.inl rfl

theorem RootCapabilityRecord.Ages.refl (r : RootCapabilityRecord) : r.Ages r := Or.inl rfl

theorem GrantProvenanceRecord.Ages.refl (p : GrantProvenanceRecord) : p.Ages p := Or.inl rfl

theorem ReprovisionCeremonyRecord.Ages.refl (c : ReprovisionCeremonyRecord) : c.Ages c := Or.inl rfl

end Refl

section Trans

theorem BootstrapRecord.Ages.trans (a b c : BootstrapRecord) :
    a.Ages b → b.Ages c → a.Ages c := by
  rintro ⟨u, hu, rfl⟩ ⟨w, hw, rfl⟩
  exact ⟨w, hu.trans hw, rfl⟩

theorem RecoveryRecord.Ages.trans (a b c : RecoveryRecord) :
    a.Ages b → b.Ages c → a.Ages c := by
  rintro ⟨u, hu, rfl⟩ ⟨w, hw, rfl⟩
  exact ⟨w, hu.trans hw, rfl⟩

theorem StepUpRecord.Ages.trans (a b c : StepUpRecord) : a.Ages b → b.Ages c → a.Ages c := by
  rintro ⟨u, hu, rfl⟩ ⟨w, hw, rfl⟩
  exact ⟨w, hu.trans hw, rfl⟩

theorem SessionRecord.Ages.trans (a b c : SessionRecord) : a.Ages b → b.Ages c → a.Ages c := by
  rintro (rfl | ⟨t, rfl⟩) (rfl | ⟨t', rfl⟩)
  · exact Or.inl rfl
  · exact Or.inr ⟨t', rfl⟩
  · exact Or.inr ⟨t, rfl⟩
  · exact Or.inr ⟨t', rfl⟩

theorem RootCapabilityRecord.Ages.trans (a b c : RootCapabilityRecord) :
    a.Ages b → b.Ages c → a.Ages c := by
  rintro (rfl | ⟨hlive, t, rfl⟩) (rfl | ⟨hlive', t', rfl⟩)
  · exact Or.inl rfl
  · exact Or.inr ⟨hlive', t', rfl⟩
  · exact Or.inr ⟨hlive, t, rfl⟩
  · exact nomatch hlive'

theorem GrantProvenanceRecord.Ages.trans (a b c : GrantProvenanceRecord) :
    a.Ages b → b.Ages c → a.Ages c := by
  rintro (rfl | ⟨hunused, t, rfl⟩) (rfl | ⟨hunused', t', rfl⟩)
  · exact Or.inl rfl
  · exact Or.inr ⟨hunused', t', rfl⟩
  · exact Or.inr ⟨hunused, t, rfl⟩
  · exact nomatch hunused'

theorem ReprovisionCeremonyRecord.Ages.trans (a b c : ReprovisionCeremonyRecord) :
    a.Ages b → b.Ages c → a.Ages c := by
  rintro (rfl | ⟨hactive, t, d, n, rfl⟩) (rfl | ⟨hactive', t', d', n', rfl⟩)
  · exact Or.inl rfl
  · exact Or.inr ⟨hactive', t', d', n', rfl⟩
  · exact Or.inr ⟨hactive, t, d, n, rfl⟩
  · exact nomatch hactive'

end Trans

section Sweeps
variable (now : Datetime)

theorem BootstrapRecord.ages_sweep (p : BootstrapRecord → Bool) (b : BootstrapRecord) :
    b.Ages (b.sweep p now) := by
  unfold sweep
  split_ifs
  · exact ⟨_, b.toAttempts.ages_spend now, rfl⟩
  · exact Ages.refl b

theorem RecoveryRecord.ages_sweep (p : RecoveryRecord → Bool) (r : RecoveryRecord) :
    r.Ages (r.sweep p now) := by
  unfold sweep
  split_ifs
  · exact ⟨_, r.toAttempts.ages_spend now, rfl⟩
  · exact Ages.refl r

theorem StepUpRecord.ages_sweep (p : StepUpRecord → Bool) (c : StepUpRecord) :
    c.Ages (c.sweep p now) := by
  unfold sweep
  split_ifs
  · exact ⟨_, c.toAttempts.ages_spend now, rfl⟩
  · exact Ages.refl c

theorem SessionRecord.ages_sweep (p : SessionRecord → Bool) (r : SessionRecord) :
    r.Ages (r.sweep p now) := by
  unfold sweep
  split_ifs
  · exact Or.inr ⟨now, rfl⟩
  · exact Ages.refl r

theorem ReprovisionCeremonyRecord.ages_expire (c : ReprovisionCeremonyRecord) :
    c.Ages (c.expire now) := by
  unfold expire
  split_ifs with hdue
  · exact Or.inr ⟨hdue.1, _, _, _, rfl⟩
  · exact Ages.refl c

end Sweeps

/-! ### Descent of a store -/

structure Descent (new : Issue → Prop) (s s' : Store) : Prop where
  roots : Table.Descends RootCapabilityRecord.Ages (fun r => new (.root r)) s.roots s'.roots
  bootstraps : Table.Descends BootstrapRecord.Ages (fun b => new (.bootstrap b)) s.bootstraps
    s'.bootstraps
  sessions : Table.Descends SessionRecord.Ages (fun r => new (.session r)) s.sessions s'.sessions
  recoveries : Table.Descends RecoveryRecord.Ages (fun r => new (.recovery r)) s.recoveries
    s'.recoveries
  stepUps : Table.Descends StepUpRecord.Ages (fun c => new (.stepUp c)) s.stepUps s'.stepUps
  grants : Table.Descends GrantProvenanceRecord.Ages
    (fun p => p.usedAtUtc = none ∧ new (.grant p.grant)) s.grantProvenance s'.grantProvenance
  ceremonies : Table.Descends ReprovisionCeremonyRecord.Ages
    (fun c => c.terminalAtUtc = none ∧ new (.ceremony c)) s.reprovisionCeremonies
    s'.reprovisionCeremonies

variable {new new' : Issue → Prop} {lossy : Prop} {s s₁ s₂ s' : Store}

theorem Descent.refl (s : Store) : Descent new s s where
  roots := Table.descends_refl .refl
  bootstraps := Table.descends_refl .refl
  sessions := Table.descends_refl .refl
  recoveries := Table.descends_refl .refl
  stepUps := Table.descends_refl .refl
  grants := Table.descends_refl .refl
  ceremonies := Table.descends_refl .refl

theorem Descent.trans (h : Descent new s s₁) (h' : Descent new s₁ s₂) : Descent new s s₂ where
  roots := h.roots.trans .trans h'.roots
  bootstraps := h.bootstraps.trans .trans h'.bootstraps
  sessions := h.sessions.trans .trans h'.sessions
  recoveries := h.recoveries.trans .trans h'.recoveries
  stepUps := h.stepUps.trans .trans h'.stepUps
  grants := h.grants.trans .trans h'.grants
  ceremonies := h.ceremonies.trans .trans h'.ceremonies

theorem Descent.mono (h : Descent new s s') (hnew : ∀ i, new i → new' i) : Descent new' s s' where
  roots := h.roots.mono fun _ => hnew _
  bootstraps := h.bootstraps.mono fun _ => hnew _
  sessions := h.sessions.mono fun _ => hnew _
  recoveries := h.recoveries.mono fun _ => hnew _
  stepUps := h.stepUps.mono fun _ => hnew _
  grants := h.grants.mono fun _ hp => ⟨hp.1, hnew _ hp.2⟩
  ceremonies := h.ceremonies.mono fun _ hc => ⟨hc.1, hnew _ hc.2⟩

theorem Move.descent (h : Move new lossy s s') : Descent new s s' := by
  have same : Descent new s s := Descent.refl s
  cases h with
  | arm point => exact { same with }
  | install now h hn =>
    exact { same with roots := Table.descends_foldl_put .refl .trans _ _ hn }
  | observe h => exact { same with }
  | setInitialized found => exact { same with }
  | advance now found =>
    exact { same with
      sessions := Table.descends_map (SessionRecord.handle_sweep _ now) (SessionRecord.ages_sweep now _)
      stepUps := Table.descends_map (StepUpRecord.handle_sweep _ now) (StepUpRecord.ages_sweep now _)
      recoveries := Table.descends_map (RecoveryRecord.handle_sweep _ now) (RecoveryRecord.ages_sweep now _) }
  | consumeRoot now found live hl =>
    exact { same with roots := Table.descends_put .refl (Or.inr ⟨live, now, rfl⟩) rfl (Or.inl found) }
  | @replaceRoot root issue now found live purpose unused hn =>
    have hspent : Table.Descends RootCapabilityRecord.Ages (fun r => new (.root r)) s.roots
        (s.roots.put (root.spend now)) :=
      Table.descends_put .refl (Or.inr ⟨live, now, rfl⟩) rfl (Or.inl found)
    exact { same with
      roots := hspent.trans .trans (Table.descends_put .refl (.refl _) rfl (Or.inr hn)) }
  | spendBootstraps p now =>
    exact { same with
      bootstraps := Table.descends_map (BootstrapRecord.handle_sweep _ now) (BootstrapRecord.ages_sweep now _) }
  | missBootstrap now found live =>
    exact { same with
      bootstraps := Table.descends_put .refl ⟨_, Attempts.ages_wrongProof _ now, rfl⟩ rfl
        (Or.inl found) }
  | issueBootstrap hn valid alone source =>
    exact { same with bootstraps := Table.descends_put .refl (.refl _) rfl (Or.inr hn) }
  | revokeSessions p now =>
    exact { same with
      sessions := Table.descends_map (SessionRecord.handle_sweep _ now) (SessionRecord.ages_sweep now _) }
  | issueSession hn valid known current ofProfile =>
    exact { same with sessions := Table.descends_put .refl (.refl _) rfl (Or.inr hn) }
  | spendRecoveries p now =>
    exact { same with
      recoveries := Table.descends_map (RecoveryRecord.handle_sweep _ now) (RecoveryRecord.ages_sweep now _) }
  | missRecovery now found live =>
    exact { same with
      recoveries := Table.descends_put .refl ⟨_, Attempts.ages_wrongProof _ now, rfl⟩ rfl
        (Or.inl found) }
  | issueRecovery hn valid known current ofProfile =>
    exact { same with recoveries := Table.descends_put .refl (.refl _) rfl (Or.inr hn) }
  | spendStepUps p now =>
    exact { same with
      stepUps := Table.descends_map (StepUpRecord.handle_sweep _ now) (StepUpRecord.ages_sweep now _) }
  | missStepUp now found live =>
    exact { same with
      stepUps := Table.descends_put .refl ⟨_, Attempts.ages_wrongProof _ now, rfl⟩ rfl
        (Or.inl found) }
  | issueStepUp hn valid found known current ofSession =>
    exact { same with stepUps := Table.descends_put .refl (.refl _) rfl (Or.inr hn) }
  | recordGrant now hn valid found live session =>
    exact { same with
      stepUps := Table.descends_put .refl ⟨_, Attempts.ages_spend _ now, rfl⟩ rfl (Or.inl found)
      grants := Table.descends_put .refl (.refl _) rfl (Or.inr ⟨rfl, hn⟩) }
  | useGrant now found unused notBefore =>
    exact { same with
      grants := Table.descends_put .refl (Or.inr ⟨unused, now, rfl⟩) rfl (Or.inl found) }
  | gcCeremonies now =>
    exact { same with
      ceremonies := Table.Descends.trans .trans (Table.descends_map (·.handle_expire now)
        (ReprovisionCeremonyRecord.ages_expire now)) (Table.descends_filter .refl _) }
  | trimTombstones serviceHandle capacity =>
    exact { same with ceremonies := Table.descends_filter .refl _ }
  | registerCeremony hn valid h =>
    exact { same with
      ceremonies := Table.descends_put .refl (.refl _) rfl (Or.inr ⟨h.active, hn⟩) }
  | burnCeremony now denial replaySeconds found active =>
    exact { same with
      ceremonies := Table.descends_put .refl (Or.inr ⟨active, _, _, _, rfl⟩) rfl (Or.inl found) }
  | collect now retentionSeconds =>
    exact { same with
      roots := Table.descends_filter .refl _
      bootstraps := Table.descends_filter .refl _
      sessions := Table.descends_filter .refl _
      recoveries := Table.descends_filter .refl _
      stepUps := Table.descends_filter .refl _
      grants := Table.descends_filter .refl _ }

theorem Moves.descent (h : Moves new lossy s s') : Descent new s s' := by
  induction h with
  | refl => exact Descent.refl s
  | tail _ hlast ih => exact ih.trans hlast.descent

theorem apply_descent (s : Store) (op : Op) : Descent (Issues s op) s (apply s op).2 :=
  (apply_moves s op).descent

/-! ### Actors -/

structure ActorRecord.Ages (a a' : ActorRecord) : Prop where
  profile : a'.representedProfileId = a.representedProfileId
  epoch : a.epoch ≤ a'.epoch
  observed : a.lastObservedUtc ≤ a'.lastObservedUtc
  initialized : a.initialized = true → a'.initialized = true

theorem ActorRecord.Ages.refl (a : ActorRecord) : a.Ages a := ⟨rfl, le_rfl, le_rfl, id⟩

theorem ActorRecord.Ages.trans (a b c : ActorRecord) (h : a.Ages b) (h' : b.Ages c) : a.Ages c :=
  ⟨h'.profile.trans h.profile, h.epoch.trans h'.epoch, h.observed.trans h'.observed,
    h'.initialized ∘ h.initialized⟩

theorem Move.actors (h : Move new lossy s s') :
    Table.Keeps ActorRecord.Ages s.actors s'.actors := by
  have same : Table.Keeps ActorRecord.Ages s.actors s.actors := Table.keeps_refl .refl
  cases h with
  | @install i a p records o sv now h hn =>
    refine Table.keeps_put .refl fun r hr => ?_
    exact nomatch h.actor.symm.trans hr
  | observe h =>
    refine Table.keeps_put .refl fun r hr => ?_
    obtain rfl : _ = r := Option.some.inj (h.found.symm.trans hr)
    exact ⟨rfl, le_rfl, h.notAfter, id⟩
  | setInitialized found =>
    refine Table.keeps_put .refl fun r hr => ?_
    obtain rfl : _ = r := Option.some.inj (found.symm.trans hr)
    exact ⟨rfl, le_rfl, le_rfl, fun _ => rfl⟩
  | advance now found =>
    refine Table.keeps_put .refl fun r hr => ?_
    obtain rfl : _ = r := Option.some.inj (found.symm.trans hr)
    exact ⟨rfl, Nat.le_succ _, le_rfl, id⟩
  | _ => exact same

theorem Moves.actors (h : Moves new lossy s s') :
    Table.Keeps ActorRecord.Ages s.actors s'.actors := by
  induction h with
  | refl => exact Table.keeps_refl .refl
  | tail _ hlast ih => exact ih.trans .trans hlast.actors

theorem run_actors (s : Store) (ops : List Op) :
    Table.Keeps ActorRecord.Ages s.actors (run apply s ops).actors :=
  run_relation (v := fun _ => True) (r := fun s s' => Table.Keeps ActorRecord.Ages s.actors s'.actors)
    (fun _ => Table.keeps_refl .refl) (fun _ _ _ => Table.Keeps.trans .trans)
    (fun s op _ => ⟨trivial, (apply_moves s op).actors⟩) ops trivial

/-! ### Handles -/

def Issue.handle : Issue → OpaqueId
  | root r => r.handle
  | bootstrap r => r.handle
  | session r => r.handle
  | recovery r => r.handle
  | stepUp r => r.handle
  | grant g => g.authorityEvidenceId
  | ceremony r => r.handle

/-- A record stands under the handle. -/
inductive Store.Holds (s : Store) (h : OpaqueId) : Prop
  | root {r : RootCapabilityRecord} (found : s.roots.get? h = some r)
  | bootstrap {r : BootstrapRecord} (found : s.bootstraps.get? h = some r)
  | session {r : SessionRecord} (found : s.sessions.get? h = some r)
  | recovery {r : RecoveryRecord} (found : s.recoveries.get? h = some r)
  | stepUp {r : StepUpRecord} (found : s.stepUps.get? h = some r)
  | grant {r : GrantProvenanceRecord} (found : s.grantProvenance.get? h = some r)
  | ceremony {r : ReprovisionCeremonyRecord} (found : s.reprovisionCeremonies.get? h = some r)

theorem Descent.holds (hd : Descent new s s') {h : OpaqueId} (hs : s'.Holds h) :
    s.Holds h ∨ ∃ x, new x ∧ x.handle = h := by
  cases hs with
  | root found =>
    obtain ⟨r, -, hkey, hr | hr⟩ := hd.roots h _ found
    · exact Or.inl (.root hr)
    · exact Or.inr ⟨_, hr, hkey⟩
  | bootstrap found =>
    obtain ⟨r, -, hkey, hr | hr⟩ := hd.bootstraps h _ found
    · exact Or.inl (.bootstrap hr)
    · exact Or.inr ⟨_, hr, hkey⟩
  | session found =>
    obtain ⟨r, -, hkey, hr | hr⟩ := hd.sessions h _ found
    · exact Or.inl (.session hr)
    · exact Or.inr ⟨_, hr, hkey⟩
  | recovery found =>
    obtain ⟨r, -, hkey, hr | hr⟩ := hd.recoveries h _ found
    · exact Or.inl (.recovery hr)
    · exact Or.inr ⟨_, hr, hkey⟩
  | stepUp found =>
    obtain ⟨r, -, hkey, hr | hr⟩ := hd.stepUps h _ found
    · exact Or.inl (.stepUp hr)
    · exact Or.inr ⟨_, hr, hkey⟩
  | grant found =>
    obtain ⟨r, -, hkey, hr | hr⟩ := hd.grants h _ found
    · exact Or.inl (.grant hr)
    · exact Or.inr ⟨_, hr.2, hkey⟩
  | ceremony found =>
    obtain ⟨r, -, hkey, hr | hr⟩ := hd.ceremonies h _ found
    · exact Or.inl (.ceremony hr)
    · exact Or.inr ⟨_, hr.2, hkey⟩

variable {op : Op}

/-- A grant is recorded under the handle of its challenge, every other record under a handle that
the call brought. -/
theorem Authorizes.handle {x : Issue} (h : Authorizes s op x) :
    x.handle ∈ op.issues ∨ ∃ c, x = .grant (StepUpRecord.grant c) ∧
      s.stepUps.get? x.handle = some c ∧ c.consumed = false := by
  cases op <;> cases x <;> try exact h.elim
  case initializeInstallation.root =>
    exact Or.inl (List.mem_append_left _ (List.mem_map_of_mem h))
  case createRootBootstrap.bootstrap =>
    obtain ⟨rfl, -⟩ := h
    exact Or.inl List.mem_cons_self
  case createAuthenticatedBootstrap.bootstrap =>
    obtain ⟨rfl, -⟩ := h
    exact Or.inl List.mem_cons_self
  case createReprovisionBootstrap.bootstrap =>
    obtain ⟨_, _, _, rfl⟩ := h
    exact Or.inl List.mem_cons_self
  case createReprovisionCeremony.ceremony =>
    exact Or.inl (List.mem_singleton.mpr h.1)
  case exchangeBootstrap.session =>
    obtain ⟨_, _, _, _, _, rfl⟩ := h
    exact Or.inl List.mem_cons_self
  case exchangeBootstrap.recovery =>
    obtain ⟨_, _, _, _, _, rfl⟩ := h
    exact Or.inl (List.mem_cons_of_mem _ List.mem_cons_self)
  case exchangeReprovisionBootstrap.session =>
    obtain ⟨_, _, _, _, _, _, rfl⟩ := h
    exact Or.inl List.mem_cons_self
  case exchangeReprovisionBootstrap.recovery =>
    obtain ⟨_, _, _, _, _, _, rfl⟩ := h
    exact Or.inl (List.mem_cons_of_mem _ List.mem_cons_self)
  case exchangeReprovisionBootstrap.root =>
    obtain ⟨_, _, _, _, _, _, rfl⟩ := h
    exact Or.inl (List.mem_cons_of_mem _ (List.mem_cons_of_mem _ List.mem_cons_self))
  case createStepUp.stepUp =>
    obtain ⟨_, _, _, _, _, rfl⟩ := h
    exact Or.inl List.mem_cons_self
  case consumeStepUp.grant =>
    obtain ⟨c, _, _, _, hlive, _, _, _, _, _, rfl⟩ := h
    have hkey : c.handle = _ := Table.key_of_get? hlive.found
    refine Or.inr ⟨c, rfl, ?_, hlive.live⟩
    rw [Issue.handle, StepUpRecord.grant, hkey]
    exact hlive.found
  case rotateSession.session =>
    obtain ⟨_, _, _, rfl⟩ := h
    exact Or.inl List.mem_cons_self
  case renewRecovery.recovery =>
    obtain ⟨-, _, _, _, _, rfl⟩ := h
    exact Or.inl List.mem_cons_self
  case revokeAllAuthenticated.recovery =>
    obtain ⟨-, _, _, _, _, rfl⟩ := h
    exact Or.inl List.mem_cons_self
  case recover.session =>
    obtain ⟨_, _, _, rfl⟩ := h
    exact Or.inl List.mem_cons_self
  case recover.recovery =>
    obtain ⟨_, _, _, rfl⟩ := h
    exact Or.inl (List.mem_cons_of_mem _ List.mem_cons_self)

theorem Issues.mem_issues {x : Issue} (h : Issues s op x) (hx : ∀ g, x ≠ .grant g) :
    x.handle ∈ op.issues := by
  rcases h.1.handle with hmem | ⟨c, hc, -⟩
  · exact hmem
  · exact absurd hc (hx _)

section Kept
variable {h : OpaqueId} (hfresh : h ∉ op.issues)
include hfresh

theorem root_kept {r' : RootCapabilityRecord} (hget : (apply s op).2.roots.get? h = some r') :
    ∃ r, s.roots.get? h = some r ∧ r.Ages r' :=
  (apply_descent s op).roots.kept
    (fun _ hr hk => hfresh (hk ▸ hr.mem_issues fun _ hg => nomatch hg)) hget

theorem bootstrap_kept {b' : BootstrapRecord}
    (hget : (apply s op).2.bootstraps.get? h = some b') :
    ∃ b, s.bootstraps.get? h = some b ∧ b.Ages b' :=
  (apply_descent s op).bootstraps.kept
    (fun _ hr hk => hfresh (hk ▸ hr.mem_issues fun _ hg => nomatch hg)) hget

theorem session_kept {r' : SessionRecord} (hget : (apply s op).2.sessions.get? h = some r') :
    ∃ r, s.sessions.get? h = some r ∧ r.Ages r' :=
  (apply_descent s op).sessions.kept
    (fun _ hr hk => hfresh (hk ▸ hr.mem_issues fun _ hg => nomatch hg)) hget

theorem recovery_found {r' : RecoveryRecord} (hget : (apply s op).2.recoveries.get? h = some r') :
    ∃ r, s.recoveries.get? h = some r ∧ r.Ages r' :=
  (apply_descent s op).recoveries.kept
    (fun _ hr hk => hfresh (hk ▸ hr.mem_issues fun _ hg => nomatch hg)) hget

theorem stepUp_kept {c' : StepUpRecord} (hget : (apply s op).2.stepUps.get? h = some c') :
    ∃ c, s.stepUps.get? h = some c ∧ c.Ages c' :=
  (apply_descent s op).stepUps.kept
    (fun _ hr hk => hfresh (hk ▸ hr.mem_issues fun _ hg => nomatch hg)) hget

theorem ceremony_kept {c' : ReprovisionCeremonyRecord}
    (hget : (apply s op).2.reprovisionCeremonies.get? h = some c') :
    ∃ c, s.reprovisionCeremonies.get? h = some c ∧ c.Ages c' :=
  (apply_descent s op).ceremonies.kept
    (fun _ hr hk => hfresh (hk ▸ hr.2.mem_issues fun _ hg => nomatch hg)) hget

end Kept

theorem apply_holds {h : OpaqueId} (hs : (apply s op).2.Holds h) : s.Holds h ∨ h ∈ op.issues := by
  rcases (apply_descent s op).holds hs with hold | ⟨x, hx, rfl⟩
  · exact Or.inl hold
  · rcases hx.1.handle with hmem | ⟨c, -, hc, -⟩
    · exact Or.inr hmem
    · exact Or.inl (.stepUp hc)

theorem run_holds {ops : List Op} {h : OpaqueId} (hs : (run apply s ops).Holds h) :
    s.Holds h ∨ h ∈ ops.flatMap Op.issues := by
  induction ops generalizing s with
  | nil => exact Or.inl hs
  | cons op ops ih =>
    rw [List.flatMap_cons, List.mem_append]
    rcases ih hs with hnext | hlater
    · exact (apply_holds hnext).imp_right Or.inl
    · exact Or.inr (Or.inr hlater)

theorem Store.not_holds_empty (h : OpaqueId) : ¬Store.empty.Holds h := by
  rintro (found | found | found | found | found | found | found) <;> exact nomatch found

/-- Records under handles that a run does not issue continue records from before the run. -/
theorem run_descent (s : Store) (ops : List Op) :
    Descent (fun x => x.handle ∈ ops.flatMap Op.issues ∨ ∃ g, x = .grant g) s (run apply s ops) := by
  induction ops generalizing s with
  | nil => exact Descent.refl s
  | cons op ops ih =>
    have hfirst : Descent (fun x => x.handle ∈ (op :: ops).flatMap Op.issues ∨ ∃ g, x = .grant g)
        s (apply s op).2 := by
      refine (apply_descent s op).mono fun x hx => ?_
      rw [List.flatMap_cons, List.mem_append]
      rcases hx.1.handle with hmem | ⟨c, hc, -⟩
      · exact Or.inl (Or.inl hmem)
      · exact Or.inr ⟨_, hc⟩
    refine hfirst.trans ((ih _).mono fun x hx => hx.imp_left fun hmem => ?_)
    rw [List.flatMap_cons, List.mem_append]
    exact Or.inr hmem

end MyCogni.Auth
