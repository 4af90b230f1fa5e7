import MyCogni.Auth.Operation

/-! What the calls of an installation leave alone. A relation between stores that holds over every
single change holds over every call; so only setup changes the installations, and only collection
removes roots, bootstraps or sessions. -/

namespace MyCogni.Auth
open Command

/-- Relations between stores that hold over each change a call makes, other than to the roots and
the ceremonies. -/
class Frame (R : Store → Store → Prop) : Prop where
  refl : ∀ s, R s s
  trans : ∀ s s₁ s₂, R s s₁ → R s₁ s₂ → R s s₂
  putBootstrap : ∀ s r, R s (s.putBootstrap r)
  putSession : ∀ s r, R s (s.putSession r)
  spendBootstraps : ∀ s p now, R s (s.spendBootstraps p now)
  revokeSessions : ∀ s p now, R s (s.revokeSessions p now)
  /-- The other collections change, and a crash point is at most disarmed. -/
  rest : ∀ {s s'}, s'.installationActors = s.installationActors →
    s'.compositionBindings = s.compositionBindings → s'.roots = s.roots →
    s'.bootstraps = s.bootstraps → s'.sessions = s.sessions →
    s'.reprovisionCeremonies = s.reprovisionCeremonies →
    (s.crashOnce = none → s'.crashOnce = none) → R s s'

/-- A change of one root alone. -/
def FramesRoots (R : Store → Store → Prop) : Prop := ∀ s r, R s (s.putRoot r)

/-- A change of the ceremonies alone. -/
def FramesCeremonies (R : Store → Store → Prop) : Prop :=
  ∀ s t, R s { s with reprovisionCeremonies := t }

/-! ### Commands -/

abbrev Steadies {α : Type} (R : Store → Store → Prop) (c : Decision α) : Prop := Respects R c

section Commands
variable {R : Store → Store → Prop} [Frame R] {α β : Type} {now : Datetime}

theorem Steadies.bind {c : Decision β} {f : β → Decision α} (hc : Steadies R c)
    (hf : ∀ b, Steadies R (f b)) : Steadies R (c >>= f) := Respects.bind Frame.trans hc hf

theorem steadies_pure (a : α) : Steadies R (pure a : Decision α) := respects_pure Frame.refl a

theorem steadies_read : Steadies R (read : Decision Store) := respects_read Frame.refl

theorem steadies_stop (e : Halt) : Steadies R (stop e : Decision α) := respects_stop Frame.refl e

theorem steadies_require (c : Prop) [Decidable c] (e : Halt) : Steadies R (require c e) :=
  respects_require Frame.refl c e

theorem steadies_demand (o : Option α) (e : Halt) : Steadies R (demand o e) :=
  respects_demand Frame.refl o e

omit [Frame R] in
theorem steadies_write {f : Store → Store} (h : ∀ s, R s (f s)) :
    Steadies R (write f : Decision Unit) := respects_write h

theorem crashIfArmed_steady (point : CrashPoint) : Steadies R (crashIfArmed point) := by
  refine steadies_read.bind fun s => ?_
  split_ifs
  · have harm : Steadies R (write fun s => s.arm none) :=
      steadies_write fun s => Frame.rest rfl rfl rfl rfl rfl rfl fun _ => rfl
    exact harm.bind fun _ => steadies_stop _
  · exact steadies_pure ()

theorem observe_steady (actorId : OpaqueId) : Steadies R (observe actorId now) := by
  refine steadies_read.bind fun s => (steadies_demand _ _).bind fun actor =>
    (steadies_require _ _).bind fun _ => steadies_write fun s => ?_
  exact Frame.rest rfl rfl rfl rfl rfl rfl id

theorem presentLive_steady {u : Attempts} {nb exp : Datetime} {d p : SecretDigest}
    {save : Attempts → Decision Unit} (hsave : ∀ u, Steadies R (save u)) :
    Steadies R (presentLive u nb exp d p now save) := by
  unfold presentLive
  split
  · unfold denyTimed
    split_ifs
    · exact (hsave _).bind fun _ => steadies_stop _
    · exact steadies_stop _
  · split_ifs
    · exact steadies_pure ()
    · exact (hsave _).bind fun _ => steadies_stop _

theorem presentOnce_steady {u : Attempts} {nb exp : Datetime} {d p : SecretDigest}
    {save : Attempts → Decision Unit} (hsave : ∀ u, Steadies R (save u)) :
    Steadies R (presentOnce u nb exp d p now save) :=
  (steadies_require _ _).bind fun _ => presentLive_steady hsave

theorem BootstrapRecord.save_steady (b : BootstrapRecord) (u : Attempts) : Steadies R (b.save u) :=
  steadies_write fun s => Frame.putBootstrap s _

theorem RecoveryRecord.save_steady (r : RecoveryRecord) (u : Attempts) : Steadies R (r.save u) :=
  steadies_write fun _ => Frame.rest rfl rfl rfl rfl rfl rfl id

theorem StepUpRecord.save_steady (c : StepUpRecord) (u : Attempts) : Steadies R (c.save u) :=
  steadies_write fun _ => Frame.rest rfl rfl rfl rfl rfl rfl id

omit [Frame R] in
theorem consumeRoot_steady (hr : FramesRoots R) (r : RootCapabilityRecord) :
    Steadies R (consumeRoot r now) := steadies_write fun s => hr s _

theorem advanceEpoch_steady (actor : ActorRecord) : Steadies R (advanceEpoch actor) :=
  steadies_write fun _ => Frame.rest rfl rfl rfl rfl rfl rfl id

theorem consumeActorRecoveries_steady (a : OpaqueId) : Steadies R (consumeActorRecoveries a now) :=
  steadies_write fun _ => Frame.rest rfl rfl rfl rfl rfl rfl id

theorem invalidateBootstraps_steady (a : OpaqueId) : Steadies R (invalidateBootstraps a now) :=
  steadies_write fun s => Frame.spendBootstraps s _ now

theorem retireActorAuthority_steady (a : OpaqueId) : Steadies R (retireActorAuthority a now) := by
  refine steadies_write fun s => ?_
  refine Frame.trans _ _ _ (Frame.revokeSessions s (fun r => r.actorId = a) now) ?_
  exact Frame.rest rfl rfl rfl rfl rfl rfl id

theorem issueAuthority_steady (r : SessionRecord) (q : RecoveryRecord) :
    Steadies R (issueAuthority r q) := by
  refine (steadies_require _ _).bind fun _ => (steadies_require _ _).bind fun _ =>
    steadies_write fun s => Frame.trans _ _ _ (Frame.putSession s r) ?_
  exact Frame.rest rfl rfl rfl rfl rfl rfl id

theorem storeBootstrap_steady (b : BootstrapRecord) : Steadies R (storeBootstrap b) := by
  refine (steadies_require _ _).bind fun _ => Steadies.bind ?_ fun _ => steadies_pure _
  exact steadies_write fun s => Frame.putBootstrap s b

theorem issueRecovery_steady (r : RecoveryRecord) : Steadies R (issueRecovery r) := by
  refine (steadies_require _ _).bind fun _ => Steadies.bind ?_ fun _ => steadies_pure _
  exact steadies_write fun _ => Frame.rest rfl rfl rfl rfl rfl rfl id

theorem closeSession_steady (r : SessionRecord) : Steadies R (closeSession r now) := by
  refine Steadies.bind ?_ fun _ => ?_
  · exact steadies_write fun s => Frame.putSession s _
  · exact steadies_write fun _ => Frame.rest rfl rfl rfl rfl rfl rfl id

omit [Frame R] in
theorem trimReprovisionTombstonesLocked_steady (hc : FramesCeremonies R) (h : OpaqueId)
    (capacity : Int) : Steadies R (trimReprovisionTombstonesLocked h capacity) :=
  steadies_write fun s => hc s _

theorem gcReprovisionCeremoniesLocked_steady (hc : FramesCeremonies R) :
    Steadies R (gcReprovisionCeremoniesLocked now) := by
  refine steadies_read.bind fun _ => Steadies.bind ?_ fun _ =>
    steadies_read.bind fun _ => steadies_pure _
  exact steadies_write fun s => hc s _

theorem burnCeremony_steady (hc : FramesCeremonies R) (c : ReprovisionCeremonyRecord)
    (d : AuthDenial) (n : Int) (h : OpaqueId) (capacity : Int) :
    Steadies R (burnCeremony c now d n h capacity) := by
  refine Steadies.bind ?_ fun _ => trimReprovisionTombstonesLocked_steady hc h capacity
  exact steadies_write fun s => hc s _

theorem validateRootLocked_steady (c : RootCapability) (d : SecretDigest) (ps : List RootPurpose) :
    Steadies R (validateRootLocked c d ps) := by
  refine steadies_read.bind fun _ => (steadies_demand _ _).bind fun _ => ?_
  iterate 6 refine (steadies_require _ _).bind fun _ => ?_
  exact steadies_pure _

theorem authenticateSessionLocked_steady (c : OpaqueCredential) (d : SecretDigest) :
    Steadies R (authenticateSessionLocked c d now) := by
  refine steadies_read.bind fun _ => (steadies_demand _ _).bind fun _ =>
    (steadies_require _ _).bind fun _ => (observe_steady _).bind fun _ => steadies_read.bind
    fun _ => (steadies_demand _ _).bind fun _ => (steadies_require _ _).bind fun _ =>
    (steadies_require _ _).bind fun _ => ?_
  split
  · exact steadies_stop _
  · exact steadies_pure _

theorem authorizeGrantLocked_steady (c : OpaqueCredential) (d : SecretDigest) (g : AuthorityGrant)
    (p : AuthPurpose) : Steadies R (authorizeGrantLocked c d g p now) := by
  refine steadies_read.bind fun _ => (steadies_demand _ _).bind fun _ =>
    (steadies_require _ _).bind fun _ => (authenticateSessionLocked_steady c d).bind fun _ =>
    steadies_read.bind fun _ => (steadies_demand _ _).bind fun _ => ?_
  iterate 5 refine (steadies_require _ _).bind fun _ => ?_
  split
  · exact steadies_stop _
  · refine (steadies_require _ _).bind fun _ => (steadies_require _ _).bind fun _ =>
      Steadies.bind ?_ fun _ => steadies_pure _
    exact steadies_write fun _ => Frame.rest rfl rfl rfl rfl rfl rfl id

theorem claimRoot_steady (hr : FramesRoots R) (b : BootstrapRecord) (actor : ActorRecord) :
    Steadies R (claimRoot b actor now) := by
  unfold claimRoot
  split
  · exact steadies_pure ()
  · refine steadies_read.bind fun _ => (steadies_demand _ _).bind fun _ =>
      (steadies_require _ _).bind fun _ => (steadies_require _ _).bind fun _ =>
      (consumeRoot_steady hr _).bind fun _ => ?_
    exact steadies_write fun _ => Frame.rest rfl rfl rfl rfl rfl rfl id

theorem burnProof_steady (hc : FramesCeremonies R) (h : OpaqueId) (sv : OpaqueCredential)
    (sd : SecretDigest) (c : OpaqueCredential) (cd : SecretDigest) (tombstones replay : Int) :
    Steadies R (burnProof h sv sd c cd now tombstones replay) := by
  refine steadies_read.bind fun _ => (steadies_demand _ _).bind fun _ =>
    (steadies_demand _ _).bind fun _ => (steadies_require _ _).bind fun _ =>
    (gcReprovisionCeremoniesLocked_steady hc).bind fun _ => steadies_read.bind fun _ =>
    (steadies_demand _ _).bind fun _ => (steadies_require _ _).bind fun _ =>
    (steadies_demand _ _).bind fun _ => (steadies_demand _ _).bind fun _ =>
    (steadies_demand _ _).bind fun _ => (steadies_require _ _).bind fun _ =>
    (steadies_require _ _).bind fun _ => ?_
  split_ifs
  · exact (burnCeremony_steady hc _ _ _ _ _).bind fun _ => steadies_stop _
  · exact (burnCeremony_steady hc _ _ _ _ _).bind fun _ => (crashIfArmed_steady _).bind
      fun _ => steadies_pure _

theorem reprovision_steady (hr : FramesRoots R) (record : BootstrapRecord) (root : RootCapabilityRecord)
    (d : SecretDigest) (session : SessionRecord) (recovery : RecoveryRecord)
    (replacement : RootCapabilityIssue) :
    Steadies R (reprovision record root d now session recovery replacement) := by
  refine (observe_steady _).bind fun _ => (steadies_require _ _).bind fun _ =>
    (presentLive_steady record.save_steady).bind fun _ => steadies_read.bind fun _ =>
    (steadies_demand _ _).bind fun _ => ?_
  iterate 3 refine (steadies_require _ _).bind fun _ => ?_
  refine (consumeRoot_steady hr _).bind fun _ => (advanceEpoch_steady _).bind fun _ =>
    (retireActorAuthority_steady _).bind fun _ => (record.save_steady _).bind fun _ =>
    (crashIfArmed_steady _).bind fun _ => (issueAuthority_steady _ _).bind fun _ =>
    Steadies.bind ?_ fun _ => (steadies_require _ _).bind fun _ => steadies_pure _
  exact steadies_write fun s => hr s _

end Commands

/-! ### Calls -/

/-- A call on an installation that is there, other than the collection of old records. -/
def Op.IsRoutine : Op → Prop
  | armCrashOnce _ => False
  | initializeInstallation .. => False
  | garbageCollect .. => False
  | _ => True

/-- The calls that consume a root. -/
def Op.ConsumesRoots : Op → Prop
  | exchangeBootstrap .. => True
  | exchangeReprovisionBootstrap .. => True
  | emergencyRevoke .. => True
  | _ => False

/-- The calls that change the ceremonies of a service. -/
def Op.IsOfCeremonies : Op → Prop
  | createReprovisionCeremony .. => True
  | exchangeReprovisionBootstrap .. => True
  | _ => False

theorem Op.steadies {R : Store → Store → Prop} [Frame R] {op : Op} (h : op.IsRoutine)
    (hroots : op.ConsumesRoots → FramesRoots R)
    (hceremonies : op.IsOfCeremonies → FramesCeremonies R) : Steadies R op.decide := by
  cases op with
  | armCrashOnce point => exact h.elim
  | initializeInstallation i a p records o sv now => exact h.elim
  | garbageCollect now retention => exact h.elim
  | createRootBootstrap root d record now =>
    refine Steadies.bind ?_ fun _ => steadies_pure _
    refine (validateRootLocked_steady _ _ _).bind fun _ => steadies_read.bind fun _ =>
      (steadies_demand _ _).bind fun _ => (observe_steady _).bind fun _ => ?_
    iterate 3 refine (steadies_require _ _).bind fun _ => ?_
    exact (invalidateBootstraps_steady _).bind fun _ => storeBootstrap_steady _
  | createAuthenticatedBootstrap session d grant record now =>
    refine Steadies.bind ?_ fun _ => steadies_pure _
    exact (authorizeGrantLocked_steady _ _ _ _).bind fun _ => (steadies_require _ _).bind
      fun _ => (invalidateBootstraps_steady _).bind fun _ => storeBootstrap_steady _
  | createReprovisionBootstrap reprovision d issue now =>
    refine Steadies.bind ?_ fun _ => steadies_pure _
    refine steadies_read.bind fun _ => (steadies_demand _ _).bind fun _ => ?_
    iterate 3 refine (steadies_require _ _).bind fun _ => ?_
    exact (steadies_demand _ _).bind fun _ => (observe_steady _).bind fun _ =>
      (steadies_require _ _).bind fun _ => (invalidateBootstraps_steady _).bind fun _ =>
      storeBootstrap_steady _
  | cancelBootstrap handle now =>
    refine Steadies.bind ?_ fun _ => steadies_pure _
    exact steadies_write fun s => Frame.spendBootstraps s _ now
  | createReprovisionCeremony sv sd o od handle issue now active tombstones replay =>
    refine Steadies.bind ?_ fun _ => steadies_pure _
    refine (steadies_require _ _).bind fun _ => steadies_read.bind fun _ =>
      (steadies_demand _ _).bind fun _ => (steadies_require _ _).bind fun _ =>
      (steadies_demand _ _).bind fun _ => (steadies_demand _ _).bind fun _ =>
      (steadies_demand _ _).bind fun _ => (steadies_require _ _).bind fun _ =>
      (gcReprovisionCeremoniesLocked_steady (hceremonies trivial)).bind fun _ => steadies_read.bind fun _ => ?_
    iterate 3 refine (steadies_require _ _).bind fun _ => ?_
    refine Steadies.bind ?_ fun _ => (trimReprovisionTombstonesLocked_steady (hceremonies trivial) _ _).bind
      fun _ => steadies_pure _
    exact steadies_write fun s => hceremonies trivial s _
  | exchangeBootstrap handle d now session recovery replacement =>
    refine Steadies.bind ?_ fun _ => steadies_pure _
    exact steadies_read.bind fun _ => (steadies_demand _ _).bind fun record =>
      (steadies_require _ _).bind fun _ => (observe_steady _).bind fun _ =>
      (presentOnce_steady record.save_steady).bind fun _ => steadies_read.bind fun _ =>
      (steadies_demand _ _).bind fun _ => (claimRoot_steady (hroots trivial) _ _).bind fun _ =>
      (record.save_steady _).bind fun _ => (crashIfArmed_steady _).bind fun _ =>
      (issueAuthority_steady _ _).bind fun _ => (steadies_require _ _).bind fun _ => steadies_pure _
  | exchangeReprovisionBootstrap handle d sv sd c cd now session recovery replacement tombstones
      replay =>
    refine Steadies.bind ?_ fun _ => steadies_pure _
    exact (burnProof_steady (hceremonies trivial) _ _ _ _ _ _ _).bind fun burned =>
      reprovision_steady (hroots trivial) burned.1 burned.2 d session recovery replacement
  | authenticateSession credential d now =>
    refine Steadies.bind ?_ fun _ => steadies_pure _
    exact (authenticateSessionLocked_steady _ _).bind fun _ => (steadies_require _ _).bind
      fun _ => steadies_pure _
  | createStepUp session d now challenge =>
    refine Steadies.bind ?_ fun _ => steadies_pure _
    refine (authenticateSessionLocked_steady _ _).bind fun _ => ?_
    iterate 3 refine (steadies_require _ _).bind fun _ => ?_
    refine Steadies.bind ?_ fun _ => steadies_pure _
    exact steadies_write fun _ => Frame.rest rfl rfl rfl rfl rfl rfl id
  | consumeStepUp challenge cd session d a p purpose scopes now =>
    refine Steadies.bind ?_ fun _ => steadies_pure _
    refine steadies_read.bind fun _ => (steadies_demand _ _).bind fun record =>
      (authenticateSessionLocked_steady _ _).bind fun _ => (steadies_require _ _).bind fun _ =>
      steadies_read.bind fun _ => (steadies_demand _ _).bind fun _ =>
      (steadies_require _ _).bind fun _ => (presentOnce_steady record.save_steady).bind fun _ => ?_
    iterate 4 refine (steadies_require _ _).bind fun _ => ?_
    refine (record.save_steady _).bind fun _ => (crashIfArmed_steady _).bind fun _ =>
      (steadies_require _ _).bind fun _ => Steadies.bind ?_ fun _ =>
      (steadies_require _ _).bind fun _ => steadies_pure _
    exact steadies_write fun _ => Frame.rest rfl rfl rfl rfl rfl rfl id
  | rotateSession current d now replacement =>
    refine Steadies.bind ?_ fun _ => steadies_pure _
    refine (authenticateSessionLocked_steady _ _).bind fun _ => (closeSession_steady _).bind
      fun _ => (steadies_require _ _).bind fun _ => Steadies.bind ?_ fun _ => steadies_pure _
    exact steadies_write fun s => Frame.putSession s _
  | revokeSession current d now =>
    refine Steadies.bind ?_ fun _ => steadies_pure _
    exact (authenticateSessionLocked_steady _ _).bind fun _ => (closeSession_steady _).bind
      fun _ => steadies_pure _
  | renewRecovery session d grant replacement now =>
    refine Steadies.bind ?_ fun _ => steadies_pure _
    exact (authorizeGrantLocked_steady _ _ _ _).bind fun _ => steadies_read.bind fun _ =>
      (steadies_demand _ _).bind fun _ => (consumeActorRecoveries_steady _).bind fun _ =>
      issueRecovery_steady _
  | revokeAllAuthenticated session d grant replacement now =>
    refine Steadies.bind ?_ fun _ => steadies_pure _
    exact (authorizeGrantLocked_steady _ _ _ _).bind fun _ => steadies_read.bind fun _ =>
      (steadies_demand _ _).bind fun _ => (advanceEpoch_steady _).bind fun _ =>
      (retireActorAuthority_steady _).bind fun _ => issueRecovery_steady _
  | emergencyRevoke root d now =>
    refine Steadies.bind ?_ fun _ => steadies_pure _
    exact (validateRootLocked_steady _ _ _).bind fun _ => (observe_steady _).bind fun _ =>
      (consumeRoot_steady (hroots trivial) _).bind fun _ => steadies_read.bind fun _ =>
      (steadies_demand _ _).bind fun _ => (advanceEpoch_steady _).bind fun _ =>
      (retireActorAuthority_steady _).bind fun _ => steadies_pure _
  | recover recovery d now session replacement =>
    refine Steadies.bind ?_ fun _ => steadies_pure _
    refine steadies_read.bind fun _ => (steadies_demand _ _).bind fun record =>
      (observe_steady _).bind fun _ => (presentOnce_steady record.save_steady).bind fun _ =>
      steadies_read.bind fun _ => (steadies_demand _ _).bind fun _ => ?_
    split_ifs
    · exact (consumeActorRecoveries_steady _).bind fun _ => (advanceEpoch_steady _).bind
        fun _ => (retireActorAuthority_steady _).bind fun _ => (crashIfArmed_steady _).bind
        fun _ => (issueAuthority_steady _ _).bind fun _ => steadies_pure _
    · exact (record.save_steady _).bind fun _ => steadies_stop _
  | validateGrant grant session d now =>
    refine Steadies.bind ?_ fun _ => steadies_pure _
    exact authorizeGrantLocked_steady _ _ _ _

/-! ### Installations, roots, bootstraps and sessions stay -/

section Changes
variable {κ ρ : Type} [LinearOrder κ] {key : ρ → κ}

theorem isSome_put (t : Table key) (r : ρ) (k : κ) (h : (t.get? k).isSome) :
    ((t.put r).get? k).isSome := by
  rw [Table.get?_put]
  split_ifs
  · rfl
  · exact h

theorem isSome_map (t : Table key) (f : ρ → ρ) (hf : ∀ r, key (f r) = key r) (k : κ)
    (h : (t.get? k).isSome) : ((t.map f hf).get? k).isSome := by
  rw [Table.get?_map, Option.isSome_map]
  exact h

end Changes

structure Steady (s s' : Store) : Prop where
  installations : s'.installationActors = s.installationActors
  compositions : s'.compositionBindings = s.compositionBindings
  roots : ∀ k, (s.roots.get? k).isSome → (s'.roots.get? k).isSome
  bootstraps : ∀ k, (s.bootstraps.get? k).isSome → (s'.bootstraps.get? k).isSome
  sessions : ∀ k, (s.sessions.get? k).isSome → (s'.sessions.get? k).isSome
  unarmed : s.crashOnce = none → s'.crashOnce = none

instance : Frame Steady where
  refl _ := ⟨rfl, rfl, fun _ => id, fun _ => id, fun _ => id, id⟩
  trans _ _ _ h h' :=
    { installations := h'.installations.trans h.installations
      compositions := h'.compositions.trans h.compositions
      roots := fun k hk => h'.roots k (h.roots k hk)
      bootstraps := fun k hk => h'.bootstraps k (h.bootstraps k hk)
      sessions := fun k hk => h'.sessions k (h.sessions k hk)
      unarmed := fun hs => h'.unarmed (h.unarmed hs) }
  putBootstrap _ r := ⟨rfl, rfl, fun _ => id, isSome_put _ r, fun _ => id, id⟩
  putSession _ r := ⟨rfl, rfl, fun _ => id, fun _ => id, isSome_put _ r, id⟩
  spendBootstraps _ p now :=
    ⟨rfl, rfl, fun _ => id, isSome_map _ _ (BootstrapRecord.handle_sweep p now), fun _ => id, id⟩
  revokeSessions _ p now :=
    ⟨rfl, rfl, fun _ => id, fun _ => id, isSome_map _ _ (SessionRecord.handle_sweep p now), id⟩
  rest hi hc hr hb hs _ hcrash :=
    { installations := hi
      compositions := hc
      roots := fun _ hk => hr ▸ hk
      bootstraps := fun _ hk => hb ▸ hk
      sessions := fun _ hk => hs ▸ hk
      unarmed := hcrash }

theorem apply_steady {op : Op} (h : op.IsRoutine) (s : Store) : Steady s (apply s op).2 :=
  Op.steadies h (fun _ _ r => ⟨rfl, rfl, isSome_put _ r, fun _ => id, fun _ => id, id⟩)
    (fun _ _ _ => ⟨rfl, rfl, fun _ => id, fun _ => id, fun _ => id, id⟩) s

/-! ### The ceremonies -/

def SameCeremonies (s s' : Store) : Prop := s'.reprovisionCeremonies = s.reprovisionCeremonies

instance : Frame SameCeremonies where
  refl _ := rfl
  trans _ _ _ h h' := Eq.trans h' h
  putBootstrap _ _ := rfl
  putSession _ _ := rfl
  spendBootstraps _ _ _ := rfl
  revokeSessions _ _ _ := rfl
  rest _ _ _ _ _ h _ := h

/-- Only a ceremony, an exchange that presents one, and collection change the ceremonies. -/
theorem apply_sameCeremonies {op : Op} (h : op.IsRoutine) (hceremonies : ¬op.IsOfCeremonies)
    (s : Store) : SameCeremonies s (apply s op).2 :=
  Op.steadies h (fun _ _ _ => rfl) (fun hop => (hceremonies hop).elim) s

/-! ### The roots -/

def SameRoots (s s' : Store) : Prop := s'.roots = s.roots

instance : Frame SameRoots where
  refl _ := rfl
  trans _ _ _ h h' := Eq.trans h' h
  putBootstrap _ _ := rfl
  putSession _ _ := rfl
  spendBootstraps _ _ _ := rfl
  revokeSessions _ _ _ := rfl
  rest _ _ h _ _ _ _ := h

theorem apply_sameRoots {op : Op} (h : op.IsRoutine) (hroots : ¬op.ConsumesRoots) (s : Store) :
    SameRoots s (apply s op).2 :=
  Op.steadies h (fun hop => (hroots hop).elim) (fun _ _ _ => rfl) s

end MyCogni.Auth
