import Mathlib.Logic.Relation
import MyCogni.Auth.Rules

/-! The single changes out of which every operation of the store is composed, with what was
checked before each of them. New records enter a store only by the moves that ask for `new`; an
unconsumed reprovision root is lost only by a `lossy` move. -/

namespace MyCogni.Auth

/-- A record as it enters the store. -/
inductive Issue where
  | root (r : RootCapabilityRecord)
  | bootstrap (r : BootstrapRecord)
  | session (r : SessionRecord)
  | recovery (r : RecoveryRecord)
  | stepUp (r : StepUpRecord)
  | grant (g : AuthorityGrant)
  | ceremony (r : ReprovisionCeremonyRecord)

/-- The root and the actor behind a rooted bootstrap that is about to be stored. -/
structure RootedIn (s : Store) (b : BootstrapRecord) (root : RootCapabilityRecord)
    (actor : ActorRecord) : Prop where
  found : s.roots.get? root.handle = some root
  live : root.consumed = false
  known : s.actors.get? root.actorId = some actor
  ofActor : b.actorId = root.actorId
  ofProfile : b.representedProfileId = root.representedProfileId ∨
    b.representedProfileId = actor.representedProfileId
  rootId : b.rootCapabilityId = some root.handle
  purpose : b.rootPurpose = some root.purpose
  initial : root.purpose = .initialBootstrap ∧ actor.initialized = false ∨
    root.purpose = .reprovision ∧ actor.initialized = true

/-- The session behind a bootstrap without a root. -/
structure OpenedIn (s : Store) (b : BootstrapRecord) (session : SessionRecord) : Prop where
  found : s.sessions.get? session.handle = some session
  ofActor : b.actorId = session.actorId
  ofProfile : b.representedProfileId = session.representedProfileId
  rootId : b.rootCapabilityId = none

/-- The bootstrap, root and composition behind a ceremony that is about to be registered. -/
structure ConfirmedIn (s : Store) (c : ReprovisionCeremonyRecord) (b : BootstrapRecord)
    (root : RootCapabilityRecord) (binding : CompositionBindingRecord) : Prop where
  foundBootstrap : s.bootstraps.get? c.bootstrapHandle = some b
  purpose : b.rootPurpose = some .reprovision
  rootId : b.rootCapabilityId = some root.handle
  foundRoot : s.roots.get? root.handle = some root
  installation : root.installationId = c.installationId
  composition : s.compositionBindings.get? c.installationId = some binding
  service : binding.serviceHandle = c.serviceHandle
  active : c.terminalAtUtc = none
  unused : s.reprovisionCeremonies.get? c.handle = none

/-- What setup checks before it writes an installation. -/
structure Installable (s : Store) (installationId actorId representedProfileId : OpaqueId)
    (records : List RootCapabilityRecord) (operatorAuthority serviceIdentity : RootCapabilityIssue) :
    Prop where
  installation : s.installationActors.get? installationId = none
  actor : s.actors.get? actorId = none
  handles : (records.map (·.handle)).Nodup
  purposes : (records.map (·.purpose)).Perm RootPurpose.all
  bound : ∀ r ∈ records, r.installationId = installationId ∧ r.actorId = actorId ∧
    r.representedProfileId = representedProfileId
  rootHandles : ∀ r ∈ records, ¬s.HoldsAuthority r.handle
  distinct : operatorAuthority.handle ≠ serviceIdentity.handle
  compositionHandles : ∀ h ∈ [operatorAuthority.handle, serviceIdentity.handle],
    ¬s.HoldsAuthority h ∧ h ∉ records.map (·.handle)

inductive Move (new : Issue → Prop) (lossy : Prop) : Store → Store → Prop
  | arm (s : Store) (point : Option CrashPoint) : Move new lossy s (s.arm point)
  | install {s : Store} {i a p : OpaqueId} {records : List RootCapabilityRecord}
      {o sv : RootCapabilityIssue} (now : Datetime) (h : Installable s i a p records o sv)
      (hnew : ∀ r ∈ records, new (.root r)) : Move new lossy s (s.install i a p records o sv now)
  | observe {s : Store} {actor : ActorRecord} {now : Datetime}
      (h : Observable s actor.actorId now actor) : Move new lossy s (s.observed actor now)
  | setInitialized {s : Store} {actor : ActorRecord}
      (found : s.actors.get? actor.actorId = some actor) :
      Move new lossy s (s.putActor { actor with initialized := true })
  | advance {s : Store} {actor : ActorRecord} (now : Datetime)
      (found : s.actors.get? actor.actorId = some actor) : Move new lossy s (s.advanced actor now)
  | consumeRoot {s : Store} {root : RootCapabilityRecord} (now : Datetime)
      (found : s.roots.get? root.handle = some root) (live : root.consumed = false)
      (hlossy : root.purpose = .reprovision → lossy) : Move new lossy s (s.putRoot (root.spend now))
  | replaceRoot {s : Store} {root : RootCapabilityRecord} (issue : RootCapabilityIssue)
      (now : Datetime) (found : s.roots.get? root.handle = some root) (live : root.consumed = false)
      (purpose : root.purpose = .reprovision) (unused : s.roots.get? issue.handle = none)
      (hnew : new (.root (root.successor issue))) :
      Move new lossy s ((s.putRoot (root.spend now)).putRoot (root.successor issue))
  | spendBootstraps (s : Store) (p : BootstrapRecord → Bool) (now : Datetime) :
      Move new lossy s (s.spendBootstraps p now)
  | missBootstrap {s : Store} {b : BootstrapRecord} (now : Datetime)
      (found : s.bootstraps.get? b.handle = some b) (live : b.consumed = false) :
      Move new lossy s (s.putBootstrap { b with toAttempts := b.toAttempts.wrongProof now })
  | issueBootstrap {s : Store} {b : BootstrapRecord} (hnew : new (.bootstrap b)) (valid : b.Valid)
      (alone : ∀ h b', s.bootstraps.get? h = some b' → b'.actorId = b.actorId → b'.consumed = true)
      (source : (∃ root actor, RootedIn s b root actor) ∨ ∃ session, OpenedIn s b session) :
      Move new lossy s (s.putBootstrap b)
  | revokeSessions (s : Store) (p : SessionRecord → Bool) (now : Datetime) :
      Move new lossy s (s.revokeSessions p now)
  | issueSession {s : Store} {r : SessionRecord} {actor : ActorRecord} (hnew : new (.session r))
      (valid : r.Valid) (known : s.actors.get? r.actorId = some actor)
      (current : r.epoch = actor.epoch)
      (ofProfile : r.representedProfileId = actor.representedProfileId ∨
        ∃ h prior, s.sessions.get? h = some prior ∧ prior.actorId = r.actorId ∧
          prior.representedProfileId = r.representedProfileId) :
      Move new lossy s (s.putSession r)
  | spendRecoveries (s : Store) (p : RecoveryRecord → Bool) (now : Datetime) :
      Move new lossy s (s.spendRecoveries p now)
  | missRecovery {s : Store} {r : RecoveryRecord} (now : Datetime)
      (found : s.recoveries.get? r.handle = some r) (live : r.consumed = false) :
      Move new lossy s (s.putRecovery { r with toAttempts := r.toAttempts.wrongProof now })
  | issueRecovery {s : Store} {r : RecoveryRecord} {actor : ActorRecord} (hnew : new (.recovery r))
      (valid : r.Valid) (known : s.actors.get? r.actorId = some actor)
      (current : r.epoch = actor.epoch)
      (ofProfile : r.representedProfileId = actor.representedProfileId) :
      Move new lossy s (s.putRecovery r)
  | spendStepUps (s : Store) (p : StepUpRecord → Bool) (now : Datetime) :
      Move new lossy s (s.spendStepUps p now)
  | missStepUp {s : Store} {c : StepUpRecord} (now : Datetime)
      (found : s.stepUps.get? c.handle = some c) (live : c.consumed = false) :
      Move new lossy s (s.putStepUp { c with toAttempts := c.toAttempts.wrongProof now })
  | issueStepUp {s : Store} {c : StepUpRecord} {session : SessionRecord} {actor : ActorRecord}
      (hnew : new (.stepUp c)) (valid : c.Valid)
      (found : s.sessions.get? session.handle = some session)
      (known : s.actors.get? session.actorId = some actor) (current : session.epoch = actor.epoch)
      (ofSession : c.sessionId = session.handle ∧ c.actorId = session.actorId ∧
        c.representedProfileId = session.representedProfileId ∧ c.epoch = session.epoch) :
      Move new lossy s (s.putStepUp c)
  | recordGrant {s : Store} {c : StepUpRecord} {session : SessionRecord} (now : Datetime)
      (hnew : new (.grant c.grant)) (valid : c.grant.Valid)
      (found : s.stepUps.get? c.handle = some c) (live : c.consumed = false)
      (session : s.sessions.get? c.sessionId = some session) :
      Move new lossy s ((s.putStepUp { c with toAttempts := c.toAttempts.spend now }).putGrant
        { grant := c.grant })
  | useGrant {s : Store} {p : GrantProvenanceRecord} (now : Datetime)
      (found : s.grantProvenance.get? p.evidenceId = some p) (unused : p.usedAtUtc = none)
      (notBefore : p.grant.notBeforeUtc ≤ now) :
      Move new lossy s (s.putGrant { p with usedAtUtc := some now })
  | gcCeremonies (s : Store) (now : Datetime) : Move new lossy s (s.gcCeremonies now)
  | trimTombstones (s : Store) (serviceHandle : OpaqueId) (capacity : Int) :
      Move new lossy s (s.trimTombstones serviceHandle capacity)
  | registerCeremony {s : Store} {c : ReprovisionCeremonyRecord} {b : BootstrapRecord}
      {root : RootCapabilityRecord} {binding : CompositionBindingRecord}
      (hnew : new (.ceremony c)) (valid : c.Valid) (h : ConfirmedIn s c b root binding) :
      Move new lossy s (s.putCeremony c)
  | burnCeremony {s : Store} {c : ReprovisionCeremonyRecord} (now : Datetime) (denial : AuthDenial)
      (replaySeconds : Int) (found : s.reprovisionCeremonies.get? c.handle = some c)
      (active : c.terminalAtUtc = none) :
      Move new lossy s (s.putCeremony
        { c with terminalAtUtc := some now, terminalDenial := some denial, replaySeconds })
  | collect (s : Store) (now : Datetime) (retentionSeconds : Nat) :
      Move new lossy s (s.collect now retentionSeconds)

abbrev Moves (new : Issue → Prop) (lossy : Prop) : Store → Store → Prop :=
  Relation.ReflTransGen (Move new lossy)

variable {new new' : Issue → Prop} {lossy lossy' : Prop} {s s' : Store}

theorem Move.mono (hnew : ∀ i, new i → new' i) (hlossy : lossy → lossy')
    (h : Move new lossy s s') : Move new' lossy' s s' := by
  cases h with
  | arm point => exact .arm _ _
  | install now h hn => exact .install now h fun r hr => hnew _ (hn r hr)
  | observe h => exact .observe h
  | setInitialized found => exact .setInitialized found
  | advance now found => exact .advance now found
  | consumeRoot now found live hl => exact .consumeRoot now found live fun h => hlossy (hl h)
  | replaceRoot issue now found live purpose unused hn =>
    exact .replaceRoot issue now found live purpose unused (hnew _ hn)
  | spendBootstraps p now => exact .spendBootstraps _ _ _
  | missBootstrap now found live => exact .missBootstrap now found live
  | issueBootstrap hn valid alone source => exact .issueBootstrap (hnew _ hn) valid alone source
  | revokeSessions p now => exact .revokeSessions _ _ _
  | issueSession hn valid known current ofProfile =>
    exact .issueSession (hnew _ hn) valid known current ofProfile
  | spendRecoveries p now => exact .spendRecoveries _ _ _
  | missRecovery now found live => exact .missRecovery now found live
  | issueRecovery hn valid known current ofProfile =>
    exact .issueRecovery (hnew _ hn) valid known current ofProfile
  | spendStepUps p now => exact .spendStepUps _ _ _
  | missStepUp now found live => exact .missStepUp now found live
  | issueStepUp hn valid found known current ofSession =>
    exact .issueStepUp (hnew _ hn) valid found known current ofSession
  | recordGrant now hn valid found live session =>
    exact .recordGrant now (hnew _ hn) valid found live session
  | useGrant now found unused notBefore => exact .useGrant now found unused notBefore
  | gcCeremonies now => exact .gcCeremonies _ _
  | trimTombstones serviceHandle capacity => exact .trimTombstones _ _ _
  | registerCeremony hn valid h => exact .registerCeremony (hnew _ hn) valid h
  | burnCeremony now denial replaySeconds found active =>
    exact .burnCeremony now denial replaySeconds found active
  | collect now retentionSeconds => exact .collect _ _ _

theorem Moves.mono (hnew : ∀ i, new i → new' i) (hlossy : lossy → lossy')
    (h : Moves new lossy s s') : Moves new' lossy' s s' :=
  h.lift id fun _ _ => Move.mono hnew hlossy

/-- What every move preserves, every sequence of moves preserves. -/
theorem Moves.preserves {inv : Store → Prop}
    (hmove : ∀ s s', Move new lossy s s' → inv s → inv s') (h : Moves new lossy s s')
    (hs : inv s) : inv s' := by
  induction h with
  | refl => exact hs
  | tail _ hlast ih => exact hmove _ _ hlast ih

/-! ### Spending one record is a sweep -/

theorem Store.putBootstrap_spend {b : BootstrapRecord} (now : Datetime)
    (found : s.bootstraps.get? b.handle = some b) (live : b.consumed = false) :
    s.putBootstrap { b with toAttempts := b.toAttempts.spend now } =
      s.spendBootstraps (fun b' => b'.handle = b.handle) now := by
  refine congrArg (fun t => { s with bootstraps := t }) (Table.ext_get? fun k => ?_)
  rw [Table.get?_put, Table.get?_map]
  split_ifs with hk
  · rw [hk, found, Option.map_some, BootstrapRecord.sweep, if_pos ⟨by simp, live⟩]
  · cases hget : s.bootstraps.get? k with
    | none => rfl
    | some b' =>
      have hne : b'.handle ≠ b.handle := fun h => hk ((Table.key_of_get? hget).symm.trans h)
      rw [Option.map_some, BootstrapRecord.sweep, if_neg (by simp [hne])]

theorem Store.putRecovery_spend {r : RecoveryRecord} (now : Datetime)
    (found : s.recoveries.get? r.handle = some r) :
    s.putRecovery { r with toAttempts := r.toAttempts.spend now } =
      s.spendRecoveries (fun r' => r'.handle = r.handle) now := by
  refine congrArg (fun t => { s with recoveries := t }) (Table.ext_get? fun k => ?_)
  rw [Table.get?_put, Table.get?_map]
  split_ifs with hk
  · rw [hk, found, Option.map_some, RecoveryRecord.sweep, if_pos (by simp)]
  · cases hget : s.recoveries.get? k with
    | none => rfl
    | some r' =>
      have hne : r'.handle ≠ r.handle := fun h => hk ((Table.key_of_get? hget).symm.trans h)
      rw [Option.map_some, RecoveryRecord.sweep, if_neg (by simp [hne])]

theorem Store.putStepUp_spend {c : StepUpRecord} (now : Datetime)
    (found : s.stepUps.get? c.handle = some c) :
    s.putStepUp { c with toAttempts := c.toAttempts.spend now } =
      s.spendStepUps (fun c' => c'.handle = c.handle) now := by
  refine congrArg (fun t => { s with stepUps := t }) (Table.ext_get? fun k => ?_)
  rw [Table.get?_put, Table.get?_map]
  split_ifs with hk
  · rw [hk, found, Option.map_some, StepUpRecord.sweep, if_pos (by simp)]
  · cases hget : s.stepUps.get? k with
    | none => rfl
    | some c' =>
      have hne : c'.handle ≠ c.handle := fun h => hk ((Table.key_of_get? hget).symm.trans h)
      rw [Option.map_some, StepUpRecord.sweep, if_neg (by simp [hne])]

theorem Store.putSession_revoke {r : SessionRecord} (now : Datetime)
    (found : s.sessions.get? r.handle = some r) :
    s.putSession { r with revoked := true, retiredAtUtc := some now } =
      s.revokeSessions (fun r' => r'.handle = r.handle) now := by
  refine congrArg (fun t => { s with sessions := t }) (Table.ext_get? fun k => ?_)
  rw [Table.get?_put, Table.get?_map]
  split_ifs with hk
  · rw [hk, found, Option.map_some, SessionRecord.sweep, if_pos (by simp)]
  · cases hget : s.sessions.get? k with
    | none => rfl
    | some r' =>
      have hne : r'.handle ≠ r.handle := fun h => hk ((Table.key_of_get? hget).symm.trans h)
      rw [Option.map_some, SessionRecord.sweep, if_neg (by simp [hne])]

end MyCogni.Auth
