import MyCogni.Auth.Evidence

/-! What each operation does. Every exit is reached by moves that the call authorizes; a value is
returned only on the evidence of the live records presented, in the state that the operation
describes. -/

namespace MyCogni.Auth
open Command

/-- An exception other than a denial: the callers that persist the store discard its changes. -/
def Halt.Raised : Halt → Prop
  | denied _ => False
  | _ => True

variable {s s₁ s₂ : Store} {op : Op} {now : Datetime}

/-- The state at an exit without a value. Nothing is issued, but for what a `ValueError` leaves. -/
def Ends (s : Store) (op : Op) (e : Halt) (s' : Store) : Prop :=
  Moves (fun x => e = .valueError ∧ Leaves s op x) e.Raised s s'

/-- Reached by moves that issue nothing and lose no reprovision root. -/
abbrev Quiet : Store → Store → Prop := Moves (fun _ => False) False

/-- Reached by moves that lose no reprovision root. -/
abbrev Reach (s : Store) (op : Op) : Store → Store → Prop := Moves (Authorizes s op) False

theorem Quiet.ends (h : Quiet s s₁) (e : Halt) : Ends s op e s₁ :=
  Moves.mono (fun _ => False.elim) False.elim h

theorem Quiet.reach (h : Quiet s s₁) : Reach s op s s₁ := Moves.mono (fun _ => False.elim) id h

theorem Quiet.step (h : Quiet s s₁) (m : Move (fun _ => False) False s₁ s₂) : Quiet s s₂ :=
  Relation.ReflTransGen.tail h m

theorem Reach.step (h : Reach s op s s₁) (m : Move (Authorizes s op) False s₁ s₂) :
    Reach s op s s₂ := Relation.ReflTransGen.tail h m

theorem Moves.advance {new : Issue → Prop} {lossy : Prop} {a : OpaqueId} {actor : ActorRecord}
    (h : Moves new lossy s s₁) (now : Datetime) (known : s₁.actors.get? a = some actor) :
    Moves new lossy s (s₁.advanced actor now) := by
  obtain rfl : actor.actorId = a := Table.key_of_get? known
  exact h.tail (.advance now known)

theorem quiet_refl : Quiet s s := Relation.ReflTransGen.refl

theorem quiet_observed {actorId : OpaqueId} {actor : ActorRecord}
    (h : Observable s actorId now actor) : Quiet s (s.observed actor now) :=
  quiet_refl.step (.observe h.own)

/-! ### Sessions -/

theorem authenticateSession_spec (credential : OpaqueCredential) (d : SecretDigest) :
    wp (authenticateSession credential d now)
      (fun v s' => Reach s (.authenticateSession credential d now) s s' ∧
        ∃ actor, LiveSession s credential.handle d now v actor ∧ s' = s.observed actor now)
      (Ends s (.authenticateSession credential d now)) s := by
  simp only [authenticateSession, wp_bind, wp_require, wp_pure]
  refine wp_authenticateSessionLocked quiet_refl.ends (fun _ h => (quiet_observed h).ends)
    fun record actor h => ⟨fun _ => ?_, fun _ => (quiet_observed h.observable).ends _⟩
  exact ⟨(quiet_observed h.observable).reach, actor, h, rfl⟩

theorem createStepUp_spec (session : OpaqueCredential) (d : SecretDigest)
    (challenge : StepUpRecord) :
    wp (createStepUp session d now challenge)
      (fun v s' => Reach s (.createStepUp session d now challenge) s s' ∧
        ∃ r actor, LiveSession s session.handle d now r actor ∧
          s' = (s.observed actor now).putStepUp v ∧ v = challenge.bindTo r)
      (Ends s (.createStepUp session d now challenge)) s := by
  simp only [createStepUp, wp_bind, wp_require, wp_write, wp_pure]
  refine wp_authenticateSessionLocked quiet_refl.ends (fun _ h => (quiet_observed h).ends)
    fun r actor h => ?_
  have hmid : Quiet s (s.observed actor now) :=
    quiet_observed h.observable
  refine ⟨fun hactor => ⟨fun hprofile => ⟨fun hvalid => ?_, fun _ => hmid.ends _⟩,
    fun _ => hmid.ends _⟩, fun _ => hmid.ends _⟩
  have hnew : Authorizes s (.createStepUp session d now challenge)
      (.stepUp (challenge.bindTo r)) := ⟨r, actor, h, hactor, hprofile, rfl⟩
  have hkey : r.handle = session.handle := Table.key_of_get? h.found
  have hfound : (s.observed actor now).sessions.get? r.handle = some r := by
    rw [hkey]
    exact h.found
  exact ⟨hmid.reach.step (.issueStepUp hnew hvalid hfound h.observable.after h.current
    ⟨rfl, hactor, hprofile, rfl⟩), r, actor, h, rfl, rfl⟩

theorem consumeStepUp_spec (challenge : OpaqueCredential) (cd : SecretDigest)
    (session : OpaqueCredential) (d : SecretDigest) (a p : OpaqueId) (purpose : AuthPurpose)
    (scopes : Finset AuthScope) :
    wp (consumeStepUp challenge cd session d a p purpose scopes now)
      (fun v s' => Reach s (.consumeStepUp challenge cd session d a p purpose scopes now) s s' ∧
        ∃ c actor r ractor, LiveStepUp s challenge.handle cd now c actor r ractor d ∧
          session.handle = c.sessionId ∧ v = { c with toAttempts := c.toAttempts.spend now } ∧
          s' = ((s.observed ractor now).putStepUp v).putGrant { grant := c.grant })
      (Ends s (.consumeStepUp challenge cd session d a p purpose scopes now)) s := by
  simp only [consumeStepUp, StepUpRecord.save, wp_bind, wp_read, wp_demand, wp_require, wp_write,
    wp_pure]
  refine ⟨fun c hfound => ?_, fun _ => quiet_refl.ends _⟩
  refine wp_authenticateSessionLocked quiet_refl.ends (fun _ h => (quiet_observed h).ends)
    fun r ractor hsession => ?_
  have hkey : c.handle = challenge.handle := Table.key_of_get? hfound
  have hfound' : (s.observed ractor now).stepUps.get? c.handle = some c := by
    rw [hkey]
    exact hfound
  set op := Op.consumeStepUp challenge cd session d a p purpose scopes now with hop
  have hmid : Quiet s (s.observed ractor now) := quiet_observed hsession.observable
  refine ⟨fun hown => ⟨fun actor hknown => ⟨fun hepoch => ?_, fun _ => hmid.ends _⟩,
    fun _ => hmid.ends _⟩, fun _ => hmid.ends _⟩
  refine wp_presentOnce (f := fun u s => s.putStepUp { c with toAttempts := u }) (fun _ => rfl)
    (fun _ => hmid.ends _) (fun _ _ => ?_) (fun hlive _ _ => ?_) fun hlive hwindow hproof => ?_
  · rw [Store.putStepUp_spend now hfound']
    exact (hmid.step (.spendStepUps _ _ _)).ends _
  · exact (hmid.step (.missStepUp now hfound' hlive)).ends _
  refine ⟨fun hactor => ⟨fun hprofile => ⟨fun hpurpose => ⟨fun hscopes => ?_,
    fun _ => hmid.ends _⟩, fun _ => hmid.ends _⟩, fun _ => hmid.ends _⟩, fun _ => hmid.ends _⟩
  have hspent : Quiet s ((s.observed ractor now).putStepUp
      { c with toAttempts := c.toAttempts.spend now }) := by
    rw [Store.putStepUp_spend now hfound']
    exact hmid.step (.spendStepUps _ _ _)
  refine wp_crashIfArmed (fun _ => (hspent.step (.arm _ _)).ends _) fun _ => ?_
  refine ⟨fun hvalid => ?_, fun _ => hspent.ends _⟩
  obtain ⟨actor₀, hknown₀, hepoch₀⟩ : ∃ actor₀, s.actors.get? c.actorId = some actor₀ ∧
      c.epoch = actor₀.epoch := by
    rw [Store.observed_actors, Table.get?_put] at hknown
    split_ifs at hknown with hsame
    · refine ⟨ractor, ?_, ?_⟩
      · rw [hsame]
        exact hsession.observable.own.found
      · rw [hepoch, ← Option.some.inj hknown]
    · exact ⟨actor, hknown, hepoch⟩
  have hstep : LiveStepUp s challenge.handle cd now c actor₀ r ractor d :=
    ⟨hfound, hproof, hlive, hwindow, hknown₀, hepoch₀, hown ▸ hsession⟩
  have hnew : Authorizes s op (.grant c.grant) :=
    ⟨c, actor₀, r, ractor, hstep, hown, hactor, hprofile, hpurpose, hscopes, rfl⟩
  have hdone := hmid.reach.step (.recordGrant now hnew hvalid hfound' hlive
    (show (s.observed ractor now).sessions.get? c.sessionId = some r from hown ▸ hsession.found))
  refine ⟨fun _ => ⟨hdone, c, actor₀, r, ractor, hstep, hown, rfl, rfl⟩, fun hinvalid => ?_⟩
  -- The grant is valid, so the spent challenge can be refused only for its attempts.
  have hattempts : c.attemptsRemaining = 0 := by
    by_contra hne
    exact hinvalid ⟨hvalid.1, hvalid.2.2, hvalid.2.1, Nat.one_le_iff_ne_zero.mpr hne⟩
  have hleft : Leaves s op (.grant c.grant) := ⟨hnew, c, hfound, hlive, hattempts⟩
  exact (Moves.mono (fun _ => False.elim) False.elim hmid).tail
    (.recordGrant now ⟨rfl, hleft⟩ hvalid hfound' hlive
      (show (s.observed ractor now).sessions.get? c.sessionId = some r from hown ▸ hsession.found))

theorem quiet_closed {r : SessionRecord} (hmid : Quiet s s₁)
    (hfound : s₁.sessions.get? r.handle = some r) :
    Quiet s (s₁.closed r now) := by
  have hrevoked := hmid.step (.revokeSessions s₁ (fun r' => r'.handle = r.handle) now)
  rw [← Store.putSession_revoke now hfound] at hrevoked
  exact hrevoked.step (.spendStepUps _ (fun c => c.sessionId = r.handle) now)

theorem rotateSession_spec (current : OpaqueCredential) (d : SecretDigest)
    (replacement : SessionRecord) :
    wp (rotateSession current d now replacement)
      (fun v s' => Reach s (.rotateSession current d now replacement) s s' ∧
        ∃ prior actor, LiveSession s current.handle d now prior actor ∧
          v = { replacement with actorId := prior.actorId
                                 representedProfileId := prior.representedProfileId
                                 epoch := prior.epoch } ∧
          s' = ((s.observed actor now).closed prior now).putSession v)
      (Ends s (.rotateSession current d now replacement)) s := by
  simp only [rotateSession, closeSession, wp_bind, wp_require, wp_write, wp_pure]
  refine wp_authenticateSessionLocked quiet_refl.ends (fun _ h => (quiet_observed h).ends)
    fun prior actor h => ?_
  set op := Op.rotateSession current d now replacement with hop
  have hfound : (s.observed actor now).sessions.get? prior.handle = some prior := by
    rw [show prior.handle = current.handle from Table.key_of_get? h.found]
    exact h.found
  have hclosed : Quiet s ((s.observed actor now).closed prior now) :=
    quiet_closed (quiet_observed h.observable) hfound
  refine ⟨fun hvalid => ?_, fun _ => hclosed.ends _⟩
  have hnew : Authorizes s op (.session { replacement with
      actorId := prior.actorId, representedProfileId := prior.representedProfileId
      epoch := prior.epoch }) := ⟨prior, actor, h, rfl⟩
  have hprior : ((s.observed actor now).closed prior now).sessions.get? prior.handle =
      some { prior with revoked := true, retiredAtUtc := some now } :=
    Table.get?_put_of_eq _ rfl
  exact ⟨hclosed.reach.step (.issueSession hnew hvalid h.observable.after h.current
    (Or.inr ⟨_, _, hprior, rfl, rfl⟩)), prior, actor, h, rfl, rfl⟩

theorem revokeSession_spec (current : OpaqueCredential) (d : SecretDigest) :
    wp (revokeSession current d now)
      (fun v s' => Reach s (.revokeSession current d now) s s' ∧
        ∃ prior actor, LiveSession s current.handle d now prior actor ∧ v = current.handle ∧
          s' = (s.observed actor now).closed prior now)
      (Ends s (.revokeSession current d now)) s := by
  simp only [revokeSession, closeSession, wp_bind, wp_write, wp_pure]
  refine wp_authenticateSessionLocked quiet_refl.ends (fun _ h => (quiet_observed h).ends)
    fun prior actor h => ?_
  have hkey : prior.handle = current.handle := Table.key_of_get? h.found
  have hfound : (s.observed actor now).sessions.get? prior.handle = some prior := by
    rw [hkey]
    exact h.found
  exact ⟨(quiet_closed (quiet_observed h.observable) hfound).reach, prior, actor, h, hkey, rfl⟩

/-! ### Grants -/

/-- The store after a grant was used under its session. -/
def Store.granted (s : Store) (actor : ActorRecord) (provenance : GrantProvenanceRecord)
    (now : Datetime) : Store :=
  (s.observed actor now).putGrant { provenance with usedAtUtc := some now }

theorem quiet_granted {session : OpaqueCredential} {d : SecretDigest} {grant : AuthorityGrant}
    {p : GrantProvenanceRecord} {r : SessionRecord} {actor : ActorRecord}
    (h : LiveGrant s session d grant now p r actor) : Quiet s (s.granted actor p now) := by
  have hfound : (s.observed actor now).grantProvenance.get? p.evidenceId = some p := by
    rw [show p.evidenceId = grant.authorityEvidenceId from Table.key_of_get? h.found]
    exact h.found
  refine (quiet_observed h.live.observable).step (.useGrant now hfound h.unused ?_)
  rw [h.recorded]
  exact h.window.1

theorem LiveGrant.known {session : OpaqueCredential} {d : SecretDigest} {grant : AuthorityGrant}
    {p : GrantProvenanceRecord} {r : SessionRecord} {actor : ActorRecord}
    (h : LiveGrant s session d grant now p r actor) :
    (s.granted actor p now).actors.get? grant.actorId =
      some { actor with lastObservedUtc := now } := by
  rw [h.ofActor]
  exact h.live.observable.after

theorem validateGrant_spec (grant : AuthorityGrant) (session : OpaqueCredential)
    (d : SecretDigest) :
    wp (validateGrant grant session d now)
      (fun v s' => Reach s (.validateGrant grant session d now) s s' ∧
        ∃ p r actor, LiveGrant s session d grant now p r actor ∧ v = grant ∧
          s' = s.granted actor p now)
      (Ends s (.validateGrant grant session d now)) s := by
  unfold validateGrant
  refine wp_authorizeGrantLocked quiet_refl.ends (fun _ h => (quiet_observed h).ends)
    fun p r actor h _ => ?_
  exact ⟨(quiet_granted h).reach, p, r, actor, h, rfl, rfl⟩

theorem renewRecovery_spec (session : OpaqueCredential) (d : SecretDigest) (grant : AuthorityGrant)
    (replacement : RecoveryRecord) :
    wp (renewRecovery session d grant replacement now)
      (fun v s' => Reach s (.renewRecovery session d grant replacement now) s s' ∧
        ∃ p r actor, LiveGrant s session d grant now p r actor ∧
          v = replacement.bindTo actor ∧
          s' = ((s.granted actor p now).spendRecoveries
            (fun r => r.actorId = actor.actorId) now).putRecovery v)
      (Ends s (.renewRecovery session d grant replacement now)) s := by
  simp only [renewRecovery, consumeActorRecoveries, issueRecovery, wp_bind, wp_read, wp_demand,
    wp_require, wp_write, wp_pure]
  set op := Op.renewRecovery session d grant replacement now with hop
  refine wp_authorizeGrantLocked quiet_refl.ends (fun _ h => (quiet_observed h).ends)
    fun p r actor h hpurpose => ⟨fun actor' hactor' => ?_, fun _ => (quiet_granted h).ends _⟩
  obtain rfl : { actor with lastObservedUtc := now } = actor' :=
    Option.some.inj (h.known.symm.trans hactor')
  have hswept : Quiet s ((s.granted actor p now).spendRecoveries
      (fun r => r.actorId = actor.actorId) now) :=
    (quiet_granted h).step (.spendRecoveries _ _ _)
  refine ⟨fun hvalid => ?_, fun _ => hswept.ends _⟩
  have hnew : Authorizes s op (.recovery (replacement.bindTo actor)) :=
    ⟨hpurpose, p, r, actor, h, rfl⟩
  exact ⟨hswept.reach.step (.issueRecovery hnew hvalid h.live.observable.own.after rfl rfl), p, r, actor,
    h, rfl, rfl⟩

theorem revokeAllAuthenticated_spec (session : OpaqueCredential) (d : SecretDigest)
    (grant : AuthorityGrant) (replacement : RecoveryRecord) :
    wp (revokeAllAuthenticated session d grant replacement now)
      (fun v s' => Reach s (.revokeAllAuthenticated session d grant replacement now) s s' ∧
        ∃ p r actor, LiveGrant s session d grant now p r actor ∧
          v = replacement.bindTo actor.next ∧
          s' = ((s.granted actor p now).advanced { actor with lastObservedUtc := now }
            now).putRecovery v)
      (Ends s (.revokeAllAuthenticated session d grant replacement now)) s := by
  simp only [revokeAllAuthenticated, advanceEpoch, retireActorAuthority, issueRecovery, wp_bind,
    wp_read, wp_demand, wp_require, wp_write, wp_pure]
  set op := Op.revokeAllAuthenticated session d grant replacement now with hop
  refine wp_authorizeGrantLocked quiet_refl.ends (fun _ h => (quiet_observed h).ends)
    fun p r actor h hpurpose => ⟨fun actor' hactor' => ?_, fun _ => (quiet_granted h).ends _⟩
  obtain rfl : { actor with lastObservedUtc := now } = actor' :=
    Option.some.inj (h.known.symm.trans hactor')
  have hadvanced : Quiet s ((s.granted actor p now).advanced
      { actor with lastObservedUtc := now } now) :=
    (quiet_granted h).step (.advance now h.live.observable.own.after)
  refine ⟨fun hvalid => ?_, fun _ => hadvanced.ends _⟩
  have hnew : Authorizes s op (.recovery (replacement.bindTo actor.next)) :=
    ⟨hpurpose, p, r, actor, h, rfl⟩
  have hknown := Table.get?_put_self (s.granted actor p now).actors
    (ActorRecord.next { actor with lastObservedUtc := now })
  exact ⟨hadvanced.reach.step (.issueRecovery hnew hvalid hknown rfl rfl), p, r, actor, h, rfl, rfl⟩

/-! ### Bootstraps -/

theorem alone_spendBootstraps (s : Store) (a : OpaqueId) (now : Datetime) (h : OpaqueId)
    (b : BootstrapRecord)
    (hb : (s.spendBootstraps (fun b => b.actorId = a) now).bootstraps.get? h = some b)
    (ha : b.actorId = a) : b.consumed = true := by
  rw [Store.spendBootstraps_bootstraps, Table.get?_map, Option.map_eq_some_iff] at hb
  obtain ⟨b₀, -, rfl⟩ := hb
  unfold BootstrapRecord.sweep at ha ⊢
  split_ifs at ha ⊢ with hp
  · rfl
  · simp only [decide_eq_true_eq, not_and, Bool.not_eq_false] at hp
    exact hp ha

theorem createRootBootstrap_spec (root : RootCapability) (d : SecretDigest)
    (record : BootstrapRecord) :
    wp (createRootBootstrap root d record now)
      (fun v s' => Reach s (.createRootBootstrap root d record now) s s' ∧
        ∃ r actor, LiveRoot s root d r ∧ Observable s r.actorId now actor ∧
          RootedIn s v r actor ∧
          s' = ((s.observed actor now).spendBootstraps
            (fun b => b.actorId = actor.actorId) now).putBootstrap v)
      (Ends s (.createRootBootstrap root d record now)) s := by
  simp only [createRootBootstrap, invalidateBootstraps, storeBootstrap, wp_bind, wp_read, wp_demand,
    wp_require, wp_write, wp_pure]
  set op := Op.createRootBootstrap root d record now with hop
  refine wp_validateRootLocked (fun _ => quiet_refl.ends _) fun r hroot hpurpose => ?_
  refine ⟨fun actor hactor => ?_, fun _ => quiet_refl.ends _⟩
  have hkey : actor.actorId = root.actorId := Table.key_of_get? hactor
  refine wp_observe (fun _ => quiet_refl.ends _) fun actor' hobs => ?_
  obtain rfl : actor = actor' := by
    have hfound := hobs.found
    rw [hkey, hactor] at hfound
    exact Option.some.inj hfound
  have hmid : Quiet s (s.observed actor now) := quiet_observed hobs
  refine ⟨fun hinit => ⟨fun hrep => ⟨fun hmatch => ⟨fun hvalid => ?_, fun _ => ?_⟩,
    fun _ => hmid.ends _⟩, fun _ => hmid.ends _⟩, fun _ => hmid.ends _⟩
  · obtain ⟨hwho, hprofile, hid, hrootPurpose⟩ := hmatch
    have hroot' : s.roots.get? r.handle = some r := by
      rw [show r.handle = root.credential.handle from Table.key_of_get? hroot.found]
      exact hroot.found
    have hrooted : RootedIn s record r actor := by
      refine ⟨hroot', hroot.live, hroot.actor ▸ hactor, ?_, Or.inr hprofile, ?_, ?_, ?_⟩
      · rw [hwho, hkey, hroot.actor]
      · rw [hid, show r.handle = root.credential.handle from Table.key_of_get? hroot.found]
      · rw [hrootPurpose, hroot.purpose]
      · rw [hroot.purpose] at hinit hrep
        rcases List.mem_cons.mp hpurpose with h | h
        · exact Or.inl ⟨h, by simpa [h] using hinit⟩
        · have h := List.mem_singleton.mp h
          exact Or.inr ⟨h, by simpa [h] using hrep⟩
    have hobserved : Observable s r.actorId now actor := by
      rw [← hroot.actor, ← hkey]
      exact hobs
    have hnew : Authorizes s op (.bootstrap record) :=
      ⟨rfl, r, actor, hroot, hobserved, hrooted⟩
    have hsource : RootedIn ((s.observed actor now).spendBootstraps
        (fun b => b.actorId = actor.actorId) now) record r
        { actor with lastObservedUtc := now } :=
      { hrooted with
        known := by
          rw [← hroot.actor, ← hkey]
          exact hobs.after }
    refine ⟨(hmid.step (.spendBootstraps _ _ _)).reach.step (.issueBootstrap hnew hvalid ?_
      (Or.inl ⟨r, _, hsource⟩)), r, actor, hroot, hobserved, hrooted, rfl⟩
    intro h b hb ha
    exact alone_spendBootstraps _ _ now h b hb (ha.trans hwho)
  · exact (hmid.step (.spendBootstraps _ _ _)).ends _

theorem createAuthenticatedBootstrap_spec (session : OpaqueCredential) (d : SecretDigest)
    (grant : AuthorityGrant) (record : BootstrapRecord) :
    wp (createAuthenticatedBootstrap session d grant record now)
      (fun v s' => Reach s (.createAuthenticatedBootstrap session d grant record now) s s' ∧
        ∃ p r actor, LiveGrant s session d grant now p r actor ∧
          v.actorId = grant.actorId ∧
          s' = ((s.granted actor p now).spendBootstraps
            (fun b => b.actorId = v.actorId) now).putBootstrap v)
      (Ends s (.createAuthenticatedBootstrap session d grant record now)) s := by
  simp only [createAuthenticatedBootstrap, invalidateBootstraps, storeBootstrap, wp_bind,
    wp_require, wp_write, wp_pure]
  set op := Op.createAuthenticatedBootstrap session d grant record now with hop
  refine wp_authorizeGrantLocked quiet_refl.ends (fun _ h => (quiet_observed h).ends)
    fun p r actor h hpurpose => ?_
  have hmid : Quiet s (s.granted actor p now) := quiet_granted h
  refine ⟨fun hmatch => ⟨fun hvalid => ?_, fun _ => ?_⟩, fun _ => hmid.ends _⟩
  · obtain ⟨hwho, hprofile, hid⟩ := hmatch
    have hnew : Authorizes s op (.bootstrap record) :=
      ⟨rfl, hid, hpurpose, hwho, hprofile, p, r, actor, h⟩
    have hfound : (s.granted actor p now).sessions.get? r.handle = some r := by
      rw [show r.handle = session.handle from Table.key_of_get? h.live.found]
      exact h.live.found
    have hsource : OpenedIn ((s.granted actor p now).spendBootstraps
        (fun b => b.actorId = record.actorId) now) record r :=
      ⟨hfound, hwho.trans h.ofActor, hprofile.trans h.ofProfile, hid⟩
    exact ⟨(hmid.step (.spendBootstraps _ _ _)).reach.step (.issueBootstrap hnew hvalid
      (alone_spendBootstraps _ _ now) (Or.inr ⟨r, hsource⟩)), p, r, actor, h, hwho, rfl⟩
  · exact (hmid.step (.spendBootstraps _ _ _)).ends _

theorem createReprovisionBootstrap_spec (credential : OpaqueCredential) (d : SecretDigest)
    (issue : BootstrapIssue) :
    wp (createReprovisionBootstrap credential d issue now)
      (fun v s' => Reach s (.createReprovisionBootstrap credential d issue now) s s' ∧
        ∃ root actor, LiveReprovisionRoot s credential d now root actor ∧
          v = issue.bindTo root ∧
          s' = ((s.observed actor now).spendBootstraps
            (fun b => b.actorId = actor.actorId) now).putBootstrap v)
      (Ends s (.createReprovisionBootstrap credential d issue now)) s := by
  simp only [createReprovisionBootstrap, invalidateBootstraps, storeBootstrap, wp_bind, wp_read,
    wp_demand, wp_require, wp_write, wp_pure]
  set op := Op.createReprovisionBootstrap credential d issue now with hop
  refine ⟨fun root hfound => ⟨fun hproof => ⟨fun hpurpose => ⟨fun hlive =>
    ⟨fun actor hactor => ?_, fun _ => quiet_refl.ends _⟩, fun _ => quiet_refl.ends _⟩,
    fun _ => quiet_refl.ends _⟩, fun _ => quiet_refl.ends _⟩, fun _ => quiet_refl.ends _⟩
  have hkey : actor.actorId = root.actorId := Table.key_of_get? hactor
  refine wp_observe (fun _ => quiet_refl.ends _) fun actor' hobs => ?_
  obtain rfl : actor = actor' := by
    have h := hobs.found
    rw [hkey, hactor] at h
    exact Option.some.inj h
  have hmid : Quiet s (s.observed actor now) := quiet_observed hobs
  have hobserved : Observable s root.actorId now actor := hkey ▸ hobs
  refine ⟨fun hinit => ⟨fun hvalid => ?_, fun _ => ?_⟩, fun _ => hmid.ends _⟩
  · have hev : LiveReprovisionRoot s credential d now root actor :=
      ⟨hfound, hproof, hpurpose, hlive, hobserved, hinit⟩
    have hnew : Authorizes s op (.bootstrap (issue.bindTo root)) := ⟨root, actor, hev, rfl⟩
    have hroot : s.roots.get? root.handle = some root := by
      rw [show root.handle = credential.handle from Table.key_of_get? hfound]
      exact hfound
    have hsource : RootedIn ((s.observed actor now).spendBootstraps
        (fun b => b.actorId = actor.actorId) now) (issue.bindTo root) root
        { actor with lastObservedUtc := now } :=
      ⟨hroot, hlive, hobserved.after, rfl, Or.inl rfl, rfl, by rw [hpurpose]; rfl,
        Or.inr ⟨hpurpose, hinit⟩⟩
    refine ⟨(hmid.step (.spendBootstraps _ _ _)).reach.step (.issueBootstrap hnew hvalid ?_
      (Or.inl ⟨root, _, hsource⟩)), root, actor, hev, rfl, rfl⟩
    intro h b hb ha
    exact alone_spendBootstraps _ _ now h b hb (ha.trans hkey.symm)
  · exact (hmid.step (.spendBootstraps _ _ _)).ends _

/-- The store after the root of a bootstrap, when it has one, was claimed by its actor. -/
def Store.claimed (s : Store) (b : BootstrapRecord) (actor : ActorRecord) (now : Datetime) : Store :=
  match b.rootCapabilityId.bind s.roots.get? with
  | none => s
  | some root => (s.putRoot (root.spend now)).putActor { actor with initialized := true }

theorem wp_claimRoot {post : Unit → Store → Prop} {halt : Halt → Store → Prop}
    {b : BootstrapRecord} {actor : ActorRecord} (hstop : ∀ d, halt (.denied d) s)
    (h : RootOpen s b actor → post () (s.claimed b actor now)) :
    wp (claimRoot b actor now) post halt s := by
  unfold claimRoot
  cases hid : b.rootCapabilityId with
  | none =>
    have hopen : RootOpen s b actor := fun rootId hmem => by simp [hid] at hmem
    simpa only [wp_pure, Store.claimed, hid, Option.bind_none] using h hopen
  | some rootId =>
    simp only [consumeRoot, wp_bind, wp_read, wp_demand, wp_require, wp_write]
    refine ⟨fun root hfound => ⟨fun hlive => ⟨fun hinit => ?_, fun _ => hstop _⟩,
      fun _ => hstop _⟩, fun _ => hstop _⟩
    have hopen : RootOpen s b actor := by
      intro rootId' hmem
      obtain rfl : rootId = rootId' := by simpa [hid] using hmem
      exact ⟨root, hfound, hlive.1, hlive.2, hinit⟩
    simpa only [Store.claimed, hid, Option.bind_some, hfound] using h hopen

/-- The store after a session and a recovery were issued. -/
def Store.issued (s : Store) (session : SessionRecord) (recovery : RecoveryRecord) : Store :=
  (s.putSession session).putRecovery recovery

theorem Moves.issued {new : Issue → Prop} {lossy : Prop} {r : SessionRecord} {q : RecoveryRecord}
    {a : OpaqueId} {actor : ActorRecord} (hmid : Moves new lossy s s₁)
    (hknown : s₁.actors.get? a = some actor) (hr : new (.session r)) (hq : new (.recovery q))
    (hrv : r.Valid) (hqv : q.Valid) (hrb : r = r.bindTo actor) (hqb : q = q.bindTo actor) :
    Moves new lossy s (s₁.issued r q) := by
  have hown : s₁.actors.get? actor.actorId = some actor := by
    rw [show actor.actorId = a from Table.key_of_get? hknown]
    exact hknown
  have hsession : Moves new lossy s (s₁.putSession r) := by
    have hwho : s₁.actors.get? r.actorId = some actor := by
      rw [hrb]
      exact hown
    exact hmid.tail (.issueSession hr hrv hwho (by rw [hrb]; rfl) (Or.inl (by rw [hrb]; rfl)))
  have hwho : (s₁.putSession r).actors.get? q.actorId = some actor := by
    rw [hqb]
    exact hown
  exact hsession.tail (.issueRecovery hq hqv hwho (by rw [hqb]; rfl) (by rw [hqb]; rfl))

@[simp] theorem Store.claimed_bootstraps (s : Store) (b : BootstrapRecord) (actor : ActorRecord)
    (now : Datetime) : (s.claimed b actor now).bootstraps = s.bootstraps := by
  unfold claimed
  split <;> rfl

/-- Claiming a root changes its actor at most in being initialized. -/
theorem Store.claimed_known (b : BootstrapRecord) {a : OpaqueId} {actor : ActorRecord}
    (now : Datetime) (hknown : s.actors.get? a = some actor) :
    ∃ i, (s.claimed b actor now).actors.get? a = some { actor with initialized := i } := by
  unfold claimed
  split
  · exact ⟨actor.initialized, hknown⟩
  · exact ⟨true, Table.get?_put_of_eq _ (show actor.actorId = a from Table.key_of_get? hknown)⟩

theorem quiet_claimed {b : BootstrapRecord} {actor : ActorRecord} (now : Datetime)
    (hmid : Quiet s s₁)
    (hpurpose : b.rootPurpose ≠ some .reprovision) (hopen : RootOpen s₁ b actor)
    (hknown : s₁.actors.get? actor.actorId = some actor) :
    Quiet s (s₁.claimed b actor now) := by
  unfold Store.claimed
  cases hid : b.rootCapabilityId with
  | none => exact hmid
  | some rootId =>
    obtain ⟨root, hfound, hlive, hrootPurpose, -⟩ := hopen rootId (by rw [hid]; rfl)
    have hkey : root.handle = rootId := Table.key_of_get? hfound
    have hfound' : s₁.roots.get? root.handle = some root := by
      rw [hkey]
      exact hfound
    rw [Option.bind_some, hfound]
    refine (hmid.step (.consumeRoot now hfound' hlive fun hrep => ?_)).step (.setInitialized hknown)
    exact hpurpose (by rw [← hrootPurpose, hrep])

theorem exchangeBootstrap_spec (handle : OpaqueId) (d : SecretDigest) (session : SessionRecord)
    (recovery : RecoveryRecord) (replacement : RootCapabilityIssue) :
    wp (exchangeBootstrap handle d now session recovery replacement)
      (fun _ s' => Reach s (.exchangeBootstrap handle d now session recovery replacement) s s' ∧
        ∃ b actor, LiveBootstrap s handle d now b actor ∧ b.rootPurpose ≠ some .reprovision ∧
          RootOpen s b actor ∧
          s' = ((((s.observed actor now).claimed b { actor with lastObservedUtc := now }
            now).putBootstrap { b with toAttempts := b.toAttempts.spend now }).issued
            (session.bindTo actor) (recovery.bindTo actor)))
      (Ends s (.exchangeBootstrap handle d now session recovery replacement)) s := by
  simp only [exchangeBootstrap, BootstrapRecord.save, issueAuthority, wp_bind, wp_read, wp_demand,
    wp_require, wp_write, wp_pure]
  set op := Op.exchangeBootstrap handle d now session recovery replacement with hop
  refine ⟨fun b hfound => ⟨fun hpurpose => ?_, fun _ => quiet_refl.ends _⟩,
    fun _ => quiet_refl.ends _⟩
  refine wp_observe (fun _ => quiet_refl.ends _) fun actor hobs => ?_
  have hmid : Quiet s (s.observed actor now) := quiet_observed hobs
  have hkey : b.handle = handle := Table.key_of_get? hfound
  have hfound' : (s.observed actor now).bootstraps.get? b.handle = some b := by
    rw [hkey]
    exact hfound
  refine wp_presentOnce (f := fun u s => s.putBootstrap { b with toAttempts := u }) (fun _ => rfl)
    (fun _ => hmid.ends _) (fun hlive _ => ?_) (fun hlive _ _ => ?_)
    fun hlive hwindow hproof => ?_
  · rw [Store.putBootstrap_spend now hfound' hlive]
    exact (hmid.step (.spendBootstraps _ _ _)).ends _
  · exact (hmid.step (.missBootstrap now hfound' hlive)).ends _
  refine ⟨fun actor' hactor' => ?_, fun _ => hmid.ends _⟩
  obtain rfl : { actor with lastObservedUtc := now } = actor' :=
    Option.some.inj (hobs.after.symm.trans hactor')
  refine wp_claimRoot (fun _ => hmid.ends _) fun hopen => ?_
  have hclaimed := quiet_claimed now hmid hpurpose hopen hobs.own.after
  have hspent : Quiet s (((s.observed actor now).claimed b
      { actor with lastObservedUtc := now } now).putBootstrap
      { b with toAttempts := b.toAttempts.spend now }) := by
    rw [Store.putBootstrap_spend now (by rw [Store.claimed_bootstraps]; exact hfound') hlive]
    exact hclaimed.step (.spendBootstraps _ _ _)
  refine wp_crashIfArmed (fun _ => (hspent.step (.arm _ _)).ends _) fun _ => ?_
  refine ⟨fun hsv => ⟨fun hrv => ?_, fun _ => hspent.ends _⟩, fun _ => hspent.ends _⟩
  have hev : LiveBootstrap s handle d now b actor := ⟨hfound, hproof, hobs, hlive, hwindow⟩
  have hsession : Authorizes s op (.session (session.bindTo actor)) :=
    ⟨b, actor, hev, hpurpose, hopen, rfl⟩
  have hrecovery : Authorizes s op (.recovery (recovery.bindTo actor)) :=
    ⟨b, actor, hev, hpurpose, hopen, rfl⟩
  obtain ⟨i, hknown⟩ := Store.claimed_known b now hobs.own.after
  have hdone : Reach s op s _ :=
    Moves.issued hspent.reach hknown hsession hrecovery hsv hrv rfl rfl
  refine ⟨fun _ => ⟨hdone, b, actor, hev, hpurpose, hopen, rfl⟩, fun hinvalid => ?_⟩
  exact absurd ⟨hsv.2, fun _ hnone => by cases hnone⟩ hinvalid

theorem cancelBootstrap_spec (handle : OpaqueId) :
    wp (cancelBootstrap handle now)
      (fun _ s' => Reach s (.cancelBootstrap handle now) s s' ∧
        s' = s.spendBootstraps (fun b => b.handle = handle) now)
      (Ends s (.cancelBootstrap handle now)) s := by
  simp only [cancelBootstrap, wp_write]
  exact ⟨(quiet_refl.step (.spendBootstraps _ _ _)).reach, trivial⟩

/-! ### Revocation and recovery -/

theorem emergencyRevoke_spec (root : RootCapability) (d : SecretDigest) :
    wp (emergencyRevoke root d now)
      (fun v s' => Reach s (.emergencyRevoke root d now) s s' ∧
        ∃ r actor, LiveRoot s root d r ∧ r.purpose = .emergencyRevoke ∧
          Observable s r.actorId now actor ∧ v = actor.epoch + 1 ∧
          s' = ((s.observed actor now).putRoot (r.spend now)).advanced
            { actor with lastObservedUtc := now } now)
      (Ends s (.emergencyRevoke root d now)) s := by
  simp only [emergencyRevoke, consumeRoot, advanceEpoch, retireActorAuthority, wp_bind, wp_read,
    wp_demand, wp_write, wp_pure]
  set op := Op.emergencyRevoke root d now with hop
  refine wp_validateRootLocked (fun _ => quiet_refl.ends _) fun r hroot hpurpose => ?_
  have hpurpose := List.mem_singleton.mp hpurpose
  refine wp_observe (fun _ => quiet_refl.ends _) fun actor hobs => ?_
  have hfound : (s.observed actor now).roots.get? r.handle = some r := by
    rw [show r.handle = root.credential.handle from Table.key_of_get? hroot.found]
    exact hroot.found
  have hconsumed : Quiet s ((s.observed actor now).putRoot (r.spend now)) :=
    (quiet_observed hobs).step (.consumeRoot now hfound hroot.live fun h => by
      rw [hpurpose] at h
      exact nomatch h)
  refine ⟨fun actor' hactor' => ?_, fun _ => hconsumed.ends _⟩
  obtain rfl : { actor with lastObservedUtc := now } = actor' :=
    Option.some.inj (hobs.after.symm.trans hactor')
  exact ⟨Quiet.reach (Moves.advance hconsumed now hobs.after), r, actor, hroot, hpurpose, hroot.actor ▸ hobs,
    rfl, rfl⟩

theorem recover_spec (credential : OpaqueCredential) (d : SecretDigest) (session : SessionIssue)
    (replacement : RecoveryIssue) :
    wp (recover credential d now session replacement)
      (fun v s' => Reach s (.recover credential d now session replacement) s s' ∧
        ∃ r actor, LiveRecovery s credential.handle d now r actor ∧
          v = session.bindTo actor.next ∧
          s' = (((s.observed actor now).spendRecoveries
            (fun r => r.actorId = actor.actorId) now).advanced
            { actor with lastObservedUtc := now } now).issued
            (session.bindTo actor.next) (replacement.bindTo actor.next))
      (Ends s (.recover credential d now session replacement)) s := by
  simp only [recover, RecoveryRecord.save, consumeActorRecoveries, advanceEpoch,
    retireActorAuthority, issueAuthority, wp_bind, wp_read, wp_demand]
  set op := Op.recover credential d now session replacement with hop
  refine ⟨fun r hfound => ?_, fun _ => quiet_refl.ends _⟩
  refine wp_observe (fun _ => quiet_refl.ends _) fun actor hobs => ?_
  have hmid : Quiet s (s.observed actor now) := quiet_observed hobs
  have hfound' : (s.observed actor now).recoveries.get? r.handle = some r := by
    rw [show r.handle = credential.handle from Table.key_of_get? hfound]
    exact hfound
  have hspent : Quiet s ((s.observed actor now).putRecovery
      { r with toAttempts := r.toAttempts.spend now }) := by
    rw [Store.putRecovery_spend now hfound']
    exact hmid.step (.spendRecoveries _ _ _)
  refine wp_presentOnce (f := fun u s => s.putRecovery { r with toAttempts := u }) (fun _ => rfl)
    (fun _ => hmid.ends _) (fun _ _ => hspent.ends _) (fun hlive _ _ => ?_)
    fun hlive hwindow hproof => ?_
  · exact (hmid.step (.missRecovery now hfound' hlive)).ends _
  refine ⟨fun actor' hactor' => ?_, fun _ => hmid.ends _⟩
  obtain rfl : { actor with lastObservedUtc := now } = actor' :=
    Option.some.inj (hobs.after.symm.trans hactor')
  simp only [wp_ite, wp_bind, wp_write, wp_require, wp_deny, wp_pure]
  refine ⟨fun hepoch => ?_, fun _ => hspent.ends _⟩
  have hadvanced : Quiet s (((s.observed actor now).spendRecoveries
      (fun r => r.actorId = actor.actorId) now).advanced
      { actor with lastObservedUtc := now } now) :=
    (hmid.step (.spendRecoveries _ _ _)).step (.advance now hobs.own.after)
  refine wp_crashIfArmed (fun _ => (hadvanced.step (.arm _ _)).ends _) fun _ => ?_
  refine ⟨fun hsv => ⟨fun hrv => ?_, fun _ => hadvanced.ends _⟩, fun _ => hadvanced.ends _⟩
  have hev : LiveRecovery s credential.handle d now r actor :=
    ⟨hfound, hproof, hobs, hlive, hwindow, hepoch⟩
  have hsession : Authorizes s op (.session (session.bindTo actor.next)) := ⟨r, actor, hev, rfl⟩
  have hrecovery : Authorizes s op (.recovery (replacement.bindTo actor.next)) :=
    ⟨r, actor, hev, rfl⟩
  have hknown := Table.get?_put_self (s.observed actor now).actors
    (ActorRecord.next { actor with lastObservedUtc := now })
  exact ⟨Moves.issued hadvanced.reach hknown hsession hrecovery hsv hrv rfl rfl, r, actor, hev, rfl, rfl⟩

/-! ### Ceremonies -/

theorem createReprovisionCeremony_spec (sv : OpaqueCredential) (sd : SecretDigest)
    (o : OpaqueCredential) (od : SecretDigest) (handle : OpaqueId)
    (issue : ReprovisionCeremonyIssue) (active tombstones replay : Int) :
    wp (createReprovisionCeremony sv sd o od handle issue now active tombstones replay)
      (fun v s' => Reach s (.createReprovisionCeremony sv sd o od handle issue now active tombstones
          replay) s s' ∧ v = issue.handle ∧
        ∃ c b root binding, ConfirmedIn (s.gcCeremonies now) c b root binding ∧
          c.bootstrapHandle = handle ∧ c.handle = issue.handle ∧
          s' = ((s.gcCeremonies now).putCeremony c).trimTombstones binding.serviceHandle tombstones)
      (Ends s (.createReprovisionCeremony sv sd o od handle issue now active tombstones replay))
      s := by
  simp only [createReprovisionCeremony, gcReprovisionCeremoniesLocked,
    trimReprovisionTombstonesLocked, wp_bind, wp_read, wp_demand, wp_require, wp_write, wp_pure]
  set op := Op.createReprovisionCeremony sv sd o od handle issue now active tombstones replay
    with hop
  have hstart : ∀ e, Ends s op e s := quiet_refl.ends
  refine ⟨fun _ => ⟨fun b hb => ⟨fun hpurpose => ⟨fun rootId hid => ⟨fun root hroot =>
    ⟨fun binding hbinding => ⟨fun hident => ?_, fun _ => hstart _⟩, fun _ => hstart _⟩,
    fun _ => hstart _⟩, fun _ => hstart _⟩, fun _ => hstart _⟩, fun _ => hstart _⟩,
    fun _ => hstart _⟩
  obtain ⟨h1, h2, h3, h4, h5, h6⟩ := hident
  have hmid : Quiet s (s.gcCeremonies now) := quiet_refl.step (.gcCeremonies _ _)
  refine ⟨fun _ => ⟨fun hunused => ⟨fun hvalid => ?_, fun _ => hmid.ends _⟩,
    fun _ => hmid.ends _⟩, fun _ => hmid.ends _⟩
  have hkey : root.handle = rootId := Table.key_of_get? hroot
  set c : ReprovisionCeremonyRecord :=
    { handle := issue.handle, digest := issue.digest, bootstrapHandle := handle
      installationId := root.installationId, serviceHandle := binding.serviceHandle
      expiresAtUtc := issue.expiresAtUtc, replaySeconds := replay } with hc
  have hconfirmed : ConfirmedIn (s.gcCeremonies now) c b root binding := by
    refine ⟨hb, hpurpose, hid.trans (by rw [hkey]), ?_, rfl, hbinding, rfl, rfl, hunused⟩
    rw [hkey]
    exact hroot
  have hnew : Authorizes s op (.ceremony c) :=
    ⟨rfl, rfl, rfl, b, root, binding, hconfirmed, ⟨h1, h2, h3⟩, ⟨h4, h5, h6⟩⟩
  exact ⟨(hmid.reach.step (.registerCeremony hnew hvalid hconfirmed)).step (.trimTombstones _ _ _), trivial,
    c, b, root, binding, hconfirmed, rfl, rfl, rfl⟩

/-- The store after a ceremony was burned, at the start of a reprovision. -/
def Store.burned (s : Store) (proof : ReprovisionCeremonyRecord) (now : Datetime)
    (denial : AuthDenial) (replaySeconds : Int) (serviceHandle : OpaqueId)
    (tombstoneCapacity : Int) : Store :=
  ((s.gcCeremonies now).putCeremony { proof with
    terminalAtUtc := some now, terminalDenial := some denial, replaySeconds }).trimTombstones
    serviceHandle tombstoneCapacity

theorem quiet_burned {proof : ReprovisionCeremonyRecord} (denial : AuthDenial)
    (replaySeconds : Int) (serviceHandle : OpaqueId) (tombstoneCapacity : Int) {h : OpaqueId}
    (hfound : (s.gcCeremonies now).reprovisionCeremonies.get? h = some proof)
    (hactive : proof.terminalAtUtc = none) :
    Quiet s (s.burned proof now denial replaySeconds serviceHandle tombstoneCapacity) := by
  have hkey : proof.handle = h := Table.key_of_get? hfound
  refine ((quiet_refl.step (.gcCeremonies s now)).step
    (.burnCeremony now denial replaySeconds ?_ hactive)).step (.trimTombstones _ _ _)
  rw [hkey]
  exact hfound

/-- A ceremony that survives its expiry check unburned was not touched by it. -/
theorem gcCeremonies_active {h : OpaqueId} {proof proof' : ReprovisionCeremonyRecord}
    (hfound : s.reprovisionCeremonies.get? h = some proof)
    (hfound' : (s.gcCeremonies now).reprovisionCeremonies.get? h = some proof')
    (hactive : proof'.terminalAtUtc = none) : proof' = proof ∧ now < proof.expiresAtUtc := by
  rw [Store.gcCeremonies_reprovisionCeremonies, Table.get?_filter, Table.get?_map, hfound,
    Option.map_some, Option.filter_eq_some_iff] at hfound'
  obtain ⟨hsame, -⟩ := hfound'
  have hsame := Option.some.inj hsame
  unfold ReprovisionCeremonyRecord.expire at hsame
  split_ifs at hsame with hdue
  · rw [← hsame] at hactive
    exact nomatch hactive
  · refine ⟨hsame.symm, lt_of_not_ge fun hle => hdue ⟨?_, hle⟩⟩
    rw [hsame]
    exact hactive

theorem wp_burnProof {post : BootstrapRecord × RootCapabilityRecord → Store → Prop}
    {handle : OpaqueId} {service : OpaqueCredential} {serviceDigest : SecretDigest}
    {ceremony : OpaqueCredential} {ceremonyDigest : SecretDigest}
    {tombstoneCapacity replaySeconds : Int}
    (h : ∀ proof binding record root,
      BurnedProof s handle service serviceDigest ceremony ceremonyDigest now proof binding record
        root →
      post (record, root)
        (s.burned proof now .replayed replaySeconds binding.serviceHandle tombstoneCapacity)) :
    wp (burnProof handle service serviceDigest ceremony ceremonyDigest now tombstoneCapacity
      replaySeconds) post (Ends s op) s := by
  simp only [burnProof, gcReprovisionCeremoniesLocked, burnCeremony,
    trimReprovisionTombstonesLocked, wp_bind, wp_read, wp_demand, wp_require, wp_write, wp_pure,
    wp_ite, wp_deny]
  have hstart : ∀ e, Ends s op e s := quiet_refl.ends
  refine ⟨fun proof hproof => ⟨fun binding hbinding => ⟨fun hident => ?_, fun _ => hstart _⟩,
    fun _ => hstart _⟩, fun _ => hstart _⟩
  have hmid : Quiet s (s.gcCeremonies now) := quiet_refl.step (.gcCeremonies _ _)
  refine ⟨fun proof' hproof' => ⟨fun hactive => ⟨fun record hrecord => ⟨fun rootId hid =>
    ⟨fun root hroot => ⟨fun hpurpose => ⟨fun hinst => ?_, fun _ => hmid.ends _⟩,
    fun _ => hmid.ends _⟩, fun _ => hmid.ends _⟩, fun _ => hmid.ends _⟩, fun _ => hmid.ends _⟩,
    fun _ => hmid.ends _⟩, fun _ => hmid.ends _⟩
  obtain ⟨rfl, hunexpired⟩ := gcCeremonies_active hproof hproof' hactive
  obtain ⟨h1, h2, h3, h4, h5, h6, h7⟩ := hident
  have hburned : ∀ denial replay, Quiet s (s.burned proof' now denial replay
      binding.serviceHandle tombstoneCapacity) :=
    fun denial replay => quiet_burned denial replay _ _ hproof' hactive
  refine ⟨fun _ => (hburned _ _).ends _, fun _ => ?_⟩
  refine wp_crashIfArmed (fun _ => ((hburned _ _).step (.arm _ _)).ends _) fun _ => ?_
  have hkey : root.handle = rootId := Table.key_of_get? hroot
  refine h proof' binding record root ⟨hproof, hactive, hunexpired, h6, h7, h2, hbinding, h1,
    ⟨h3, h4, h5⟩, hrecord, hpurpose, hid.trans (by rw [hkey]), ?_, hinst⟩
  rw [hkey]
  exact hroot

/-- The store after a reprovision, from the state in which its proof is burned. -/
def Store.reprovisioned (s : Store) (b : BootstrapRecord) (root : RootCapabilityRecord)
    (actor : ActorRecord) (now : Datetime) (session : SessionRecord) (recovery : RecoveryRecord)
    (replacement : RootCapabilityIssue) : Store :=
  ((((((s.observed actor now).putRoot (root.spend now)).putRoot (root.successor replacement)).advanced
    { actor with lastObservedUtc := now } now).putBootstrap
    { b with toAttempts := b.toAttempts.spend now }).issued
    (session.bindTo actor.next) (recovery.bindTo actor.next))

theorem exchangeReprovisionBootstrap_spec (handle : OpaqueId) (d : SecretDigest)
    (sv : OpaqueCredential) (sd : SecretDigest) (c : OpaqueCredential) (cd : SecretDigest)
    (session : SessionRecord) (recovery : RecoveryRecord) (replacement : RootCapabilityIssue)
    (tombstones replay : Int) :
    wp (exchangeReprovisionBootstrap handle d sv sd c cd now session recovery replacement tombstones
        replay)
      (fun _ s' => Reach s (.exchangeReprovisionBootstrap handle d sv sd c cd now session recovery
          replacement tombstones replay) s s' ∧
        ∃ proof binding b root actor,
          LiveReprovision s handle d sv sd c cd now proof binding b root actor ∧
          s.roots.get? replacement.handle = none ∧
          s' = (s.burned proof now .replayed replay binding.serviceHandle
            tombstones).reprovisioned b root actor now session recovery replacement)
      (Ends s (.exchangeReprovisionBootstrap handle d sv sd c cd now session recovery replacement
        tombstones replay)) s := by
  simp only [exchangeReprovisionBootstrap, wp_bind]
  set op := Op.exchangeReprovisionBootstrap handle d sv sd c cd now session recovery replacement
    tombstones replay with hop
  refine wp_burnProof fun proof binding b root hproof => ?_
  simp only [reprovision, BootstrapRecord.save, issueAuthority, consumeRoot, advanceEpoch,
    retireActorAuthority, wp_bind, wp_read, wp_demand, wp_require, wp_write, wp_pure]
  set s₂ := s.burned proof now .replayed replay binding.serviceHandle tombstones with hs₂
  have hburned : Quiet s s₂ := by
    refine quiet_burned (h := c.handle) _ _ _ _ ?_ hproof.active
    rw [Store.gcCeremonies_reprovisionCeremonies, Table.get?_filter, Table.get?_map,
      hproof.foundProof, Option.map_some]
    have hkeep : proof.expire now = proof :=
      if_neg fun hdue => absurd hproof.unexpired (not_lt.mpr hdue.2)
    rw [hkeep, Option.filter_some, if_pos]
    rw [ReprovisionCeremonyRecord.forgotten, hproof.active]
    rfl
  refine wp_observe (fun _ => hburned.ends _) fun actor hobs => ?_
  have hmid : Quiet s (s₂.observed actor now) := hburned.step (.observe hobs.own)
  have hbkey : b.handle = handle := Table.key_of_get? hproof.foundRecord
  have hb : (s₂.observed actor now).bootstraps.get? b.handle = some b := by
    rw [hbkey]
    exact hproof.foundRecord
  refine ⟨fun hlive => ?_, fun _ => hmid.ends _⟩
  refine wp_presentLive (f := fun u s => s.putBootstrap { b with toAttempts := u }) (fun _ => rfl)
    (hmid.ends _) (fun _ => ?_) (fun _ _ => ?_) fun hwindow hdigest => ?_
  · rw [Store.putBootstrap_spend now hb hlive]
    exact (hmid.step (.spendBootstraps _ _ _)).ends _
  · exact (hmid.step (.missBootstrap now hb hlive)).ends _
  refine ⟨fun actor' hactor' => ?_, fun _ => hmid.ends _⟩
  obtain rfl : { actor with lastObservedUtc := now } = actor' :=
    Option.some.inj (hobs.after.symm.trans hactor')
  refine ⟨fun hroot => ⟨fun hinit => ⟨fun hunused => ?_, fun _ => hmid.ends _⟩,
    fun _ => hmid.ends _⟩, fun _ => hmid.ends _⟩
  have hev : LiveReprovision s handle d sv sd c cd now proof binding b root actor :=
    { hproof with
      bootstrap := ⟨hproof.foundRecord, hdigest, ⟨hobs.found, hobs.notAfter⟩, hlive, hwindow⟩
      rootPurpose := hroot.2
      rootLive := hroot.1
      initialized := hinit }
  have hrootFound : (s₂.observed actor now).roots.get? root.handle = some root := hproof.foundRoot
  have hspend : ∀ t : Store, t.bootstraps.get? b.handle = some b →
      t.putBootstrap { b with toAttempts := b.toAttempts.spend now } =
        t.spendBootstraps (fun b' => b'.handle = b.handle) now :=
    fun t ht => Store.putBootstrap_spend now ht hlive
  -- An exception after the root was consumed leaves the actor without a reprovision root.
  have hlost : Moves (fun _ => False) True s ((((s₂.observed actor now).putRoot
      (root.spend now)).advanced { actor with lastObservedUtc := now } now).putBootstrap
      { b with toAttempts := b.toAttempts.spend now }) := by
    rw [hspend (((s₂.observed actor now).putRoot (root.spend now)).advanced
      { actor with lastObservedUtc := now } now) hb]
    have hconsumed : Moves (fun _ => False) True s
        ((s₂.observed actor now).putRoot (root.spend now)) :=
      (Moves.mono (fun _ => id) False.elim hmid).tail
        (.consumeRoot now hrootFound hroot.1 fun _ => trivial)
    exact (Moves.advance hconsumed now hobs.after).tail (.spendBootstraps _ _ _)
  have hraise : ∀ {e : Halt} {s'}, e.Raised → Moves (fun _ => False) True s s' → Ends s op e s' :=
    fun he h => Moves.mono (fun _ => False.elim) (fun _ => he) h
  refine wp_crashIfArmed (fun _ => hraise trivial (hlost.tail (.arm _ _))) fun _ => ?_
  refine ⟨fun hsv => ⟨fun hrv => ?_, fun _ => hraise trivial hlost⟩, fun _ => hraise trivial hlost⟩
  have hdone : ∀ new : Issue → Prop, new (.root (root.successor replacement)) →
      new (.session (session.bindTo actor.next)) → new (.recovery (recovery.bindTo actor.next)) →
      Moves new False s (s₂.reprovisioned b root actor now session recovery replacement) := by
    intro new hnew hsession hrecovery
    have hreplaced : Moves new False s (((s₂.observed actor now).putRoot (root.spend now)).putRoot
        (root.successor replacement)) :=
      (Moves.mono (fun _ => False.elim) id hmid).tail
        (.replaceRoot replacement now hrootFound hroot.1 hroot.2 hunused hnew)
    have hspent : Moves new False s (((((s₂.observed actor now).putRoot
        (root.spend now)).putRoot (root.successor replacement)).advanced
        { actor with lastObservedUtc := now } now).putBootstrap
        { b with toAttempts := b.toAttempts.spend now }) := by
      rw [hspend ((((s₂.observed actor now).putRoot (root.spend now)).putRoot
        (root.successor replacement)).advanced { actor with lastObservedUtc := now } now) hb]
      exact (Moves.advance hreplaced now hobs.after).tail (.spendBootstraps _ _ _)
    have hknown := Table.get?_put_self (s₂.observed actor now).actors
      (ActorRecord.next { actor with lastObservedUtc := now })
    exact Moves.issued hspent hknown hsession hrecovery hsv hrv rfl rfl
  have hnew : Authorizes s op (.root (root.successor replacement)) ∧
      Authorizes s op (.session (session.bindTo actor.next)) ∧
      Authorizes s op (.recovery (recovery.bindTo actor.next)) :=
    ⟨⟨proof, binding, b, root, actor, hev, rfl⟩, ⟨proof, binding, b, root, actor, hev, rfl⟩,
      ⟨proof, binding, b, root, actor, hev, rfl⟩⟩
  refine ⟨fun _ => ⟨hdone _ hnew.1 hnew.2.1 hnew.2.2, proof, binding, b, root, actor, hev, hunused,
    rfl⟩, fun hinvalid => ?_⟩
  have hmismatch : ∃ proof binding b root actor,
      LiveReprovision s handle d sv sd c cd now proof binding b root actor ∧
        ¬(root.actorId = actor.actorId ∧
          root.representedProfileId = actor.representedProfileId) := by
    refine ⟨proof, binding, b, root, actor, hev, fun hsame => hinvalid ⟨hsv.2, ?_⟩⟩
    rintro _ ⟨⟩
    exact hsame
  exact Moves.mono (fun _ => id) False.elim (hdone _ ⟨rfl, hnew.1, hmismatch⟩
    ⟨rfl, hnew.2.1, hmismatch⟩ ⟨rfl, hnew.2.2, hmismatch⟩)

/-! ### Setup, collection and injected faults -/

theorem initializeInstallation_spec (i a p : OpaqueId) (records : List RootCapabilityRecord)
    (o sv : RootCapabilityIssue) :
    wp (initializeInstallation i a p records o sv now)
      (fun _ s' => Reach s (.initializeInstallation i a p records o sv now) s s' ∧
        Installable s i a p records o sv ∧ s' = s.install i a p records o sv now)
      (Ends s (.initializeInstallation i a p records o sv now)) s := by
  simp only [initializeInstallation, wp_bind, wp_read, wp_require, wp_write]
  set op := Op.initializeInstallation i a p records o sv now with hop
  have hstart : ∀ e, Ends s op e s := quiet_refl.ends
  refine ⟨fun hnew => ⟨fun _ => ⟨fun hhandles => ⟨fun hpurposes => ⟨fun hbound =>
    ⟨fun hroots => ⟨fun hdistinct => ⟨fun hcomposition => ?_, fun _ => hstart _⟩,
    fun _ => hstart _⟩, fun _ => hstart _⟩, fun _ => hstart _⟩, fun _ => hstart _⟩,
    fun _ => hstart _⟩, fun _ => hstart _⟩, fun _ => hstart _⟩
  have hok : Installable s i a p records o sv :=
    ⟨hnew.1, hnew.2, hhandles, hpurposes, hbound, hroots, hdistinct, hcomposition⟩
  exact ⟨quiet_refl.reach.step (.install now hok fun _ => id), hok, trivial⟩

theorem garbageCollect_spec (retention : Int) :
    wp (garbageCollect now retention)
      (fun _ s' => Reach s (.garbageCollect now retention) s s' ∧
        (0 ≤ retention ∧ retention ≤ 86400) ∧ s' = (s.collect now retention.toNat).gcCeremonies now)
      (Ends s (.garbageCollect now retention)) s := by
  simp only [garbageCollect, gcReprovisionCeremoniesLocked, wp_bind, wp_read, wp_require, wp_write,
    wp_pure]
  refine ⟨fun hrange => ⟨?_, hrange, trivial⟩, fun _ => quiet_refl.ends _⟩
  exact ((quiet_refl.step (.collect _ _ _)).step (.gcCeremonies _ _)).reach

theorem armCrashOnce_spec (point : CrashPoint) :
    wp (armCrashOnce point)
      (fun _ s' => Reach s (.armCrashOnce point) s s' ∧ s' = s.arm (some point))
      (Ends s (.armCrashOnce point)) s := by
  simp only [armCrashOnce, wp_write]
  exact ⟨(quiet_refl.step (.arm _ _)).reach, trivial⟩

/-! ### Calls -/

/-- The evidence on which a call returns the value, and the state it then leaves. -/
def Allowed (s : Store) (op : Op) (v : Value) (s' : Store) : Prop :=
  match op with
  | .armCrashOnce point => s' = s.arm (some point)
  | .initializeInstallation i a p records o sv now =>
    Installable s i a p records o sv ∧ s' = s.install i a p records o sv now
  | .createRootBootstrap root d _ now =>
    ∃ b r actor, v = .bootstrap b ∧ LiveRoot s root d r ∧ Observable s r.actorId now actor ∧
      RootedIn s b r actor ∧ s' = ((s.observed actor now).spendBootstraps
        (fun b => b.actorId = actor.actorId) now).putBootstrap b
  | .createAuthenticatedBootstrap session d grant _ now =>
    ∃ b p r actor, v = .bootstrap b ∧ LiveGrant s session d grant now p r actor ∧
      b.actorId = grant.actorId ∧ s' = ((s.granted actor p now).spendBootstraps
        (fun b' => b'.actorId = b.actorId) now).putBootstrap b
  | .createReprovisionBootstrap credential d issue now =>
    ∃ root actor, LiveReprovisionRoot s credential d now root actor ∧
      v = .bootstrap (issue.bindTo root) ∧ s' = ((s.observed actor now).spendBootstraps
        (fun b => b.actorId = actor.actorId) now).putBootstrap (issue.bindTo root)
  | .cancelBootstrap handle now => s' = s.spendBootstraps (fun b => b.handle = handle) now
  | .createReprovisionCeremony _ _ _ _ handle issue now _ tombstones _ =>
    ∃ c b root binding, ConfirmedIn (s.gcCeremonies now) c b root binding ∧
      c.bootstrapHandle = handle ∧ c.handle = issue.handle ∧
      s' = ((s.gcCeremonies now).putCeremony c).trimTombstones binding.serviceHandle tombstones
  | .exchangeBootstrap handle d now session recovery _ =>
    ∃ b actor, LiveBootstrap s handle d now b actor ∧ b.rootPurpose ≠ some .reprovision ∧
      RootOpen s b actor ∧ s' = ((((s.observed actor now).claimed b
        { actor with lastObservedUtc := now } now).putBootstrap
        { b with toAttempts := b.toAttempts.spend now }).issued
        (session.bindTo actor) (recovery.bindTo actor))
  | .exchangeReprovisionBootstrap handle d sv sd c cd now session recovery replacement tombstones
      replay =>
    ∃ proof binding b root actor, LiveReprovision s handle d sv sd c cd now proof binding b root
        actor ∧ s.roots.get? replacement.handle = none ∧
      s' = (s.burned proof now .replayed replay binding.serviceHandle tombstones).reprovisioned b
        root actor now session recovery replacement
  | .authenticateSession credential d now =>
    ∃ r actor, v = .session r ∧ LiveSession s credential.handle d now r actor ∧
      s' = s.observed actor now
  | .createStepUp session d now challenge =>
    ∃ r actor, LiveSession s session.handle d now r actor ∧ v = .stepUp (challenge.bindTo r) ∧
      s' = (s.observed actor now).putStepUp (challenge.bindTo r)
  | .consumeStepUp challenge cd session d _ _ _ _ now =>
    ∃ c actor r ractor, LiveStepUp s challenge.handle cd now c actor r ractor d ∧
      session.handle = c.sessionId ∧ s' = ((s.observed ractor now).putStepUp
        { c with toAttempts := c.toAttempts.spend now }).putGrant { grant := c.grant }
  | .rotateSession current d now replacement =>
    ∃ prior actor, LiveSession s current.handle d now prior actor ∧
      s' = ((s.observed actor now).closed prior now).putSession
        { replacement with actorId := prior.actorId
                           representedProfileId := prior.representedProfileId
                           epoch := prior.epoch }
  | .revokeSession current d now =>
    ∃ prior actor, LiveSession s current.handle d now prior actor ∧
      s' = (s.observed actor now).closed prior now
  | .renewRecovery session d grant replacement now =>
    ∃ p r actor, LiveGrant s session d grant now p r actor ∧
      s' = ((s.granted actor p now).spendRecoveries (fun r => r.actorId = actor.actorId)
        now).putRecovery (replacement.bindTo actor)
  | .revokeAllAuthenticated session d grant replacement now =>
    ∃ p r actor, LiveGrant s session d grant now p r actor ∧
      s' = ((s.granted actor p now).advanced { actor with lastObservedUtc := now }
        now).putRecovery (replacement.bindTo actor.next)
  | .emergencyRevoke root d now =>
    ∃ r actor, LiveRoot s root d r ∧ r.purpose = .emergencyRevoke ∧
      Observable s r.actorId now actor ∧ s' = ((s.observed actor now).putRoot
        (r.spend now)).advanced { actor with lastObservedUtc := now } now
  | .recover credential d now session replacement =>
    ∃ r actor, LiveRecovery s credential.handle d now r actor ∧
      s' = (((s.observed actor now).spendRecoveries (fun r => r.actorId = actor.actorId)
        now).advanced { actor with lastObservedUtc := now } now).issued
        (session.bindTo actor.next) (replacement.bindTo actor.next)
  | .validateGrant grant session d now =>
    ∃ p r actor, LiveGrant s session d grant now p r actor ∧ v = .grant grant ∧
      s' = s.granted actor p now
  | .garbageCollect now retention =>
    (0 ≤ retention ∧ retention ≤ 86400) ∧ s' = (s.collect now retention.toNat).gcCeremonies now

theorem decide_spec (s : Store) (op : Op) :
    wp op.decide (fun v s' => Reach s op s s' ∧ Allowed s op v s') (Ends s op) s := by
  cases op with
  | armCrashOnce point =>
    exact wp_bind _ _ ▸ wp_mono (armCrashOnce_spec point) (fun _ _ h => h) fun _ _ => id
  | initializeInstallation i a p records o sv now =>
    exact wp_bind _ _ ▸ wp_mono (initializeInstallation_spec i a p records o sv) (fun _ _ h => h)
      fun _ _ => id
  | createRootBootstrap root d record now =>
    refine wp_bind _ _ ▸ wp_mono (createRootBootstrap_spec root d record) (fun b s' h => ?_)
      fun _ _ => id
    obtain ⟨hreach, r, actor, h⟩ := h
    exact ⟨hreach, b, r, actor, rfl, h⟩
  | createAuthenticatedBootstrap session d grant record now =>
    refine wp_bind _ _ ▸ wp_mono (createAuthenticatedBootstrap_spec session d grant record)
      (fun b s' h => ?_) fun _ _ => id
    obtain ⟨hreach, p, r, actor, h⟩ := h
    exact ⟨hreach, b, p, r, actor, rfl, h⟩
  | createReprovisionBootstrap credential d issue now =>
    refine wp_bind _ _ ▸ wp_mono (createReprovisionBootstrap_spec credential d issue)
      (fun b s' h => ?_) fun _ _ => id
    obtain ⟨hreach, root, actor, hlive, rfl, h⟩ := h
    exact ⟨hreach, root, actor, hlive, rfl, h⟩
  | cancelBootstrap handle now =>
    exact wp_bind _ _ ▸ wp_mono (cancelBootstrap_spec handle) (fun _ _ h => h) fun _ _ => id
  | createReprovisionCeremony sv sd o od handle issue now active tombstones replay =>
    exact wp_bind _ _ ▸ wp_mono
      (createReprovisionCeremony_spec sv sd o od handle issue active tombstones replay)
      (fun _ _ h => ⟨h.1, h.2.2⟩) fun _ _ => id
  | exchangeBootstrap handle d now session recovery replacement =>
    exact wp_bind _ _ ▸ wp_mono (exchangeBootstrap_spec handle d session recovery replacement)
      (fun _ _ h => h) fun _ _ => id
  | exchangeReprovisionBootstrap handle d sv sd c cd now session recovery replacement tombstones
      replay =>
    exact wp_bind _ _ ▸ wp_mono (exchangeReprovisionBootstrap_spec handle d sv sd c cd session
      recovery replacement tombstones replay) (fun _ _ h => h) fun _ _ => id
  | authenticateSession credential d now =>
    refine wp_bind _ _ ▸ wp_mono (authenticateSession_spec credential d) (fun r s' h => ?_)
      fun _ _ => id
    obtain ⟨hreach, actor, h⟩ := h
    exact ⟨hreach, r, actor, rfl, h⟩
  | createStepUp session d now challenge =>
    refine wp_bind _ _ ▸ wp_mono (createStepUp_spec session d challenge) (fun c s' h => ?_)
      fun _ _ => id
    obtain ⟨hreach, r, actor, hlive, h, rfl⟩ := h
    exact ⟨hreach, r, actor, hlive, rfl, h⟩
  | consumeStepUp challenge cd session d a p purpose scopes now =>
    refine wp_bind _ _ ▸ wp_mono (consumeStepUp_spec challenge cd session d a p purpose scopes)
      (fun c s' h => ?_) fun _ _ => id
    obtain ⟨hreach, c, actor, r, ractor, hlive, hown, rfl, h⟩ := h
    exact ⟨hreach, c, actor, r, ractor, hlive, hown, h⟩
  | rotateSession current d now replacement =>
    refine wp_bind _ _ ▸ wp_mono (rotateSession_spec current d replacement) (fun r s' h => ?_)
      fun _ _ => id
    obtain ⟨hreach, prior, actor, hlive, rfl, h⟩ := h
    exact ⟨hreach, prior, actor, hlive, h⟩
  | revokeSession current d now =>
    refine wp_bind _ _ ▸ wp_mono (revokeSession_spec current d) (fun r s' h => ?_) fun _ _ => id
    obtain ⟨hreach, prior, actor, hlive, -, h⟩ := h
    exact ⟨hreach, prior, actor, hlive, h⟩
  | renewRecovery session d grant replacement now =>
    refine wp_bind _ _ ▸ wp_mono (renewRecovery_spec session d grant replacement)
      (fun r s' h => ?_) fun _ _ => id
    obtain ⟨hreach, p, r, actor, hlive, rfl, h⟩ := h
    exact ⟨hreach, p, r, actor, hlive, h⟩
  | revokeAllAuthenticated session d grant replacement now =>
    refine wp_bind _ _ ▸ wp_mono (revokeAllAuthenticated_spec session d grant replacement)
      (fun r s' h => ?_) fun _ _ => id
    obtain ⟨hreach, p, r, actor, hlive, rfl, h⟩ := h
    exact ⟨hreach, p, r, actor, hlive, h⟩
  | emergencyRevoke root d now =>
    refine wp_bind _ _ ▸ wp_mono (emergencyRevoke_spec root d) (fun n s' h => ?_) fun _ _ => id
    obtain ⟨hreach, r, actor, hroot, hpurpose, hobs, -, h⟩ := h
    exact ⟨hreach, r, actor, hroot, hpurpose, hobs, h⟩
  | recover credential d now session replacement =>
    refine wp_bind _ _ ▸ wp_mono (recover_spec credential d session replacement)
      (fun r s' h => ?_) fun _ _ => id
    obtain ⟨hreach, r, actor, hlive, rfl, h⟩ := h
    exact ⟨hreach, r, actor, hlive, h⟩
  | validateGrant grant session d now =>
    refine wp_bind _ _ ▸ wp_mono (validateGrant_spec grant session d) (fun g s' h => ?_)
      fun _ _ => id
    obtain ⟨hreach, p, r, actor, hlive, rfl, h⟩ := h
    exact ⟨hreach, p, r, actor, hlive, rfl, h⟩
  | garbageCollect now retention =>
    exact wp_bind _ _ ▸ wp_mono (garbageCollect_spec retention) (fun _ _ h => h) fun _ _ => id

theorem apply_allowed {v : Value} (h : (apply s op).1 = .ok v) :
    Reach s op s (apply s op).2 ∧ Allowed s op v (apply s op).2 :=
  (wp_iff.mp (decide_spec s op)).1 v h

/-- The call has issued the record: it presents the authority for it and returned a value, or was
refused its outcome last. -/
def Issues (s : Store) (op : Op) (x : Issue) : Prop :=
  Authorizes s op x ∧ ((∃ v, (apply s op).1 = .ok v) ∨
    (apply s op).1 = .error .valueError ∧ Leaves s op x)

/-- The call ended with an exception. -/
def Raises (s : Store) (op : Op) : Prop := ∃ e : Halt, e.Raised ∧ (apply s op).1 = .error e

theorem apply_moves (s : Store) (op : Op) :
    Moves (Issues s op) (Raises s op) s (apply s op).2 := by
  cases h : (apply s op).1 with
  | ok v =>
    exact Moves.mono (fun x hx => ⟨hx, Or.inl ⟨v, h⟩⟩) False.elim (apply_allowed h).1
  | error e =>
    refine Moves.mono (fun x hx => ⟨hx.2.1, Or.inr ⟨?_, hx.2⟩⟩) (fun hraised => ⟨e, hraised, h⟩)
      ((wp_iff.mp (decide_spec s op)).2 e h)
    rw [h, hx.1]

/-! ### The presented records behind a value -/

section Presented
variable {v : Value} {s' : Store}

theorem Allowed.grant (h : Allowed s op v s') {g : AuthorityGrant}
    (hg : op.presentsGrant = some g) :
    ∃ session d now p r actor, LiveGrant s session d g now p r actor ∧
      op.presentsSession = some session.handle := by
  cases op <;> cases hg
  case createAuthenticatedBootstrap =>
    obtain ⟨b, p, r, actor, -, hlive, -⟩ := h
    exact ⟨_, _, _, p, r, actor, hlive, rfl⟩
  case renewRecovery =>
    obtain ⟨p, r, actor, hlive, -⟩ := h
    exact ⟨_, _, _, p, r, actor, hlive, rfl⟩
  case revokeAllAuthenticated =>
    obtain ⟨p, r, actor, hlive, -⟩ := h
    exact ⟨_, _, _, p, r, actor, hlive, rfl⟩
  case validateGrant =>
    obtain ⟨p, r, actor, hlive, -⟩ := h
    exact ⟨_, _, _, p, r, actor, hlive, rfl⟩

theorem Allowed.session (h : Allowed s op v s') {k : OpaqueId}
    (hk : op.presentsSession = some k) : ∃ d now r actor, LiveSession s k d now r actor := by
  cases hg : op.presentsGrant with
  | some g =>
    obtain ⟨session, d, now, p, r, actor, hlive, hsession⟩ := h.grant hg
    obtain rfl := Option.some.inj (hsession.symm.trans hk)
    exact ⟨d, now, r, actor, hlive.live⟩
  | none =>
    cases op <;> cases hk <;> try cases hg
    case none.authenticateSession.refl.refl =>
      obtain ⟨r, actor, -, hlive, -⟩ := h
      exact ⟨_, _, r, actor, hlive⟩
    case none.createStepUp.refl.refl =>
      obtain ⟨r, actor, hlive, -⟩ := h
      exact ⟨_, _, r, actor, hlive⟩
    case none.consumeStepUp.refl.refl =>
      obtain ⟨c, actor, r, ractor, hlive, hown, -⟩ := h
      exact ⟨_, _, r, ractor, hown ▸ hlive.underSession⟩
    case none.rotateSession.refl.refl =>
      obtain ⟨r, actor, hlive, -⟩ := h
      exact ⟨_, _, r, actor, hlive⟩
    case none.revokeSession.refl.refl =>
      obtain ⟨r, actor, hlive, -⟩ := h
      exact ⟨_, _, r, actor, hlive⟩

theorem Allowed.recovery (h : Allowed s op v s') {k : OpaqueId}
    (hk : op.presentsRecovery = some k) : ∃ d now r actor, LiveRecovery s k d now r actor := by
  cases op <;> cases hk
  case recover =>
    obtain ⟨r, actor, hlive, -⟩ := h
    exact ⟨_, _, r, actor, hlive⟩

theorem Allowed.stepUp (h : Allowed s op v s') {k : OpaqueId} (hk : op.presentsStepUp = some k) :
    ∃ d now c actor r ractor sd, LiveStepUp s k d now c actor r ractor sd := by
  cases op <;> cases hk
  case consumeStepUp =>
    obtain ⟨c, actor, r, ractor, hlive, -⟩ := h
    exact ⟨_, _, c, actor, r, ractor, _, hlive⟩

theorem Allowed.bootstrap (h : Allowed s op v s') {k : OpaqueId}
    (hk : op.presentsBootstrap = some k) : ∃ d now b actor, LiveBootstrap s k d now b actor := by
  cases op <;> cases hk
  case exchangeBootstrap =>
    obtain ⟨b, actor, hlive, -⟩ := h
    exact ⟨_, _, b, actor, hlive⟩
  case exchangeReprovisionBootstrap =>
    obtain ⟨proof, binding, b, root, actor, hlive, -⟩ := h
    exact ⟨_, _, b, actor, hlive.bootstrap⟩

end Presented

end MyCogni.Auth
