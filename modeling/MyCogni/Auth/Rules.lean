import MyCogni.Auth.Operation

/-! What the shared checks of the store establish. Each rule asks for the condition `halt` at every
state in which the check may stop, and hands the facts it established to what follows. -/

namespace MyCogni.Auth
open Command

/-- The store after its actor was observed at an instant. -/
@[simps] def Store.observed (s : Store) (actor : ActorRecord) (now : Datetime) : Store :=
  { s with actors := s.actors.put { actor with lastObservedUtc := now } }

/-- The store after an actor advanced its epoch, with every authority of the old epoch retired. -/
@[simps] def Store.advanced (s : Store) (actor : ActorRecord) (now : Datetime) : Store :=
  { s with
    actors := s.actors.put actor.next
    sessions := s.sessions.map (·.sweep (fun r => r.actorId = actor.actorId) now)
      (SessionRecord.handle_sweep _ now)
    stepUps := s.stepUps.map (·.sweep (fun c => c.actorId = actor.actorId) now)
      (StepUpRecord.handle_sweep _ now)
    recoveries := s.recoveries.map (·.sweep (fun r => r.actorId = actor.actorId) now)
      (RecoveryRecord.handle_sweep _ now) }

/-- The store after a session was closed: revoked, and its challenges spent. -/
@[simps] def Store.closed (s : Store) (r : SessionRecord) (now : Datetime) : Store :=
  { s with
    sessions := s.sessions.put { r with revoked := true, retiredAtUtc := some now }
    stepUps := s.stepUps.map (·.sweep (fun c => c.sessionId = r.handle) now)
      (StepUpRecord.handle_sweep _ now) }

/-- The actor is known and has not been observed after `now`. -/
structure Observable (s : Store) (actorId : OpaqueId) (now : Datetime) (actor : ActorRecord) :
    Prop where
  found : s.actors.get? actorId = some actor
  notAfter : actor.lastObservedUtc ≤ now

theorem Observable.own {s : Store} {actorId : OpaqueId} {now : Datetime} {actor : ActorRecord}
    (h : Observable s actorId now actor) : Observable s actor.actorId now actor := by
  rw [Table.key_of_get? h.found]
  exact h

theorem Observable.after {s : Store} {actorId : OpaqueId} {now : Datetime} {actor : ActorRecord}
    (h : Observable s actorId now actor) :
    (s.observed actor now).actors.get? actorId = some { actor with lastObservedUtc := now } :=
  Table.get?_put_of_eq _ (show actor.actorId = actorId from Table.key_of_get? h.found)

/-- The validity window contains `now`. -/
def Within (now notBeforeUtc expiresAtUtc : Datetime) : Prop :=
  notBeforeUtc ≤ now ∧ now < expiresAtUtc

theorem timeDenial_eq_none {now nb exp : Datetime} :
    timeDenial now nb exp = none ↔ Within now nb exp := by
  unfold timeDenial Within
  split_ifs with h h' <;> simp_all

/-- A session that authenticates: its digest is presented, its epoch is current, it is not revoked
and inside its window. -/
structure LiveSession (s : Store) (handle : OpaqueId) (digest : SecretDigest) (now : Datetime)
    (record : SessionRecord) (actor : ActorRecord) : Prop where
  found : s.sessions.get? handle = some record
  proof : record.digest = digest
  observable : Observable s record.actorId now actor
  current : record.epoch = actor.epoch
  live : record.revoked = false
  window : Within now record.notBeforeUtc record.expiresAtUtc

/-- A root that is presented with its digest and bindings and is not consumed. -/
structure LiveRoot (s : Store) (capability : RootCapability) (digest : SecretDigest)
    (record : RootCapabilityRecord) : Prop where
  found : s.roots.get? capability.credential.handle = some record
  proof : record.digest = digest
  installation : capability.installationId = record.installationId
  actor : capability.actorId = record.actorId
  profile : capability.representedProfileId = record.representedProfileId
  purpose : capability.purpose = record.purpose
  live : record.consumed = false

/-- A grant that is accepted: recorded exactly, unused, under its own live session. -/
structure LiveGrant (s : Store) (session : OpaqueCredential) (digest : SecretDigest)
    (grant : AuthorityGrant) (now : Datetime) (provenance : GrantProvenanceRecord)
    (record : SessionRecord) (actor : ActorRecord) : Prop where
  found : s.grantProvenance.get? grant.authorityEvidenceId = some provenance
  recorded : provenance.grant = grant
  unused : provenance.usedAtUtc = none
  live : LiveSession s session.handle digest now record actor
  ofActor : grant.actorId = record.actorId
  ofProfile : grant.representedProfileId = record.representedProfileId
  ofSession : grant.sessionId = record.handle
  current : grant.epoch = actor.epoch
  window : Within now grant.notBeforeUtc grant.expiresAtUtc

variable {α : Type} {halt : Halt → Store → Prop} {s : Store} {now : Datetime}

@[simp] theorem wp_deny {post : α → Store → Prop} (d : AuthDenial) :
    wp (deny d : Decision α) post halt = halt (.denied d) := rfl

section Checks
variable {post : Unit → Store → Prop}

theorem wp_observe {actorId : OpaqueId} (hstop : ∀ d, halt (.denied d) s)
    (h : ∀ actor, Observable s actorId now actor → post () (s.observed actor now)) :
    wp (observe actorId now) post halt s := by
  simp only [observe, wp_bind, wp_read, wp_demand, wp_require, wp_write]
  refine ⟨fun actor hfound => ⟨fun hle => h actor ⟨hfound, hle⟩, fun _ => hstop _⟩, fun _ => hstop _⟩

theorem wp_crashIfArmed {point : CrashPoint}
    (hstop : s.crashOnce = some point → halt .syntheticCrash (s.arm none))
    (h : s.crashOnce ≠ some point → post () s) : wp (crashIfArmed point) post halt s := by
  simp only [crashIfArmed, wp_bind, wp_read, wp_ite, wp_write, wp_stop, wp_pure]
  exact ⟨hstop, h⟩

variable {u : Attempts} {nb exp : Datetime} {digest presented : SecretDigest}
  {save : Attempts → Decision Unit} {f : Attempts → Store → Store}

theorem wp_presentLive (hsave : ∀ u, save u = write (f u))
    (hearly : halt (.denied .notYetValid) s)
    (hexpired : exp ≤ now → halt (.denied .expired) (f (u.spend now) s))
    (hwrong : Within now nb exp → digest ≠ presented →
      halt (.denied u.wrongProofDenial) (f (u.wrongProof now) s))
    (h : Within now nb exp → digest = presented → post () s) :
    wp (presentLive u nb exp digest presented now save) post halt s := by
  unfold presentLive
  cases htime : timeDenial now nb exp with
  | some denial =>
    have hcases : denial = .expired ∧ exp ≤ now ∨ denial = .notYetValid := by
      unfold timeDenial at htime
      split_ifs at htime with h1 h2
      · exact Or.inr (Option.some.inj htime).symm
      · exact Or.inl ⟨(Option.some.inj htime).symm, h2⟩
    rcases hcases with ⟨rfl, hle⟩ | rfl
    · simpa only [denyTimed, if_pos, hsave, wp_bind, wp_write, wp_deny] using hexpired hle
    · exact hearly
  | none =>
    have hwithin := timeDenial_eq_none.mp htime
    simp only [hsave, wp_ite, wp_bind, wp_write, wp_deny, wp_pure]
    exact ⟨h hwithin, hwrong hwithin⟩

theorem wp_presentOnce (hsave : ∀ u, save u = write (f u))
    (hspent : ∀ d, halt (.denied d) s)
    (hexpired : u.consumed = false → exp ≤ now → halt (.denied .expired) (f (u.spend now) s))
    (hwrong : u.consumed = false → Within now nb exp → digest ≠ presented →
      halt (.denied u.wrongProofDenial) (f (u.wrongProof now) s))
    (h : u.consumed = false → Within now nb exp → digest = presented → post () s) :
    wp (presentOnce u nb exp digest presented now save) post halt s := by
  simp only [presentOnce, wp_bind, wp_require]
  refine ⟨fun hlive => ?_, fun _ => hspent _⟩
  exact wp_presentLive hsave (hspent _) (hexpired hlive) (hwrong hlive) (h hlive)

end Checks

theorem wp_validateRootLocked {post : RootCapabilityRecord → Store → Prop}
    {capability : RootCapability} {digest : SecretDigest} {expected : List RootPurpose}
    (hstop : ∀ d, halt (.denied d) s)
    (h : ∀ record, LiveRoot s capability digest record → record.purpose ∈ expected →
      post record s) :
    wp (validateRootLocked capability digest expected) post halt s := by
  simp only [validateRootLocked, wp_bind, wp_read, wp_demand, wp_require, wp_pure]
  refine ⟨fun record hfound => ⟨fun hdigest => ?_, fun _ => hstop _⟩, fun _ => hstop _⟩
  refine ⟨fun hinst => ⟨fun hactor => ⟨fun hprofile => ⟨fun hpurpose => ⟨fun hlive => ?_,
    fun _ => hstop _⟩, fun _ => hstop _⟩, fun _ => hstop _⟩, fun _ => hstop _⟩, fun _ => hstop _⟩
  exact h record ⟨hfound, hdigest, hinst, hactor, hprofile, hpurpose.1, hlive⟩ hpurpose.2

theorem wp_authenticateSessionLocked {post : SessionRecord → Store → Prop}
    {credential : OpaqueCredential} {digest : SecretDigest} (hstop : ∀ e, halt e s)
    (hobserved : ∀ actor, Observable s actor.actorId now actor →
      ∀ e, halt e (s.observed actor now))
    (h : ∀ record actor, LiveSession s credential.handle digest now record actor →
      post record (s.observed actor now)) :
    wp (authenticateSessionLocked credential digest now) post halt s := by
  simp only [authenticateSessionLocked, wp_bind, wp_read, wp_demand, wp_require]
  refine ⟨fun record hfound => ⟨fun hdigest => ?_, fun _ => hstop _⟩, fun _ => hstop _⟩
  refine wp_observe (fun _ => hstop _) fun actor hactor => ?_
  have hexit := hobserved actor hactor.own
  refine ⟨fun actor' hfound' => ?_, fun _ => hexit _⟩
  obtain rfl : { actor with lastObservedUtc := now } = actor' :=
    Option.some.inj (hactor.after.symm.trans hfound')
  refine ⟨fun hepoch => ⟨fun hlive => ?_, fun _ => hexit _⟩, fun _ => hexit _⟩
  cases htime : timeDenial now record.notBeforeUtc record.expiresAtUtc with
  | some denial => exact hexit _
  | none => exact h record actor ⟨hfound, hdigest, hactor, hepoch, hlive, timeDenial_eq_none.mp htime⟩

theorem wp_authorizeGrantLocked {post : AuthorityGrant → Store → Prop}
    {session : OpaqueCredential} {digest : SecretDigest} {grant : AuthorityGrant}
    {purpose : AuthPurpose} (hstop : ∀ e, halt e s)
    (hobserved : ∀ actor, Observable s actor.actorId now actor →
      ∀ e, halt e (s.observed actor now))
    (h : ∀ provenance record actor, LiveGrant s session digest grant now provenance record actor →
      grant.purpose = purpose →
      post grant ((s.observed actor now).putGrant { provenance with usedAtUtc := some now })) :
    wp (authorizeGrantLocked session digest grant purpose now) post halt s := by
  simp only [authorizeGrantLocked, wp_bind, wp_read, wp_demand, wp_require]
  refine ⟨fun provenance hfound => ⟨fun hgrant => ?_, fun _ => hstop _⟩, fun _ => hstop _⟩
  refine wp_authenticateSessionLocked hstop hobserved fun record actor hsession => ?_
  have hexit := hobserved actor hsession.observable.own
  refine ⟨fun actor' hfound' => ?_, fun _ => hexit _⟩
  obtain rfl : { actor with lastObservedUtc := now } = actor' :=
    Option.some.inj (hsession.observable.after.symm.trans hfound')
  refine ⟨fun hwho => ⟨fun hprofile => ⟨fun hhandle => ⟨fun hepoch => ⟨fun hpurpose => ?_,
    fun _ => hexit _⟩, fun _ => hexit _⟩, fun _ => hexit _⟩, fun _ => hexit _⟩, fun _ => hexit _⟩
  cases htime : timeDenial now grant.notBeforeUtc grant.expiresAtUtc with
  | some denial => exact hexit _
  | none =>
    simp only [wp_bind, wp_require, wp_write, wp_pure]
    refine ⟨fun hunused => ⟨fun _ => ?_, fun _ => hexit _⟩, fun _ => hexit _⟩
    exact h provenance record actor ⟨hfound, hgrant, hunused, hsession, hwho, hprofile, hhandle,
      hepoch, timeDenial_eq_none.mp htime⟩ hpurpose

end MyCogni.Auth
