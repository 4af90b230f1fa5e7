import MyCogni.Auth.OneUse

/-! Chains of authority. Every record was issued by a call that presented live records of the same
actor and profile, which were themselves issued so, back to a root registered at setup. -/

namespace MyCogni.Auth

/-- The actor and the profile a record is issued for. -/
def Issue.bearer : Issue → Option (OpaqueId × OpaqueId)
  | root r => some (r.actorId, r.representedProfileId)
  | bootstrap r => some (r.actorId, r.representedProfileId)
  | session r => some (r.actorId, r.representedProfileId)
  | recovery r => some (r.actorId, r.representedProfileId)
  | stepUp r => some (r.actorId, r.representedProfileId)
  | grant g => some (g.actorId, g.representedProfileId)
  | ceremony _ => none

inductive Issue.Ages : Issue → Issue → Prop
  | root {r r' : RootCapabilityRecord} (h : r.Ages r') : Ages (.root r) (.root r')
  | bootstrap {b b' : BootstrapRecord} (h : b.Ages b') : Ages (.bootstrap b) (.bootstrap b')
  | session {r r' : SessionRecord} (h : r.Ages r') : Ages (.session r) (.session r')
  | recovery {r r' : RecoveryRecord} (h : r.Ages r') : Ages (.recovery r) (.recovery r')
  | stepUp {c c' : StepUpRecord} (h : c.Ages c') : Ages (.stepUp c) (.stepUp c')
  | ceremony {c c' : ReprovisionCeremonyRecord} (h : c.Ages c') : Ages (.ceremony c) (.ceremony c')

def Stored (s : Store) : Issue → Prop
  | .root r => s.roots.get? r.handle = some r
  | .bootstrap r => s.bootstraps.get? r.handle = some r
  | .session r => s.sessions.get? r.handle = some r
  | .recovery r => s.recoveries.get? r.handle = some r
  | .stepUp r => s.stepUps.get? r.handle = some r
  | .grant g => ∃ p, s.grantProvenance.get? g.authorityEvidenceId = some p ∧ p.grant = g
  | .ceremony r => s.reprovisionCeremonies.get? r.handle = some r

/-- The call issues the record on the authority of the listed ones, which it presents live. -/
inductive Source (s : Store) : Op → Issue → List Issue → Prop
  | rootBootstrap {root : RootCapability} {d : SecretDigest} {b : BootstrapRecord} {now : Datetime}
      {r : RootCapabilityRecord} {actor : ActorRecord} (live : LiveRoot s root d r)
      (observable : Observable s r.actorId now actor) (rooted : RootedIn s b r actor) :
      Source s (.createRootBootstrap root d b now) (.bootstrap b) [.root r]
  | reprovisionBootstrap {credential : OpaqueCredential} {d : SecretDigest} {issue : BootstrapIssue}
      {now : Datetime} {root : RootCapabilityRecord} {actor : ActorRecord}
      (live : LiveReprovisionRoot s credential d now root actor) :
      Source s (.createReprovisionBootstrap credential d issue now)
        (.bootstrap (issue.bindTo root)) [.root root]
  | sessionBootstrap {session : OpaqueCredential} {d : SecretDigest} {grant : AuthorityGrant}
      {b : BootstrapRecord} {now : Datetime} {p : GrantProvenanceRecord} {r : SessionRecord}
      {actor : ActorRecord} (live : LiveGrant s session d grant now p r actor)
      (purpose : grant.purpose = .setupAuthorityChange) (rootless : b.rootCapabilityId = none) :
      Source s (.createAuthenticatedBootstrap session d grant b now) (.bootstrap b)
        [.session r, .grant grant]
  | exchange {handle : OpaqueId} {d : SecretDigest} {now : Datetime} {session : SessionRecord}
      {recovery : RecoveryRecord} {replacement : RootCapabilityIssue} {b : BootstrapRecord}
      {actor : ActorRecord} {x : Issue} (live : LiveBootstrap s handle d now b actor)
      (generic : b.rootPurpose ≠ some .reprovision) (claimable : RootOpen s b actor)
      (bound : x = .session (session.bindTo actor) ∨ x = .recovery (recovery.bindTo actor)) :
      Source s (.exchangeBootstrap handle d now session recovery replacement) x [.bootstrap b]
  | reprovision {handle : OpaqueId} {d : SecretDigest} {sv : OpaqueCredential} {sd : SecretDigest}
      {c : OpaqueCredential} {cd : SecretDigest} {now : Datetime} {session : SessionRecord}
      {recovery : RecoveryRecord} {replacement : RootCapabilityIssue} {tombstones replay : Int}
      {proof : ReprovisionCeremonyRecord} {binding : CompositionBindingRecord}
      {b : BootstrapRecord} {root : RootCapabilityRecord} {actor : ActorRecord} {x : Issue}
      (live : LiveReprovision s handle d sv sd c cd now proof binding b root actor)
      (bound : x = .session (session.bindTo actor.next) ∨
        x = .recovery (recovery.bindTo actor.next) ∨ x = .root (root.successor replacement)) :
      Source s (.exchangeReprovisionBootstrap handle d sv sd c cd now session recovery replacement
        tombstones replay) x [.bootstrap b, .root root, .ceremony proof]
  | ceremony {sv : OpaqueCredential} {sd : SecretDigest} {o : OpaqueCredential} {od : SecretDigest}
      {handle : OpaqueId} {issue : ReprovisionCeremonyIssue} {now : Datetime}
      {active tombstones replay : Int} {c : ReprovisionCeremonyRecord} {b : BootstrapRecord}
      {root : RootCapabilityRecord} {binding : CompositionBindingRecord}
      (issued : c.handle = issue.handle ∧ c.digest = issue.digest)
      (confirmed : ConfirmedIn (s.gcCeremonies now) c b root binding)
      (service : PresentsService binding sv sd) (operator : PresentsOperator binding o od) :
      Source s (.createReprovisionCeremony sv sd o od handle issue now active tombstones replay)
        (.ceremony c) [.bootstrap b, .root root]
  | stepUp {session : OpaqueCredential} {d : SecretDigest} {now : Datetime}
      {challenge : StepUpRecord} {r : SessionRecord} {actor : ActorRecord}
      (live : LiveSession s session.handle d now r actor) :
      Source s (.createStepUp session d now challenge) (.stepUp (challenge.bindTo r)) [.session r]
  | grant {challenge : OpaqueCredential} {cd : SecretDigest} {session : OpaqueCredential}
      {d : SecretDigest} {now : Datetime} {c : StepUpRecord} {actor : ActorRecord}
      {r : SessionRecord} {ractor : ActorRecord}
      (live : LiveStepUp s challenge.handle cd now c actor r ractor d)
      (own : session.handle = c.sessionId) :
      Source s (.consumeStepUp challenge cd session d c.actorId c.representedProfileId c.purpose
        c.scopes now) (.grant c.grant) [.stepUp c, .session r]
  | rotation {current : OpaqueCredential} {d : SecretDigest} {now : Datetime}
      {replacement prior : SessionRecord} {actor : ActorRecord}
      (live : LiveSession s current.handle d now prior actor) :
      Source s (.rotateSession current d now replacement) (.session { replacement with
        actorId := prior.actorId, representedProfileId := prior.representedProfileId
        epoch := prior.epoch }) [.session prior]
  | renewal {session : OpaqueCredential} {d : SecretDigest} {grant : AuthorityGrant}
      {replacement : RecoveryRecord} {now : Datetime} {p : GrantProvenanceRecord}
      {r : SessionRecord} {actor : ActorRecord} (live : LiveGrant s session d grant now p r actor)
      (purpose : grant.purpose = .keyRecoveryChange) :
      Source s (.renewRecovery session d grant replacement now)
        (.recovery (replacement.bindTo actor)) [.session r, .grant grant]
  | revocation {session : OpaqueCredential} {d : SecretDigest} {grant : AuthorityGrant}
      {replacement : RecoveryRecord} {now : Datetime} {p : GrantProvenanceRecord}
      {r : SessionRecord} {actor : ActorRecord} (live : LiveGrant s session d grant now p r actor)
      (purpose : grant.purpose = .allSessionRevoke) :
      Source s (.revokeAllAuthenticated session d grant replacement now)
        (.recovery (replacement.bindTo actor.next)) [.session r, .grant grant]
  | recovery {credential : OpaqueCredential} {d : SecretDigest} {now : Datetime}
      {session : SessionIssue} {replacement : RecoveryIssue} {r : RecoveryRecord}
      {actor : ActorRecord} {x : Issue} (live : LiveRecovery s credential.handle d now r actor)
      (bound : x = .session (session.bindTo actor.next) ∨
        x = .recovery (replacement.bindTo actor.next)) :
      Source s (.recover credential d now session replacement) x [.recovery r]

/-- The record was issued in the run, on live records that were issued before it in the same way. -/
inductive Chain : List Op → Issue → Prop
  | setup {pre post : List Op} {i a p : OpaqueId} {records : List RootCapabilityRecord}
      {o sv : RootCapabilityIssue} {now : Datetime} {r : RootCapabilityRecord}
      (accepted : Installable (run apply Store.empty pre) i a p records o sv) (mem : r ∈ records) :
      Chain (pre ++ .initializeInstallation i a p records o sv now :: post) (.root r)
  | issued {pre post : List Op} {op : Op} {x : Issue} {ys : List Issue}
      (source : Source (run apply Store.empty pre) op x ys)
      (returned : ∃ v, (apply (run apply Store.empty pre) op).1 = .ok v)
      (same : ∀ y ∈ ys, ∀ bearer ∈ y.bearer, ∀ bearer' ∈ x.bearer, bearer = bearer')
      (earlier : ∀ y ∈ ys, Chain pre y) : Chain (pre ++ op :: post) x
  | aged {ops : List Op} {x x' : Issue} (ages : x.Ages x') (chain : Chain ops x) : Chain ops x'

variable {s : Store} {op : Op} {used : List OpaqueId} {x : Issue}

theorem Chain.append {ops : List Op} (h : Chain ops x) (later : List Op) :
    Chain (ops ++ later) x := by
  induction h with
  | setup accepted mem =>
    rw [List.append_assoc]
    exact .setup accepted mem
  | issued source returned same earlier _ =>
    rw [List.append_assoc]
    exact .issued source returned same earlier
  | aged ages _ ih => exact .aged ages ih

/-! ### The records behind an issue -/

theorem ofActor_self {a : OpaqueId} {actor : ActorRecord} (h : s.actors.get? a = some actor) :
    OfActor s actor.actorId actor.representedProfileId := by
  obtain rfl : actor.actorId = a := Table.key_of_get? h
  exact ⟨actor, h, rfl⟩

/-- The record is issued for a registered actor and its profile. -/
def Issue.Registered (s : Store) (x : Issue) : Prop :=
  ∀ b ∈ x.bearer, OfActor s b.1 b.2

theorem same_bearer {x y : Issue} (hx : x.Registered s) (hy : y.Registered s)
    (hsame : ∀ b ∈ y.bearer, ∀ b' ∈ x.bearer, b.1 = b'.1) :
    ∀ b ∈ y.bearer, ∀ b' ∈ x.bearer, b = b' := by
  intro b hb b' hb'
  have hactor := hsame b hb b' hb'
  have hprofile := (hy b hb).profile_eq (hactor ▸ hx b' hb')
  exact Prod.ext hactor hprofile

theorem Bound.registered (h : Bound s) (hx : Stored s x) : x.Registered s := by
  cases x <;> rintro _ ⟨⟩
  case root => exact (h.roots _ _ hx).1
  case bootstrap => exact h.bootstraps _ _ hx
  case session => exact h.sessions _ _ hx
  case recovery => exact h.recoveries _ _ hx
  case stepUp => exact h.stepUps _ _ hx
  case grant =>
    obtain ⟨p, hp, rfl⟩ := hx
    exact h.grants _ _ hp

/-- The call issues the record for a registered actor, on the authority of stored records of the
same actor. -/
structure Backed (s : Store) (op : Op) (x : Issue) (ys : List Issue) : Prop where
  source : Source s op x ys
  registered : x.Registered s
  stored : ∀ y ∈ ys, Stored s y
  sameActor : ∀ y ∈ ys, ∀ b ∈ y.bearer, ∀ b' ∈ x.bearer, b.1 = b'.1

theorem exchange_backed {handle : OpaqueId} {d : SecretDigest} {now : Datetime}
    {session : SessionRecord} {recovery : RecoveryRecord} {replacement : RootCapabilityIssue}
    {b : BootstrapRecord} {actor : ActorRecord} (hlive : LiveBootstrap s handle d now b actor)
    (hgeneric : b.rootPurpose ≠ some .reprovision) (hopen : RootOpen s b actor)
    (hx : x = .session (session.bindTo actor) ∨ x = .recovery (recovery.bindTo actor)) :
    ∃ ys, Backed s (.exchangeBootstrap handle d now session recovery replacement) x ys := by
  have hkey : actor.actorId = b.actorId := Table.key_of_get? hlive.observable.found
  refine ⟨_, .exchange hlive hgeneric hopen hx, ?_, ?_, ?_⟩
  · have hreg := ofActor_self hlive.observable.found
    rcases hx with rfl | rfl <;> rintro _ ⟨⟩ <;> exact hreg
  · simpa [Stored] using Table.get?_key hlive.found
  · rcases hx with rfl | rfl <;>
      simp [Issue.bearer, SessionRecord.bindTo, RecoveryRecord.bindTo, hkey]

theorem recover_backed {credential : OpaqueCredential} {d : SecretDigest} {now : Datetime}
    {session : SessionIssue} {replacement : RecoveryIssue} {r : RecoveryRecord}
    {actor : ActorRecord} (hlive : LiveRecovery s credential.handle d now r actor)
    (hx : x = .session (session.bindTo actor.next) ∨
      x = .recovery (replacement.bindTo actor.next)) :
    ∃ ys, Backed s (.recover credential d now session replacement) x ys := by
  have hkey : actor.actorId = r.actorId := Table.key_of_get? hlive.observable.found
  refine ⟨_, .recovery hlive hx, ?_, ?_, ?_⟩
  · have hreg := ofActor_self hlive.observable.found
    rcases hx with rfl | rfl <;> rintro _ ⟨⟩ <;> exact hreg
  · simpa [Stored] using Table.get?_key hlive.found
  · rcases hx with rfl | rfl <;>
      simp [Issue.bearer, SessionIssue.bindTo, RecoveryIssue.bindTo, ActorRecord.next, hkey]

theorem ceremony_backed {c : ReprovisionCeremonyRecord}
    (h : Authorizes s op (.ceremony c)) : ∃ ys, Backed s op (.ceremony c) ys := by
  cases op <;> try exact h.elim
  case createReprovisionCeremony =>
    obtain ⟨hhandle, hdigest, -, b, root, binding, hconfirmed, hservice, hoperator⟩ := h
    refine ⟨_, .ceremony ⟨hhandle, hdigest⟩ hconfirmed hservice hoperator, ?_, ?_, ?_⟩
    · rintro _ ⟨⟩
    · simpa [Stored] using ⟨Table.get?_key hconfirmed.foundBootstrap, hconfirmed.foundRoot⟩
    · rintro _ - _ - _ ⟨⟩

section Backed
variable (hs : Coherent used s)
include hs

theorem Coherent.bootstrap_backed {b : BootstrapRecord} (h : Authorizes s op (.bootstrap b)) :
    ∃ ys, Backed s op (.bootstrap b) ys := by
  cases op <;> try exact h.elim
  case createRootBootstrap =>
    obtain ⟨rfl, r, actor, hlive, hobs, hrooted⟩ := h
    refine ⟨_, .rootBootstrap hlive hobs hrooted, ?_, ?_, ?_⟩
    · rintro _ ⟨⟩
      have hroot := (hs.bound.roots _ _ hrooted.found).1
      rw [← hrooted.ofActor] at hroot
      rcases hrooted.ofProfile with hp | hp
      · exact hp ▸ hroot
      · exact ⟨actor, hrooted.ofActor ▸ hrooted.known, hp.symm⟩
    · simpa [Stored] using Table.get?_key hlive.found
    · simp [Issue.bearer, hrooted.ofActor]
  case createAuthenticatedBootstrap =>
    obtain ⟨rfl, hid, hpurpose, hactor, hprofile, p, r, actor, hlive⟩ := h
    refine ⟨_, .sessionBootstrap hlive hpurpose hid, ?_, ?_, ?_⟩
    · rintro _ ⟨⟩
      rw [hactor, hprofile, hlive.ofActor, hlive.ofProfile]
      exact hs.bound.sessions _ _ hlive.live.found
    · simpa [Stored] using ⟨Table.get?_key hlive.live.found, p, hlive.found, hlive.recorded⟩
    · simp [Issue.bearer, hactor, hlive.ofActor]
  case createReprovisionBootstrap =>
    obtain ⟨root, actor, hlive, rfl⟩ := h
    refine ⟨_, .reprovisionBootstrap hlive, ?_, ?_, ?_⟩
    · rintro _ ⟨⟩
      exact (hs.bound.roots _ _ hlive.found).1
    · simpa [Stored] using Table.get?_key hlive.found
    · simp [Issue.bearer, BootstrapIssue.bindTo]

theorem Coherent.reprovision_backed {handle : OpaqueId} {d : SecretDigest} {sv : OpaqueCredential}
    {sd : SecretDigest} {c : OpaqueCredential} {cd : SecretDigest} {now : Datetime}
    {session : SessionRecord} {recovery : RecoveryRecord} {replacement : RootCapabilityIssue}
    {tombstones replay : Int} {proof : ReprovisionCeremonyRecord}
    {binding : CompositionBindingRecord} {b : BootstrapRecord} {root : RootCapabilityRecord}
    {actor : ActorRecord}
    (hlive : LiveReprovision s handle d sv sd c cd now proof binding b root actor)
    (hx : x = .session (session.bindTo actor.next) ∨ x = .recovery (recovery.bindTo actor.next) ∨
      x = .root (root.successor replacement)) :
    ∃ ys, Backed s (.exchangeReprovisionBootstrap handle d sv sd c cd now session recovery
      replacement tombstones replay) x ys := by
  have hfound := hlive.bootstrap.observable.found
  have hkey : actor.actorId = b.actorId := Table.key_of_get? hfound
  have hroot : root.actorId = b.actorId :=
    ((hs.linked.bootstraps _ b hlive.foundRecord root.handle hlive.rootId).2 root
      hlive.foundRoot).1
  refine ⟨_, .reprovision hlive hx, ?_, ?_, ?_⟩
  · have hreg := ofActor_self hfound
    rcases hx with rfl | rfl | rfl <;> rintro _ ⟨⟩
    · exact hreg
    · exact hreg
    · exact (hs.bound.roots _ _ hlive.foundRoot).1
  · simpa [Stored] using ⟨Table.get?_key hlive.foundRecord, hlive.foundRoot,
      Table.get?_key hlive.foundProof⟩
  · rcases hx with rfl | rfl | rfl <;>
      simp [Issue.bearer, SessionRecord.bindTo, RecoveryRecord.bindTo, ActorRecord.next,
        RootCapabilityRecord.successor, hkey, hroot]

theorem Coherent.session_backed {r : SessionRecord} (h : Authorizes s op (.session r)) :
    ∃ ys, Backed s op (.session r) ys := by
  cases op <;> try exact h.elim
  case exchangeBootstrap =>
    obtain ⟨b, actor, hlive, hgeneric, hopen, rfl⟩ := h
    exact exchange_backed hlive hgeneric hopen (Or.inl rfl)
  case exchangeReprovisionBootstrap =>
    obtain ⟨proof, binding, b, root, actor, hlive, rfl⟩ := h
    exact hs.reprovision_backed hlive (Or.inl rfl)
  case rotateSession =>
    obtain ⟨prior, actor, hlive, rfl⟩ := h
    refine ⟨_, .rotation hlive, ?_, ?_, ?_⟩
    · rintro _ ⟨⟩
      exact hs.bound.sessions _ _ hlive.found
    · simpa [Stored] using Table.get?_key hlive.found
    · simp [Issue.bearer]
  case recover =>
    obtain ⟨record, actor, hlive, rfl⟩ := h
    exact recover_backed hlive (Or.inl rfl)

theorem Coherent.recovery_backed {r : RecoveryRecord} (h : Authorizes s op (.recovery r)) :
    ∃ ys, Backed s op (.recovery r) ys := by
  cases op <;> try exact h.elim
  case exchangeBootstrap =>
    obtain ⟨b, actor, hlive, hgeneric, hopen, rfl⟩ := h
    exact exchange_backed hlive hgeneric hopen (Or.inr rfl)
  case exchangeReprovisionBootstrap =>
    obtain ⟨proof, binding, b, root, actor, hlive, rfl⟩ := h
    exact hs.reprovision_backed hlive (Or.inr (Or.inl rfl))
  case renewRecovery =>
    obtain ⟨hpurpose, p, record, actor, hlive, rfl⟩ := h
    have hkey : actor.actorId = record.actorId := Table.key_of_get? hlive.live.observable.found
    refine ⟨_, .renewal hlive hpurpose, ?_, ?_, ?_⟩
    · have hreg := ofActor_self hlive.live.observable.found
      rintro _ ⟨⟩
      exact hreg
    · simpa [Stored] using ⟨Table.get?_key hlive.live.found, p, hlive.found, hlive.recorded⟩
    · simp [Issue.bearer, RecoveryRecord.bindTo, hkey, hlive.ofActor]
  case revokeAllAuthenticated =>
    obtain ⟨hpurpose, p, record, actor, hlive, rfl⟩ := h
    have hkey : actor.actorId = record.actorId := Table.key_of_get? hlive.live.observable.found
    refine ⟨_, .revocation hlive hpurpose, ?_, ?_, ?_⟩
    · have hreg := ofActor_self hlive.live.observable.found
      rintro _ ⟨⟩
      exact hreg
    · simpa [Stored] using ⟨Table.get?_key hlive.live.found, p, hlive.found, hlive.recorded⟩
    · simp [Issue.bearer, RecoveryRecord.bindTo, ActorRecord.next, hkey, hlive.ofActor]
  case recover =>
    obtain ⟨record, actor, hlive, rfl⟩ := h
    exact recover_backed hlive (Or.inr rfl)

theorem Coherent.stepUp_backed {c : StepUpRecord} (h : Authorizes s op (.stepUp c)) :
    ∃ ys, Backed s op (.stepUp c) ys := by
  cases op <;> try exact h.elim
  case createStepUp =>
    obtain ⟨r, actor, hlive, hactor, hprofile, rfl⟩ := h
    refine ⟨_, .stepUp hlive, ?_, ?_, ?_⟩
    · rintro _ ⟨⟩
      have hr : OfActor s r.actorId r.representedProfileId := hs.bound.sessions _ _ hlive.found
      rw [← hactor, ← hprofile] at hr
      exact hr
    · simpa [Stored] using Table.get?_key hlive.found
    · simp [Issue.bearer, StepUpRecord.bindTo, hactor]

theorem Coherent.grant_backed {g : AuthorityGrant} (h : Authorizes s op (.grant g)) :
    ∃ ys, Backed s op (.grant g) ys := by
  cases op <;> try exact h.elim
  case consumeStepUp =>
    obtain ⟨c, actor, r, ractor, hlive, hown, rfl, rfl, rfl, rfl, rfl⟩ := h
    have hsession : r.actorId = c.actorId :=
      ((hs.linked.stepUps _ c hlive.found).2 r hlive.underSession.found).1
    refine ⟨_, .grant hlive hown, ?_, ?_, ?_⟩
    · rintro _ ⟨⟩
      exact hs.bound.stepUps _ _ hlive.found
    · simpa [Stored] using ⟨Table.get?_key hlive.found, Table.get?_key hlive.underSession.found⟩
    · simp [Issue.bearer, StepUpRecord.grant, hsession]

end Backed

/-- Outside of setup, every record that a call issues is backed by stored records. -/
theorem Coherent.backed (hs : Coherent used s) (h : Authorizes s op x) :
    (∃ ys, Backed s op x ys) ∨ ∃ i a p records o sv now r,
      op = .initializeInstallation i a p records o sv now ∧ x = .root r ∧ r ∈ records := by
  cases x with
  | root r =>
    cases op <;> try exact h.elim
    case initializeInstallation => exact Or.inr ⟨_, _, _, _, _, _, _, r, rfl, rfl, h⟩
    case exchangeReprovisionBootstrap =>
      obtain ⟨proof, binding, b, root, actor, hlive, rfl⟩ := h
      exact Or.inl (hs.reprovision_backed hlive (Or.inr (Or.inr rfl)))
  | bootstrap b => exact Or.inl (hs.bootstrap_backed h)
  | session r => exact Or.inl (hs.session_backed h)
  | recovery r => exact Or.inl (hs.recovery_backed h)
  | stepUp c => exact Or.inl (hs.stepUp_backed h)
  | grant g => exact Or.inl (hs.grant_backed h)
  | ceremony c => exact Or.inl (ceremony_backed h)

/-! ### Chains of a run -/

/-- A stored record continues one that was stored before the call, or one that the call issued. -/
theorem stored_origin (h : Stored (apply s op).2 x) :
    ∃ y, (y = x ∨ y.Ages x) ∧ (Stored s y ∨ Issues s op y) := by
  have hd := apply_descent s op
  cases x with
  | root r =>
    obtain ⟨r₀, hages, -, hr⟩ := hd.roots _ r h
    exact ⟨.root r₀, Or.inr (.root hages), hr.imp_left Table.get?_key⟩
  | bootstrap b =>
    obtain ⟨b₀, hages, -, hb⟩ := hd.bootstraps _ b h
    exact ⟨.bootstrap b₀, Or.inr (.bootstrap hages), hb.imp_left Table.get?_key⟩
  | session r =>
    obtain ⟨r₀, hages, -, hr⟩ := hd.sessions _ r h
    exact ⟨.session r₀, Or.inr (.session hages), hr.imp_left Table.get?_key⟩
  | recovery r =>
    obtain ⟨r₀, hages, -, hr⟩ := hd.recoveries _ r h
    exact ⟨.recovery r₀, Or.inr (.recovery hages), hr.imp_left Table.get?_key⟩
  | stepUp c =>
    obtain ⟨c₀, hages, -, hc⟩ := hd.stepUps _ c h
    exact ⟨.stepUp c₀, Or.inr (.stepUp hages), hc.imp_left Table.get?_key⟩
  | grant g =>
    obtain ⟨p, hp, rfl⟩ := h
    obtain ⟨p₀, hages, hkey, hp₀⟩ := hd.grants _ p hp
    have hsame : p.grant = p₀.grant := by
      rcases hages with rfl | ⟨-, t, rfl⟩ <;> rfl
    rw [hsame] at hp₀ ⊢
    exact ⟨.grant p₀.grant, Or.inl rfl, hp₀.imp (fun hp₀ => ⟨p₀, hp₀, rfl⟩) And.right⟩
  | ceremony c =>
    obtain ⟨c₀, hages, -, hc⟩ := hd.ceremonies _ c h
    exact ⟨.ceremony c₀, Or.inr (.ceremony hages), hc.imp Table.get?_key And.right⟩

theorem not_stored_empty (x : Issue) : ¬Stored Store.empty x := by
  intro h
  cases x with
  | grant g =>
    obtain ⟨p, hp, -⟩ := h
    exact nomatch hp
  | _ => exact nomatch h

theorem chain_of_stored {ops : List Op} (hfresh : Fresh ops)
    (h : Stored (run apply Store.empty ops) x) : Chain ops x := by
  induction ops using List.reverseRecOn generalizing x with
  | nil => exact absurd h (not_stored_empty x)
  | append_singleton pre op ih =>
    have hpre := hfresh.append.1
    rw [run_append] at h
    obtain ⟨y, hages, hy⟩ := stored_origin h
    have hchain : Chain (pre ++ [op]) y := by
      rcases hy with hstored | hnew
      · exact (ih hpre hstored).append [op]
      · have hs := run_coherent hpre
        obtain ⟨hauth, v, hv⟩ := hs.issues hnew
        rcases hs.backed hauth with ⟨ys, hb⟩ | ⟨i, a, p, records, o, sv, now, r, rfl, rfl, hr⟩
        · refine .issued hb.source ⟨v, hv⟩ (fun z hz => ?_) fun z hz => ih hpre (hb.stored z hz)
          exact same_bearer hb.registered (hs.bound.registered (hb.stored z hz)) (hb.sameActor z hz)
        · exact .setup (apply_allowed hv).2.1 hr
    rcases hages with rfl | hages
    · exact hchain
    · exact .aged hages hchain

/-- The call of the run that recorded a grant. -/
theorem Chain.recorded {ops : List Op} {g : AuthorityGrant} (h : Chain ops (.grant g)) :
    ∃ pre op post, ops = pre ++ op :: post ∧
      Consumed (run apply Store.empty pre) op (.stepUp g.authorityEvidenceId) ∧
      Authorizes (run apply Store.empty pre) op (.grant g) := by
  generalize hx : Issue.grant g = x at h
  cases h with
  | setup => exact nomatch hx
  | aged ages => cases ages <;> exact nomatch hx
  | @issued pre post op _ ys source returned same earlier =>
    subst hx
    refine ⟨pre, op, post, rfl, ?_⟩
    cases source with
    | @grant challenge cd session d now c actor r ractor live own =>
      have hkey : c.handle = challenge.handle := Table.key_of_get? live.found
      exact ⟨⟨congrArg some hkey.symm, returned⟩,
        c, actor, r, ractor, live, own, rfl, rfl, rfl, rfl, rfl⟩
    | exchange _ _ _ bound => rcases bound with h | h <;> exact nomatch h
    | reprovision _ bound => rcases bound with h | h | h <;> exact nomatch h
    | recovery _ bound => rcases bound with h | h <;> exact nomatch h

/-- In a run that issues no handle twice every stored record has its chain of authority, and a
grant that is accepted is exactly the one that the only consumption of its challenge recorded. -/
theorem authority_chain {ops : List Op} (hfresh : Fresh ops) :
    Bound (run apply Store.empty ops) ∧
    (∀ x, Stored (run apply Store.empty ops) x → Chain ops x) ∧
    ∀ pre op post g v, ops = pre ++ op :: post → op.presentsGrant = some g →
      (apply (run apply Store.empty pre) op).1 = .ok v →
      ∃ pre₁ op₁ post₁, pre = pre₁ ++ op₁ :: post₁ ∧
        Consumed (run apply Store.empty pre₁) op₁ (.stepUp g.authorityEvidenceId) ∧
        Authorizes (run apply Store.empty pre₁) op₁ (.grant g) ∧
        ∀ pre₂ op₂ post₂, pre = pre₂ ++ op₂ :: post₂ →
          Consumed (run apply Store.empty pre₂) op₂ (.stepUp g.authorityEvidenceId) →
            pre₂ = pre₁ := by
  refine ⟨run_bound ops, fun x => chain_of_stored hfresh, ?_⟩
  rintro pre op post g v rfl hg hv
  have hpre := hfresh.append.1
  obtain ⟨session, d, now, p, r, actor, hlive, -⟩ := (apply_allowed hv).2.grant hg
  have hstored : Stored (run apply Store.empty pre) (.grant g) := ⟨p, hlive.found, hlive.recorded⟩
  obtain ⟨pre₁, op₁, post₁, rfl, hconsumed, hauth⟩ := (chain_of_stored hpre hstored).recorded
  refine ⟨pre₁, op₁, post₁, rfl, hconsumed, hauth, fun pre₂ op₂ post₂ hsplit hconsumed₂ => ?_⟩
  have honce := (one_use hpre (.stepUp g.authorityEvidenceId)).1
  rcases split_cases hsplit with h | ⟨mid, rfl, hpost⟩ | ⟨mid, rfl, hpost⟩
  · exact h.symm
  · exact absurd hconsumed₂ (honce pre₁ op₁ mid op₂ post₂ (by rw [hpost]) hconsumed)
  · exact absurd hconsumed (honce pre₂ op₂ mid op₁ post₁ (by rw [hsplit, hpost]) hconsumed₂)

namespace Sample

/-- The bootstrap issued under the first session has its chain back to the initial root. -/
theorem chain_delegation :
    Chain (opening ++ delegation) (.bootstrap (bootstrap 41 none none)) := by
  have hfresh : Fresh (opening ++ delegation) := by
    unfold Fresh
    decide +kernel
  have hstored : Stored (run apply Store.empty (opening ++ delegation))
      (.bootstrap (bootstrap 41 none none)) := by
    unfold Stored
    decide +kernel
  exact (authority_chain hfresh).2.1 _ hstored

end Sample

end MyCogni.Auth
