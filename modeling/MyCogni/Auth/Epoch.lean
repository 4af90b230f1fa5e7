import MyCogni.Auth.Descent

/-! Epochs. Live authority carries the current epoch of its actor and epochs only grow, so a call
that advances the epoch ends all authority that was there before it. -/

namespace MyCogni.Auth

/-- The epoch is one that the actor has reached, and its current one while `live` holds. -/
def InEpoch (s : Store) (actorId : OpaqueId) (epoch : Nat) (live : Prop) : Prop :=
  ∃ actor, s.actors.get? actorId = some actor ∧ epoch ≤ actor.epoch ∧ (live → epoch = actor.epoch)

structure Dated (s : Store) : Prop where
  sessions : Table.All (fun r => InEpoch s r.actorId r.epoch (r.revoked = false)) s.sessions
  recoveries : Table.All (fun r => InEpoch s r.actorId r.epoch (r.consumed = false)) s.recoveries
  stepUps : Table.All (fun c => InEpoch s c.actorId c.epoch (c.consumed = false)) s.stepUps
  grants : Table.All (fun p => InEpoch s p.grant.actorId p.grant.epoch False) s.grantProvenance

variable {new : Issue → Prop} {lossy : Prop} {s s' : Store} {op : Op}

theorem InEpoch.spent {a : OpaqueId} {n : Nat} {p q : Prop} (h : InEpoch s a n p) (hq : q → p) :
    InEpoch s a n q := by
  obtain ⟨actor, hactor, hle, hlive⟩ := h
  exact ⟨actor, hactor, hle, fun h => hlive (hq h)⟩

theorem inEpoch_current {a : OpaqueId} {n : Nat} {p : Prop} {actor : ActorRecord}
    (known : s.actors.get? a = some actor) (current : n = actor.epoch) : InEpoch s a n p :=
  ⟨actor, known, current.le, fun _ => current⟩

theorem dated_empty : Dated Store.empty :=
  ⟨Table.all_empty, Table.all_empty, Table.all_empty, Table.all_empty⟩

/-! ### Single moves -/

section Sweeps
variable (now : Datetime) {p : Prop}

theorem SessionRecord.inEpoch_sweep (q : SessionRecord → Bool) {r : SessionRecord}
    (h : InEpoch s r.actorId r.epoch (r.revoked = false)) :
    InEpoch s (r.sweep q now).actorId (r.sweep q now).epoch ((r.sweep q now).revoked = false) := by
  unfold sweep
  split_ifs
  · exact h.spent fun hlive => nomatch hlive
  · exact h

theorem RecoveryRecord.inEpoch_sweep (q : RecoveryRecord → Bool) {r : RecoveryRecord}
    (h : InEpoch s r.actorId r.epoch (r.consumed = false)) :
    InEpoch s (r.sweep q now).actorId (r.sweep q now).epoch ((r.sweep q now).consumed = false) := by
  unfold sweep
  split_ifs
  · exact h.spent fun hlive => nomatch hlive
  · exact h

theorem StepUpRecord.inEpoch_sweep (q : StepUpRecord → Bool) {c : StepUpRecord}
    (h : InEpoch s c.actorId c.epoch (c.consumed = false)) :
    InEpoch s (c.sweep q now).actorId (c.sweep q now).epoch ((c.sweep q now).consumed = false) := by
  unfold sweep
  split_ifs
  · exact h.spent fun hlive => nomatch hlive
  · exact h

end Sweeps

/-- Writing an actor, new or in its old epoch. -/
theorem Dated.putActor (h : Dated s) {a : ActorRecord}
    (hkeep : ∀ r, s.actors.get? a.actorId = some r → a.epoch = r.epoch) : Dated (s.putActor a) := by
  have hactors : Table.Keeps (fun r r' : ActorRecord => r'.epoch = r.epoch) s.actors
      (s.actors.put a) := by
    apply Table.keeps_put _ hkeep
    exact fun r => rfl
  have hmono : ∀ {a' n p}, InEpoch s a' n p → InEpoch (s.putActor a) a' n p := by
    rintro a' n p ⟨actor, hactor, hle, hlive⟩
    obtain ⟨actor', hactor', hsame⟩ := hactors a' actor hactor
    exact ⟨actor', hactor', hle.trans hsame.ge, fun h => (hlive h).trans hsame.symm⟩
  exact ⟨h.sessions.mono fun _ => hmono, h.recoveries.mono fun _ => hmono,
    h.stepUps.mono fun _ => hmono, h.grants.mono fun _ => hmono⟩

/-- In the advanced store only the actor itself is in a new epoch. -/
theorem inEpoch_advanced {actor : ActorRecord} (now : Datetime) {a : OpaqueId} {n : Nat}
    {p q : Prop} (found : s.actors.get? actor.actorId = some actor) (h : InEpoch s a n p)
    (hother : q → p) (hown : a = actor.actorId → ¬q) : InEpoch (s.advanced actor now) a n q := by
  obtain ⟨actor', hactor', hle, hlive⟩ := h
  by_cases ha : a = actor.actorId
  · obtain rfl : actor = actor' := by
      rw [ha, found] at hactor'
      exact Option.some.inj hactor'
    refine ⟨actor.next, Table.get?_put_of_eq _ ha.symm, hle.trans (Nat.le_succ _), ?_⟩
    exact fun hq => absurd hq (hown ha)
  · have hsame := Table.get?_put_of_ne s.actors (show a ≠ actor.next.actorId from ha)
    exact ⟨actor', hsame.trans hactor', hle, fun hq => hlive (hother hq)⟩

theorem Dated.advanced (h : Dated s) {actor : ActorRecord} (now : Datetime)
    (found : s.actors.get? actor.actorId = some actor) : Dated (s.advanced actor now) where
  sessions := h.sessions.map (SessionRecord.handle_sweep _ now) fun r hr => by
    refine inEpoch_advanced now found (r.inEpoch_sweep now _ hr) id fun ha => ?_
    unfold SessionRecord.sweep at ha ⊢
    split_ifs at ha ⊢ with hown
    · exact fun hlive => nomatch hlive
    · exact absurd (by simpa using ha) hown
  recoveries := h.recoveries.map (RecoveryRecord.handle_sweep _ now) fun r hr => by
    refine inEpoch_advanced now found (r.inEpoch_sweep now _ hr) id fun ha => ?_
    unfold RecoveryRecord.sweep at ha ⊢
    split_ifs at ha ⊢ with hown
    · exact fun hlive => nomatch hlive
    · exact absurd (by simpa using ha) hown
  stepUps := h.stepUps.map (StepUpRecord.handle_sweep _ now) fun c hc => by
    refine inEpoch_advanced now found (c.inEpoch_sweep now _ hc) id fun ha => ?_
    unfold StepUpRecord.sweep at ha ⊢
    split_ifs at ha ⊢ with hown
    · exact fun hlive => nomatch hlive
    · exact absurd (by simpa using ha) hown
  grants := h.grants.mono fun _ hp => inEpoch_advanced now found hp id fun _ => id

theorem Attempts.live_of_wrongProof {u : Attempts} {now : Datetime}
    (h : (u.wrongProof now).consumed = false) : u.consumed = false := by
  by_contra hspent
  exact absurd ((u.ages_wrongProof now).spent (by simpa using hspent)) (by simp [h])

theorem Move.dated (h : Move new lossy s s') (hs : Dated s) : Dated s' := by
  cases h with
  | @install i a p records o sv now h hn =>
    have hactor : Dated (s.putActor
        { actorId := a, representedProfileId := p, epoch := 1, lastObservedUtc := now }) :=
      hs.putActor fun r hr => nomatch h.actor.symm.trans hr
    exact { hactor with }
  | observe h => exact hs.putActor fun r hr => by rw [← Option.some.inj (h.found.symm.trans hr)]
  | setInitialized found =>
    exact hs.putActor fun r hr => by rw [← Option.some.inj (found.symm.trans hr)]
  | advance now found => exact hs.advanced now found
  | revokeSessions p now =>
    exact { hs with
      sessions := hs.sessions.map (SessionRecord.handle_sweep p now)
        fun _ => SessionRecord.inEpoch_sweep now p }
  | issueSession hn valid known current ofProfile =>
    exact { hs with sessions := hs.sessions.put (inEpoch_current known current) }
  | spendRecoveries p now =>
    exact { hs with
      recoveries := hs.recoveries.map (RecoveryRecord.handle_sweep p now)
        fun _ => RecoveryRecord.inEpoch_sweep now p }
  | missRecovery now found live =>
    exact { hs with
      recoveries := hs.recoveries.put ((hs.recoveries _ _ found).spent Attempts.live_of_wrongProof) }
  | issueRecovery hn valid known current ofProfile =>
    exact { hs with recoveries := hs.recoveries.put (inEpoch_current known current) }
  | spendStepUps p now =>
    exact { hs with
      stepUps := hs.stepUps.map (StepUpRecord.handle_sweep p now)
        fun _ => StepUpRecord.inEpoch_sweep now p }
  | missStepUp now found live =>
    exact { hs with
      stepUps := hs.stepUps.put ((hs.stepUps _ _ found).spent Attempts.live_of_wrongProof) }
  | issueStepUp hn valid found known current ofSession =>
    obtain ⟨-, hactor, -, hepoch⟩ := ofSession
    exact { hs with
      stepUps := hs.stepUps.put (inEpoch_current (hactor ▸ known) (hepoch.trans current)) }
  | recordGrant now hn valid found live session =>
    have hstep := hs.stepUps _ _ found
    exact { hs with
      stepUps := hs.stepUps.put (hstep.spent fun hlive => nomatch hlive)
      grants := hs.grants.put (hstep.spent False.elim) }
  | useGrant now found unused notBefore =>
    have hgrant := hs.grants _ _ found
    exact { hs with grants := hs.grants.put hgrant }
  | collect now retentionSeconds =>
    exact { hs with
      sessions := hs.sessions.filter _
      recoveries := hs.recoveries.filter _
      stepUps := hs.stepUps.filter _
      grants := hs.grants.filter _ }
  | _ => exact { hs with }

theorem apply_dated (s : Store) (op : Op) (hs : Dated s) : Dated (apply s op).2 :=
  (apply_moves s op).preserves (fun _ _ => Move.dated) hs

theorem run_dated (ops : List Op) : Dated (run apply Store.empty ops) :=
  run_invariant apply_dated ops dated_empty

/-! ### Calls that advance an epoch -/

/-- The calls that retire all authority of an actor. -/
def Op.Retires : Op → Prop
  | .exchangeReprovisionBootstrap .. => True
  | .revokeAllAuthenticated .. => True
  | .emergencyRevoke .. => True
  | .recover .. => True
  | _ => False

/-- The call has advanced the epoch of the actor, however it then ended. -/
def Supersedes (s : Store) (op : Op) (a : OpaqueId) : Prop :=
  ∃ actor actor', s.actors.get? a = some actor ∧ (apply s op).2.actors.get? a = some actor' ∧
    actor.epoch < actor'.epoch

theorem supersedes_of_next {a : OpaqueId} {actor : ActorRecord}
    (h : s.actors.get? a = some actor)
    (hnext : ∃ actor', (apply s op).2.actors.get? actor.actorId = some actor' ∧
      actor.epoch < actor'.epoch) : Supersedes s op a := by
  obtain rfl : actor.actorId = a := Table.key_of_get? h
  obtain ⟨actor', hactor', hlt⟩ := hnext
  exact ⟨actor, actor', h, hactor', hlt⟩

theorem supersedes_of_retires {v : Value} (hop : op.Retires) (hv : (apply s op).1 = .ok v) :
    ∃ a, op.actor? s = some a ∧ Supersedes s op a := by
  have h := (apply_allowed hv).2
  cases op <;> try exact hop.elim
  case exchangeReprovisionBootstrap =>
    obtain ⟨proof, binding, b, root, actor, hlive, -, hs'⟩ := h
    refine ⟨b.actorId, ?_, supersedes_of_next hlive.bootstrap.observable.found ?_⟩
    · rw [Op.actor?, hlive.foundRecord, Option.map_some]
    · rw [hs']
      exact ⟨_, Table.get?_put_self _ _, Nat.lt_succ_self _⟩
  case revokeAllAuthenticated =>
    obtain ⟨p, r, actor, hlive, hs'⟩ := h
    refine ⟨r.actorId, ?_, supersedes_of_next hlive.live.observable.found ?_⟩
    · simp only [Op.actor?, Op.presentsSession, Option.bind_some, hlive.live.found,
        Option.map_some]
    · rw [hs']
      exact ⟨_, Table.get?_put_self _ _, Nat.lt_succ_self _⟩
  case emergencyRevoke =>
    obtain ⟨r, actor, hroot, -, hobs, hs'⟩ := h
    refine ⟨r.actorId, ?_, supersedes_of_next hobs.found ?_⟩
    · rw [Op.actor?, hroot.actor]
    · rw [hs']
      exact ⟨_, Table.get?_put_self _ _, Nat.lt_succ_self _⟩
  case recover =>
    obtain ⟨r, actor, hlive, hs'⟩ := h
    refine ⟨r.actorId, ?_, supersedes_of_next hlive.observable.found ?_⟩
    · rw [Op.actor?, hlive.found, Option.map_some]
    · rw [hs']
      exact ⟨_, Table.get?_put_self _ _, Nat.lt_succ_self _⟩

/-- What of the actor stood in `s` is not accepted by `last`: no grant of an epoch reached in `s`,
and no session, recovery or challenge, unless its handle was issued again since. -/
structure Ended (s : Store) (a : OpaqueId) (since : List Op) (last : Op) : Prop where
  session : ∀ h, (∀ r, s.sessions.get? h = some r → r.actorId = a) →
    last.presentsSession = some h → h ∈ since.flatMap Op.issues
  recovery : ∀ h, (∀ r, s.recoveries.get? h = some r → r.actorId = a) →
    last.presentsRecovery = some h → h ∈ since.flatMap Op.issues
  stepUp : ∀ h, (∀ c, s.stepUps.get? h = some c → c.actorId = a) →
    last.presentsStepUp = some h → h ∈ since.flatMap Op.issues
  grant : ∀ g actor, s.actors.get? a = some actor → g.actorId = a → g.epoch ≤ actor.epoch →
    last.presentsGrant ≠ some g

variable {a : OpaqueId}

/-- The epoch in which an actor stands after a call that superseded its authority. -/
theorem Supersedes.lt_epoch (h : Supersedes s op a) (later : List Op) {actor actor' : ActorRecord}
    (hactor : s.actors.get? a = some actor)
    (hactor' : (run apply s (op :: later)).actors.get? a = some actor') :
    actor.epoch < actor'.epoch := by
  obtain ⟨x, x', hx, hx', hlt⟩ := h
  obtain rfl : x = actor := Option.some.inj (hx.symm.trans hactor)
  obtain ⟨y, hy, hages⟩ := run_actors _ later a x' hx'
  obtain rfl : y = actor' := Option.some.inj (hy.symm.trans hactor')
  exact hlt.trans_le hages.epoch

theorem ended_of_supersedes (hs : Dated s) (h : Supersedes s op a) (later : List Op) {last : Op}
    {v : Value} (hv : (apply (run apply s (op :: later)) last).1 = .ok v) :
    Ended s a (op :: later) last := by
  have hev := (apply_allowed hv).2
  have hdescent := run_descent s (op :: later)
  -- A record of the actor that stood in `s` is of an epoch that is over.
  have hover : ∀ {n p x}, InEpoch s a n p → (run apply s (op :: later)).actors.get? a = some x →
      n ≠ x.epoch := by
    rintro n p x ⟨actor, hactor, hle, -⟩ hx rfl
    exact absurd (h.lt_epoch later hactor hx) (not_lt.mpr hle)
  constructor
  · intro k hown hk
    by_contra hfresh
    obtain ⟨d, now, r', actor, hlive⟩ := hev.session hk
    obtain ⟨r, hages, hkey, hr | ⟨hmem | ⟨g, hg⟩⟩⟩ := hdescent.sessions k r' hlive.found
    · have hsame : r'.actorId = r.actorId ∧ r'.epoch = r.epoch := by
        rcases hages with rfl | ⟨t, rfl⟩ <;> exact ⟨rfl, rfl⟩
      have hactor := hlive.observable.found
      rw [hsame.1, hown r hr] at hactor
      have hepoch : InEpoch s r.actorId r.epoch _ := hs.sessions k r hr
      rw [hown r hr] at hepoch
      exact hover hepoch hactor (hsame.2.symm.trans hlive.current)
    · exact hfresh (hkey ▸ hmem)
    · exact nomatch hg
  · intro k hown hk
    by_contra hfresh
    obtain ⟨d, now, r', actor, hlive⟩ := hev.recovery hk
    obtain ⟨r, ⟨u, -, rfl⟩, hkey, hr | ⟨hmem | ⟨g, hg⟩⟩⟩ := hdescent.recoveries k r' hlive.found
    · have hactor := hlive.observable.found
      have hepoch : InEpoch s r.actorId r.epoch _ := hs.recoveries k r hr
      rw [hown r hr] at hepoch hactor
      exact hover hepoch hactor hlive.current
    · exact hfresh (hkey ▸ hmem)
    · exact nomatch hg
  · intro k hown hk
    by_contra hfresh
    obtain ⟨d, now, c', actor, r, ractor, sd, hlive⟩ := hev.stepUp hk
    obtain ⟨c, ⟨u, -, rfl⟩, hkey, hc | ⟨hmem | ⟨g, hg⟩⟩⟩ := hdescent.stepUps k c' hlive.found
    · have hactor := hlive.known
      have hepoch : InEpoch s c.actorId c.epoch _ := hs.stepUps k c hc
      rw [hown c hc] at hepoch hactor
      exact hover hepoch hactor hlive.current
    · exact hfresh (hkey ▸ hmem)
    · exact nomatch hg
  · intro g actor hactor hown hle hg
    obtain ⟨session, d, now, p, r, actor', hlive, -⟩ := hev.grant hg
    have hactor' := hlive.live.observable.found
    rw [← hlive.ofActor, hown] at hactor'
    exact absurd (h.lt_epoch later hactor hactor') (not_lt.mpr (hlive.current ▸ hle))

/-- Live authority is of the current epoch, epochs only grow, and what stood before a call that
advanced the epoch of its actor is never accepted again. -/
theorem superseded_authority_ends (ops : List Op) :
    Dated (run apply Store.empty ops) ∧
    (∀ later a actor, (run apply Store.empty ops).actors.get? a = some actor →
      ∃ actor', (run apply Store.empty (ops ++ later)).actors.get? a = some actor' ∧
        actor.epoch ≤ actor'.epoch) ∧
    (∀ op v, op.Retires → (apply (run apply Store.empty ops) op).1 = .ok v →
      ∃ a, op.actor? (run apply Store.empty ops) = some a ∧
        Supersedes (run apply Store.empty ops) op a) ∧
    ∀ op a, Supersedes (run apply Store.empty ops) op a → ∀ later last v,
      (apply (run apply Store.empty (ops ++ op :: later)) last).1 = .ok v →
        Ended (run apply Store.empty ops) a (op :: later) last := by
  refine ⟨run_dated ops, fun later a actor hactor => ?_, fun op v hop hv => ?_, ?_⟩
  · rw [run_append]
    obtain ⟨actor', hactor', hages⟩ := run_actors _ later a actor hactor
    exact ⟨actor', hactor', hages.epoch⟩
  · exact supersedes_of_retires hop hv
  · intro op a h later last v hv
    rw [run_append] at hv
    exact ended_of_supersedes (run_dated ops) h later hv

end MyCogni.Auth
