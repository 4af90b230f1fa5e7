import MyCogni.Auth.Descent

/-! The clock of an actor. Every decision that is allowed observes its time on the actor, so allowed
times only advance; the registration of a ceremony alone reads the time without observing it. -/

namespace MyCogni.Auth

/-- The call concerns the actor and carries the time. -/
def Op.At (s : Store) (op : Op) (a : OpaqueId) (t : Datetime) : Prop :=
  op.actor? s = some a ∧ op.time? = some t

/-- A decision for the actor is allowed at the time. -/
def AllowedAt (s : Store) (op : Op) (a : OpaqueId) (t : Datetime) : Prop :=
  op.At s a t ∧ ∃ v, (apply s op).1 = .ok v

/-- The actor was last observed at the time. -/
def LastObserved (s : Store) (a : OpaqueId) (t : Datetime) : Prop :=
  ∃ actor, s.actors.get? a = some actor ∧ actor.lastObservedUtc = t

/-- Registrations of ceremonies for the actor are in order: none comes before the last observed
time, and no later call for the actor comes before it. -/
structure InOrder (ops : List Op) (a : OpaqueId) : Prop where
  registered : ∀ pre op post t t₀, ops = pre ++ op :: post → op.IsCeremony →
    op.At (run apply Store.empty pre) a t → LastObserved (run apply Store.empty pre) a t₀ → t₀ ≤ t
  later : ∀ pre op mid op' post t t', ops = pre ++ op :: (mid ++ op' :: post) → op.IsCeremony →
    op.At (run apply Store.empty pre) a t →
    op'.At (run apply Store.empty (pre ++ op :: mid)) a t' → t ≤ t'

variable {s : Store} {op : Op} {a : OpaqueId} {t t' : Datetime}

theorem observed_at {actor : ActorRecord} {s' : Store} (h : Observable s a t actor)
    (hs' : ∃ actor', s'.actors.get? actor.actorId = some actor' ∧ actor'.lastObservedUtc = t) :
    (∀ t₀, LastObserved s a t₀ → t₀ ≤ t) ∧ LastObserved s' a t := by
  constructor
  · rintro t₀ ⟨x, hx, rfl⟩
    rw [← Option.some.inj (h.found.symm.trans hx)]
    exact h.notAfter
  · obtain rfl : actor.actorId = a := Table.key_of_get? h.found
    exact hs'

/-- The actor of a call that presents a session is the session's. -/
theorem actor_of_session {h : OpaqueId} {r : SessionRecord} (hop : op.presentsSession = some h)
    (ha : op.actor? s = some a) (hr : s.sessions.get? h = some r) : r.actorId = a := by
  cases op <;> cases hop <;>
    simpa only [Op.actor?, Op.presentsSession, Option.bind_some, hr, Option.map_some,
      Option.some.injEq] using ha

theorem allowed_observes (h : AllowedAt s op a t) (hop : ¬op.IsCeremony) :
    (∀ t₀, LastObserved s a t₀ → t₀ ≤ t) ∧ LastObserved (apply s op).2 a t := by
  obtain ⟨⟨ha, ht⟩, v, hv⟩ := h
  have hev := (apply_allowed hv).2
  cases op <;> cases ht
  case initializeInstallation => exact nomatch ha
  case cancelBootstrap => exact nomatch ha
  case garbageCollect => exact nomatch ha
  case createReprovisionCeremony => exact (hop trivial).elim
  case createRootBootstrap =>
    obtain ⟨b, r, actor, -, hlive, hobs, -, hs'⟩ := hev
    obtain rfl : r.actorId = a := hlive.actor.symm.trans (Option.some.inj ha)
    rw [hs']
    exact observed_at hobs ⟨_, Table.get?_put_self _ _, rfl⟩
  case createAuthenticatedBootstrap =>
    obtain ⟨b, p, r, actor, -, hlive, -, hs'⟩ := hev
    obtain rfl := actor_of_session rfl ha hlive.live.found
    rw [hs']
    exact observed_at hlive.live.observable ⟨_, Table.get?_put_self _ _, rfl⟩
  case createReprovisionBootstrap =>
    obtain ⟨root, actor, hlive, -, hs'⟩ := hev
    rw [Op.actor?, hlive.found] at ha
    obtain rfl : root.actorId = a := Option.some.inj ha
    rw [hs']
    exact observed_at hlive.observable ⟨_, Table.get?_put_self _ _, rfl⟩
  case exchangeBootstrap =>
    obtain ⟨b, actor, hlive, -, -, hs'⟩ := hev
    rw [Op.actor?, hlive.found] at ha
    obtain rfl : b.actorId = a := Option.some.inj ha
    obtain ⟨i, hknown⟩ := Store.claimed_known b t hlive.observable.own.after
    rw [hs']
    exact observed_at hlive.observable ⟨_, hknown, rfl⟩
  case exchangeReprovisionBootstrap =>
    obtain ⟨proof, binding, b, root, actor, hlive, -, hs'⟩ := hev
    rw [Op.actor?, hlive.foundRecord] at ha
    obtain rfl : b.actorId = a := Option.some.inj ha
    rw [hs']
    exact observed_at hlive.bootstrap.observable ⟨_, Table.get?_put_self _ _, rfl⟩
  case authenticateSession =>
    obtain ⟨r, actor, -, hlive, hs'⟩ := hev
    obtain rfl := actor_of_session rfl ha hlive.found
    rw [hs']
    exact observed_at hlive.observable ⟨_, Table.get?_put_self _ _, rfl⟩
  case createStepUp =>
    obtain ⟨r, actor, hlive, -, hs'⟩ := hev
    obtain rfl := actor_of_session rfl ha hlive.found
    rw [hs']
    exact observed_at hlive.observable ⟨_, Table.get?_put_self _ _, rfl⟩
  case consumeStepUp =>
    obtain ⟨c, actor, r, ractor, hlive, hown, hs'⟩ := hev
    obtain rfl := actor_of_session rfl ha (hown ▸ hlive.underSession.found)
    rw [hs']
    exact observed_at hlive.underSession.observable ⟨_, Table.get?_put_self _ _, rfl⟩
  case rotateSession =>
    obtain ⟨r, actor, hlive, hs'⟩ := hev
    obtain rfl := actor_of_session rfl ha hlive.found
    rw [hs']
    exact observed_at hlive.observable ⟨_, Table.get?_put_self _ _, rfl⟩
  case revokeSession =>
    obtain ⟨r, actor, hlive, hs'⟩ := hev
    obtain rfl := actor_of_session rfl ha hlive.found
    rw [hs']
    exact observed_at hlive.observable ⟨_, Table.get?_put_self _ _, rfl⟩
  case renewRecovery =>
    obtain ⟨p, r, actor, hlive, hs'⟩ := hev
    obtain rfl := actor_of_session rfl ha hlive.live.found
    rw [hs']
    exact observed_at hlive.live.observable ⟨_, Table.get?_put_self _ _, rfl⟩
  case revokeAllAuthenticated =>
    obtain ⟨p, r, actor, hlive, hs'⟩ := hev
    obtain rfl := actor_of_session rfl ha hlive.live.found
    rw [hs']
    exact observed_at hlive.live.observable ⟨_, Table.get?_put_self _ _, rfl⟩
  case emergencyRevoke =>
    obtain ⟨r, actor, hlive, -, hobs, hs'⟩ := hev
    obtain rfl : r.actorId = a := hlive.actor.symm.trans (Option.some.inj ha)
    rw [hs']
    exact observed_at hobs ⟨_, Table.get?_put_self _ _, rfl⟩
  case recover =>
    obtain ⟨r, actor, hlive, hs'⟩ := hev
    rw [Op.actor?, hlive.found] at ha
    obtain rfl : r.actorId = a := Option.some.inj ha
    rw [hs']
    exact observed_at hlive.observable ⟨_, Table.get?_put_self _ _, rfl⟩
  case validateGrant =>
    obtain ⟨p, r, actor, hlive, -, hs'⟩ := hev
    obtain rfl := actor_of_session rfl ha hlive.live.found
    rw [hs']
    exact observed_at hlive.live.observable ⟨_, Table.get?_put_self _ _, rfl⟩

theorem LastObserved.run (h : LastObserved s a t) (ops : List Op) :
    ∃ t', LastObserved (run apply s ops) a t' ∧ t ≤ t' := by
  obtain ⟨actor, hactor, rfl⟩ := h
  obtain ⟨actor', hactor', hages⟩ := run_actors s ops a actor hactor
  exact ⟨_, ⟨actor', hactor', rfl⟩, hages.observed⟩

/-- Decisions on an actor are allowed in the order of their times and not before its last observed
instant, in every run whose ceremony registrations are in order. -/
theorem allowed_in_order (ops : List Op) (a : OpaqueId) :
    (∀ pre later t, ops = pre ++ later → LastObserved (run apply Store.empty pre) a t →
      ∃ t', LastObserved (run apply Store.empty ops) a t' ∧ t ≤ t') ∧
    (InOrder ops a →
      (∀ pre op post t t₀, ops = pre ++ op :: post → AllowedAt (run apply Store.empty pre) op a t →
        LastObserved (run apply Store.empty pre) a t₀ → t₀ ≤ t) ∧
      ∀ pre op mid op' post t t', ops = pre ++ op :: (mid ++ op' :: post) →
        AllowedAt (run apply Store.empty pre) op a t →
        AllowedAt (run apply Store.empty (pre ++ op :: mid)) op' a t' → t ≤ t') := by
  constructor
  · rintro pre later t rfl h
    rw [run_append]
    exact h.run later
  intro horder
  have hpast : ∀ pre op post t t₀, ops = pre ++ op :: post →
      AllowedAt (run apply Store.empty pre) op a t →
      LastObserved (run apply Store.empty pre) a t₀ → t₀ ≤ t := by
    intro pre op post t t₀ hsplit hallowed hlast
    by_cases hop : op.IsCeremony
    · exact horder.registered pre op post t t₀ hsplit hop hallowed.1 hlast
    · exact (allowed_observes hallowed hop).1 t₀ hlast
  refine ⟨hpast, fun pre op mid op' post t t' hsplit h h' => ?_⟩
  by_cases hop : op.IsCeremony
  · exact horder.later pre op mid op' post t t' hsplit hop h.1 h'.1
  · -- The first call leaves its time on the actor, and the second comes after what it finds there.
    have hleft := (allowed_observes h hop).2
    obtain ⟨t₁, hlast, hle⟩ := hleft.run mid
    have hstate : run apply (apply (run apply Store.empty pre) op).2 mid =
        run apply Store.empty (pre ++ op :: mid) :=
      (run_append apply Store.empty pre (op :: mid)).symm
    rw [hstate] at hlast
    exact hle.trans (hpast (pre ++ op :: mid) op' post t' t₁ (by simp [hsplit]) h' hlast)

namespace Sample

def reprovisionBootstrap : Op :=
  .createReprovisionBootstrap (credential 13) (digest 13) ⟨id 61, digest 61, time 0, time 600, 3⟩
    (time 70)

def earlyCeremony : Op :=
  .createReprovisionCeremony (credential 15) (credential 15).digest (credential 14)
    (credential 14).digest (id 61) ⟨id 62, (credential 62).digest, time 500⟩ (time 5) 1 1 0

/-- A ceremony is registered long before the last observed instant of its actor. -/
theorem ceremony_rolls_back :
    LastObserved (run apply Store.empty (opening ++ [reprovisionBootstrap])) (id 2) (time 70) ∧
      AllowedAt (run apply Store.empty opening) reprovisionBootstrap (id 2) (time 70) ∧
      AllowedAt (run apply Store.empty (opening ++ [reprovisionBootstrap])) earlyCeremony (id 2)
        (time 5) ∧ time 5 < time 70 := by
  refine ⟨⟨{ actorId := id 2, representedProfileId := id 3, epoch := 1
             lastObservedUtc := time 70, initialized := true }, ?_, rfl⟩,
    ⟨⟨?_, rfl⟩, exists_ok_of_isOk ?_⟩, ⟨⟨?_, rfl⟩, exists_ok_of_isOk ?_⟩, ?_⟩ <;> decide +kernel

end Sample

end MyCogni.Auth
