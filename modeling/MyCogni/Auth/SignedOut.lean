import MyCogni.Auth.Clock
import MyCogni.Auth.Coherence
import MyCogni.Auth.Epoch

/-! Sessions that cannot be used any more. A revocation ends its session, and so does its refusal,
for every reason but one: a clock reading from before the last time observed for the actor. -/

namespace MyCogni.Auth
open Command

variable {s : Store} {op : Op} {c : OpaqueCredential} {now : Datetime} {used : List OpaqueId}

/-- The session of the credential, if there is one, is not its own, or over. -/
def SignedOut (s : Store) (c : OpaqueCredential) : Prop :=
  ∀ r, s.sessions.get? c.handle = some r → r.digest ≠ c.digest ∨ r.revoked = true ∨
    ∃ actor, s.actors.get? r.actorId = some actor ∧
      (r.epoch < actor.epoch ∨ r.expiresAtUtc ≤ actor.lastObservedUtc)

theorem SignedOut.denied (h : SignedOut s c) (now : Datetime) (v : Value) :
    (apply s (.authenticateSession c c.digest now)).1 ≠ .ok v := by
  intro hv
  obtain ⟨r, actor, -, hlive, -⟩ := (apply_allowed hv).2
  rcases h r hlive.found with hdigest | hrevoked | ⟨actor', hactor, hover⟩
  · exact hdigest hlive.proof
  · exact absurd (hlive.live.symm.trans hrevoked) (by decide)
  · obtain rfl := Option.some.inj (hlive.observable.found.symm.trans hactor)
    have hcurrent := hlive.current
    rcases hover with hepoch | hexpired
    · omega
    · exact absurd (hexpired.trans hlive.observable.notAfter) (not_le.mpr hlive.window.2)

/-- It stays so, unless its handle is issued anew. -/
theorem SignedOut.apply (h : SignedOut s c) (hfresh : c.handle ∉ op.issues) :
    SignedOut (Auth.apply s op).2 c := by
  intro r' hr'
  obtain ⟨r, hr, hages⟩ := session_kept hfresh hr'
  have hkeeps := (apply_moves s op).actors
  have hover : r.digest ≠ c.digest ∨ r.revoked = true ∨
      ∃ actor, (Auth.apply s op).2.actors.get? r.actorId = some actor ∧
        (r.epoch < actor.epoch ∨ r.expiresAtUtc ≤ actor.lastObservedUtc) := by
    rcases h r hr with hdigest | hrevoked | ⟨actor, hactor, hover⟩
    · exact Or.inl hdigest
    · exact Or.inr (Or.inl hrevoked)
    · obtain ⟨actor', hactor', hactorAges⟩ := hkeeps _ _ hactor
      refine Or.inr (Or.inr ⟨actor', hactor', hover.imp ?_ ?_⟩)
      · exact fun hlt => lt_of_lt_of_le hlt hactorAges.epoch
      · exact fun hle => hle.trans hactorAges.observed
  rcases hages with rfl | ⟨t, rfl⟩
  · exact hover
  · exact hover.imp_right fun _ => Or.inl rfl

/-! ### Windows -/

/-- The sessions of a call of the service start at its time. -/
def Op.StartsNow : Op → Prop
  | exchangeBootstrap _ _ now session _ _ => session.notBeforeUtc = now
  | exchangeReprovisionBootstrap _ _ _ _ _ _ now session _ _ _ _ => session.notBeforeUtc = now
  | rotateSession _ _ now replacement => replacement.notBeforeUtc = now
  | recover _ _ now session _ => session.notBeforeUtc = now
  | _ => True

/-- The actor of every session was observed when the session started, or later. -/
def Started (s : Store) : Prop :=
  ∀ h r, s.sessions.get? h = some r → ∃ actor, s.actors.get? r.actorId = some actor ∧
    r.notBeforeUtc ≤ actor.lastObservedUtc

theorem Started.new {r : SessionRecord} (hop : op.StartsNow) (h : Authorizes s op (.session r))
    {v : Value} (hv : (apply s op).1 = .ok v) :
    LastObserved (apply s op).2 r.actorId r.notBeforeUtc := by
  cases op <;> try exact h.elim
  case exchangeBootstrap =>
    obtain ⟨b, actor, hlive, -, -, rfl⟩ := h
    have hactor : actor.actorId = b.actorId := Table.key_of_get? hlive.observable.found
    have hat : AllowedAt s _ actor.actorId _ :=
      ⟨⟨by rw [Op.actor?, hlive.found, hactor]; rfl, rfl⟩, v, hv⟩
    exact hop ▸ (allowed_observes hat (fun h => by cases h)).2
  case exchangeReprovisionBootstrap =>
    obtain ⟨proof, binding, b, root, actor, hlive, rfl⟩ := h
    have hactor : actor.actorId = b.actorId := Table.key_of_get? hlive.bootstrap.observable.found
    have hat : AllowedAt s _ actor.actorId _ :=
      ⟨⟨by rw [Op.actor?, hlive.foundRecord, hactor]; rfl, rfl⟩, v, hv⟩
    exact hop ▸ (allowed_observes hat (fun h => by cases h)).2
  case rotateSession =>
    obtain ⟨prior, actor, hlive, rfl⟩ := h
    have hat : AllowedAt s _ prior.actorId _ :=
      ⟨⟨by simp only [Op.actor?, Op.presentsSession, Option.bind_some, hlive.found, Option.map_some],
        rfl⟩, v, hv⟩
    exact hop ▸ (allowed_observes hat (fun h => by cases h)).2
  case recover =>
    obtain ⟨record, actor, hlive, rfl⟩ := h
    have hactor : actor.actorId = record.actorId := Table.key_of_get? hlive.observable.found
    have hat : AllowedAt s _ actor.actorId _ :=
      ⟨⟨by rw [Op.actor?, hlive.found, hactor]; rfl, rfl⟩, v, hv⟩
    exact hop ▸ (allowed_observes hat (fun h => by cases h)).2

theorem Started.apply (h : Started s) (hs : Coherent used s) (hop : op.StartsNow) :
    Started (Auth.apply s op).2 := by
  intro k r' hr'
  obtain ⟨r, hages, -, hr⟩ := (apply_descent s op).sessions k r' hr'
  have hsame : r'.actorId = r.actorId ∧ r'.notBeforeUtc = r.notBeforeUtc := by
    rcases hages with rfl | ⟨t, rfl⟩ <;> exact ⟨rfl, rfl⟩
  rw [hsame.1, hsame.2]
  rcases hr with hr | hissues
  · obtain ⟨actor, hactor, hle⟩ := h k r hr
    obtain ⟨actor', hactor', hactorAges⟩ := (apply_moves s op).actors _ _ hactor
    exact ⟨actor', hactor', hle.trans hactorAges.observed⟩
  · obtain ⟨hauthorizes, v, hv⟩ := hs.issues hissues
    obtain ⟨actor, hactor, hobserved⟩ := Started.new hop hauthorizes hv
    exact ⟨actor, hactor, hobserved.ge⟩

/-! ### Revocation -/

/-- The reading is from before the last time observed for the actor of the credential's session. -/
def RollsBack (s : Store) (c : OpaqueCredential) (now : Datetime) : Prop :=
  ∃ r actor, s.sessions.get? c.handle = some r ∧ r.digest = c.digest ∧
    s.actors.get? r.actorId = some actor ∧ now < actor.lastObservedUtc

theorem signedOut_observed {r : SessionRecord} {actor : ActorRecord}
    (hr : s.sessions.get? c.handle = some r) (hactor : Observable s r.actorId now actor)
    (hover : r.revoked = true ∨ r.epoch < actor.epoch ∨ r.expiresAtUtc ≤ now) :
    SignedOut (s.observed actor now) c := by
  intro r' hr'
  obtain rfl := Option.some.inj (hr.symm.trans hr')
  rcases hover with hrevoked | hover
  · exact Or.inr (Or.inl hrevoked)
  · exact Or.inr (Or.inr ⟨_, hactor.after, hover⟩)

/-- A revocation signs out, whether it is allowed or refused, unless the clock rolls back. -/
theorem wp_revokeSession (hd : Dated s) (hs : Started s) (hclock : ¬RollsBack s c now) :
    wp (revokeSession c c.digest now) (fun _ s' => SignedOut s' c) (fun _ s' => SignedOut s' c)
      s := by
  simp only [revokeSession, closeSession, authenticateSessionLocked, observe, wp_bind, wp_read,
    wp_demand, wp_require, wp_write, wp_pure]
  refine ⟨fun r hr => ⟨fun hdigest => ?_, fun hdigest => ?_⟩, fun hnone => ?_⟩
  · obtain ⟨actor, hactor, hle, -⟩ := hd.sessions _ _ hr
    refine ⟨fun actor' hactor' => ?_, fun hnone => by cases hactor.symm.trans hnone⟩
    obtain rfl := Option.some.inj (hactor.symm.trans hactor')
    refine ⟨fun hafter => ?_, fun hbefore => ?_⟩
    · have hobservable : Observable s r.actorId now actor := ⟨hactor, hafter⟩
      have hfound := hobservable.after
      refine ⟨fun actor' hactor' => ?_, fun hnone => by cases hfound.symm.trans hnone⟩
      obtain rfl := Option.some.inj (hfound.symm.trans hactor')
      refine ⟨fun hepoch => ⟨fun hlive => ?_, fun hrevoked => ?_⟩, fun hepoch => ?_⟩
      · cases htime : timeDenial now r.notBeforeUtc r.expiresAtUtc with
        | some denial =>
          -- the session started before the actor was last observed, so it has expired
          obtain ⟨actor', hactor', hstart⟩ := hs _ _ hr
          obtain rfl := Option.some.inj (hactor.symm.trans hactor')
          have hexpired : r.expiresAtUtc ≤ now := by
            by_contra hlt
            have hwithin := timeDenial_eq_none.mpr ⟨hstart.trans hafter, not_le.mp hlt⟩
            cases htime.symm.trans hwithin
          exact signedOut_observed hr hobservable (Or.inr (Or.inr hexpired))
        | none =>
          have hhandle : r.handle = c.handle := Table.key_of_get? hr
          intro r' hr'
          have hclosed := Table.get?_put_of_eq s.sessions (r := { r with
            revoked := true, retiredAtUtc := some now }) hhandle
          obtain rfl := Option.some.inj (hclosed.symm.trans hr')
          exact Or.inr (Or.inl rfl)
      · exact signedOut_observed hr hobservable (Or.inl (Bool.eq_true_of_not_eq_false hrevoked))
      · exact signedOut_observed hr hobservable (Or.inr (Or.inl (lt_of_le_of_ne hle hepoch)))
    · exact absurd ⟨r, actor, hr, hdigest, hactor, not_le.mp hbefore⟩ hclock
  · intro r' hr'
    obtain rfl := Option.some.inj (hr.symm.trans hr')
    exact Or.inl hdigest
  · exact fun r' hr' => by cases hnone.symm.trans hr'

theorem signedOut_revokeSession (hd : Dated s) (hs : Started s) (hclock : ¬RollsBack s c now) :
    SignedOut (apply s (.revokeSession c c.digest now)).2 c := by
  have hwp : wp (Op.revokeSession c c.digest now).decide (fun _ s' => SignedOut s' c)
      (fun _ s' => SignedOut s' c) s := by
    rw [Op.decide, wp_bind]
    exact wp_revokeSession hd hs hclock
  obtain ⟨hok, herror⟩ := wp_iff.mp hwp
  cases hout : (apply s (.revokeSession c c.digest now)).1 with
  | ok v => exact hok v hout
  | error e => exact herror e hout

end MyCogni.Auth
