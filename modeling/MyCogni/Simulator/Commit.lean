import MyCogni.Simulator.Web

/-! What the operations of the two stores do, and what the commit of both does: with a reservation
that holds it goes through as a whole, or, wherever it is struck, nothing of it is left but that the
reservations are gone. -/

namespace MyCogni.Simulator

open Command

/-! ### Operations on a reservation that holds -/

namespace Engine
variable {engine : Engine} {plan : EnginePlan} {r : Reservation}

theorem holds_iff : engine.Holds plan ↔ (∃ r, engine.reservations.get? plan.token = some r ∧
    r.plan = plan) ∧ plan.sessionId ∈ engine.reservedSessions := by
  rw [Holds, Option.map_eq_some_iff]

theorem validateReservationLocked_eq (h : engine.Holds plan) :
    validateReservationLocked plan engine = (.ok (), engine) := require_pos h _ _

theorem snapshotLocked_eq (h : engine.Holds plan) :
    snapshotLocked plan engine = (.ok (engine.sessions.get? plan.sessionId), engine) := by
  rw [snapshotLocked, bind_ok (validateReservationLocked_eq h)]
  rfl

/-- The engine with the next session of a reservation in its place. -/
def withSession (engine : Engine) (plan : EnginePlan) (r : Reservation) : Engine :=
  { engine with sessions := engine.sessions.set plan.sessionId r.nextSession }

theorem commitReservationLocked_eq (h : engine.Holds plan)
    (hr : engine.reservations.get? plan.token = some r) :
    commitReservationLocked plan engine = (.ok (), engine.withSession plan r) := by
  have hread : (read : Command Engine Fault Engine) engine = (.ok engine, engine) := rfl
  rw [commitReservationLocked, bind_ok (validateReservationLocked_eq h), bind_ok hread,
    bind_ok (demand_some hr _ _)]
  rfl

theorem finalizeReservationLocked_eq (h : engine.Holds plan) :
    finalizeReservationLocked plan engine = (.ok (), cancelReservationLocked plan engine) := by
  rw [finalizeReservationLocked, bind_ok (validateReservationLocked_eq h)]
  rfl

theorem rollback_eq (h : engine.Holds plan) :
    rollback plan engine = (.ok (), cancelReservationLocked plan engine) := by
  rw [rollback, bind_ok (validateReservationLocked_eq h)]
  rfl

theorem Holds.withSession (h : engine.Holds plan) : (engine.withSession plan r).Holds plan := h

end Engine

namespace MailCapture
variable {mail : MailCapture} {reservation : MailReservation}

theorem validateReservationLocked_eq (h : mail.Holds reservation) :
    validateReservationLocked reservation mail = (.ok (), mail) := require_pos h _ _

theorem snapshotLocked_eq (h : mail.Holds reservation) :
    snapshotLocked reservation mail = (.ok mail.messages.length, mail) := by
  rw [snapshotLocked, bind_ok (validateReservationLocked_eq h)]
  rfl

def withMessage (mail : MailCapture) (reservation : MailReservation) : MailCapture :=
  { mail with messages := mail.messages ++ [reservation.message] }

theorem commitReservationLocked_eq (h : mail.Holds reservation) :
    commitReservationLocked reservation mail = (.ok (), mail.withMessage reservation) := by
  rw [commitReservationLocked, bind_ok (validateReservationLocked_eq h)]
  rfl

theorem finalizeReservationLocked_eq (h : mail.Holds reservation) :
    finalizeReservationLocked reservation mail =
      (.ok (), cancelReservationLocked reservation mail) := by
  rw [finalizeReservationLocked, bind_ok (validateReservationLocked_eq h)]
  rfl

theorem rollback_eq (h : mail.Holds reservation) :
    rollback reservation mail = (.ok (), cancelReservationLocked reservation mail) := by
  rw [rollback, bind_ok (validateReservationLocked_eq h)]
  rfl

theorem Holds.withMessage (h : mail.Holds reservation) :
    (mail.withMessage reservation).Holds reservation := h

end MailCapture

/-! ### The commit -/

/-- The engine as it was, but for the reservation of the plan, which is gone. -/
structure Engine.Undone (plan : EnginePlan) (before after : Engine) : Prop where
  scenarios : after.scenarios = before.scenarios
  sessions : ∀ sessionId, after.sessions.get? sessionId = before.sessions.get? sessionId
  reservations : after.reservations = before.reservations.erase plan.token
  reservedSessions : after.reservedSessions = before.reservedSessions.erase plan.sessionId
  nextToken : after.nextToken = before.nextToken

theorem erase_erase {ν : Type} (d : Dict Nat ν) (k : Nat) : (d.erase k).erase k = d.erase k := by
  refine Dict.ext_entries ?_
  simp only [Dict.erase, Dict.filter, List.filter_filter, Bool.and_self]

namespace Locked
variable {s : Stores} {plan : EnginePlan} {r : Reservation} {mail? : Option MailReservation}
  {strike : Option Strike} {α : Type}

/-- Where the engine can be in the middle of a commit, with what was taken of it. -/
inductive EnginePart (s : Stores) (plan : EnginePlan) (r : Reservation) : Locked → Prop where
  | untouched {l : Locked} (hengine : l.stores.engine = s.engine)
      (htaken : ∀ snapshot, l.taken.engine = some snapshot →
        snapshot = s.engine.sessions.get? plan.sessionId) : EnginePart s plan r l
  | changed {l : Locked} (hengine : l.stores.engine = s.engine.withSession plan r ∨
        l.stores.engine = (s.engine.withSession plan r).cancelReservationLocked plan)
      (htaken : l.taken.engine = some (s.engine.sessions.get? plan.sessionId)) : EnginePart s plan r l

/-- Where the mail capture can be. -/
inductive MailPart (s : Stores) (mail? : Option MailReservation) : Locked → Prop where
  | untouched {l : Locked} (hmail : l.stores.mail = s.mail)
      (htaken : ∀ snapshot, l.taken.mail = some snapshot → snapshot = s.mail.messages.length) :
      MailPart s mail? l
  | changed {l : Locked} (m : MailReservation) (hm : mail? = some m)
      (hmail : l.stores.mail = s.mail.withMessage m ∨
        l.stores.mail = (s.mail.withMessage m).cancelReservationLocked m)
      (htaken : l.taken.mail = some s.mail.messages.length) : MailPart s mail? l

structure Partway (s : Stores) (plan : EnginePlan) (r : Reservation)
    (mail? : Option MailReservation) (l : Locked) : Prop where
  engine : EnginePart s plan r l
  mail : MailPart s mail? l
  history : l.stores.history = s.history

/-- The mail capture as it was, but for a reservation that is gone. -/
def mailUndone (mail? : Option MailReservation) (mail : MailCapture) : MailCapture :=
  match mail? with
  | some reservation => mail.cancelReservationLocked reservation
  | none => mail

theorem get?_restored (sessions : Dict Text Session) (sessionId : Text) (next : Session)
    (changed : Dict Text Session) (hchanged : changed = sessions ∨ changed = sessions.set sessionId next)
    (k : Text) :
    (match sessions.get? sessionId with
      | none => changed.erase sessionId
      | some session => changed.set sessionId session).get? k = sessions.get? k := by
  have hother : k ≠ sessionId → changed.get? k = sessions.get? k := by
    rintro hk
    rcases hchanged with rfl | rfl
    · rfl
    · exact Dict.get?_set_ne _ _ hk
  cases hsession : sessions.get? sessionId with
  | none =>
    dsimp only
    rw [Dict.get?_erase]
    split_ifs with hk
    · rw [hk, hsession]
    · exact hother hk
  | some session =>
    dsimp only
    rw [Dict.get?_set]
    split_ifs with hk
    · rw [hk, hsession]
    · exact hother hk

theorem undone_restored {changed : Engine}
    (hchanged : changed = s.engine ∨ changed = s.engine.withSession plan r ∨
      changed = (s.engine.withSession plan r).cancelReservationLocked plan) :
    Engine.Undone plan s.engine ((changed.restoreSnapshotLocked plan
      (s.engine.sessions.get? plan.sessionId)).cancelReservationLocked plan) := by
  have hsessions : changed.sessions = s.engine.sessions ∨
      changed.sessions = s.engine.sessions.set plan.sessionId r.nextSession := by
    rcases hchanged with rfl | rfl | rfl
    · exact Or.inl rfl
    · exact Or.inr rfl
    · exact Or.inr rfl
  have hreservations : changed.reservations.erase plan.token =
      s.engine.reservations.erase plan.token := by
    rcases hchanged with rfl | rfl | rfl
    · rfl
    · rfl
    · exact erase_erase _ _
  have hreserved : changed.reservedSessions.erase plan.sessionId =
      s.engine.reservedSessions.erase plan.sessionId := by
    rcases hchanged with rfl | rfl | rfl
    · rfl
    · rfl
    · exact Finset.erase_idem
  have hrest : changed.scenarios = s.engine.scenarios ∧ changed.nextToken = s.engine.nextToken := by
    rcases hchanged with rfl | rfl | rfl <;> exact ⟨rfl, rfl⟩
  have hget := get?_restored s.engine.sessions plan.sessionId r.nextSession changed.sessions hsessions
  cases hsession : s.engine.sessions.get? plan.sessionId with
  | none =>
    rw [hsession] at hget
    exact ⟨hrest.1, hget, hreservations, hreserved, hrest.2⟩
  | some session =>
    rw [hsession] at hget
    exact ⟨hrest.1, hget, hreservations, hreserved, hrest.2⟩

/-- Wherever the commit was struck, the handler leaves the stores as they were, with the
reservations gone. -/
theorem Partway.undo {l : Locked} (h : Partway s plan r mail? l) :
    Engine.Undone plan s.engine (l.undo plan mail?).engine ∧
      (l.undo plan mail?).mail = mailUndone mail? s.mail ∧
      (l.undo plan mail?).history = s.history := by
  refine ⟨?_, ?_, h.history⟩
  · rcases h.engine with ⟨hengine, htaken⟩ | ⟨hengine, htaken⟩
    · unfold Locked.undo
      cases hsnapshot : l.taken.engine with
      | none =>
        dsimp only
        rw [hengine]
        exact ⟨rfl, fun _ => rfl, rfl, rfl, rfl⟩
      | some snapshot =>
        dsimp only
        rw [htaken snapshot hsnapshot]
        exact undone_restored (r := r) (Or.inl hengine)
    · unfold Locked.undo
      rw [htaken]
      exact undone_restored (Or.inr hengine)
  · rcases h.mail with ⟨hmail, htaken⟩ | ⟨m, rfl, hmail, htaken⟩
    · have hkept : s.mail.restoreSnapshotLocked s.mail.messages.length = s.mail := by
        rw [MailCapture.restoreSnapshotLocked, List.take_length]
      unfold Locked.undo
      cases hsnapshot : l.taken.mail with
      | none =>
        dsimp only
        rw [hmail]
        rfl
      | some snapshot =>
        dsimp only
        rw [htaken snapshot hsnapshot, hmail, hkept]
        rfl
    · unfold Locked.undo
      rw [htaken]
      have htake : (s.mail.messages ++ [m.message]).take s.mail.messages.length = s.mail.messages :=
        List.take_left
      rcases hmail with hmail | hmail
      · dsimp only
        rw [hmail]
        simp only [MailCapture.restoreSnapshotLocked, MailCapture.withMessage,
          MailCapture.cancelReservationLocked, mailUndone, htake]
      · dsimp only
        rw [hmail]
        simp only [MailCapture.restoreSnapshotLocked, MailCapture.withMessage,
          MailCapture.cancelReservationLocked, mailUndone, htake, erase_erase]

/-! ### Its steps -/

theorem onEngine_eq {c : Command Engine Fault α} {l : Locked} {a : α} {engine : Engine}
    (h : c l.stores.engine = (.ok a, engine)) :
    onEngine c l = (.ok a, { l with stores := { l.stores with engine } }) := by
  rw [onEngine, h]

theorem onMail_eq {c : Command MailCapture Fault α} {l : Locked} {a : α} {mail : MailCapture}
    (h : c l.stores.mail = (.ok a, mail)) :
    onMail c l = (.ok a, { l with stores := { l.stores with mail } }) := by
  rw [onMail, h]

/-- A step of the commit: it is done, or it is struck before or behind its work. -/
theorem wp_edge {step : CommitStep} {c : Command Locked Fault α} {l l' : Locked} {a : α}
    {post : α → Locked → Prop} {halt : Fault → Locked → Prop} (hc : c l = (.ok a, l'))
    (hbefore : ∀ e, halt e l) (hafter : ∀ e, halt e l') (hpost : post a l') :
    wp (edge strike step c) post halt l := by
  have hdone : wp c post halt l := by
    unfold wp
    rw [hc]
    exact hpost
  unfold edge
  split
  · exact hdone
  · next at' fault done =>
    split_ifs
    · rw [wp_bind]
      unfold wp
      rw [hc]
      exact hafter fault
    · exact hbefore fault
    · exact hdone

/-- The mail capture behind a commit. -/
def mailCommitted (mail? : Option MailReservation) (mail : MailCapture) : MailCapture :=
  match mail? with
  | some reservation => (mail.withMessage reservation).cancelReservationLocked reservation
  | none => mail

/-- The stores behind a commit. -/
def committed (s : Stores) (plan : EnginePlan) (r : Reservation) (mail? : Option MailReservation) :
    Stores :=
  { s with
    engine := (s.engine.withSession plan r).cancelReservationLocked plan
    mail := mailCommitted mail? s.mail }

theorem transaction_spec (hplan : s.engine.Holds plan)
    (hr : s.engine.reservations.get? plan.token = some r)
    (hmail : ∀ m, mail? = some m → s.mail.Holds m) :
    wp (transaction strike plan mail?) (fun _ l => l.stores = committed s plan r mail?)
      (fun _ l => Partway s plan r mail? l) ⟨s, {}⟩ := by
  have hsnapshot : ∀ {snapshot : Option Session},
      some (s.engine.sessions.get? plan.sessionId) = some snapshot →
        snapshot = s.engine.sessions.get? plan.sessionId := fun h => (Option.some.inj h).symm
  have hnone : ∀ {β : Type} {p : β → Prop} (b : β), (none : Option β) = some b → p b :=
    fun _ h => nomatch h
  -- the engine is untouched, changed, or finalized; what was taken of it is known
  have hstart : EnginePart s plan r ⟨s, {}⟩ := .untouched rfl hnone
  have hempty : MailPart s mail? ⟨s, {}⟩ := .untouched rfl hnone
  unfold transaction
  rw [wp_bind]
  refine wp_edge (onEngine_eq (Engine.validateReservationLocked_eq hplan)) (fun _ => ⟨hstart, hempty, rfl⟩)
    (fun _ => ⟨.untouched rfl hnone, .untouched rfl hnone, rfl⟩) ?_
  cases mail? with
  | none =>
    simp only [onReserved, wp_bind, wp_pure]
    refine wp_edge (onEngine_eq (Engine.snapshotLocked_eq hplan))
      (fun _ => ⟨.untouched rfl hnone, .untouched rfl hnone, rfl⟩)
      (fun _ => ⟨.untouched rfl hnone, .untouched rfl hnone, rfl⟩) ?_
    simp only [wp_write]
    refine wp_edge (onEngine_eq (Engine.commitReservationLocked_eq hplan hr))
      (fun _ => ⟨.untouched rfl fun _ h => hsnapshot h, .untouched rfl hnone, rfl⟩)
      (fun _ => ⟨.changed (Or.inl rfl) rfl, .untouched rfl hnone, rfl⟩) ?_
    refine wp_edge (onEngine_eq (Engine.finalizeReservationLocked_eq hplan.withSession))
      (fun _ => ⟨.changed (Or.inl rfl) rfl, .untouched rfl hnone, rfl⟩)
      (fun _ => ⟨.changed (Or.inr rfl) rfl, .untouched rfl hnone, rfl⟩) rfl
  | some m =>
    have hm := hmail m rfl
    have hlength : ∀ snapshot, some s.mail.messages.length = some snapshot →
        snapshot = s.mail.messages.length := fun _ h => (Option.some.inj h).symm
    simp only [onReserved, wp_bind]
    refine wp_edge (onMail_eq (MailCapture.validateReservationLocked_eq hm))
      (fun _ => ⟨.untouched rfl hnone, .untouched rfl hnone, rfl⟩)
      (fun _ => ⟨.untouched rfl hnone, .untouched rfl hnone, rfl⟩) ?_
    refine wp_edge (onEngine_eq (Engine.snapshotLocked_eq hplan))
      (fun _ => ⟨.untouched rfl hnone, .untouched rfl hnone, rfl⟩)
      (fun _ => ⟨.untouched rfl hnone, .untouched rfl hnone, rfl⟩) ?_
    simp only [wp_write]
    refine wp_edge (onMail_eq (MailCapture.snapshotLocked_eq hm))
      (fun _ => ⟨.untouched rfl fun _ h => hsnapshot h, .untouched rfl hnone, rfl⟩)
      (fun _ => ⟨.untouched rfl fun _ h => hsnapshot h, .untouched rfl hnone, rfl⟩) ?_
    refine wp_edge (onEngine_eq (Engine.commitReservationLocked_eq hplan hr))
      (fun _ => ⟨.untouched rfl fun _ h => hsnapshot h, .untouched rfl hlength, rfl⟩)
      (fun _ => ⟨.changed (Or.inl rfl) rfl, .untouched rfl hlength, rfl⟩) ?_
    refine wp_edge (onMail_eq (MailCapture.commitReservationLocked_eq hm))
      (fun _ => ⟨.changed (Or.inl rfl) rfl, .untouched rfl hlength, rfl⟩)
      (fun _ => ⟨.changed (Or.inl rfl) rfl, .changed m rfl (Or.inl rfl) rfl, rfl⟩) ?_
    refine wp_edge (onEngine_eq (Engine.finalizeReservationLocked_eq hplan.withSession))
      (fun _ => ⟨.changed (Or.inl rfl) rfl, .changed m rfl (Or.inl rfl) rfl, rfl⟩)
      (fun _ => ⟨.changed (Or.inr rfl) rfl, .changed m rfl (Or.inl rfl) rfl, rfl⟩) ?_
    refine wp_edge (onMail_eq (MailCapture.finalizeReservationLocked_eq hm.withMessage))
      (fun _ => ⟨.changed (Or.inr rfl) rfl, .changed m rfl (Or.inl rfl) rfl, rfl⟩)
      (fun _ => ⟨.changed (Or.inr rfl) rfl, .changed m rfl (Or.inr rfl) rfl, rfl⟩) rfl

end Locked

/-- The commit of a plan that holds: all of it, or nothing but that the reservations are gone. -/
theorem commitInternal_cases {s : Stores} {plan : EnginePlan} {r : Reservation}
    {mail? : Option MailReservation} (strike : Option Strike) (owner : Nat)
    (hplan : s.engine.Holds plan) (hr : s.engine.reservations.get? plan.token = some r)
    (hmail : ∀ m, mail? = some m → s.mail.Holds m) :
    (∃ s' : Stores, commitInternal strike owner plan mail? s = (.ok (), s') ∧
      s' = { Locked.committed s plan r mail? with history := s.history ++ [.committed owner plan] }) ∨
    ∃ fault s', commitInternal strike owner plan mail? s = (.error fault, s') ∧
      Engine.Undone plan s.engine s'.engine ∧ s'.mail = Locked.mailUndone mail? s.mail ∧
      s'.history = s.history := by
  have hspec : wp (Locked.transaction strike plan mail?)
      (fun _ l => l.stores = Locked.committed s plan r mail?)
      (fun _ l => Locked.Partway s plan r mail? l) ⟨s, {}⟩ :=
    Locked.transaction_spec hplan hr hmail
  unfold wp at hspec
  unfold commitInternal
  generalize Locked.transaction strike plan mail? ⟨s, {}⟩ = outcome at hspec ⊢
  rcases outcome with ⟨fault | u, l⟩
  · exact Or.inr ⟨fault, _, rfl, Locked.Partway.undo hspec⟩
  · refine Or.inl ⟨_, rfl, ?_⟩
    have hstores : l.stores = Locked.committed s plan r mail? := hspec
    rw [hstores]
    rfl

end MyCogni.Simulator
