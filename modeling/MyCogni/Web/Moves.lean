import MyCogni.Web.Shell

/-! What one section of a call can do to the shell, the calls in progress and the record. -/

namespace MyCogni.Web
open Auth

/-- A shell with some of the challenges and sessions of another. -/
structure Shell.Within (s' s : Shell) : Prop where
  challenges {id : OpaqueId} {c : LoginChallenge} :
    s'.challenges.get? id = some c → s.challenges.get? id = some c
  sessions {id : OpaqueId} {r : Session} :
    s'.sessions.get? id = some r → s.sessions.get? id = some r
  challenges_size : s'.challenges.size ≤ s.challenges.size
  sessions_size : s'.sessions.size ≤ s.sessions.size

namespace Shell
variable (s : Shell)

theorem Within.refl : s.Within s := ⟨id, id, le_rfl, le_rfl⟩

theorem within_purgeExpired (now : Datetime) : (s.purgeExpired now).Within s where
  challenges h := by
    rw [purgeExpired, Dict.get?_filter, Option.filter_eq_some_iff] at h
    exact h.1
  sessions h := by
    rw [purgeExpired, Dict.get?_filter, Option.filter_eq_some_iff] at h
    exact h.1
  challenges_size := Dict.size_filter_le ..
  sessions_size := Dict.size_filter_le ..

theorem within_popChallenge (challengeId : OpaqueId) : (s.popChallenge challengeId).Within s where
  challenges h := by
    rw [popChallenge, Dict.get?_erase] at h
    split_ifs at h
    exact h
  sessions := id
  challenges_size := Dict.size_erase_le ..
  sessions_size := le_rfl

theorem within_popSession (sessionId : OpaqueId) : (s.popSession sessionId).Within s where
  challenges := id
  sessions h := by
    rw [popSession, Dict.get?_erase] at h
    split_ifs at h
    exact h
  challenges_size := le_rfl
  sessions_size := Dict.size_erase_le ..

theorem within_evictSessions : s.evictSessions.Within s where
  challenges := id
  sessions := Dict.get?_of_makeRoom
  challenges_size := le_rfl
  sessions_size := Dict.size_makeRoom_le ..

end Shell

/-- A stage that owes nothing to a challenge or to an exchange. -/
def Stage.Plain : Stage → Prop
  | .exchanging .. | .installing .. => False
  | _ => True

/-- No call has come to an exchange or to an installation. -/
def Calm (stages' stages : Nat → Option Stage) : Prop :=
  ∀ call stage, stages' call = some stage → stage.Plain ∨ stages call = some stage

theorem Calm.refl (stages : Nat → Option Stage) : Calm stages stages := fun _ _ h => .inr h

theorem Calm.leave (stages : Nat → Option Stage) (call : Nat) :
    Calm (Function.update stages call none) stages := by
  intro call' stage h
  rw [Function.update_apply] at h
  split_ifs at h
  exact .inr h

theorem Calm.plain (stages : Nat → Option Stage) (call : Nat) {stage : Stage} (hp : stage.Plain) :
    Calm (Function.update stages call (some stage)) stages := by
  intro call' stage' h
  rw [Function.update_apply] at h
  split_ifs at h
  · cases h
    exact .inl hp
  · exact .inr h

/-- What one section does. -/
inductive Move (w w' : World) : Prop
  | quiet (hshell : w'.shell.Within w.shell) (hstages : Calm w'.stages w.stages)
      (hhistory : w'.history = w.history)
  | issue {id : OpaqueId} {t : Text} {expires : Datetime}
      (hshell : w'.shell = w.shell.addChallenge ⟨id, digest t, expires⟩)
      (hstages : Calm w'.stages w.stages)
      (hhistory : w'.history = .challengeIssued id t expires :: w.history)
  | take {call : Nat} {id : OpaqueId} {c : LoginChallenge} {t : Text} {code : OpaqueCredential}
      {now : Datetime} (hc : w.shell.challenges.get? id = some c) (hnow : now < c.expiresAtUtc)
      (ht : c.csrfDigest = digest t) (hshell : w'.shell = w.shell.popChallenge id)
      (hstages : w'.stages = Function.update w.stages call (some (.exchanging id t code now)))
      (hhistory : w'.history = w.history)
  | refuse {call : Nat} {id : OpaqueId} {t : Text} {code : OpaqueCredential} {now : Datetime}
      (hcall : w.stages call = some (.exchanging id t code now)) (hshell : w'.shell = w.shell)
      (hstages : w'.stages = Function.update w.stages call none)
      (hhistory : w'.history = .exchangeCalled id t now :: w.history)
  | succeed {call : Nat} {id : OpaqueId} {t : Text} {code credential : OpaqueCredential}
      {now : Datetime} (hcall : w.stages call = some (.exchanging id t code now))
      (hshell : w'.shell = w.shell)
      (hstages : w'.stages = Function.update w.stages call (some (.installing credential now)))
      (hhistory : w'.history =
        .exchangeSucceeded credential :: .exchangeCalled id t now :: w.history)
  | install {call : Nat} {credential : OpaqueCredential} {now : Datetime} {t : Text}
      {expires : Datetime} (hcall : w.stages call = some (.installing credential now))
      (hshell : w'.shell = w.shell.installSession ⟨credential, [digest t], expires⟩)
      (hstages : w'.stages = Function.update w.stages call none)
      (hhistory : w'.history = .formIssued credential.handle t :: w.history)
  | form {id : OpaqueId} {r : Session} {t : Text} (hr : w.shell.sessions.get? id = some r)
      (hshell : w'.shell = w.shell.addToken id r t) (hstages : Calm w'.stages w.stages)
      (hhistory : w'.history = .formIssued id t :: w.history)
  | logout {id : OpaqueId} {r : Session} {t : Text} (hr : w.shell.sessions.get? id = some r)
      (ht : digest t ∈ r.csrfDigests) (hshell : w'.shell = w.shell.popSession id)
      (hstages : Calm w'.stages w.stages) (hhistory : w'.history = .loggedOut id t :: w.history)

namespace World
variable (sessionTtlSeconds : Nat)

theorem start_move {w : World} {call : Nat} {k : World → Reply × World}
    (h : Move w (k { w with calls := call :: w.calls }).2) : Move w (w.start call k).2 := by
  unfold start
  split_ifs
  · exact .quiet (.refl _) (.refl _) rfl
  · exact h

theorem move_self (w : World) : Move w w := .quiet (.refl _) (.refl _) rfl

theorem move_leave (w : World) (call : Nat) : Move w (w.stand call none) :=
  .quiet (.refl _) (.leave _ _) rfl

theorem addChallenge_move (w : World) (call : Nat) (id : OpaqueId) (t : Text)
    (expires : Option Datetime) : Move w (w.addChallenge call id t expires).2 := by
  cases expires with
  | none => exact move_leave w call
  | some expires => exact .issue rfl (.leave _ _) rfl

theorem issueChallenge_move (w : World) (call : Nat) (id : OpaqueId) (t : Text) :
    Move w (w.step sessionTtlSeconds (.issueChallenge call id t)).2 := by
  rw [step]
  split
  · exact addChallenge_move ..
  · exact move_self w

theorem authenticateLogin_move (w : World) (call : Nat) (cookie : Option Text) (t code : Text) (now : Datetime) :
    Move w (w.step sessionTtlSeconds (.authenticateLogin call cookie t code now)).2 := by
  refine start_move ?_
  dsimp only
  split
  · exact .quiet (.refl _) (.refl _) rfl
  · next id _ =>
    have gone : Move w { w with
        calls := call :: w.calls
        shell := w.shell.popChallenge id } :=
      .quiet (Shell.within_popChallenge ..) (.refl _) rfl
    split
    · exact gone
    · next c hc =>
      split_ifs with hnow ht
      · exact gone
      · exact gone
      · split
        · exact gone
        · exact .take hc (not_le.mp hnow) (not_not.mp ht) rfl rfl rfl

theorem exchangeBootstrap_move (w : World) (call : Nat) (exchanged : Except (Option AuthDenial) OpaqueCredential) :
    Move w (w.step sessionTtlSeconds (.exchangeBootstrap call exchanged)).2 := by
  rw [step]
  split
  · next hcall =>
    cases exchanged with
    | error denial => exact .refuse hcall rfl rfl rfl
    | ok credential => exact .succeed hcall rfl rfl rfl
  · exact move_self w

theorem installSession_move {w : World} {call : Nat} {credential : OpaqueCredential}
    {now : Datetime} (hcall : w.stages call = some (.installing credential now)) (t : Text)
    (expires : Option Datetime) : Move w (w.installSession call credential t expires).2 := by
  cases expires with
  | none => exact .quiet (Shell.within_evictSessions _) (.leave _ _) rfl
  | some expires => exact .install hcall rfl rfl rfl

theorem install_move (w : World) (call : Nat) (t : Text) :
    Move w (w.step sessionTtlSeconds (.installSession call t)).2 := by
  rw [step]
  split
  · next hcall => exact installSession_move hcall ..
  · exact move_self w

theorem view_move (w : World) (call : Nat) (cookie : Option Text) :
    Move w (w.step sessionTtlSeconds (.view call cookie)).2 := by
  refine start_move ?_
  dsimp only
  split
  · exact .quiet (.refl _) (.refl _) rfl
  · split
    · exact .quiet (.refl _) (.refl _) rfl
    · exact .quiet (.refl _) (.plain _ _ trivial) rfl

theorem authenticateSession_move (w : World) (call : Nat) (now : Datetime) (denied : Bool) :
    Move w (w.step sessionTtlSeconds (.authenticateSession call now denied)).2 := by
  rw [step]
  split
  · split_ifs
    · exact .quiet (.refl _) (.plain _ _ trivial) rfl
    · exact .quiet (.refl _) (.plain _ _ trivial) rfl
  · exact move_self w

theorem dropSession_move (w : World) (call : Nat) :
    Move w (w.step sessionTtlSeconds (.dropSession call)).2 := by
  rw [step]
  split
  · exact .quiet (Shell.within_popSession ..) (.leave _ _) rfl
  · exact move_self w

theorem issueForm_move (w : World) (call : Nat) (t : Text) :
    Move w (w.step sessionTtlSeconds (.issueForm call t)).2 := by
  rw [step]
  split
  · split
    · exact move_leave w call
    · next hr => exact .form hr rfl (.leave _ _) rfl
  · exact move_self w

theorem logout_move (w : World) (call : Nat) (cookie : Option Text) (t : Text) :
    Move w (w.step sessionTtlSeconds (.logout call cookie t)).2 := by
  refine start_move ?_
  dsimp only
  split
  · exact .quiet (.refl _) (.refl _) rfl
  · split
    · exact .quiet (.refl _) (.refl _) rfl
    · next hr =>
      split_ifs with ht
      · exact .logout hr ht rfl (.refl _) rfl
      · exact .quiet (.refl _) (.refl _) rfl

theorem countSessions_move (w : World) (call : Nat) :
    Move w (w.step sessionTtlSeconds (.countSessions call)).2 := by
  rw [step]
  split
  · exact move_leave w call
  · exact move_self w

theorem raises_move (w : World) (call : Nat) :
    Move w (w.step sessionTtlSeconds (.raises call)).2 := by
  rw [step]
  split
  · next stage hcall =>
    cases stage with
    | exchanging id t code now => exact .refuse hcall rfl rfl rfl
    | beginning now => exact move_leave w call
    | viewing id r => exact move_leave w call
    | counting => exact move_leave w call
    | installing credential now => exact move_self w
    | dropping id => exact move_self w
    | issuing id => exact move_self w
  · exact move_self w

theorem step_move (w : World) : ∀ e, Move w (w.step sessionTtlSeconds e).2
  | .beginLogin _ _ =>
    start_move (.quiet (Shell.within_purgeExpired ..) (.plain _ _ trivial) rfl)
  | .issueChallenge _ _ _ => issueChallenge_move ..
  | .authenticateLogin _ _ _ _ _ => authenticateLogin_move ..
  | .exchangeBootstrap _ _ => exchangeBootstrap_move ..
  | .installSession _ _ => install_move ..
  | .view _ _ => view_move ..
  | .authenticateSession _ _ _ => authenticateSession_move ..
  | .dropSession _ => dropSession_move ..
  | .issueForm _ _ => issueForm_move ..
  | .logout _ _ _ => logout_move ..
  | .activeSessionCount _ _ =>
    start_move (.quiet (Shell.within_purgeExpired ..) (.plain _ _ trivial) rfl)
  | .countSessions _ => countSessions_move ..
  | .raises _ => raises_move ..

end World

end MyCogni.Web
