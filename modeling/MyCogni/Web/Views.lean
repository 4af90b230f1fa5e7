import MyCogni.Web.Moves

/-! Schedules of the web shell, and what stands behind the replies of `view` and `logout`. -/

namespace MyCogni.Web
open Auth

/-! ### Runs -/

namespace World
variable (sessionTtlSeconds : Nat)

theorem run_append (w : World) (es es' : List Event) :
    w.run sessionTtlSeconds (es ++ es') =
      (w.run sessionTtlSeconds es).run sessionTtlSeconds es' := by
  induction es generalizing w with
  | nil => rfl
  | cons e es ih => exact ih _

theorem step_history (w : World) (e : Event) :
    w.history <:+ (w.step sessionTtlSeconds e).2.history := by
  cases w.step_move sessionTtlSeconds e with
  | quiet _ _ hhistory => exact hhistory ▸ List.suffix_rfl
  | issue _ _ hhistory => exact hhistory ▸ List.suffix_cons ..
  | take _ _ _ _ _ hhistory => exact hhistory ▸ List.suffix_rfl
  | refuse _ _ _ hhistory => exact hhistory ▸ List.suffix_cons ..
  | succeed _ _ _ hhistory =>
    exact hhistory ▸ (List.suffix_cons ..).trans (List.suffix_cons ..)
  | install _ _ _ hhistory => exact hhistory ▸ List.suffix_cons ..
  | form _ _ _ hhistory => exact hhistory ▸ List.suffix_cons ..
  | logout _ _ _ _ hhistory => exact hhistory ▸ List.suffix_cons ..

/-- The shell after the sections of a schedule. -/
def after (es : List Event) : World := ({} : World).run sessionTtlSeconds es

theorem after_append (es es' : List Event) :
    after sessionTtlSeconds (es ++ es') = (after sessionTtlSeconds es).run sessionTtlSeconds es' :=
  run_append ..

theorem after_concat (es : List Event) (e : Event) :
    after sessionTtlSeconds (es ++ [e]) = ((after sessionTtlSeconds es).step sessionTtlSeconds e).2 :=
  after_append ..

theorem run_history (w : World) (es : List Event) :
    w.history <:+ (w.run sessionTtlSeconds es).history := by
  induction es generalizing w with
  | nil => exact List.suffix_rfl
  | cons e es ih => exact (step_history ..).trans (ih _)

theorem after_history (es es' : List Event) :
    (after sessionTtlSeconds es).history <:+ (after sessionTtlSeconds (es ++ es')).history := by
  rw [after_append]
  exact run_history ..

end World

/-! ### Views -/

/-- A stage of `view` past the lookup of the session. -/
def Stage.Watching : Stage → Prop
  | .viewing .. | .issuing .. => True
  | _ => False

/-- No call has come to look at a session. -/
def Still (w w' : World) : Prop :=
  ∀ call stage, stage.Watching → w'.stages call = some stage → w.stages call = some stage

namespace Still
variable {w w' : World}

theorem same (h : w'.stages = w.stages) : Still w w' := fun _ _ _ hcall => h ▸ hcall

theorem stand {call : Nat} {stage : Option Stage} (hstage : ∀ s, stage = some s → ¬s.Watching)
    (h : w'.stages = Function.update w.stages call stage) : Still w w' := by
  intro call' stage' hw hcall
  rw [h, Function.update_apply] at hcall
  split_ifs at hcall
  · exact (hstage _ hcall hw).elim
  · exact hcall

theorem leave {call : Nat} (h : w'.stages = Function.update w.stages call none) : Still w w' :=
  @stand w w' call none nofun h

theorem start {call : Nat} {k : World → Reply × World}
    (h : Still w (k { w with calls := call :: w.calls }).2) : Still w (w.start call k).2 := by
  unfold World.start
  split_ifs
  · exact same rfl
  · exact h

end Still

namespace World
variable (sessionTtlSeconds : Nat)

theorem authenticateLogin_still (w : World) (call : Nat) (cookie : Option Text) (t code : Text)
    (now : Datetime) :
    Still w (w.step sessionTtlSeconds (.authenticateLogin call cookie t code now)).2 := by
  refine .start ?_
  dsimp only
  split
  · exact .same rfl
  · split
    · exact .same rfl
    · split_ifs
      · exact .same rfl
      · exact .same rfl
      · split
        · exact .same rfl
        · refine .stand ?_ rfl
          rintro _ ⟨⟩
          exact id

theorem logout_still (w : World) (call : Nat) (cookie : Option Text) (t : Text) :
    Still w (w.step sessionTtlSeconds (.logout call cookie t)).2 := by
  refine .start ?_
  dsimp only
  split
  · exact .same rfl
  · split
    · exact .same rfl
    · split_ifs
      · exact .same rfl
      · exact .same rfl

theorem abort_still (w : World) (call : Nat) (stage : Stage) : Still w (w.abort call stage).2 := by
  cases stage with
  | exchanging => exact .leave rfl
  | beginning => exact .leave rfl
  | viewing => exact .leave rfl
  | counting => exact .leave rfl
  | installing => exact .same rfl
  | dropping => exact .same rfl
  | issuing => exact .same rfl

theorem step_still (w : World) (e : Event) (hview : ∀ call cookie, e ≠ .view call cookie)
    (hask : ∀ call now denied, e ≠ .authenticateSession call now denied) :
    Still w (w.step sessionTtlSeconds e).2 := by
  cases e with
  | beginLogin call now =>
    refine .start (.stand ?_ rfl)
    rintro _ ⟨⟩
    exact id
  | issueChallenge call id t =>
    rw [step]
    split
    · next now _ =>
      generalize now.add (seconds loginChallengeTtlSeconds) = expires
      cases expires with
      | none => exact .leave rfl
      | some expires => exact .leave rfl
    · exact .same rfl
  | authenticateLogin => exact authenticateLogin_still _ _ _ _ _ _ _
  | exchangeBootstrap call exchanged =>
    rw [step]
    split
    · cases exchanged with
      | error denial => exact .leave rfl
      | ok credential =>
        refine .stand ?_ rfl
        rintro _ ⟨⟩
        exact id
    · exact .same rfl
  | installSession call t =>
    rw [step]
    split
    · next now _ =>
      generalize now.add (seconds sessionTtlSeconds) = expires
      cases expires with
      | none => exact .leave rfl
      | some expires => exact .leave rfl
    · exact .same rfl
  | view call cookie => exact (hview call cookie rfl).elim
  | authenticateSession call now denied => exact (hask call now denied rfl).elim
  | dropSession call =>
    rw [step]
    split
    · exact .leave rfl
    · exact .same rfl
  | issueForm call t =>
    rw [step]
    split
    · split
      · exact .leave rfl
      · exact .leave rfl
    · exact .same rfl
  | logout => exact logout_still _ _ _ _ _
  | activeSessionCount call now =>
    refine .start (.stand ?_ rfl)
    rintro _ ⟨⟩
    exact id
  | countSessions call =>
    rw [step]
    split
    · exact .leave rfl
    · exact .same rfl
  | raises call =>
    rw [step]
    split
    · exact abort_still _ _ _
    · exact .same rfl

theorem view_stages {w : World} {call call' : Nat} {cookie : Option Text} {stage : Stage}
    (h : (w.step sessionTtlSeconds (.view call cookie)).2.stages call' = some stage) :
    w.stages call' = some stage ∨ ∃ id r, call' = call ∧ parseId cookie = some id ∧
      w.shell.sessions.get? id = some r ∧ stage = .viewing id r := by
  rw [step, start] at h
  split_ifs at h
  · exact .inl h
  · dsimp only at h
    split at h
    · exact .inl h
    · next id hid =>
      split at h
      · exact .inl h
      · next r hr =>
        change Function.update _ _ _ _ = _ at h
        rw [Function.update_apply] at h
        split_ifs at h with hcall
        · cases h
          exact .inr ⟨id, r, hcall, hid, hr, rfl⟩
        · exact .inl h

theorem authenticateSession_stages {w : World} {call call' : Nat} {now : Datetime} {denied : Bool}
    {stage : Stage}
    (h : (w.step sessionTtlSeconds (.authenticateSession call now denied)).2.stages call' =
      some stage) (hw : stage.Watching) :
    w.stages call' = some stage ∨ ∃ id r, call' = call ∧ denied = false ∧
      w.stages call = some (.viewing id r) ∧ now < r.expiresAtUtc ∧ stage = .issuing id := by
  rw [step] at h
  split at h
  · next id r hcall =>
    split_ifs at h with hdrop
    · change Function.update _ _ _ _ = _ at h
      rw [Function.update_apply] at h
      split_ifs at h
      · cases h
        exact hw.elim
      · exact .inl h
    · change Function.update _ _ _ _ = _ at h
      rw [Function.update_apply] at h
      split_ifs at h with heq
      · cases h
        rw [not_or, not_le, Bool.not_eq_true] at hdrop
        exact .inr ⟨id, r, heq, hdrop.2, hcall, hdrop.1, rfl⟩
      · exact .inl h
  · exact .inl h

/-- A call that looks at a session found it in the shell when it began. -/
theorem viewing_after {es : List Event} {call : Nat} {id : OpaqueId} {r : Session}
    (h : (after sessionTtlSeconds es).stages call = some (.viewing id r)) :
    ∃ before cookie between, es = before ++ .view call cookie :: between ∧
      parseId cookie = some id ∧ (after sessionTtlSeconds before).shell.sessions.get? id = some r := by
  induction es using List.reverseRecOn with
  | nil => cases h
  | append_singleton es e ih =>
    rw [after_concat] at h
    have hfound : (after sessionTtlSeconds es).stages call = some (.viewing id r) →
        ∃ before cookie between, es ++ [e] = before ++ .view call cookie :: between ∧
          parseId cookie = some id ∧
            (after sessionTtlSeconds before).shell.sessions.get? id = some r := by
      intro hst
      obtain ⟨before, cookie, between, rfl, hid, hr⟩ := ih hst
      exact ⟨before, cookie, between ++ [e], by simp, hid, hr⟩
    by_cases hview : ∃ call' cookie, e = .view call' cookie
    · obtain ⟨call', cookie, rfl⟩ := hview
      rcases view_stages _ h with hst | ⟨id', r', rfl, hid, hr, heq⟩
      · exact hfound hst
      · cases heq
        exact ⟨es, cookie, [], rfl, hid, hr⟩
    by_cases hask : ∃ call' now denied, e = .authenticateSession call' now denied
    · obtain ⟨call', now, denied, rfl⟩ := hask
      rcases authenticateSession_stages _ h trivial with hst | ⟨_, _, _, _, _, _, heq⟩
      · exact hfound hst
      · cases heq
    · push Not at hview hask
      exact hfound (step_still _ _ e hview hask call _ trivial h)

/-- A call about to issue a form token found its session, and the service accepted it in time. -/
theorem issuing_after {es : List Event} {call : Nat} {id : OpaqueId}
    (h : (after sessionTtlSeconds es).stages call = some (.issuing id)) :
    ∃ before cookie between now rest r,
      es = before ++ .view call cookie :: between ++ .authenticateSession call now false :: rest ∧
        parseId cookie = some id ∧
          (after sessionTtlSeconds before).shell.sessions.get? id = some r ∧
            now < r.expiresAtUtc := by
  induction es using List.reverseRecOn with
  | nil => cases h
  | append_singleton es e ih =>
    rw [after_concat] at h
    have hfound : (after sessionTtlSeconds es).stages call = some (.issuing id) →
        ∃ before cookie between now rest r,
          es ++ [e] =
            before ++ .view call cookie :: between ++ .authenticateSession call now false :: rest ∧
          parseId cookie = some id ∧
            (after sessionTtlSeconds before).shell.sessions.get? id = some r ∧
              now < r.expiresAtUtc := by
      intro hst
      obtain ⟨before, cookie, between, now, rest, r, rfl, hid, hr, hnow⟩ := ih hst
      exact ⟨before, cookie, between, now, rest ++ [e], r, by simp, hid, hr, hnow⟩
    by_cases hview : ∃ call' cookie, e = .view call' cookie
    · obtain ⟨call', cookie, rfl⟩ := hview
      rcases view_stages _ h with hst | ⟨_, _, _, _, _, heq⟩
      · exact hfound hst
      · cases heq
    by_cases hask : ∃ call' now denied, e = .authenticateSession call' now denied
    · obtain ⟨call', now, denied, rfl⟩ := hask
      rcases authenticateSession_stages _ h trivial with hst | ⟨id', r, rfl, rfl, hst, hnow, heq⟩
      · exact hfound hst
      · cases heq
        obtain ⟨before, cookie, between, rfl, hid, hr⟩ := viewing_after _ hst
        exact ⟨before, cookie, between, now, [], r, rfl, hid, hr, hnow⟩
    · push Not at hview hask
      exact hfound (step_still _ _ e hview hask call _ trivial h)

/-! ### Replies -/

theorem addChallenge_reply (w : World) (call : Nat) (id : OpaqueId) (t : Text)
    (expires : Option Datetime) :
    (∀ view, (w.addChallenge call id t expires).1 ≠ .view view) ∧
      ∀ done, (w.addChallenge call id t expires).1 ≠ .logout done := by
  cases expires <;> exact ⟨nofun, nofun⟩

theorem installSession_reply (w : World) (call : Nat) (credential : OpaqueCredential) (t : Text)
    (expires : Option Datetime) :
    (∀ view, (w.installSession call credential t expires).1 ≠ .view view) ∧
      ∀ done, (w.installSession call credential t expires).1 ≠ .logout done := by
  cases expires <;> exact ⟨nofun, nofun⟩

theorem abort_reply (w : World) (call : Nat) (stage : Stage) :
    (∀ view, (w.abort call stage).1 ≠ .view view) ∧
      ∀ done, (w.abort call stage).1 ≠ .logout done := by
  cases stage <;> exact ⟨nofun, nofun⟩

theorem start_reply {w : World} {call : Nat} {k : World → Reply × World} {r : Reply}
    (h : (w.start call k).1 = r) (hr : r ≠ .disabled) :
    (k { w with calls := call :: w.calls }).1 = r ∧
      w.start call k = k { w with calls := call :: w.calls } := by
  unfold start at h ⊢
  split_ifs at h ⊢
  · exact (hr h.symm).elim
  · exact ⟨h, rfl⟩

theorem authenticateLogin_reply {w : World} {call : Nat} {cookie : Option Text} {t code : Text}
    {now : Datetime} {r : Reply}
    (h : (w.step sessionTtlSeconds (.authenticateLogin call cookie t code now)).1 = r)
    (hr : r ≠ .disabled) (hpending : r ≠ .pending) :
    ∃ failure denial, r = .loginFailed failure denial := by
  have hk := (start_reply h hr).1
  dsimp only at hk
  split at hk
  · exact ⟨_, _, hk.symm⟩
  · split at hk
    · exact ⟨_, _, hk.symm⟩
    · split_ifs at hk
      · exact ⟨_, _, hk.symm⟩
      · exact ⟨_, _, hk.symm⟩
      · split at hk
        · exact ⟨_, _, hk.symm⟩
        · exact (hpending hk.symm).elim

theorem view_reply {w : World} {e : Event} {t : Text}
    (h : (w.step sessionTtlSeconds e).1 = .view (some t)) :
    ∃ call id, e = .issueForm call t ∧ w.stages call = some (.issuing id) := by
  cases e with
  | beginLogin call now => cases (start_reply h (fun h => by cases h)).1
  | issueChallenge call id t' =>
    rw [step] at h
    split at h
    · exact ((addChallenge_reply ..).1 _ h).elim
    · cases h
  | authenticateLogin =>
    obtain ⟨_, _, hr⟩ := authenticateLogin_reply _ h (fun h => by cases h) (fun h => by cases h)
    cases hr
  | exchangeBootstrap call exchanged =>
    rw [step] at h
    split at h
    · cases exchanged <;> cases h
    · cases h
  | installSession call t' =>
    rw [step] at h
    split at h
    · exact ((installSession_reply ..).1 _ h).elim
    · cases h
  | view call cookie =>
    have hk := (start_reply h (fun h => by cases h)).1
    dsimp only at hk
    split at hk
    · cases hk
    · split at hk <;> cases hk
  | authenticateSession call now denied =>
    rw [step] at h
    split at h
    · split_ifs at h
    · cases h
  | dropSession call =>
    rw [step] at h
    split at h <;> cases h
  | issueForm call t' =>
    rw [step] at h
    split at h
    · next id hcall =>
      split at h
      · cases h
      · cases h
        exact ⟨call, id, rfl, hcall⟩
    · cases h
  | logout call cookie t' =>
    have hk := (start_reply h (fun h => by cases h)).1
    dsimp only at hk
    split at hk
    · cases hk
    · split at hk
      · cases hk
      · split_ifs at hk
  | activeSessionCount call now => cases (start_reply h (fun h => by cases h)).1
  | countSessions call =>
    rw [step] at h
    split at h <;> cases h
  | raises call =>
    rw [step] at h
    split at h
    · exact ((abort_reply ..).1 _ h).elim
    · cases h

theorem logout_reply {w : World} {e : Event} (h : (w.step sessionTtlSeconds e).1 = .logout true) :
    ∃ call cookie t id r, e = .logout call cookie t ∧ parseId cookie = some id ∧
      w.shell.sessions.get? id = some r ∧ digest t ∈ r.csrfDigests ∧
        (w.step sessionTtlSeconds e).2.history = .loggedOut id t :: w.history := by
  cases e with
  | beginLogin call now => cases (start_reply h (fun h => by cases h)).1
  | issueChallenge call id t' =>
    rw [step] at h
    split at h
    · exact ((addChallenge_reply ..).2 _ h).elim
    · cases h
  | authenticateLogin =>
    obtain ⟨_, _, hr⟩ := authenticateLogin_reply _ h (fun h => by cases h) (fun h => by cases h)
    cases hr
  | exchangeBootstrap call exchanged =>
    rw [step] at h
    split at h
    · cases exchanged <;> cases h
    · cases h
  | installSession call t' =>
    rw [step] at h
    split at h
    · exact ((installSession_reply ..).2 _ h).elim
    · cases h
  | view call cookie =>
    have hk := (start_reply h (fun h => by cases h)).1
    dsimp only at hk
    split at hk
    · cases hk
    · split at hk <;> cases hk
  | authenticateSession call now denied =>
    rw [step] at h
    split at h
    · split_ifs at h
    · cases h
  | dropSession call =>
    rw [step] at h
    split at h <;> cases h
  | issueForm call t' =>
    rw [step] at h
    split at h
    · split at h <;> cases h
    · cases h
  | logout call cookie t =>
    obtain ⟨hk, heq⟩ := start_reply h (fun h => by cases h)
    rw [step, heq]
    dsimp only at hk ⊢
    split at hk
    · cases hk
    · next id hid =>
      split at hk
      · cases hk
      · next r hr =>
        split_ifs at hk with ht
        · refine ⟨call, cookie, t, id, r, rfl, hid, hr, ht, ?_⟩
          rw [if_pos ht]
          rfl
        · cases hk
  | activeSessionCount call now => cases (start_reply h (fun h => by cases h)).1
  | countSessions call =>
    rw [step] at h
    split at h <;> cases h
  | raises call =>
    rw [step] at h
    split at h
    · exact ((abort_reply ..).2 _ h).elim
    · cases h

end World

end MyCogni.Web
