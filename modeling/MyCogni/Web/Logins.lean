import MyCogni.Web.Moves

/-! The record of the web shell, its bounds, and its challenges: each leads to one exchange at
most, with its own form token and before its expiry. -/

namespace MyCogni.Web
open Auth

/-! ### The record -/

section History
variable (history : List Entry)

def issuedIds : List OpaqueId :=
  history.filterMap fun
    | .challengeIssued id _ _ => some id
    | _ => none

def openedIds : List OpaqueId :=
  history.filterMap fun
    | .exchangeSucceeded credential => some credential.handle
    | _ => none

/-- The form tokens of a session, the newest first. -/
def forms (sessionId : OpaqueId) : List Text :=
  history.filterMap fun
    | .formIssued id t => if id = sessionId then some t else none
    | _ => none

def Entry.tokens : Entry → List Text
  | .challengeIssued _ t _ => [t]
  | .exchangeCalled _ t _ => [t]
  | .exchangeSucceeded _ => []
  | .formIssued _ t => [t]
  | .loggedOut _ t => [t]

/-- No identifier was handed out twice, and no two tokens share a digest. -/
structure Distinct : Prop where
  issued : (issuedIds history).Nodup
  opened : (openedIds history).Nodup
  digests : ∀ t ∈ history.flatMap Entry.tokens, ∀ t' ∈ history.flatMap Entry.tokens,
    digest t = digest t' → t = t'

def Called (id : OpaqueId) : Prop := ∃ t now, .exchangeCalled id t now ∈ history

def Left (id : OpaqueId) : Prop := ∃ t, .loggedOut id t ∈ history

end History

theorem mem_issuedIds {history : List Entry} {id : OpaqueId} :
    id ∈ issuedIds history ↔ ∃ t expires, .challengeIssued id t expires ∈ history := by
  rw [issuedIds, List.mem_filterMap]
  constructor
  · rintro ⟨e, he, h⟩
    cases e <;> cases h
    exact ⟨_, _, he⟩
  · rintro ⟨t, expires, h⟩
    exact ⟨_, h, rfl⟩

theorem mem_openedIds {history : List Entry} {id : OpaqueId} :
    id ∈ openedIds history ↔
      ∃ credential, .exchangeSucceeded credential ∈ history ∧ credential.handle = id := by
  rw [openedIds, List.mem_filterMap]
  constructor
  · rintro ⟨e, he, h⟩
    cases e <;> cases h
    exact ⟨_, he, rfl⟩
  · rintro ⟨credential, h, rfl⟩
    exact ⟨_, h, rfl⟩

theorem Distinct.tail {entry : Entry} {history : List Entry} (h : Distinct (entry :: history)) :
    Distinct history where
  issued := h.issued.sublist ((List.sublist_cons_self ..).filterMap _)
  opened := h.opened.sublist ((List.sublist_cons_self ..).filterMap _)
  digests t ht t' ht' := by
    refine h.digests t ?_ t' ?_
    · exact List.mem_append_right _ ht
    · exact List.mem_append_right _ ht'

theorem Distinct.suffix {history earlier : List Entry} (hs : earlier <:+ history)
    (h : Distinct history) : Distinct earlier := by
  obtain ⟨later, rfl⟩ := hs
  induction later with
  | nil => exact h
  | cons entry later ih => exact ih h.tail

theorem Distinct.not_issued {id : OpaqueId} {t : Text} {expires : Datetime} {history : List Entry}
    (h : Distinct (.challengeIssued id t expires :: history)) : id ∉ issuedIds history :=
  (List.nodup_cons.mp h.issued).1

theorem Distinct.not_opened {credential : OpaqueCredential} {history : List Entry}
    (h : Distinct (.exchangeSucceeded credential :: history)) :
    credential.handle ∉ openedIds history :=
  (List.nodup_cons.mp h.opened).1

/-! ### Bounds -/

structure Bounded (s : Shell) : Prop where
  challenges : s.challenges.size ≤ maxLoginChallenges
  sessions : s.sessions.size ≤ maxSessions
  tokens {id : OpaqueId} {r : Session} :
    s.sessions.get? id = some r → r.csrfDigests.length ≤ maxCsrfTokens

theorem length_lastTokens_le (digests : List Bytes) :
    (lastTokens digests).length ≤ maxCsrfTokens := by
  rw [lastTokens, List.length_drop]
  omega

theorem Bounded.within {s' s : Shell} (h : s'.Within s) (hb : Bounded s) : Bounded s' where
  challenges := h.challenges_size.trans hb.challenges
  sessions := h.sessions_size.trans hb.sessions
  tokens hr := hb.tokens (h.sessions hr)

theorem Bounded.addChallenge {s : Shell} (hb : Bounded s) (c : LoginChallenge) :
    Bounded (s.addChallenge c) where
  challenges := by
    have hlt := s.challenges.size_makeRoom_lt (show 0 < maxLoginChallenges by decide)
    exact (Dict.size_set_le ..).trans hlt
  sessions := hb.sessions
  tokens := hb.tokens

theorem Bounded.installSession {s : Shell} (hb : Bounded s) {r : Session}
    (hr : r.csrfDigests.length ≤ maxCsrfTokens) : Bounded (s.installSession r) where
  challenges := hb.challenges
  sessions := by
    have hlt := s.sessions.size_makeRoom_lt (show 0 < maxSessions by decide)
    exact (Dict.size_set_le ..).trans hlt
  tokens h := by
    rw [Shell.installSession, Dict.get?_set] at h
    split_ifs at h
    · cases h
      exact hr
    · exact hb.tokens (Dict.get?_of_makeRoom h)

theorem Bounded.addToken {s : Shell} (hb : Bounded s) {id : OpaqueId} {r : Session}
    (hr : s.sessions.get? id = some r) (t : Text) : Bounded (s.addToken id r t) where
  challenges := hb.challenges
  sessions := (Dict.size_set_of_some hr _).trans_le hb.sessions
  tokens h := by
    rw [Shell.addToken, Dict.get?_set] at h
    split_ifs at h
    · cases h
      exact length_lastTokens_le _
    · exact hb.tokens h

theorem Move.bounded {w w' : World} (hm : Move w w') (hb : Bounded w.shell) :
    Bounded w'.shell := by
  cases hm with
  | quiet hshell => exact hb.within hshell
  | issue hshell => rw [hshell]; exact hb.addChallenge _
  | take _ _ _ hshell => rw [hshell]; exact hb.within (Shell.within_popChallenge ..)
  | refuse _ hshell => rwa [hshell]
  | succeed _ hshell => rwa [hshell]
  | install _ hshell => rw [hshell]; exact hb.installSession (show 1 ≤ maxCsrfTokens by decide)
  | form hr hshell => rw [hshell]; exact hb.addToken hr _
  | logout _ _ hshell => rw [hshell]; exact hb.within (Shell.within_popSession ..)

/-! ### Logins -/

/-- The challenge was issued with a token of this digest, and the reading is before its expiry. -/
def Asked (history : List Entry) (id : OpaqueId) (t : Text) (now : Datetime) : Prop :=
  ∃ t' expires, .challengeIssued id t' expires ∈ history ∧ digest t' = digest t ∧ now < expires

structure Logins (w : World) : Prop where
  stored {id : OpaqueId} {c : LoginChallenge} : w.shell.challenges.get? id = some c →
    (∃ t, .challengeIssued id t c.expiresAtUtc ∈ w.history ∧ c.csrfDigest = digest t) ∧
      ¬Called w.history id
  waiting {call : Nat} {id : OpaqueId} {t : Text} {code : OpaqueCredential} {now : Datetime} :
    w.stages call = some (.exchanging id t code now) →
      Asked w.history id t now ∧ ¬Called w.history id ∧ w.shell.challenges.get? id = none
  once {call call' : Nat} {id : OpaqueId} {t t' : Text} {code code' : OpaqueCredential}
    {now now' : Datetime} : w.stages call = some (.exchanging id t code now) →
      w.stages call' = some (.exchanging id t' code' now') → call = call'
  called {id : OpaqueId} : Called w.history id → id ∈ issuedIds w.history
  past {id : OpaqueId} {t : Text} {now : Datetime} {earlier : List Entry} :
    (.exchangeCalled id t now :: earlier) <:+ w.history →
      Asked earlier id t now ∧ ¬Called earlier id

theorem called_cons {entry : Entry} {history : List Entry} {id : OpaqueId} :
    Called (entry :: history) id ↔
      (∃ t now, entry = .exchangeCalled id t now) ∨ Called history id := by
  constructor
  · rintro ⟨t, now, h⟩
    rcases List.mem_cons.mp h with h | h
    · exact .inl ⟨t, now, h.symm⟩
    · exact .inr ⟨t, now, h⟩
  · rintro (⟨t, now, rfl⟩ | ⟨t, now, h⟩)
    · exact ⟨t, now, List.mem_cons_self⟩
    · exact ⟨t, now, List.mem_cons_of_mem _ h⟩

theorem Asked.cons {history : List Entry} {id : OpaqueId} {t : Text} {now : Datetime}
    (h : Asked history id t now) (entry : Entry) : Asked (entry :: history) id t now := by
  obtain ⟨t', expires, hmem, hd, hlt⟩ := h
  exact ⟨t', expires, List.mem_cons_of_mem _ hmem, hd, hlt⟩

theorem Asked.issued {history : List Entry} {id : OpaqueId} {t : Text} {now : Datetime}
    (h : Asked history id t now) : id ∈ issuedIds history := by
  obtain ⟨t', expires, hmem, -, -⟩ := h
  exact mem_issuedIds.mpr ⟨t', expires, hmem⟩

theorem issuedIds_cons_of_mem {history : List Entry} {id : OpaqueId} (entry : Entry)
    (h : id ∈ issuedIds history) : id ∈ issuedIds (entry :: history) := by
  obtain ⟨t, expires, hmem⟩ := mem_issuedIds.mp h
  exact mem_issuedIds.mpr ⟨t, expires, List.mem_cons_of_mem _ hmem⟩

theorem Calm.exchanging {stages' stages : Nat → Option Stage} (h : Calm stages' stages) {call : Nat}
    {id : OpaqueId} {t : Text} {code : OpaqueCredential} {now : Datetime}
    (hcall : stages' call = some (.exchanging id t code now)) :
    stages call = some (.exchanging id t code now) :=
  (h call _ hcall).resolve_left not_false

theorem Calm.installing {stages' stages : Nat → Option Stage} (h : Calm stages' stages) {call : Nat}
    {credential : OpaqueCredential} {now : Datetime}
    (hcall : stages' call = some (.installing credential now)) :
    stages call = some (.installing credential now) :=
  (h call _ hcall).resolve_left not_false

namespace Logins
variable {w w' : World}

theorem remembered (hl : Logins w) {entry : Entry}
    (hne : ∀ id t now, entry ≠ .exchangeCalled id t now) :
    Logins { w with history := entry :: w.history } where
  stored {id c} hc := by
    obtain ⟨⟨t, hmem, hd⟩, hnot⟩ := hl.stored hc
    refine ⟨⟨t, List.mem_cons_of_mem _ hmem, hd⟩, fun h => ?_⟩
    rcases called_cons.mp h with ⟨t, now, h⟩ | h
    · exact hne _ _ _ h
    · exact hnot h
  waiting hcall := by
    obtain ⟨hasked, hnot, hgone⟩ := hl.waiting hcall
    refine ⟨hasked.cons _, fun h => ?_, hgone⟩
    rcases called_cons.mp h with ⟨t, now, h⟩ | h
    · exact hne _ _ _ h
    · exact hnot h
  once := hl.once
  called h := by
    rcases called_cons.mp h with ⟨t, now, h⟩ | h
    · exact (hne _ _ _ h).elim
    · exact issuedIds_cons_of_mem _ (hl.called h)
  past h := by
    rcases List.suffix_cons_iff.mp h with h | h
    · exact (hne _ _ _ (List.cons.inj h).1.symm).elim
    · exact hl.past h

/-- Fewer challenges, and no new exchange. -/
theorem fewer (hl : Logins w) (hhistory : w'.history = w.history)
    (hchallenges : ∀ {id c}, w'.shell.challenges.get? id = some c →
      w.shell.challenges.get? id = some c)
    (hstages : ∀ {call id t code now}, w'.stages call = some (.exchanging id t code now) →
      w.stages call = some (.exchanging id t code now)) : Logins w' where
  stored hc := by
    rw [hhistory]
    exact hl.stored (hchallenges hc)
  waiting {call id t code now} hcall := by
    obtain ⟨hasked, hnot, hgone⟩ := hl.waiting (hstages hcall)
    rw [hhistory]
    refine ⟨hasked, hnot, ?_⟩
    cases hc : w'.shell.challenges.get? id with
    | none => rfl
    | some c => rw [hchallenges hc] at hgone; cases hgone
  once h h' := hl.once (hstages h) (hstages h')
  called := by
    rw [hhistory]
    exact hl.called
  past := by
    rw [hhistory]
    exact hl.past

theorem issue (hl : Logins w) {id : OpaqueId} {t : Text} {expires : Datetime}
    (hd : Distinct (.challengeIssued id t expires :: w.history)) :
    Logins { w with
      shell := w.shell.addChallenge ⟨id, digest t, expires⟩
      history := .challengeIssued id t expires :: w.history } := by
  have hnew := hd.not_issued
  have hr := hl.remembered (show ∀ id' t' now, Entry.challengeIssued id t expires ≠
    .exchangeCalled id' t' now from nofun)
  refine ⟨fun {id' c} hc => ?_, fun {call id' t' code now} hcall => ?_, hl.once, hr.called, hr.past⟩
  · change (Dict.set ..).get? id' = some c at hc
    rw [Dict.get?_set] at hc
    split_ifs at hc with h
    · cases hc
      subst h
      refine ⟨⟨t, List.mem_cons_self, rfl⟩, fun hcalled => ?_⟩
      rcases called_cons.mp hcalled with ⟨_, _, h⟩ | h
      · cases h
      · exact hnew (hl.called h)
    · exact hr.stored (Dict.get?_of_makeRoom hc)
  · obtain ⟨hasked, hnot, hgone⟩ := hr.waiting hcall
    refine ⟨hasked, hnot, ?_⟩
    change (Dict.set ..).get? id' = none
    have hne : id' ≠ id := by
      rintro rfl
      exact hnew (hl.waiting hcall).1.issued
    rw [Dict.get?_set_ne _ _ hne]
    cases hroom : (w.shell.challenges.makeRoom maxLoginChallenges).get? id' with
    | none => rfl
    | some c => rw [Dict.get?_of_makeRoom hroom] at hgone; cases hgone

theorem take (hl : Logins w) {call : Nat} {id : OpaqueId} {c : LoginChallenge} {t : Text}
    {code : OpaqueCredential} {now : Datetime} (hc : w.shell.challenges.get? id = some c)
    (hnow : now < c.expiresAtUtc) (ht : c.csrfDigest = digest t) :
    Logins { w with
      shell := w.shell.popChallenge id
      stages := Function.update w.stages call (some (.exchanging id t code now)) } := by
  obtain ⟨⟨t', hmem, hd⟩, hnot⟩ := hl.stored hc
  have hpop : (w.shell.popChallenge id).challenges.get? id = none := by
    rw [Shell.popChallenge, Dict.get?_erase, if_pos rfl]
  -- a call that is there already waits on another challenge
  have hother : ∀ {call' id' t' code' now'},
      w.stages call' = some (.exchanging id' t' code' now') → id' ≠ id := by
    rintro call' id' t' code' now' hcall rfl
    rw [(hl.waiting hcall).2.2] at hc
    cases hc
  refine ⟨fun {id' c'} hc' => ?_, fun {call' id' t' code' now'} hcall => ?_,
    fun {call₁ call₂ id' t₁ t₂ code₁ code₂ now₁ now₂} h₁ h₂ => ?_, hl.called, hl.past⟩
  · exact hl.stored ((Shell.within_popChallenge ..).challenges hc')
  · change Function.update _ _ _ _ = _ at hcall
    rw [Function.update_apply] at hcall
    split_ifs at hcall
    · cases hcall
      exact ⟨⟨t', _, hmem, hd.symm.trans ht, hnow⟩, hnot, hpop⟩
    · obtain ⟨hasked, hnot', hgone⟩ := hl.waiting hcall
      refine ⟨hasked, hnot', ?_⟩
      change (Dict.erase ..).get? id' = none
      rw [Dict.get?_erase, if_neg (hother hcall), hgone]
  · change Function.update _ _ _ _ = _ at h₁ h₂
    rw [Function.update_apply] at h₁ h₂
    split_ifs at h₁ h₂ with hcall₁ hcall₂ hcall₂
    · exact hcall₁.trans hcall₂.symm
    · cases h₁
      exact (hother h₂ rfl).elim
    · cases h₂
      exact (hother h₁ rfl).elim
    · exact hl.once h₁ h₂

theorem ask (hl : Logins w) {call : Nat} {id : OpaqueId} {t : Text} {code : OpaqueCredential}
    {now : Datetime} (hcall : w.stages call = some (.exchanging id t code now)) :
    Logins { w with
      stages := Function.update w.stages call none
      history := .exchangeCalled id t now :: w.history } := by
  obtain ⟨hasked, hnot, hgone⟩ := hl.waiting hcall
  have hback : ∀ {call' id' t' code' now'},
      Function.update w.stages call none call' = some (.exchanging id' t' code' now') →
        w.stages call' = some (.exchanging id' t' code' now') ∧ id' ≠ id := by
    intro call' id' t' code' now' h
    rw [Function.update_apply] at h
    split_ifs at h with hc
    refine ⟨h, ?_⟩
    rintro rfl
    exact hc (hl.once h hcall)
  have hcalled : ∀ {id'}, id' ≠ id → ¬Called w.history id' →
      ¬Called (.exchangeCalled id t now :: w.history) id' := by
    intro id' hne hn h
    rcases called_cons.mp h with ⟨_, _, h⟩ | h
    · cases h
      exact hne rfl
    · exact hn h
  refine ⟨fun {id' c'} hc' => ?_, fun {call' id' t' code' now'} h => ?_,
    fun h₁ h₂ => hl.once (hback h₁).1 (hback h₂).1, fun {id'} h => ?_, fun {id' t' now' earlier} h => ?_⟩
  · obtain ⟨⟨t', hmem, hd⟩, hn⟩ := hl.stored hc'
    refine ⟨⟨t', List.mem_cons_of_mem _ hmem, hd⟩, hcalled ?_ hn⟩
    rintro rfl
    rw [hgone] at hc'
    cases hc'
  · obtain ⟨hst, hne⟩ := hback h
    obtain ⟨hasked', hn, hgone'⟩ := hl.waiting hst
    exact ⟨hasked'.cons _, hcalled hne hn, hgone'⟩
  · rcases called_cons.mp h with ⟨_, _, h⟩ | h
    · cases h
      exact issuedIds_cons_of_mem _ hasked.issued
    · exact issuedIds_cons_of_mem _ (hl.called h)
  · rcases List.suffix_cons_iff.mp h with h | h
    · cases h
      exact ⟨hasked, hnot⟩
    · exact hl.past h

end Logins

theorem Move.logins {w w' : World} (hm : Move w w') (hd : Distinct w'.history) (hl : Logins w) :
    Logins w' := by
  cases hm with
  | quiet hshell hstages hhistory => exact hl.fewer hhistory hshell.challenges hstages.exchanging
  | issue hshell hstages hhistory =>
    rw [hhistory] at hd
    exact (hl.issue hd).fewer hhistory (by rw [hshell]; exact id) hstages.exchanging
  | take hc hnow ht hshell hstages hhistory =>
    exact (hl.take hc hnow ht).fewer hhistory (by rw [hshell]; exact id) (by rw [hstages]; exact id)
  | refuse hcall hshell hstages hhistory =>
    exact (hl.ask hcall).fewer hhistory (by rw [hshell]; exact id) (by rw [hstages]; exact id)
  | succeed hcall hshell hstages hhistory =>
    refine ((hl.ask hcall).remembered ?_).fewer hhistory (by rw [hshell]; exact id) ?_
    · exact nofun
    · intro call' id t code now h
      rw [hstages, Function.update_apply] at h
      change Function.update _ _ _ _ = _
      rw [Function.update_apply]
      split_ifs at h ⊢
      · cases h
      · exact h
  | install hcall hshell hstages hhistory =>
    refine (hl.remembered ?_).fewer hhistory (by rw [hshell]; exact id) ?_
    · exact nofun
    · rw [hstages]
      exact (Calm.leave _ _).exchanging
  | form hr hshell hstages hhistory =>
    refine (hl.remembered ?_).fewer hhistory (by rw [hshell]; exact id) hstages.exchanging
    exact nofun
  | logout hr ht hshell hstages hhistory =>
    refine (hl.remembered ?_).fewer hhistory (by rw [hshell]; exact id) hstages.exchanging
    exact nofun

end MyCogni.Web
