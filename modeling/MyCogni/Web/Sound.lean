import MyCogni.Web.Sessions
import MyCogni.Web.Views

/-! The web shell under every schedule: its bounds, one exchange for a challenge at most, sessions
that come from an exchange, and form tokens that are seen and accepted for their own session. -/

namespace MyCogni.Web
open Auth

namespace World
variable (sessionTtlSeconds : Nat)

theorem bounded_after (es : List Event) : Bounded (after sessionTtlSeconds es).shell := by
  induction es using List.reverseRecOn with
  | nil => exact ⟨Nat.zero_le _, Nat.zero_le _, nofun⟩
  | append_singleton es e ih =>
    rw [after_concat]
    exact (step_move ..).bounded ih

theorem logins_after (es : List Event) (hd : Distinct (after sessionTtlSeconds es).history) :
    Logins (after sessionTtlSeconds es) := by
  induction es using List.reverseRecOn with
  | nil => exact ⟨nofun, nofun, nofun, fun ⟨_, _, h⟩ => (nomatch h),
    fun h => nomatch List.suffix_nil.mp h⟩
  | append_singleton es e ih =>
    have hl := ih (hd.suffix (after_history ..))
    rw [after_concat] at hd ⊢
    exact (step_move ..).logins hd hl

theorem visits_after (es : List Event) (hd : Distinct (after sessionTtlSeconds es).history) :
    Visits (after sessionTtlSeconds es) := by
  induction es using List.reverseRecOn with
  | nil => exact ⟨nofun, nofun, nofun, fun _ => rfl, fun ⟨_, h⟩ => (nomatch h),
    fun h => nomatch List.suffix_nil.mp h⟩
  | append_singleton es e ih =>
    have hv := ih (hd.suffix (after_history ..))
    rw [after_concat] at hd ⊢
    exact (step_move ..).visits hd hv

end World

/-- What holds of the shell after a schedule, and of the replies it gave. -/
structure Sound (sessionTtlSeconds : Nat) (es : List Event) : Prop where
  bounded : Bounded (World.after sessionTtlSeconds es).shell
  exchanged {id : OpaqueId} {t : Text} {now : Datetime} {earlier : List Entry} :
    (.exchangeCalled id t now :: earlier) <:+ (World.after sessionTtlSeconds es).history →
      (∃ expires, .challengeIssued id t expires ∈ earlier ∧ now < expires) ∧ ¬Called earlier id
  installed {id : OpaqueId} {r : Session} :
    (World.after sessionTtlSeconds es).shell.sessions.get? id = some r →
      r.credential.handle = id ∧
        .exchangeSucceeded r.credential ∈ (World.after sessionTtlSeconds es).history
  viewed {before rest : List Event} {e : Event} {t : Text} : es = before ++ e :: rest →
    ((World.after sessionTtlSeconds before).step sessionTtlSeconds e).1 = .view (some t) →
      ∃ call id r now first cookie between last, e = .issueForm call t ∧
        before = first ++ .view call cookie :: between ++
          .authenticateSession call now false :: last ∧
        parseId cookie = some id ∧
          (World.after sessionTtlSeconds first).shell.sessions.get? id = some r ∧
            now < r.expiresAtUtc
  loggedOut {before rest : List Event} {e : Event} : es = before ++ e :: rest →
    ((World.after sessionTtlSeconds before).step sessionTtlSeconds e).1 = .logout true →
      ∃ call cookie t id, e = .logout call cookie t ∧ parseId cookie = some id ∧
        t ∈ (forms (World.after sessionTtlSeconds before).history id).take maxCsrfTokens
  once {first between rest : List Event} {call call' : Nat} {cookie cookie' : Option Text}
    {t t' : Text} : es = first ++ .logout call cookie t :: between ++
      .logout call' cookie' t' :: rest →
    ((World.after sessionTtlSeconds first).step sessionTtlSeconds (.logout call cookie t)).1 =
      .logout true →
    ((World.after sessionTtlSeconds (first ++ .logout call cookie t :: between)).step
      sessionTtlSeconds (.logout call' cookie' t')).1 = .logout true →
    parseId cookie ≠ parseId cookie'

theorem mem_forms {history : List Entry} {id : OpaqueId} {t : Text} (h : t ∈ forms history id) :
    t ∈ history.flatMap Entry.tokens := by
  obtain ⟨entry, hmem, heq⟩ := List.mem_filterMap.mp h
  refine List.mem_flatMap.mpr ⟨entry, hmem, ?_⟩
  cases entry with
  | formIssued id' t' =>
    dsimp only at heq
    split_ifs at heq
    cases heq
    exact List.mem_singleton_self t
  | _ => cases heq

theorem Distinct.exchanged {id : OpaqueId} {t t' : Text} {now expires : Datetime}
    {earlier : List Entry} (hd : Distinct (.exchangeCalled id t now :: earlier))
    (hmem : .challengeIssued id t' expires ∈ earlier) (heq : digest t' = digest t) : t' = t := by
  refine hd.digests t' ?_ t (List.mem_append_left _ (List.mem_singleton_self t)) heq
  exact List.mem_append_right _ (List.mem_flatMap.mpr ⟨_, hmem, List.mem_singleton_self t'⟩)

theorem Distinct.loggedOut {id : OpaqueId} {t : Text} {earlier : List Entry}
    (hd : Distinct (.loggedOut id t :: earlier)) (h : digest t ∈ lastDigests earlier id) :
    t ∈ (forms earlier id).take maxCsrfTokens := by
  obtain ⟨t', hmem, heq⟩ := List.mem_map.mp (List.mem_reverse.mp h)
  have hin : t' ∈ earlier.flatMap Entry.tokens := mem_forms (List.mem_of_mem_take hmem)
  have hsame : t' = t :=
    hd.digests t' (List.mem_append_right _ hin) t
      (List.mem_append_left _ (List.mem_singleton_self t)) heq
  exact hsame ▸ hmem

theorem shell_sound (sessionTtlSeconds : Nat) (es : List Event)
    (hd : Distinct (World.after sessionTtlSeconds es).history) : Sound sessionTtlSeconds es where
  bounded := World.bounded_after sessionTtlSeconds es
  exchanged h := by
    obtain ⟨⟨t', expires, hmem, heq, hlt⟩, hnot⟩ := (World.logins_after _ es hd).past h
    have hsame := (hd.suffix h).exchanged hmem heq
    exact ⟨⟨expires, hsame ▸ hmem, hlt⟩, hnot⟩
  installed hr := ((World.visits_after _ es hd).stored hr).1
  viewed heq h := by
    obtain ⟨call, id, rfl, hcall⟩ := World.view_reply _ h
    obtain ⟨first, cookie, between, now, last, r, hbefore, hid, hr, hnow⟩ :=
      World.issuing_after _ hcall
    exact ⟨call, id, r, now, first, cookie, between, last, rfl, hbefore, hid, hr, hnow⟩
  loggedOut {before rest e} heq h := by
    obtain ⟨call, cookie, t, id, r, rfl, hid, hr, ht, hhistory⟩ := World.logout_reply _ h
    have hsuffix : (World.after sessionTtlSeconds (before ++ [.logout call cookie t])).history <:+
        (World.after sessionTtlSeconds es).history := by
      have hsplit : es = before ++ [.logout call cookie t] ++ rest := by
        rw [heq, ← List.append_cons]
      rw [hsplit]
      exact World.after_history ..
    have hdistinct := hd.suffix hsuffix
    rw [World.after_concat, hhistory] at hdistinct
    obtain ⟨-, hdigests, -⟩ := (World.visits_after _ before hdistinct.tail).stored hr
    exact ⟨call, cookie, t, id, rfl, hid, hdistinct.loggedOut (hdigests ▸ ht)⟩
  once {first between rest call call' cookie cookie' t t'} heq h h' hcookie := by
    obtain ⟨_, _, _, id, r, he, hid, -, -, hhistory⟩ := World.logout_reply _ h
    cases he
    obtain ⟨_, _, _, id', r', he', hid', hr', -, -⟩ := World.logout_reply _ h'
    cases he'
    cases hid.symm.trans (hcookie.trans hid')
    have hsuffix := World.after_history sessionTtlSeconds
      (first ++ .logout call cookie t :: between) (.logout call' cookie' t' :: rest)
    rw [← heq] at hsuffix
    -- the first logout is on the record, and the session it ended is there again
    have hleft : Left (World.after sessionTtlSeconds
        (first ++ .logout call cookie t :: between)).history id := by
      rw [List.append_cons]
      refine ⟨t, (World.after_history ..).subset ?_⟩
      rw [World.after_concat, hhistory]
      exact List.mem_cons_self
    exact ((World.visits_after _ _ (hd.suffix hsuffix)).stored hr').2.2 hleft

namespace Sample

def id (n : UInt8) : OpaqueId := .ofByte n

def credential (n : UInt8) : OpaqueCredential := ⟨id n, List.replicate 32 n⟩

def time (n : Fin 1000) : Datetime := .early n

/-- A login, a view in a second tab while another login begins, and a logout. -/
def evening : List Event :=
  [.beginLogin 0 (time 0), .issueChallenge 0 (id 1) "a".toList,
    .authenticateLogin 1 (some (id 1).str) "a".toList (credential 2).operatorCode (time 1),
    .exchangeBootstrap 1 (.ok (credential 3)), .installSession 1 "b".toList,
    .view 2 (some (id 3).str), .beginLogin 3 (time 2), .authenticateSession 2 (time 2) false,
    .issueChallenge 3 (id 4) "c".toList, .issueForm 2 "d".toList]

def leave : Event := .logout 4 (some (id 3).str) "d".toList

theorem shell_sound_evening :
    ((World.after 60 evening).step 60 leave).1 = .logout true ∧ Sound 60 (evening ++ [leave]) := by
  refine ⟨by decide +kernel, shell_sound 60 (evening ++ [leave]) ⟨?_, ?_, ?_⟩⟩
  · decide +kernel
  · decide +kernel
  · decide +kernel

end Sample

end MyCogni.Web
