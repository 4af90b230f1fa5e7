import MyCogni.Web.Logins

/-! The sessions of the web shell: each comes from an exchange, and a form token is good for its own
session while it is one of the last four. -/

namespace MyCogni.Web
open Auth

/-- The digests of the last four form tokens, the oldest first. -/
def lastDigests (history : List Entry) (id : OpaqueId) : List Bytes :=
  (((forms history id).take maxCsrfTokens).map digest).reverse

structure Visits (w : World) : Prop where
  stored {id : OpaqueId} {r : Session} : w.shell.sessions.get? id = some r →
    (r.credential.handle = id ∧ .exchangeSucceeded r.credential ∈ w.history) ∧
      r.csrfDigests = lastDigests w.history id ∧ ¬Left w.history id
  waiting {call : Nat} {credential : OpaqueCredential} {now : Datetime} :
    w.stages call = some (.installing credential now) →
      .exchangeSucceeded credential ∈ w.history ∧ forms w.history credential.handle = [] ∧
        ¬Left w.history credential.handle ∧ w.shell.sessions.get? credential.handle = none
  once {call call' : Nat} {credential credential' : OpaqueCredential} {now now' : Datetime} :
    w.stages call = some (.installing credential now) →
      w.stages call' = some (.installing credential' now') →
        credential.handle = credential'.handle → call = call'
  formed {id : OpaqueId} : id ∉ openedIds w.history → forms w.history id = []
  left {id : OpaqueId} : Left w.history id → id ∈ openedIds w.history
  past {id : OpaqueId} {t : Text} {earlier : List Entry} :
    (.loggedOut id t :: earlier) <:+ w.history →
      digest t ∈ lastDigests earlier id ∧ ¬Left earlier id

theorem left_cons {entry : Entry} {history : List Entry} {id : OpaqueId} :
    Left (entry :: history) id ↔ (∃ t, entry = .loggedOut id t) ∨ Left history id := by
  constructor
  · rintro ⟨t, h⟩
    rcases List.mem_cons.mp h with h | h
    · exact .inl ⟨t, h.symm⟩
    · exact .inr ⟨t, h⟩
  · rintro (⟨t, rfl⟩ | ⟨t, h⟩)
    · exact ⟨t, List.mem_cons_self⟩
    · exact ⟨t, List.mem_cons_of_mem _ h⟩

theorem openedIds_cons_of_mem {history : List Entry} {id : OpaqueId} (entry : Entry)
    (h : id ∈ openedIds history) : id ∈ openedIds (entry :: history) := by
  obtain ⟨credential, hmem, hid⟩ := mem_openedIds.mp h
  exact mem_openedIds.mpr ⟨credential, List.mem_cons_of_mem _ hmem, hid⟩

theorem forms_cons {entry : Entry} (hne : ∀ id t, entry ≠ .formIssued id t) (history : List Entry)
    (id : OpaqueId) : forms (entry :: history) id = forms history id := by
  cases entry with
  | formIssued id' t => exact (hne id' t rfl).elim
  | _ => rfl

theorem forms_cons_self (history : List Entry) (id : OpaqueId) (t : Text) :
    forms (.formIssued id t :: history) id = t :: forms history id :=
  List.filterMap_cons_some (if_pos rfl)

theorem forms_cons_ne {id id' : OpaqueId} (hne : id' ≠ id) (history : List Entry) (t : Text) :
    forms (.formIssued id t :: history) id' = forms history id' :=
  List.filterMap_cons_none (if_neg hne.symm)

theorem lastTokens_reverse (digests : List Bytes) :
    lastTokens digests.reverse = (digests.take maxCsrfTokens).reverse := by
  have htake : digests.take (digests.length - (digests.length - maxCsrfTokens)) =
      digests.take maxCsrfTokens := by
    rw [List.take_eq_take_iff]
    omega
  rw [lastTokens, List.length_reverse, List.drop_reverse, htake]

theorem lastTokens_lastDigests (history : List Entry) (id : OpaqueId) (t : Text) :
    lastTokens (lastDigests history id ++ [digest t]) =
      lastDigests (.formIssued id t :: history) id := by
  have hlast : lastDigests history id ++ [digest t] =
      (digest t :: ((forms history id).take maxCsrfTokens).map digest).reverse :=
    List.reverse_cons.symm
  have htake : (digest t :: ((forms history id).take maxCsrfTokens).map digest).take maxCsrfTokens =
      ((t :: forms history id).take maxCsrfTokens).map digest := by
    simp only [maxCsrfTokens, List.take_succ_cons, ← List.map_take, List.take_take, List.map_cons]
    rfl
  rw [hlast, lastTokens_reverse, lastDigests, forms_cons_self, htake]

namespace Visits
variable {w w' : World}

theorem opened (hv : Visits w) {id : OpaqueId} {r : Session}
    (hr : w.shell.sessions.get? id = some r) : id ∈ openedIds w.history :=
  mem_openedIds.mpr ⟨r.credential, (hv.stored hr).1.2, (hv.stored hr).1.1⟩

theorem remembered (hv : Visits w) {entry : Entry} (hform : ∀ id t, entry ≠ .formIssued id t)
    (hleft : ∀ id t, entry ≠ .loggedOut id t) :
    Visits { w with history := entry :: w.history } := by
  have hstill : ∀ {id}, ¬Left w.history id → ¬Left (entry :: w.history) id := by
    intro id hn h
    rcases left_cons.mp h with ⟨t, h⟩ | h
    · exact hleft _ _ h
    · exact hn h
  have hdigests : ∀ id, lastDigests (entry :: w.history) id = lastDigests w.history id := by
    intro id
    rw [lastDigests, forms_cons hform]
    rfl
  refine ⟨fun hr => ?_, fun hcall => ?_, hv.once, fun h => ?_, fun h => ?_, fun h => ?_⟩
  · obtain ⟨⟨hid, hmem⟩, hd, hn⟩ := hv.stored hr
    exact ⟨⟨hid, List.mem_cons_of_mem _ hmem⟩, hd.trans (hdigests _).symm, hstill hn⟩
  · obtain ⟨hmem, hf, hn, hgone⟩ := hv.waiting hcall
    exact ⟨List.mem_cons_of_mem _ hmem, (forms_cons hform _ _).trans hf, hstill hn, hgone⟩
  · exact (forms_cons hform _ _).trans
      (hv.formed fun hmem => h (openedIds_cons_of_mem _ hmem))
  · rcases left_cons.mp h with ⟨t, h⟩ | h
    · exact (hleft _ _ h).elim
    · exact openedIds_cons_of_mem _ (hv.left h)
  · rcases List.suffix_cons_iff.mp h with h | h
    · exact (hleft _ _ (List.cons.inj h).1.symm).elim
    · exact hv.past h

/-- Fewer sessions, and no new installation. -/
theorem fewer (hv : Visits w) (hhistory : w'.history = w.history)
    (hsessions : ∀ {id r}, w'.shell.sessions.get? id = some r →
      w.shell.sessions.get? id = some r)
    (hstages : ∀ {call credential now}, w'.stages call = some (.installing credential now) →
      w.stages call = some (.installing credential now)) : Visits w' where
  stored hr := by
    rw [hhistory]
    exact hv.stored (hsessions hr)
  waiting {call credential now} hcall := by
    obtain ⟨hmem, hf, hn, hgone⟩ := hv.waiting (hstages hcall)
    rw [hhistory]
    refine ⟨hmem, hf, hn, ?_⟩
    cases hr : w'.shell.sessions.get? credential.handle with
    | none => rfl
    | some r => rw [hsessions hr] at hgone; cases hgone
  once h h' := hv.once (hstages h) (hstages h')
  formed := by
    rw [hhistory]
    exact hv.formed
  left := by
    rw [hhistory]
    exact hv.left
  past := by
    rw [hhistory]
    exact hv.past

/-- A session of the exchange that just succeeded, still to be installed. -/
theorem succeed (hv : Visits w) {call : Nat} {credential : OpaqueCredential} {now : Datetime}
    (hd : Distinct (.exchangeSucceeded credential :: w.history)) :
    Visits { w with
      stages := Function.update w.stages call (some (.installing credential now))
      history := .exchangeSucceeded credential :: w.history } := by
  have hnew := hd.not_opened
  have hr := @remembered w hv (.exchangeSucceeded credential) nofun nofun
  have hother : ∀ {call' credential' now'},
      w.stages call' = some (.installing credential' now') →
        credential'.handle ≠ credential.handle := by
    intro call' credential' now' hcall heq
    exact hnew (mem_openedIds.mpr ⟨credential', (hv.waiting hcall).1, heq⟩)
  refine ⟨hr.stored, fun {call' credential' now'} hcall => ?_,
    fun {call₁ call₂ credential₁ credential₂ now₁ now₂} h₁ h₂ heq => ?_, hr.formed, hr.left,
    hr.past⟩
  · change Function.update _ _ _ _ = _ at hcall
    rw [Function.update_apply] at hcall
    split_ifs at hcall
    · cases hcall
      refine ⟨List.mem_cons_self, ?_, fun h => ?_, ?_⟩
      · rw [forms_cons]
        · exact hv.formed hnew
        · exact nofun
      · rcases left_cons.mp h with ⟨t, h⟩ | h
        · cases h
        · exact hnew (hv.left h)
      · cases hs : w.shell.sessions.get? credential.handle with
        | none => rfl
        | some r => exact (hnew (hv.opened hs)).elim
    · exact hr.waiting hcall
  · change Function.update _ _ _ _ = _ at h₁ h₂
    rw [Function.update_apply] at h₁ h₂
    split_ifs at h₁ h₂ with hcall₁ hcall₂ hcall₂
    · exact hcall₁.trans hcall₂.symm
    · cases h₁
      exact (hother h₂ heq.symm).elim
    · cases h₂
      exact (hother h₁ heq).elim
    · exact hv.once h₁ h₂ heq

/-- A form token is issued for a session that has been opened. -/
theorem issued (hv : Visits w) {id : OpaqueId} {t : Text} {r : Session}
    (hr : w'.shell.sessions.get? id = some r) (hhandle : r.credential.handle = id)
    (hsucceeded : .exchangeSucceeded r.credential ∈ w.history)
    (hdigests : r.csrfDigests = lastDigests (.formIssued id t :: w.history) id)
    (hleft : ¬Left w.history id)
    (hsessions : ∀ {id' r}, id' ≠ id → w'.shell.sessions.get? id' = some r →
      w.shell.sessions.get? id' = some r)
    (hstages : ∀ {call credential now}, w'.stages call = some (.installing credential now) →
      w.stages call = some (.installing credential now) ∧ credential.handle ≠ id)
    (hhistory : w'.history = .formIssued id t :: w.history) : Visits w' := by
  have hstill : ∀ {id'}, ¬Left w.history id' → ¬Left w'.history id' := by
    intro id' hn h
    rw [hhistory] at h
    rcases left_cons.mp h with ⟨t, h⟩ | h
    · cases h
    · exact hn h
  have hforms : ∀ {id'}, id' ≠ id → forms w'.history id' = forms w.history id' := by
    intro id' hne
    rw [hhistory, forms_cons_ne hne]
  have hmem : ∀ {entry}, entry ∈ w.history → entry ∈ w'.history := by
    intro entry h
    rw [hhistory]
    exact List.mem_cons_of_mem _ h
  have hid : id ∈ openedIds w.history := mem_openedIds.mpr ⟨r.credential, hsucceeded, hhandle⟩
  refine ⟨fun {id' r'} hr' => ?_, fun {call credential now} hcall => ?_,
    fun h₁ h₂ => hv.once (hstages h₁).1 (hstages h₂).1, fun {id'} h => ?_, fun {id'} h => ?_,
    fun {id' t' earlier} h => ?_⟩
  · by_cases hne : id' = id
    · subst hne
      cases hr.symm.trans hr'
      exact ⟨⟨hhandle, hmem hsucceeded⟩, hdigests.trans (by rw [hhistory]), hstill hleft⟩
    · obtain ⟨⟨hhandle, hsucceeded⟩, hdigests, hn⟩ := hv.stored (hsessions hne hr')
      refine ⟨⟨hhandle, hmem hsucceeded⟩, hdigests.trans ?_, hstill hn⟩
      rw [lastDigests, lastDigests, hforms hne]
  · obtain ⟨hst, hne⟩ := hstages hcall
    obtain ⟨hsucceeded, hf, hn, hgone⟩ := hv.waiting hst
    refine ⟨hmem hsucceeded, (hforms hne).trans hf, hstill hn, ?_⟩
    cases hr : w'.shell.sessions.get? credential.handle with
    | none => rfl
    | some r => rw [hsessions hne hr] at hgone; cases hgone
  · rw [hhistory] at h
    have hnot : id' ∉ openedIds w.history := fun hin => h (openedIds_cons_of_mem _ hin)
    have hne : id' ≠ id := fun heq => hnot (heq ▸ hid)
    exact (hforms hne).trans (hv.formed hnot)
  · rw [hhistory] at h ⊢
    rcases left_cons.mp h with ⟨_, h⟩ | h
    · cases h
    · exact openedIds_cons_of_mem _ (hv.left h)
  · rw [hhistory] at h
    rcases List.suffix_cons_iff.mp h with h | h
    · cases h
    · exact hv.past h

theorem leave (hv : Visits w) {id : OpaqueId} {r : Session} {t : Text}
    (hr : w.shell.sessions.get? id = some r) (ht : digest t ∈ r.csrfDigests) :
    Visits { w with
      shell := w.shell.popSession id
      history := .loggedOut id t :: w.history } := by
  obtain ⟨-, hdigests, hleft⟩ := hv.stored hr
  have hstill : ∀ {id'}, id' ≠ id → ¬Left w.history id' →
      ¬Left (.loggedOut id t :: w.history) id' := by
    intro id' hne hn h
    rcases left_cons.mp h with ⟨t, h⟩ | h
    · cases h
      exact hne rfl
    · exact hn h
  have hforms := forms_cons (show ∀ id' t', Entry.loggedOut id t ≠ .formIssued id' t' from nofun)
    w.history
  refine ⟨fun {id' r'} hr' => ?_, fun {call credential now} hcall => ?_, hv.once,
    fun {id'} h => ?_, fun {id'} h => ?_, fun {id' t' earlier} h => ?_⟩
  · change (Dict.erase ..).get? id' = some r' at hr'
    rw [Dict.get?_erase] at hr'
    split_ifs at hr' with hne
    obtain ⟨⟨hhandle, hsucceeded⟩, hd, hn⟩ := hv.stored hr'
    refine ⟨⟨hhandle, List.mem_cons_of_mem _ hsucceeded⟩, hd.trans ?_, hstill hne hn⟩
    rw [lastDigests, lastDigests, hforms]
  · obtain ⟨hsucceeded, hf, hn, hgone⟩ := hv.waiting hcall
    have hne : credential.handle ≠ id := by
      rintro rfl
      rw [hgone] at hr
      cases hr
    refine ⟨List.mem_cons_of_mem _ hsucceeded, (hforms _).trans hf, hstill hne hn, ?_⟩
    change (Dict.erase ..).get? _ = none
    rw [Dict.get?_erase, if_neg hne, hgone]
  · exact (hforms _).trans (hv.formed fun hin => h (openedIds_cons_of_mem _ hin))
  · rcases left_cons.mp h with ⟨_, h⟩ | h
    · cases h
      exact openedIds_cons_of_mem _ (hv.opened hr)
    · exact openedIds_cons_of_mem _ (hv.left h)
  · rcases List.suffix_cons_iff.mp h with h | h
    · cases h
      rw [← hdigests]
      exact ⟨ht, hleft⟩
    · exact hv.past h

end Visits

theorem Move.visits {w w' : World} (hm : Move w w') (hd : Distinct w'.history) (hv : Visits w) :
    Visits w' := by
  cases hm with
  | quiet hshell hstages hhistory => exact hv.fewer hhistory hshell.sessions hstages.installing
  | issue hshell hstages hhistory =>
    refine (hv.remembered ?_ ?_).fewer hhistory (by rw [hshell]; exact id) hstages.installing
    · exact nofun
    · exact nofun
  | take hc hnow ht hshell hstages hhistory =>
    refine hv.fewer hhistory (by rw [hshell]; exact id) ?_
    intro call' credential now h
    rw [hstages, Function.update_apply] at h
    split_ifs at h
    · cases h
    · exact h
  | refuse hcall hshell hstages hhistory =>
    refine (hv.remembered ?_ ?_).fewer hhistory (by rw [hshell]; exact id) ?_
    · exact nofun
    · exact nofun
    · rw [hstages]
      exact (Calm.leave _ _).installing
  | succeed hcall hshell hstages hhistory =>
    rw [hhistory] at hd
    refine (Visits.succeed (hv.remembered ?_ ?_) hd).fewer hhistory (by rw [hshell]; exact id)
      (by rw [hstages]; exact id)
    · exact nofun
    · exact nofun
  | @install call credential now t expires hcall hshell hstages hhistory =>
    obtain ⟨hsucceeded, hf, hn, -⟩ := hv.waiting hcall
    have hr : w'.shell.sessions.get? credential.handle =
        some ⟨credential, [digest t], expires⟩ := by
      rw [hshell]
      exact Dict.get?_set_self ..
    refine hv.issued hr rfl hsucceeded ?_ hn ?_ ?_ hhistory
    · rw [lastDigests, forms_cons_self, hf]
      rfl
    · intro id' r hne hr
      rw [hshell] at hr
      exact Dict.get?_of_makeRoom ((Dict.get?_set_ne _ _ hne).symm.trans hr)
    · intro call' credential' now' h
      rw [hstages, Function.update_apply] at h
      split_ifs at h with hne
      exact ⟨h, fun heq => hne (hv.once h hcall heq)⟩
  | @form id r t hr hshell hstages hhistory =>
    obtain ⟨⟨hhandle, hsucceeded⟩, hdigests, hn⟩ := hv.stored hr
    have hset : w'.shell.sessions.get? id =
        some { r with csrfDigests := lastTokens (r.csrfDigests ++ [digest t]) } := by
      rw [hshell]
      exact Dict.get?_set_self ..
    refine hv.issued hset hhandle hsucceeded ?_ hn ?_ ?_ hhistory
    · rw [← lastTokens_lastDigests, ← hdigests]
    · intro id' r' hne hr'
      rw [hshell] at hr'
      exact (Dict.get?_set_ne _ _ hne).symm.trans hr'
    · intro call credential now h
      refine ⟨hstages.installing h, ?_⟩
      rintro rfl
      rw [(hv.waiting (hstages.installing h)).2.2.2] at hr
      cases hr
  | logout hr ht hshell hstages hhistory =>
    exact (hv.leave hr ht).fewer hhistory (by rw [hshell]; exact id) hstages.installing

end MyCogni.Web
