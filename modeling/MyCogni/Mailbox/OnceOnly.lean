import MyCogni.Mailbox.History

/-! One action is delivered once and one result is committed once in the life of a record, and
the identifier of a collected record is refused until its tombstone may expire. -/

namespace MyCogni.Mailbox
variable {cfg : Config} {s s' : Repository} {i : Call × Env} {out : Outcome} {id : Uuid}
  {r r' : Record}

/-- The call took the action under `id` out of the mailbox. -/
def ClaimTakesEffect (cfg : Config) (s : Repository) (i : Call × Env) (id : Uuid) : Prop :=
  ∃ r r', s.records.get? id = some r ∧ r.state = .offered ∧
    (apply cfg s i).2.records.get? id = some r' ∧ r'.state = .claimedOnce

/-- The call committed a result under `id`. -/
def CommitTakesEffect (cfg : Config) (s : Repository) (i : Call × Env) (id : Uuid) : Prop :=
  ∃ r r', s.records.get? id = some r ∧ r.state = .claimedOnce ∧
    (apply cfg s i).2.records.get? id = some r' ∧ r'.state = .resultCommitted

theorem guarded_eq_ok {env : Env} {point : CrashPoint} {x : Outcome} {v : Reply}
    (h : guarded env point x = .ok v) : x = .ok v := by
  unfold guarded at h
  split_ifs at h
  exact h

theorem claimedAction_make_ok {c : ClaimedFields} {v : Reply}
    (h : (ClaimedAction.make c).map Reply.claimed = .ok v) :
    ∃ action, v = .claimed action ∧ action.toClaimedFields = c := by
  unfold ClaimedAction.make at h
  split_ifs at h with hvalid
  · exact ⟨⟨c, hvalid⟩, (Except.ok.inj h).symm, rfl⟩
  · cases h

theorem committedBundle_make_ok {c : BundleFields} {v : Reply}
    (h : (CommittedBundle.make c).map Reply.bundle = .ok v) :
    ∃ bundle, v = .bundle bundle ∧ bundle.toBundleFields = c := by
  unfold CommittedBundle.make at h
  split_ifs at h with hvalid
  · exact ⟨⟨c, hvalid⟩, (Except.ok.inj h).symm, rfl⟩
  · cases h

/-! ### Replies and effects -/

/-- An action is only ever returned by the claim that takes it out. -/
theorem claim_of_reply {action : ClaimedAction} (h : (apply cfg s i).1 = .ok (.claimed action)) :
    ClaimTakesEffect cfg s i action.binding.mailboxId := by
  have hstep := apply_step cfg s i
  unfold ClaimTakesEffect
  generalize (apply cfg s i).2 = s' at hstep ⊢
  rw [h] at hstep
  generalize hout : (Except.ok (.claimed action) : Outcome) = out at hstep
  cases hstep with
  | @claimed b d env r m now e key rc access _ hb hstate =>
    obtain ⟨action', haction, hfields⟩ := claimedAction_make_ok (guarded_eq_ok hout.symm)
    obtain rfl := Reply.claimed.inj haction
    have hbinding : action.binding = b := congrArg ClaimedFields.binding hfields
    rw [hbinding]
    exact ⟨r, r.afterClaim now, access.found, hstate, Dict.get?_set_self .., rfl⟩
  | staged => exact nomatch guarded_eq_ok hout.symm
  | committed => exact nomatch guarded_eq_ok hout.symm
  | acknowledged => exact nomatch guarded_eq_ok hout.symm
  | delivered =>
    obtain ⟨bundle, hbundle, -⟩ := committedBundle_make_ok hout.symm
    exact nomatch hbundle
  | _ => exact nomatch hout

/-- A claim whose reply was lost behind the commit point took effect all the same. -/
theorem claim_of_crash (h : (apply cfg s i).1 = .error (.injectedCrash .afterClaimCommit)) :
    ∃ b d, i.1 = .claim b d ∧ ClaimTakesEffect cfg s i b.mailboxId := by
  have hstep := apply_step cfg s i
  unfold ClaimTakesEffect
  generalize (apply cfg s i).2 = s' at hstep ⊢
  rw [h] at hstep
  generalize hout : (Except.error (.injectedCrash .afterClaimCommit) : Outcome) = out at hstep
  cases hstep with
  | refused hplain =>
    obtain rfl := Except.error.inj hout
    rcases hplain with hplain | hcreate
    · exact absurd hplain (by decide)
    · exact nomatch hcreate.1
  | @claimed b d env r m now e key rc access _ hb hstate =>
    exact ⟨b, d, rfl, r, r.afterClaim now, access.found, hstate, Dict.get?_set_self .., rfl⟩
  | staged => rcases guarded_eq_error hout.symm with h | h <;> exact nomatch h
  | committed => rcases guarded_eq_error hout.symm with h | h <;> exact nomatch h
  | acknowledged => rcases guarded_eq_error hout.symm with h | h <;> exact nomatch h
  | delivered => exact nomatch committedBundle_make_error hout.symm
  | _ => exact nomatch hout

/-- A commit that is answered with success, or crashes behind its commit point, took effect. -/
theorem commit_of_reply {b : ActionBinding} {d j : Bytes} {seals : List EvidenceSeal} {env : Env}
    (h : (∃ v, (apply cfg s (.commitResult b d j seals, env)).1 = .ok v) ∨
      (apply cfg s (.commitResult b d j seals, env)).1 =
        .error (.injectedCrash .afterResultCommit)) :
    CommitTakesEffect cfg s (.commitResult b d j seals, env) b.mailboxId := by
  have hstep := apply_step cfg s (.commitResult b d j seals, env)
  unfold CommitTakesEffect
  generalize (apply cfg s (.commitResult b d j seals, env)).2 = s' at hstep ⊢
  generalize (apply cfg s (.commitResult b d j seals, env)).1 = out at hstep h
  cases hstep with
  | refused hplain =>
    rcases h with ⟨v, hv⟩ | h
    · exact nomatch hv
    · obtain rfl := Except.error.inj h
      rcases hplain with hplain | hcreate
      · exact absurd hplain (by decide)
      · exact nomatch hcreate.1
  | lapsed =>
    rcases h with ⟨v, hv⟩ | h
    · exact nomatch hv
    · exact nomatch h
  | committed access _ hstate => exact ⟨_, _, access.found, hstate, Dict.get?_set_self .., rfl⟩

/-! ### Spent actions -/

/-- The action has left the mailbox and nothing of it is retained. -/
def Record.spent (r : Record) : Prop :=
  r.state ≠ .empty ∧ r.state ≠ .offered ∧ r.envelopeJson = none ∧ r.actionKey = none ∧
    r.resultCredential = none

theorem Evolves.spent (h : Evolves i id r r') (hr : r.spent) : r'.spent := by
  obtain ⟨hempty, hoffered, he, hk, hc⟩ := hr
  cases h with
  | same => exact ⟨hempty, hoffered, he, hk, hc⟩
  | seen => exact ⟨hempty, hoffered, he, hk, hc⟩
  | closed _ _ hend =>
    rcases hend with ⟨rfl, -⟩ | ⟨rfl, -⟩ <;>
      exact ⟨by simp [Record.closed], by simp [Record.closed], rfl, rfl, rfl⟩
  | offered _ _ _ _ _ h => exact absurd h hempty
  | claimed _ _ _ h => exact absurd h hoffered
  | staged => exact ⟨hempty, hoffered, he, hk, hc⟩
  | committed => exact ⟨by simp [Record.committedWith], by simp [Record.committedWith], he, hk, hc⟩
  | delivering => exact ⟨hempty, hoffered, he, hk, hc⟩
  | acknowledged => exact ⟨hempty, hoffered, he, hk, hc⟩

theorem Evolves.spent_of_claim (h : Evolves i id r r') (hr : r.state = .offered)
    (hr' : r'.state = .claimedOnce) : r'.spent := by
  cases h with
  | same => simp [hr] at hr'
  | seen => simp [Record.seen, hr] at hr'
  | closed _ _ hend => rcases hend with ⟨rfl, -⟩ | ⟨rfl, -⟩ <;> simp [Record.closed] at hr'
  | offered => simp [Record.offeredWith] at hr'
  | claimed => exact ⟨by simp [Record.afterClaim], by simp [Record.afterClaim], rfl, rfl, rfl⟩
  | staged _ _ h => simp [hr] at h
  | committed _ _ _ _ _ h => simp [hr] at h
  | delivering _ h => simp [hr] at h
  | acknowledged _ _ h => simp [hr] at h

theorem ClaimTakesEffect.spent (h : ClaimTakesEffect cfg s i id) :
    ∃ r', (apply cfg s i).2.records.get? id = some r' ∧ r'.spent := by
  obtain ⟨r, r', hr, hstate, hr', hstate'⟩ := h
  rcases apply_record cfg s i hr with ⟨r'', hr'', hevolves⟩ | hcollected
  · obtain rfl := Option.some.inj (hr'.symm.trans hr'')
    exact ⟨r', hr', hevolves.spent_of_claim hstate hstate'⟩
  · obtain ⟨_, _, _, _, _, _, _, _, _, hnone, _⟩ := hcollected
    exact absurd (hr'.symm.trans hnone) (by simp)

theorem Evolves.committed_stays (h : Evolves i id r r') (hr : r.state = .resultCommitted) :
    r'.state = .resultCommitted := by
  cases h with
  | same => exact hr
  | seen => exact hr
  | closed _ hopen => simp [hr, MailboxState.isOpen] at hopen
  | offered _ _ _ _ _ h => simp [hr] at h
  | claimed _ _ _ h => simp [hr] at h
  | staged _ _ h => simp [hr] at h
  | committed => rfl
  | delivering => exact hr
  | acknowledged => exact hr

/-! ### Barred identifiers -/

/-- The identifier has no record and a tombstone that expires at `e`, or time has passed `e`. -/
def Barred (e : Datetime) (id : Uuid) (s : Repository) : Prop :=
  (s.records.get? id = none ∧ ∃ t, s.tombstones.get? id = some t ∧ t.expiresAt = e) ∨
    ∃ t, s.installationLastSeenUtc = some t ∧ e ≤ t

/-- A call that does anything to a named mailbox finds its record, or no tombstone. -/
theorem Step.target_found (h : Step cfg s i out s') (ht : i.1.target = some id) :
    (s' = s ∧ ∃ e, out = .error e) ∨ s.records.get? id ≠ none ∨ s.tombstones.get? id = none := by
  have hfound : ∀ {r : Record} {m : List EvidenceUpload × Option Bytes} {now : Datetime}
      {id' : Uuid} {env : Env}, Access cfg s env id' r m now → some id' = some id →
      s.records.get? id ≠ none := by
    intro r m now id' env access hid
    rw [← Option.some.inj hid, access.found]
    simp
  cases h with
  | refused => exact Or.inl ⟨rfl, _, rfl⟩
  | created _ _ _ htomb =>
    obtain rfl := Option.some.inj ht
    exact Or.inr (Or.inr htomb)
  | lapsed ht' _ access => exact Or.inr (Or.inl (hfound access (ht'.symm.trans ht)))
  | swept => exact nomatch ht
  | collected => exact nomatch ht
  | viewed access => exact Or.inr (Or.inl (hfound access ht))
  | offered access => exact Or.inr (Or.inl (hfound access ht))
  | claimed access => exact Or.inr (Or.inl (hfound access ht))
  | staged access => exact Or.inr (Or.inl (hfound access ht))
  | committed access => exact Or.inr (Or.inl (hfound access ht))
  | delivered access => exact Or.inr (Or.inl (hfound access ht))
  | acknowledgedAgain access => exact Or.inr (Or.inl (hfound access ht))
  | acknowledged access => exact Or.inr (Or.inl (hfound access ht))
  | abandoned access => exact Or.inr (Or.inl (hfound access ht))

/-- An identifier under a tombstone gains no record and loses the tombstone only to time. -/
theorem Step.tombstoned (h : Step cfg s i out s') (hnone : s.records.get? id = none)
    {t : Tombstone} (htomb : s.tombstones.get? id = some t) :
    (s'.records.get? id = none ∧ s'.tombstones.get? id = some t) ∨
      ∃ now, s'.installationLastSeenUtc = some now ∧ t.expiresAt ≤ now := by
  have hreplace : ∀ {r r' : Record} {m : List EvidenceUpload × Option Bytes} {now : Datetime}
      {id' : Uuid} {env : Env}, Access cfg s env id' r m now →
      (s.records.set id' r').get? id = none := by
    intro r r' m now id' env access
    have hid : id ≠ id' := by
      rintro rfl
      exact absurd (access.found.symm.trans hnone) (by simp)
    rw [Dict.get?_set_ne _ _ hid, hnone]
  cases h with
  | refused => exact Or.inl ⟨hnone, htomb⟩
  | @created b a c k env now _ _ _ htomb' =>
    refine Or.inl ⟨?_, htomb⟩
    have hid : id ≠ b.mailboxId := by
      rintro rfl
      exact absurd (htomb.symm.trans htomb') (by simp)
    exact (Dict.get?_set_ne _ _ hid).trans hnone
  | lapsed _ _ access => exact Or.inl ⟨hreplace access, htomb⟩
  | viewed access => exact Or.inl ⟨hreplace access, htomb⟩
  | offered access => exact Or.inl ⟨hreplace access, htomb⟩
  | claimed access => exact Or.inl ⟨hreplace access, htomb⟩
  | staged access => exact Or.inl ⟨hreplace access, htomb⟩
  | committed access => exact Or.inl ⟨hreplace access, htomb⟩
  | delivered access => exact Or.inl ⟨hreplace access, htomb⟩
  | acknowledgedAgain access => exact Or.inl ⟨hreplace access, htomb⟩
  | acknowledged access => exact Or.inl ⟨hreplace access, htomb⟩
  | abandoned access => exact Or.inl ⟨hreplace access, htomb⟩
  | swept _ _ _ _ hswept htombs =>
    refine Or.inl ⟨?_, htombs ▸ htomb⟩
    rw [hswept.records, hnone]
    rfl
  | @collected d env now expiresAt removed s' _ _ _ _ _ hdue hswept htombs =>
    by_cases hlt : now < t.expiresAt
    · refine Or.inl ⟨by rw [hswept.records, hnone]; rfl, ?_⟩
      have hid : id ∉ removed := by
        intro hmem
        obtain ⟨r, hr, -⟩ := hdue id hmem
        exact absurd (hr.symm.trans hnone) (by simp)
      rw [htombs, if_neg hid, htomb]
      simp [hlt]
    · exact Or.inr ⟨now, hswept.time, not_lt.mp hlt⟩

theorem Step.barred {e : Datetime} (h : Step cfg s i out s') (hs : Barred e id s) :
    Barred e id s' := by
  rcases hs with ⟨hnone, t, htomb, rfl⟩ | ⟨t, ht, hle⟩
  · rcases h.tombstoned hnone htomb with ⟨hnone', htomb'⟩ | hpast
    · exact Or.inl ⟨hnone', t, htomb', rfl⟩
    · exact Or.inr hpast
  · obtain ⟨t', ht', hle'⟩ := h.noEarlier t ht
    exact Or.inr ⟨t', ht', hle.trans hle'⟩

theorem Step.barred_refused {e : Datetime} (h : Step cfg s i out s') (hs : Barred e id s)
    (ht : i.1.target = some id) :
    (∃ now, i.2.clock = some now ∧ e ≤ now) ∨ s' = s ∧ ∃ f, out = .error f := by
  rcases h.notAfter with hrefused | ⟨now, hclock, hafter, -⟩
  · exact Or.inr hrefused
  · rcases hs with ⟨hnone, t, htomb, rfl⟩ | ⟨t, hlast, hle⟩
    · rcases h.target_found ht with hrefused | hrec | hgone
      · exact Or.inr hrefused
      · exact absurd hnone hrec
      · exact absurd (htomb.symm.trans hgone) (by simp)
    · exact Or.inl ⟨now, hclock, hle.trans (hafter t hlast)⟩

/-- In the life of a record its action is claimed at most once and gone from then on, and its
result is committed at most once; a collected identifier is refused for the whole retention. -/
theorem once_only (cfg : Config) (is : List (Call × Env)) (i : Call × Env) (id : Uuid) :
    let s := run (apply cfg) .empty is
    (∀ action, (apply cfg s i).1 = .ok (.claimed action) →
        ClaimTakesEffect cfg s i action.binding.mailboxId) ∧
      ((apply cfg s i).1 = .error (.injectedCrash .afterClaimCommit) →
        ∃ b d, i.1 = .claim b d ∧ ClaimTakesEffect cfg s i b.mailboxId) ∧
      (ClaimTakesEffect cfg s i id → ∀ js,
        let t := run (apply cfg) (apply cfg s i).2 js
        (∃ r, t.records.get? id = some r ∧ r.envelopeJson = none ∧ r.actionKey = none ∧
            r.resultCredential = none ∧ ∀ j, ¬ClaimTakesEffect cfg t j id ∧
              ∀ action, (apply cfg t j).1 = .ok (.claimed action) →
                action.binding.mailboxId ≠ id) ∨
          ∃ js₁ j js₂, js = js₁ ++ j :: js₂ ∧
            Collected cfg (run (apply cfg) (apply cfg s i).2 js₁) j id) ∧
      (∀ b d j seals env, i = (.commitResult b d j seals, env) →
        (∃ v, (apply cfg s i).1 = .ok v) ∨
          (apply cfg s i).1 = .error (.injectedCrash .afterResultCommit) →
        CommitTakesEffect cfg s i b.mailboxId) ∧
      (CommitTakesEffect cfg s i id → ∀ js,
        let t := run (apply cfg) (apply cfg s i).2 js
        (∃ r, t.records.get? id = some r ∧ r.state = .resultCommitted ∧
            ∀ j, ¬CommitTakesEffect cfg t j id) ∨
          ∃ js₁ j js₂, js = js₁ ++ j :: js₂ ∧
            Collected cfg (run (apply cfg) (apply cfg s i).2 js₁) j id) ∧
      (∀ now, i.2.clock = some now → Collected cfg s i id → ∀ js j, j.1.target = some id →
        let t := run (apply cfg) (apply cfg s i).2 js
        (∃ later, j.2.clock = some later ∧
            now.val + cfg.limits.tombstoneRetention ≤ later.val) ∨
          (apply cfg t j).2 = t ∧ ∃ e, (apply cfg t j).1 = .error e) := by
  intro s
  have hs : Coherent cfg s := coherent_run cfg is
  have hnext : Coherent cfg (apply cfg s i).2 := (apply_step cfg s i).coherent hs
  refine ⟨fun action h => claim_of_reply h, claim_of_crash, fun heffect js => ?_,
    fun b d j seals env hi h => ?_, fun heffect js => ?_, fun now hclock hcollected js j ht => ?_⟩
  · obtain ⟨r₀, hr₀, hspent⟩ := heffect.spent
    have huntil := record_until (q := fun _ _ => False) (p := Record.spent)
      (fun t j r₁ r₂ _ _ hp _ hevolves => Or.inl (hevolves.spent hp)) hnext hr₀ hspent js
    rcases huntil with ⟨r, hr, hspent⟩ | ⟨js₁, j, js₂, hsplit, -, h | h⟩
    · have hno : ∀ j, ¬ClaimTakesEffect cfg (run (apply cfg) (apply cfg s i).2 js) j id := by
        rintro j ⟨r₁, -, hr₁, hoffered, -⟩
        obtain rfl := Option.some.inj (hr.symm.trans hr₁)
        exact hspent.2.1 hoffered
      refine Or.inl ⟨r, hr, hspent.2.2.1, hspent.2.2.2.1, hspent.2.2.2.2, fun j => ⟨hno j, ?_⟩⟩
      rintro action haction rfl
      exact hno j (claim_of_reply haction)
    · exact Or.inr ⟨js₁, j, js₂, hsplit, h⟩
    · exact h.elim
  · subst hi
    exact commit_of_reply h
  · obtain ⟨-, r₀, -, -, hr₀, hcommitted⟩ := heffect
    have huntil := record_until (q := fun _ _ => False)
      (p := fun r => r.state = .resultCommitted)
      (fun t j r₁ r₂ _ _ hp _ hevolves => Or.inl (hevolves.committed_stays hp)) hnext hr₀
      hcommitted js
    rcases huntil with ⟨r, hr, hstate⟩ | ⟨js₁, j, js₂, hsplit, -, h | h⟩
    · refine Or.inl ⟨r, hr, hstate, ?_⟩
      rintro j ⟨r₁, -, hr₁, hclaimed, -⟩
      obtain rfl := Option.some.inj (hr.symm.trans hr₁)
      simp [hstate] at hclaimed
    · exact Or.inr ⟨js₁, j, js₂, hsplit, h⟩
    · exact h.elim
  · obtain ⟨_, _, now', expiresAt, _, hclock', _, _, hadd, hnone, htomb⟩ := hcollected
    obtain rfl := Option.some.inj (hclock.symm.trans hclock')
    have hexpires : now.val + cfg.limits.tombstoneRetention = expiresAt.val := by
      unfold Datetime.add at hadd
      split_ifs at hadd
      rw [← Option.some.inj hadd]
    have hbarred := run_invariant (fun t j h => (apply_step cfg t j).barred h) js
      (s := (apply cfg s i).2) (Or.inl ⟨hnone, _, htomb, rfl⟩ : Barred expiresAt id _)
    rcases (apply_step cfg _ j).barred_refused hbarred ht with ⟨later, hlater, hle⟩ | h
    · exact Or.inl ⟨later, hlater, hexpires ▸ hle⟩
    · exact Or.inr h

end MyCogni.Mailbox
