import MyCogni.Mailbox.Step

/-! Every call of the repository is a `Step`. -/

namespace MyCogni.Mailbox
variable {cfg : Config} {s : Repository} {env : Env}

theorem hit_eq_ok {point : CrashPoint} {u : Unit} :
    hit env point = .ok u ↔ env.crashes point = false := ensure_eq_ok

theorem hit_bind (point : CrashPoint) (x : Except Failure α) (f : α → Reply) :
    (hit env point >>= fun _ => x).map f = guarded env point (x.map f) := by
  unfold hit guarded ensure
  by_cases h : env.crashes point = true
  · rw [if_neg (by simp [h]), if_pos h]
    rfl
  · rw [if_pos (by simpa using h), if_neg h]
    rfl

/-! ### The states that the operations store -/

section
variable {now : Datetime}

theorem store_withEvidence (h : s.notAfter now) (id : Uuid) {r : Record}
    (hat : r.committedAt = none) (item : WrappedEvidence)
    (hnew : r.evidence.get? item.objectId = none) :
    { store id (observeTime (s, { r with evidence := r.evidence.set item.objectId item }) now) with
      totalEvidenceBytes := (store id (observeTime
        (s, { r with evidence := r.evidence.set item.objectId item }) now)).totalEvidenceBytes +
          item.byteCount } = s.replace id r (r.withEvidence item now) now := by
  have hactive : (r.withEvidence item now).activeBytes = r.activeBytes := rfl
  have hevidence : (r.withEvidence item now).evidenceBytes = r.evidenceBytes + item.byteCount :=
    Dict.sum_set_of_none hnew item WrappedEvidence.byteCount
  have hcommitted : (r.withEvidence item now).committedBytes = r.committedBytes := by
    simp [Record.committedBytes, Record.withEvidence, hat]
  unfold observeTime Repository.replace
  rw [advanceInstallationTime_eq h, hactive, hevidence, hcommitted]
  simp only [store, Record.withEvidence, sub_add_cancel]
  congr 1
  omega

theorem store_committedWith (h : s.notAfter now) (id : Uuid) {r : Record}
    (hat : r.committedAt = none) (item : WrappedResult) (manifest : CommittedEvidenceManifest) :
    { store id (observeTime (s, r.committedWith item manifest now) now) with
      totalCommittedBytes := (store id (observeTime
        (s, r.committedWith item manifest now) now)).totalCommittedBytes +
          (item.byteCount + r.evidenceBytes) } =
      s.replace id r (r.committedWith item manifest now) now := by
  have hactive : (r.committedWith item manifest now).activeBytes = r.activeBytes := rfl
  have hevidence : (r.committedWith item manifest now).evidenceBytes = r.evidenceBytes := rfl
  have hcommitted : (r.committedWith item manifest now).committedBytes =
      item.byteCount + r.evidenceBytes := by
    simp [Record.committedBytes, Record.committedWith, Record.resultBytes, Record.evidenceBytes]
  have hbefore : r.committedBytes = 0 := by
    simp [Record.committedBytes, hat]
  unfold observeTime Repository.replace
  rw [hactive, hevidence, hcommitted, hbefore]
  simp only [store, Record.committedWith, sub_add_cancel, sub_zero, advanceInstallationTime_eq h]

theorem store_acknowledged (h : s.notAfter now) (id : Uuid) (r : Record) :
    store id (observeTime ((releaseRecordPayloads (s, r)).1,
      { (releaseRecordPayloads (s, r)).2 with
        collectionState := .acknowledged
        terminalAt := some now }) now) = s.replace id r (r.acknowledged now) now := by
  have hactive : (r.acknowledged now).activeBytes = r.activeBytes := rfl
  have hevidence : (r.acknowledged now).evidenceBytes = 0 := rfl
  have hcommitted : (r.acknowledged now).committedBytes = 0 := by
    simp [Record.committedBytes, Record.acknowledged, Record.resultBytes, Record.evidenceBytes]
  have hafter : Repository.notAfter (releaseRecordPayloads (s, r)).1 now := h
  unfold observeTime Repository.replace
  rw [hactive, hevidence, hcommitted, advanceInstallationTime_eq hafter]
  simp only [store, releaseRecordPayloads, Record.acknowledged, Record.committedBytes,
    sub_add_cancel, add_zero]
  congr 1
  by_cases hc : r.committedAt = none <;> simp [hc]

end

theorem create_step (b : ActionBinding) (a c k : Bytes) :
    Step cfg s (.create b a c k, env) ((create cfg s b a c k env).1.map .snapshot)
      (create cfg s b a c k env).2 := by
  generalize hx : create cfg s b a c k env = x
  rcases attempt_cases hx with ⟨e, he, rfl⟩ | ⟨now, hok, rfl⟩
  · refine Step.refused ?_
    simp only [bind_eq_error_iff, ensure_eq_error, pure_ne_error] at he
    rcases he with he | ⟨_, -, he⟩
    · exact Or.inl (quiet_validatedInstallationNow _ _ _ he)
    · rcases he with ⟨-, rfl⟩ | ⟨_, -, ⟨-, rfl⟩ | ⟨_, -, ⟨-, rfl⟩ | ⟨_, -, ⟨-, rfl⟩ |
        ⟨_, -, ⟨-, rfl⟩ | ⟨_, -, ⟨-, rfl⟩ | ⟨_, -, ⟨-, rfl⟩ | ⟨_, -, h⟩⟩⟩⟩⟩⟩⟩
      · exact Or.inl rfl
      · exact Or.inl rfl
      · exact Or.inl rfl
      · exact Or.inl rfl
      · exact Or.inl rfl
      · exact Or.inl rfl
      · exact Or.inr ⟨rfl, rfl⟩
      · exact h.elim
  · simp only [bind_eq_ok_iff, validatedInstallationNow_eq_ok, ensure_eq_ok, pure_eq_ok_iff,
      exists_const, Dict.contains_eq_false, credentialInUse_eq_false] at hok
    obtain ⟨t, ⟨hclock, hafter⟩, hrec, htomb, hsize, hnodup, hmaint, hfresh, hlt, rfl⟩ := hok
    have hstate : Repository.notAfter (store b.mailboxId (s, Record.opened b a c k t)) t := hafter
    show Step cfg s _ _ (advanceInstallationTime (store b.mailboxId (s, .opened b a c k t)) t)
    rw [advanceInstallationTime_eq hstate]
    exact Step.created hclock hafter hrec htomb hsize hnodup hmaint
      (fun d hd id r hr => hfresh d hd id r hr (by simp)) hlt

/-- The exit that five operations share: the record is past its deadline. -/
theorem lapsed_step {i : Call × Env} {id : Uuid} {r : Record} {p : Focus}
    {m : List EvidenceUpload × Option Bytes} {now : Datetime} (ht : i.1.target = some id)
    (hl : i.1.lapses = true) (access : Access cfg s i.2 id r m now)
    (hp : expireIfDue (s, r) now = some p) :
    Step cfg s i (.error (.denied .expired)) (store id p) := by
  obtain ⟨r', hlapse, -, hstore⟩ := expireIfDue_some access.notAfter hp id
  rw [hstore]
  exact Step.lapsed ht hl access hlapse

theorem offer_step (b : ActionBinding) (e key a k rc rd : Bytes) :
    Step cfg s (.offer b e key a k rc rd, env)
      ((offer cfg s b e key a k rc rd env).1.map .snapshot)
      (offer cfg s b e key a k rc rd env).2 := by
  generalize hx : offer cfg s b e key a k rc rd env = x
  rcases attempt_cases hx with ⟨f, hf, rfl⟩ | ⟨⟨r, now⟩, hok, hk⟩
  · refine Step.refused (Or.inl ?_)
    refine quiet_bind (quiet_record s _) (fun _ => quiet_bind (quiet_ensure rfl) fun _ =>
      quiet_bind (quiet_ensure rfl) fun _ => quiet_bind (quiet_ensure rfl) fun _ =>
      quiet_bind (quiet_validatedRecordMaterial cfg _) fun _ =>
      quiet_bind (quiet_validatedRecordNow s _ _) fun _ => quiet_bind (quiet_ensure rfl) fun _ =>
      quiet_bind (quiet_ensure rfl) fun _ => quiet_bind (quiet_ensure rfl) fun _ =>
      quiet_pure _) f hf
  · simp only [bind_eq_ok_iff, record_eq_ok, requireBinding, requireCredential, ensure_eq_ok,
      validatedRecordNow_eq_ok, pure_eq_ok_iff, exists_const, credentialInUse_eq_false,
      Prod.mk.injEq] at hok
    obtain ⟨r', hr, hb, hcoll, hact, m, hm, now', ⟨hclock, hafter, hseen⟩, hnodup, hmaint, hfresh,
      rfl, rfl⟩ := hok
    have access : Access cfg s env b.mailboxId r' m now' := ⟨hr, hm, hclock, hafter, hseen⟩
    dsimp only at hk
    split at hk
    · next p hp =>
      subst hk
      exact lapsed_step (i := (.offer b e key a k rc rd, env)) rfl rfl access hp
    · next hp =>
      rcases attempt_cases hk with ⟨f, hf, rfl⟩ | ⟨_, hok, rfl⟩
      · exact Step.refused (Or.inl (quiet_bind (quiet_ensure rfl) (fun _ => quiet_ensure rfl) f hf))
      · simp only [bind_eq_ok_iff, ensure_eq_ok, exists_const] at hok
        have hdue := (expireIfDue_none hp).2 (by simp [hok.1, MailboxState.isOpen])
        simp only [Record.deadline, hok.1, hb, true_or, if_true] at hdue
        simp only [observeTime, advanceInstallationTime_eq hafter, store]
        refine Step.offered access hb hcoll hact hok.1 hdue hnodup hmaint ?_ hok.2
        intro id r hr hid
        exact hfresh id r hr (by simpa [hb] using hid)

theorem claim_step (b : ActionBinding) (d : Bytes) :
    Step cfg s (.claim b d, env) ((claim cfg s b d env).1.map .claimed)
      (claim cfg s b d env).2 := by
  generalize hx : claim cfg s b d env = x
  rcases attempt_cases hx with ⟨f, hf, rfl⟩ | ⟨⟨r, now⟩, hok, hk⟩
  · refine Step.refused (Or.inl ?_)
    exact quiet_bind (quiet_record s _) (fun _ => quiet_bind (quiet_ensure rfl) fun _ =>
      quiet_bind (quiet_ensure rfl) fun _ =>
      quiet_bind (quiet_validatedRecordMaterial cfg _) fun _ =>
      quiet_bind (quiet_validatedRecordNow s _ _) fun _ => quiet_pure _) f hf
  · simp only [bind_eq_ok_iff, record_eq_ok, requireBinding, requireCredential, ensure_eq_ok,
      validatedRecordNow_eq_ok, pure_eq_ok_iff, exists_const, Prod.mk.injEq] at hok
    obtain ⟨r', hr, hd, hb, m, hm, now', ⟨hclock, hafter, hseen⟩, rfl, rfl⟩ := hok
    have access : Access cfg s env b.mailboxId r' m now' := ⟨hr, hm, hclock, hafter, hseen⟩
    dsimp only at hk
    split at hk
    · next p hp =>
      subst hk
      exact lapsed_step (i := (.claim b d, env)) rfl rfl access hp
    · next hp =>
      rcases attempt_cases hk with ⟨f, hf, rfl⟩ | ⟨fields, hok, rfl⟩
      · refine Step.refused (Or.inl (quiet_bind (quiet_ensure rfl) (fun _ => ?_) f hf))
        split
        · exact quiet_bind (quiet_hit env rfl) fun _ => quiet_pure _
        · exact quiet_error.mpr rfl
      · simp only [bind_eq_ok_iff, ensure_eq_ok, exists_const] at hok
        obtain ⟨hstate, hok⟩ := hok
        split at hok
        · next e key rc he hkey hrc =>
          simp only [bind_eq_ok_iff, hit_eq_ok, pure_eq_ok_iff, exists_const] at hok
          obtain ⟨hbefore, rfl⟩ := hok
          have hdue := (expireIfDue_none hp).2 (by simp [hstate, MailboxState.isOpen])
          simp only [Record.deadline, hstate, hb, or_true, if_true] at hdue
          have hpost : store b.mailboxId (clearClaimDeliveryMaterial
              (observeTime (s, { r' with state := .claimedOnce }) now')) =
              s.replace b.mailboxId r' (r'.afterClaim now') now' := by
            have hweights : (r'.afterClaim now').activeBytes = 0 ∧
                (r'.afterClaim now').evidenceBytes = r'.evidenceBytes ∧
                (r'.afterClaim now').committedBytes = r'.committedBytes := ⟨rfl, rfl, rfl⟩
            unfold observeTime Repository.replace
            rw [advanceInstallationTime_eq hafter, hweights.1, hweights.2.1, hweights.2.2]
            simp only [store, clearClaimDeliveryMaterial, Record.afterClaim, add_zero,
              sub_add_cancel, Record.activeBytes]
          dsimp only
          rw [hpost, hit_bind, hb]
          exact Step.claimed access hd hb hstate hdue he hkey hrc hbefore
        · cases hok

theorem stageEvidence_step (b : ActionBinding) (d : Bytes) (u : EvidenceUpload) :
    Step cfg s (.stageEvidence b d u, env) ((stageEvidence cfg s b d u env).1.map .snapshot)
      (stageEvidence cfg s b d u env).2 := by
  generalize hx : stageEvidence cfg s b d u env = x
  rcases attempt_cases hx with ⟨f, hf, rfl⟩ | ⟨⟨r, now⟩, hok, hk⟩
  · refine Step.refused (Or.inl ?_)
    exact quiet_bind (quiet_record s _) (fun _ =>
      quiet_bind (quiet_requireResultAccess _ _ _) fun _ =>
      quiet_bind (quiet_validatedRecordMaterial cfg _) fun _ =>
      quiet_bind (quiet_validatedRecordNow s _ _) fun _ => quiet_pure _) f hf
  · simp only [bind_eq_ok_iff, record_eq_ok, requireResultAccess_eq_ok, validatedRecordNow_eq_ok,
      pure_eq_ok_iff, exists_const, Prod.mk.injEq] at hok
    obtain ⟨r', hr, ⟨hb, hstate, hd⟩, m, hm, now', ⟨hclock, hafter, hseen⟩, rfl, rfl⟩ := hok
    have access : Access cfg s env b.mailboxId r' m now' := ⟨hr, hm, hclock, hafter, hseen⟩
    dsimp only at hk
    split at hk
    · next p hp =>
      subst hk
      exact lapsed_step (i := (.stageEvidence b d u, env)) rfl rfl access hp
    · next hp =>
      rcases attempt_cases hk with ⟨f, hf, rfl⟩ | ⟨_, hok, rfl⟩
      · exact Step.refused (Or.inl (quiet_bind (quiet_ensure rfl) (fun _ =>
          quiet_bind (quiet_ensure rfl) fun _ => quiet_bind (quiet_ensure rfl) fun _ =>
          quiet_bind (quiet_ensure rfl) fun _ => quiet_bind (quiet_ensure rfl) fun _ =>
          quiet_bind (quiet_unwrap cfg _ _ _) fun _ => quiet_hit env rfl) f hf))
      · simp only [bind_eq_ok_iff, ensure_eq_ok, exists_const, hit_eq_ok,
          Dict.contains_eq_false] at hok
        obtain ⟨hnew, hcount, hbytes, hquota, hdigest, _, _, hbefore⟩ := hok
        have hdue := (expireIfDue_none hp).2 (by simp [hstate, MailboxState.isOpen])
        simp only [Record.deadline, hstate, hb, reduceCtorEq, or_self, if_false] at hdue
        have hat : r'.committedAt = none :=
          (validatedRecordMaterial_eq_ok.mp hm).committedAt_eq_none (by simp [hstate])
        have hpost := store_withEvidence hafter b.mailboxId hat
          (wrap cfg b.mailboxId u env.nonce) hnew
        dsimp only
        rw [hit_bind]
        rw [hb] at hbytes
        exact hpost ▸ Step.staged access hb hstate hd hdue hnew hcount hbytes hquota hdigest hbefore

theorem commitResult_step (b : ActionBinding) (d j : Bytes) (seals : List EvidenceSeal) :
    Step cfg s (.commitResult b d j seals, env)
      ((commitResult cfg s b d j seals env).1.map .snapshot)
      (commitResult cfg s b d j seals env).2 := by
  generalize hx : commitResult cfg s b d j seals env = x
  rcases attempt_cases hx with ⟨f, hf, rfl⟩ | ⟨⟨r, evidence, now⟩, hok, hk⟩
  · refine Step.refused (Or.inl ?_)
    exact quiet_bind (quiet_record s _) (fun _ =>
      quiet_bind (quiet_requireResultAccess _ _ _) fun _ =>
      quiet_bind (quiet_validatedRecordMaterial cfg _) fun _ =>
      quiet_bind (quiet_validatedRecordNow s _ _) fun _ => quiet_pure _) f hf
  · simp only [bind_eq_ok_iff, record_eq_ok, requireResultAccess_eq_ok, validatedRecordNow_eq_ok,
      pure_eq_ok_iff, exists_const, Prod.mk.injEq] at hok
    obtain ⟨r', hr, ⟨hb, hstate, hd⟩, m, hm, now', ⟨hclock, hafter, hseen⟩, rfl, rfl, rfl⟩ := hok
    have access : Access cfg s env b.mailboxId r' m now' := ⟨hr, hm, hclock, hafter, hseen⟩
    dsimp only at hk
    split at hk
    · next p hp =>
      subst hk
      exact lapsed_step (i := (.commitResult b d j seals, env)) rfl rfl access hp
    · next hp =>
      rcases attempt_cases hk with ⟨f, hf, rfl⟩ | ⟨⟨item, manifest⟩, hok, rfl⟩
      · exact Step.refused (Or.inl (quiet_bind (quiet_ensure rfl) (fun _ =>
          quiet_bind (quiet_ensure rfl) fun _ => quiet_bind (quiet_ensure rfl) fun _ =>
          quiet_bind (quiet_ensure rfl) fun _ => quiet_bind (quiet_ensure rfl) fun _ =>
          quiet_bind (quiet_bindingDigest _) fun _ =>
          quiet_bind (quiet_validateResultReferences cfg _ _ _) fun _ =>
          quiet_bind (quiet_buildCommittedManifest cfg _ _ _) fun _ =>
          quiet_bind (quiet_hit env rfl) fun _ => quiet_pure _) f hf))
      · simp only [bind_eq_ok_iff, ensure_eq_ok, exists_const, hit_eq_ok, pure_eq_ok_iff,
          Prod.mk.injEq, hb] at hok
        obtain ⟨_, _, _, hbytes, hquota, digest, hdigest, ⟨⟩, hrefs, manifest', hmanifest,
          hbefore, rfl, rfl⟩ := hok
        have hdue := (expireIfDue_none hp).2 (by simp [hstate, MailboxState.isOpen])
        simp only [Record.deadline, hstate, hb, reduceCtorEq, or_self, if_false] at hdue
        have hat : r'.committedAt = none :=
          (validatedRecordMaterial_eq_ok.mp hm).committedAt_eq_none (by simp [hstate])
        have hpost := store_committedWith hafter b.mailboxId hat
          (wrapResult cfg digest j env.nonce) manifest'
        dsimp only
        rw [hit_bind]
        exact hpost ▸ Step.committed access hb hstate hd hdue hbytes hquota hdigest hrefs hmanifest
          hbefore

theorem collect_step (id : Uuid) (d : Bytes) :
    Step cfg s (.collect id d, env) ((collect cfg s id d env).1.map .bundle)
      (collect cfg s id d env).2 := by
  generalize hx : collect cfg s id d env = x
  rcases attempt_cases hx with ⟨f, hf, rfl⟩ | ⟨⟨r, fields, now⟩, hok, rfl⟩
  · refine Step.refused (Or.inl ?_)
    refine quiet_bind (quiet_collectionAccess cfg s id d env) (fun x => ?_) f hf
    refine quiet_bind (quiet_ensure rfl) fun _ => quiet_bind (quiet_ensure rfl) fun _ =>
      quiet_bind (quiet_ensure rfl) fun _ => ?_
    split
    · exact quiet_error.mpr rfl
    · exact quiet_pure _
  · rw [bind_eq_ok_iff] at hok
    obtain ⟨⟨r', ⟨uploads, json⟩, now'⟩, haccess, hok⟩ := hok
    obtain ⟨access, hd⟩ := collectionAccess_eq_ok.mp haccess
    simp only [bind_eq_ok_iff, ensure_eq_ok, exists_const] at hok
    obtain ⟨_, ⟨hstate, hresult⟩, hcollection, hok⟩ := hok
    cases json with
    | none => exact nomatch hok
    | some j =>
      rw [pure_eq_ok_iff, Prod.mk.injEq, Prod.mk.injEq] at hok
      obtain ⟨rfl, rfl, rfl⟩ := hok
      have hpost : store id (observeTime (s, { r' with collectionState := .delivering }) now') =
          s.replace id r' (r'.delivering now') now' := store_seen access.notAfter id _
      dsimp only
      rw [hpost]
      exact Step.delivered access hd hstate hresult hcollection

theorem acknowledgeCollection_step (id : Uuid) (d : Bytes) :
    Step cfg s (.acknowledgeCollection id d, env)
      ((acknowledgeCollection cfg s id d env).1.map .snapshot)
      (acknowledgeCollection cfg s id d env).2 := by
  generalize hx : acknowledgeCollection cfg s id d env = x
  rcases attempt_cases hx with ⟨f, hf, rfl⟩ | ⟨⟨r, m, now⟩, hok, hk⟩
  · exact Step.refused (Or.inl (quiet_collectionAccess cfg s id d env f hf))
  · obtain ⟨access, hd⟩ := collectionAccess_eq_ok.mp hok
    dsimp only at hk access hd
    split_ifs at hk with hack
    · subst hk
      dsimp only
      rw [store_seen access.notAfter]
      exact Step.acknowledgedAgain access hd hack
    · rcases attempt_cases hk with ⟨f, hf, rfl⟩ | ⟨_, hok, rfl⟩
      · exact Step.refused (Or.inl (quiet_bind (quiet_ensure rfl)
          (fun _ => quiet_hit env rfl) f hf))
      · simp only [bind_eq_ok_iff, ensure_eq_ok, exists_const, hit_eq_ok] at hok
        obtain ⟨⟨hstate, hcollection⟩, hbefore⟩ := hok
        dsimp only
        rw [hit_bind, store_acknowledged access.notAfter]
        exact Step.acknowledged access hd hstate hcollection hbefore

theorem abandon_step (id : Uuid) (d : Bytes) :
    Step cfg s (.abandon id d, env) ((abandon cfg s id d env).1.map .snapshot)
      (abandon cfg s id d env).2 := by
  generalize hx : abandon cfg s id d env = x
  rcases attempt_cases hx with ⟨f, hf, rfl⟩ | ⟨⟨r, m, now⟩, hok, hk⟩
  · exact Step.refused (Or.inl (quiet_collectionAccess cfg s id d env f hf))
  · obtain ⟨access, hd⟩ := collectionAccess_eq_ok.mp hok
    dsimp only at hk access hd
    split at hk
    · next p hp =>
      subst hk
      exact lapsed_step (i := (.abandon id d, env)) rfl rfl access hp
    · next hp =>
      rcases attempt_cases hk with ⟨f, hf, rfl⟩ | ⟨_, hok, rfl⟩
      · exact Step.refused (Or.inl (quiet_ensure rfl f hf))
      · have hopen : r.state.isOpen = true := ensure_eq_ok.mp hok
        dsimp only
        rw [store_closed access.notAfter]
        exact Step.abandoned access hd hopen ((expireIfDue_none hp).2 hopen)

theorem snapshot_step (id : Uuid) (d : Bytes) :
    Step cfg s (.snapshot id d, env) ((snapshot cfg s id d env).1.map .snapshot)
      (snapshot cfg s id d env).2 := by
  generalize hx : snapshot cfg s id d env = x
  rcases attempt_cases hx with ⟨f, hf, rfl⟩ | ⟨⟨r, m, now⟩, hok, rfl⟩
  · exact Step.refused (Or.inl (quiet_collectionAccess cfg s id d env f hf))
  · obtain ⟨access, hd⟩ := collectionAccess_eq_ok.mp hok
    dsimp only at access hd ⊢
    cases hp : expireIfDue (s, r) now with
    | none =>
      rw [Option.getD_none, store_seen access.notAfter]
      exact Step.viewed access hd (Or.inr ⟨rfl, expireIfDue_none hp⟩)
    | some p =>
      obtain ⟨r', hlapse, hr', hstore⟩ := expireIfDue_some access.notAfter hp id
      rw [Option.getD_some, hstore, hr']
      exact Step.viewed access hd (Or.inl hlapse)

/-! ### Sweeps -/

theorem maintenanceAccess_eq_ok {d : Bytes} {now : Datetime} :
    maintenanceAccess cfg s d env = .ok now ↔
      cfg.maintenanceCredentialDigest = d ∧
        (∃ ms, s.records.values.mapM (validatedRecordMaterial cfg) = .ok ms) ∧
        env.clock = some now ∧ s.notAfter now ∧
        ∀ id r, s.records.get? id = some r → r.lastSeenUtc ≤ now := by
  unfold maintenanceAccess requireMaintenance requireCredential
  simp only [bind_eq_ok_iff, ensure_eq_ok, validatedInstallationNow_eq_ok, pure_eq_ok_iff,
    exists_const, Dict.mem_values]
  constructor
  · rintro ⟨hd, ms, hms, t, ⟨hclock, hafter⟩, hseen, rfl⟩
    exact ⟨hd, ⟨ms, hms⟩, hclock, hafter, fun id r hr => hseen r ⟨id, hr⟩⟩
  · rintro ⟨hd, ⟨ms, hms⟩, hclock, hafter, hseen⟩
    exact ⟨hd, ms, hms, now, ⟨hclock, hafter⟩, fun r ⟨id, hr⟩ => hseen id r hr, rfl⟩

section
variable {now : Datetime}

theorem expireStep_eq {acc : Repository × List Uuid} {e : Uuid × Record}
    (h : acc.1.notAfter now) :
    (expireStep now acc e).1 = acc.1.replace e.1 e.2 (e.2.swept now) now := by
  unfold expireStep
  cases hp : expireIfDue (acc.1, e.2) now with
  | none =>
    have hnot : ¬(e.2.state.isOpen = true ∧ e.2.deadline ≤ now) := fun hdue =>
      absurd ((expireIfDue_none hp).2 hdue.1) (not_lt.mpr hdue.2)
    rw [Record.swept, if_neg hnot]
    exact store_seen h e.1 e.2
  | some p =>
    dsimp only
    split_ifs with hstate
    · obtain ⟨r', hlapse, -, hstore⟩ := expireIfDue_some h hp e.1
      cases hlapse with
      | again hexpired => exact absurd hexpired hstate
      | due hopen hdue => rw [Record.swept, if_pos ⟨hopen, hdue⟩, ← hstore]
    · -- an expired record is observed twice
      have hexpired : e.2.state = .expired := not_not.mp hstate
      have hnot : ¬(e.2.state.isOpen = true ∧ e.2.deadline ≤ now) := by
        simp [hexpired, MailboxState.isOpen]
      rw [expireIfDue, if_pos hexpired] at hp
      obtain rfl := Option.some.inj hp
      rw [Record.swept, if_neg hnot, ← store_seen h]
      simp only [observeTime, advanceInstallationTime_eq h]
      rw [advanceInstallationTime_eq (by simp [Repository.notAfter])]

theorem expire_fold (es : List (Uuid × Record)) (hnodup : (es.map Prod.fst).Nodup)
    (acc : Repository × List Uuid) (hfound : ∀ e ∈ es, acc.1.records.get? e.1 = some e.2)
    (hafter : acc.1.notAfter now) :
    (∀ id, (es.foldl (expireStep now) acc).1.records.get? id =
        if id ∈ es.map Prod.fst then (acc.1.records.get? id).map (Record.swept now)
        else acc.1.records.get? id) ∧
      (es.foldl (expireStep now) acc).1.records.size = acc.1.records.size ∧
      (es.foldl (expireStep now) acc).1.tombstones = acc.1.tombstones ∧
      (es.foldl (expireStep now) acc).1.notAfter now ∧
      (es.foldl (expireStep now) acc).1.drift = acc.1.drift := by
  induction es generalizing acc with
  | nil => exact ⟨fun id => by simp, rfl, rfl, hafter, rfl⟩
  | cons e es ih =>
    rw [List.map_cons, List.nodup_cons] at hnodup
    have he := hfound e List.mem_cons_self
    have hstep := expireStep_eq (e := e) hafter
    have hrecords : ∀ id, (expireStep now acc e).1.records.get? id =
        if id = e.1 then some (e.2.swept now) else acc.1.records.get? id := by
      intro id
      rw [hstep]
      exact Dict.get?_set ..
    obtain ⟨hget, hsize, htomb, hnext, hdrift⟩ := ih hnodup.2 (expireStep now acc e)
      (by
        intro e' he'
        have hne : e'.1 ≠ e.1 := fun h => hnodup.1 (List.mem_map.mpr ⟨e', he', h⟩)
        rw [hrecords, if_neg hne]
        exact hfound e' (List.mem_cons_of_mem _ he'))
      (by rw [hstep]; simp [Repository.notAfter, Repository.replace])
    rw [List.foldl_cons]
    refine ⟨fun id => ?_, ?_, ?_, hnext, ?_⟩
    · rw [hget, hrecords]
      by_cases hid : id = e.1
      · subst hid
        rw [if_neg hnodup.1, if_pos rfl, if_pos (by simp), he]
        rfl
      · rw [if_neg hid]
        simp only [List.map_cons, List.mem_cons, hid, false_or]
    · rw [hsize, hstep]
      exact Dict.size_set_of_some he _
    · rw [htomb, hstep]
      rfl
    · rw [hdrift, hstep]
      exact drift_replace he _ _

theorem expire_step (d : Bytes) :
    Step cfg s (.expire d, env) ((expire cfg s d env).1.map .ids) (expire cfg s d env).2 := by
  generalize hx : expire cfg s d env = x
  rcases attempt_cases hx with ⟨f, hf, rfl⟩ | ⟨now, hok, rfl⟩
  · exact Step.refused (Or.inl (quiet_maintenanceAccess cfg s d env f hf))
  · obtain ⟨hd, -, hclock, hafter, hseen⟩ := maintenanceAccess_eq_ok.mp hok
    obtain ⟨hget, hsize, htomb, hnext, hdrift⟩ := expire_fold s.records.entries s.records.nodup
      (s, []) (fun e he => Dict.get?_eq_some.mpr he) hafter
    dsimp only
    rw [advanceInstallationTime_eq hnext]
    refine Step.swept hclock hafter hd.symm hseen ⟨fun id => ?_, hsize.le, rfl, hdrift⟩ htomb
    rw [hget]
    split_ifs with hid
    · exact Option.map_eq_bind
    · rw [Dict.get?_eq_none.mpr hid]
      rfl

/-- The records that a fold of collections removed, with what took their place. -/
structure Buried (cfg : Config) (s s' : Repository) (removed : List Uuid) (now expiresAt : Datetime) :
    Prop where
  records : ∀ id, s'.records.get? id = if id ∈ removed then none else s.records.get? id
  size : s'.records.size ≤ s.records.size
  tombstones : ∀ id, s'.tombstones.get? id =
    if id ∈ removed then some ⟨now, expiresAt⟩ else s.tombstones.get? id
  limit : s'.tombstones.size ≤ max cfg.limits.maxTombstones s.tombstones.size
  due : ∀ id ∈ removed, ∃ r, s.records.get? id = some r ∧ terminalDue cfg now r = true
  time : s'.installationLastSeenUtc = s.installationLastSeenUtc
  drift : s'.drift = s.drift

theorem drift_discard {id : Uuid} {r : Record} (h : s.records.get? id = some r)
    (tombstones : Dict Uuid Tombstone) :
    Repository.drift { (discardRecord (s, r)).1 with
      records := s.records.erase id
      tombstones := tombstones } = s.drift := by
  simp only [Repository.drift, discardRecord, clearClaimDeliveryMaterial, releaseRecordPayloads,
    Dict.sum_erase_of_some h, Prod.mk.injEq, Record.committedBytes, Record.evidenceBytes,
    Record.resultBytes]
  refine ⟨by omega, by omega, ?_⟩
  by_cases hc : r.committedAt = none
  · simp [hc]
  · simp only [ne_eq, hc, not_false_eq_true, if_true]
    omega

theorem gcStep_buried (cfg : Config) (now expiresAt : Datetime) {acc : Repository × List Uuid} {e : Uuid × Record}
    (h : acc.1.records.get? e.1 = some e.2) :
    gcStep cfg now expiresAt acc e = acc ∨
      ∃ s', gcStep cfg now expiresAt acc e = (s', acc.2 ++ [e.1]) ∧
        Buried cfg acc.1 s' [e.1] now expiresAt := by
  unfold gcStep
  split_ifs with hdue
  · refine Or.inr ⟨_, rfl, ?_⟩
    constructor
    · intro id
      exact (Dict.get?_erase acc.1.records e.1 id).trans (by simp)
    · exact Dict.size_erase_le ..
    · intro id
      exact (Dict.get?_set acc.1.tombstones e.1 ⟨now, expiresAt⟩ id).trans (by simp)
    · have hle : (acc.1.tombstones.set e.1 ⟨now, expiresAt⟩).size ≤ acc.1.tombstones.size + 1 := by
        cases ht : acc.1.tombstones.get? e.1 with
        | none => rw [Dict.size_set_of_none ht]
        | some t => rw [Dict.size_set_of_some ht]; omega
      show (acc.1.tombstones.set e.1 ⟨now, expiresAt⟩).size ≤ _
      omega
    · intro id hid
      rw [List.mem_singleton.mp hid]
      exact ⟨e.2, h, hdue.1⟩
    · rfl
    · exact drift_discard h _
  · exact Or.inl rfl

theorem gc_fold (cfg : Config) (now expiresAt : Datetime) (es : List (Uuid × Record))
    (hnodup : (es.map Prod.fst).Nodup) (acc : Repository × List Uuid)
    (hfound : ∀ e ∈ es, acc.1.records.get? e.1 = some e.2) :
    ∃ s' removed, es.foldl (gcStep cfg now expiresAt) acc = (s', acc.2 ++ removed) ∧
      (∀ id ∈ removed, id ∈ es.map Prod.fst) ∧
      Buried cfg acc.1 s' removed now expiresAt := by
  induction es generalizing acc with
  | nil =>
    refine ⟨acc.1, [], by simp, by simp, ?_⟩
    exact ⟨fun id => by simp, le_rfl, fun id => by simp, le_max_right _ _, by simp, rfl, rfl⟩
  | cons e es ih =>
    rw [List.map_cons, List.nodup_cons] at hnodup
    have hrest : ∀ e' ∈ es, e'.1 ≠ e.1 := fun e' he' h =>
      hnodup.1 (List.mem_map.mpr ⟨e', he', h⟩)
    rw [List.foldl_cons]
    rcases gcStep_buried cfg now expiresAt
        (hfound e List.mem_cons_self) with hstep | ⟨s₁, hstep, hone⟩
    · rw [hstep]
      obtain ⟨s', removed, hfold, hmem, hburied⟩ := ih hnodup.2 acc
        (fun e' he' => hfound e' (List.mem_cons_of_mem _ he'))
      exact ⟨s', removed, hfold, fun id hid => List.mem_cons_of_mem _ (hmem id hid), hburied⟩
    · rw [hstep]
      obtain ⟨s', removed, hfold, hmem, hburied⟩ := ih hnodup.2 (s₁, acc.2 ++ [e.1]) (by
        intro e' he'
        rw [hone.records, if_neg (by simpa using hrest e' he')]
        exact hfound e' (List.mem_cons_of_mem _ he'))
      refine ⟨s', e.1 :: removed, by rw [hfold]; simp, ?_, ?_⟩
      · intro id hid
        rcases List.mem_cons.mp hid with rfl | hid
        · exact List.mem_cons_self
        · exact List.mem_cons_of_mem _ (hmem id hid)
      · constructor
        · intro id
          rw [hburied.records, hone.records]
          by_cases h1 : id ∈ removed <;> by_cases h2 : id = e.1 <;> simp [h1, h2]
        · exact hburied.size.trans hone.size
        · intro id
          rw [hburied.tombstones, hone.tombstones]
          by_cases h1 : id ∈ removed <;> by_cases h2 : id = e.1 <;> simp [h1, h2]
        · have h1 := hburied.limit
          have h2 := hone.limit
          dsimp only at h1
          omega
        · intro id hid
          rcases List.mem_cons.mp hid with rfl | hid
          · exact hone.due _ (by simp)
          · obtain ⟨r, hr, hdue⟩ := hburied.due id hid
            have hne : id ≠ e.1 := fun h => hnodup.1 (h ▸ hmem id hid)
            rw [hone.records, if_neg (by simpa using hne)] at hr
            exact ⟨r, hr, hdue⟩
        · exact hburied.time.trans hone.time
        · exact hburied.drift.trans hone.drift

theorem garbageCollect_step (d : Bytes) :
    Step cfg s (.garbageCollect d, env) ((garbageCollect cfg s d env).1.map .ids)
      (garbageCollect cfg s d env).2 := by
  generalize hx : garbageCollect cfg s d env = x
  rcases attempt_cases hx with ⟨f, hf, rfl⟩ | ⟨⟨now, expiresAt⟩, hok, hk⟩
  · refine Step.refused (Or.inl ?_)
    refine quiet_bind (quiet_maintenanceAccess cfg s d env) (fun t => ?_) f hf
    split
    · exact quiet_error.mpr rfl
    · exact quiet_pure _
  · rw [bind_eq_ok_iff] at hok
    obtain ⟨t, hok, hadd⟩ := hok
    obtain ⟨hd, -, hclock, hafter, hseen⟩ := maintenanceAccess_eq_ok.mp hok
    split at hadd
    · exact nomatch hadd
    · next e he =>
      rw [pure_eq_ok_iff, Prod.mk.injEq] at hadd
      obtain ⟨rfl, rfl⟩ := hadd
      have hobserved : Repository.notAfter
          { s with records := s.records.mapValues fun r => r.seen t } t := hafter
      have hlive := advanceInstallationTime_eq hobserved
      dsimp only at hk
      rw [show (fun r : Record => { r with lastSeenUtc := t }) = fun r => r.seen t from rfl,
        hlive] at hk
      dsimp only at hk
      set live := s.records.mapValues fun r => r.seen t with hlivedef
      have hperm := List.perm_insertionSort (gcLe t) live.entries
      obtain ⟨s', removed, hfold, hmem, hburied⟩ := gc_fold cfg t e (live.entries.insertionSort (gcLe t))
        ((hperm.map Prod.fst).nodup_iff.mpr live.nodup)
        ({ s with
            records := live
            installationLastSeenUtc := some t
            tombstones := s.tombstones.filter fun _ t' => t < t'.expiresAt }, [])
        (fun e he => Dict.get?_eq_some.mpr (hperm.mem_iff.mp he))
      rw [hfold] at hk
      subst hk
      have hget : ∀ id, live.get? id = (s.records.get? id).map fun r => r.seen t :=
        fun id => Dict.get?_mapValues ..
      refine Step.collected hclock hafter hd.symm hseen he ?_
        ⟨fun id => ?_, ?_, hburied.time, ?_⟩ (fun id => ?_) ?_
      · intro id hid
        obtain ⟨r, hr, hdue⟩ := hburied.due id hid
        rw [hget] at hr
        obtain ⟨r₀, hr₀, rfl⟩ := Option.map_eq_some_iff.mp hr
        exact ⟨r₀, hr₀, hdue⟩
      · rw [hburied.records, hget]
        by_cases hid : id ∈ removed <;> cases s.records.get? id <;> simp [hid]
      · refine hburied.size.trans ?_
        simp [hlivedef]
      · rw [hburied.drift]
        simp only [Repository.drift, hlivedef, Dict.sum_mapValues]
        rfl
      · rw [hburied.tombstones, Dict.get?_filter]
        rfl
      · refine hburied.limit.trans (max_le_max le_rfl ?_)
        exact Dict.size_filter_le ..

end

/-- What one call can do. -/
theorem apply_step (cfg : Config) (s : Repository) (i : Call × Env) :
    Step cfg s i (apply cfg s i).1 (apply cfg s i).2 := by
  obtain ⟨call, env⟩ := i
  cases call with
  | create b a c k => exact create_step b a c k
  | offer b e key a k rc rd => exact offer_step b e key a k rc rd
  | claim b d => exact claim_step b d
  | stageEvidence b d u => exact stageEvidence_step b d u
  | commitResult b d j seals => exact commitResult_step b d j seals
  | collect id d => exact collect_step id d
  | acknowledgeCollection id d => exact acknowledgeCollection_step id d
  | abandon id d => exact abandon_step id d
  | expire d => exact expire_step d
  | garbageCollect d => exact garbageCollect_step d
  | snapshot id d => exact snapshot_step id d

end MyCogni.Mailbox
