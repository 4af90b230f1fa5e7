import MyCogni.Mailbox.Coherence

/-! What a failed call leaves behind: nothing, an expired record, or the whole change. -/

namespace MyCogni.Mailbox
variable {cfg : Config} {s s' : Repository} {i : Call × Env} {out : Outcome}

/-- The same call with an injector that never raises. -/
def Env.uninjected (env : Env) : Env := { env with crashes := fun _ => false }

theorem guarded_eq_error {env : Env} {point : CrashPoint} {x : Outcome} {e : Failure}
    (h : guarded env point x = .error e) : e = .injectedCrash point ∨ x = .error e := by
  unfold guarded at h
  split_ifs at h
  · exact Or.inl (Except.error.inj h).symm
  · exact Or.inr h

theorem claimedAction_make_error {c : ClaimedFields} {e : Failure}
    (h : (ClaimedAction.make c).map Reply.claimed = .error e) : e = .valueError := by
  unfold ClaimedAction.make at h
  split_ifs at h
  · exact nomatch h
  · exact (Except.error.inj h).symm

theorem committedBundle_make_error {b : BundleFields} {e : Failure}
    (h : (CommittedBundle.make b).map Reply.bundle = .error e) : e = .valueError := by
  unfold CommittedBundle.make at h
  split_ifs at h
  · exact nomatch h
  · exact (Except.error.inj h).symm

/-- A failed call changed nothing, ended one record, or raised behind its mutation. -/
theorem Step.failure_cases {e : Failure} (h : Step cfg s i (.error e) s') :
    (s' = s ∧ (e.isPlain = true ∨ e = .denied .expired ∧ i.1.isCreate = true)) ∨
      (e = .denied .expired ∧ ∃ id r r' m now, i.1.target = some id ∧ i.1.lapses = true ∧
        Access cfg s i.2 id r m now ∧ Lapse now r r' ∧ s' = s.replace id r r' now) ∨
      (∃ point, e = .injectedCrash point ∧ i.1.afterPoint = some point) ∨ e = .valueError := by
  generalize hout : (Except.error e : Outcome) = out at h
  cases h with
  | refused h =>
    obtain rfl := Except.error.inj hout
    exact Or.inl ⟨rfl, h⟩
  | @lapsed _ id r r' m now ht hl access hlapse =>
    exact Or.inr (Or.inl ⟨Except.error.inj hout, id, r, r', m, now, ht, hl, access, hlapse, rfl⟩)
  | claimed =>
    rcases guarded_eq_error hout.symm with h | h
    · exact Or.inr (Or.inr (Or.inl ⟨_, h, rfl⟩))
    · exact Or.inr (Or.inr (Or.inr (claimedAction_make_error h)))
  | staged =>
    rcases guarded_eq_error hout.symm with h | h
    · exact Or.inr (Or.inr (Or.inl ⟨_, h, rfl⟩))
    · exact nomatch h
  | committed =>
    rcases guarded_eq_error hout.symm with h | h
    · exact Or.inr (Or.inr (Or.inl ⟨_, h, rfl⟩))
    · exact nomatch h
  | delivered => exact Or.inr (Or.inr (Or.inr (committedBundle_make_error hout.symm)))
  | acknowledged =>
    rcases guarded_eq_error hout.symm with h | h
    · exact Or.inr (Or.inr (Or.inl ⟨_, h, rfl⟩))
    · exact nomatch h
  | _ => exact nomatch hout

theorem afterPoint_isAfter {call : Call} {point : CrashPoint} (h : call.afterPoint = some point) :
    point.isAfter = true := by
  cases call <;> simp only [Call.afterPoint, Option.some.injEq, reduceCtorEq] at h
  all_goals exact h ▸ rfl

/-- A denial other than an expiry, or a crash before a commit point, changes nothing. -/
theorem Step.unchanged {e : Failure} (h : Step cfg s i (.error e) s') (he : e.isPlain = true)
    (hvalue : e ≠ .valueError) : s' = s := by
  rcases h.failure_cases with ⟨rfl, -⟩ | ⟨rfl, -⟩ | ⟨point, rfl, hpoint⟩ | rfl
  · rfl
  · exact absurd he (by decide)
  · simp [Failure.isPlain, afterPoint_isAfter hpoint] at he
  · exact absurd rfl hvalue

/-- All that an expiry takes from a record. -/
def Record.cleared (r : Record) : Prop :=
  r.envelopeJson = none ∧ r.actionKey = none ∧ r.resultCredential = none ∧
    r.resultCredentialDigest = none ∧ r.evidence = .empty ∧ r.resultEnvelope = none ∧
    r.committedEvidenceManifest = none

theorem lifecycle_expired {r : Record} (h : r.validLifecycle = true) (hstate : r.state = .expired) :
    r.cleared ∧ r.terminalAt ≠ none ∧ r.committedAt = none := by
  simp only [Record.validLifecycle, hstate, Record.noActive, Record.noCommitted, Bool.and_eq_true,
    decide_eq_true_eq] at h
  obtain ⟨⟨⟨⟨⟨-, ⟨he, hk⟩, hc⟩, hd⟩, hev⟩, ⟨hres, hman⟩, hat⟩, hterm⟩ := h
  exact ⟨⟨he, hk, hc, hd, Dict.eq_empty_of_size hev, hres, hman⟩,
    Option.isSome_iff_ne_none.mp hterm, hat⟩

theorem cleared_weights {r : Record} (h : r.cleared) :
    r.activeBytes = 0 ∧ r.evidenceBytes = 0 ∧ r.committedBytes = 0 := by
  obtain ⟨he, hk, hc, -, hev, hres, -⟩ := h
  refine ⟨?_, ?_, ?_⟩
  · simp [Record.activeBytes, he, hk, hc]
  · simp [Record.evidenceBytes, hev]
  · simp [Record.committedBytes, Record.resultBytes, Record.evidenceBytes, hev, hres]

theorem Lapse.expired {now : Datetime} {r r' : Record} {highWater : Option Datetime} {id : Uuid}
    (h : Lapse now r r') (hr : RecordCoherent cfg highWater id r) :
    r'.state = .expired ∧ r'.terminalAt ≠ none ∧ r'.cleared := by
  cases h with
  | again hstate =>
    have hexpired := lifecycle_expired hr.lifecycle hstate
    exact ⟨hstate, hexpired.2.1, hexpired.1⟩
  | due => exact ⟨rfl, by simp [Record.closed], rfl, rfl, rfl, rfl, rfl, rfl, rfl⟩

/-- An expiry that is no refused creation ends one record. -/
theorem Step.expired (h : Step cfg s i (.error (.denied .expired)) s') (hs : Coherent cfg s) :
    i.1.isCreate = true ∧ s' = s ∨
      i.1.isCreate = false ∧
        ∃ id r r' now, i.1.target = some id ∧ s.records.get? id = some r ∧ r'.state = .expired ∧
          r'.terminalAt ≠ none ∧ r'.cleared ∧
          s' = { s with
            records := s.records.set id r'
            installationLastSeenUtc := some now
            totalActiveMaterialBytes := s.totalActiveMaterialBytes - r.activeBytes
            totalEvidenceBytes := s.totalEvidenceBytes - r.evidenceBytes
            totalCommittedBytes := s.totalCommittedBytes - r.committedBytes } := by
  rcases h.failure_cases with ⟨rfl, hplain | hcreate⟩ | ⟨-, id, r, r', m, now, ht, hl, access,
    hlapse, rfl⟩ | ⟨point, hcrash, -⟩ | hvalue
  · exact absurd hplain (by decide)
  · exact Or.inl ⟨hcreate.2, rfl⟩
  · obtain ⟨hstate, hterm, hcleared⟩ := hlapse.expired (hs.record id r access.found)
    obtain ⟨ha, he, hc⟩ := cleared_weights hcleared
    have hcreate : i.1.isCreate = false := by
      cases hi : i.1 <;> simp_all [Call.lapses, Call.isCreate]
    refine Or.inr ⟨hcreate, id, r, r', now, ht, access.found, hstate, hterm, hcleared, ?_⟩
    simp only [Repository.replace, ha, he, hc, add_zero]
  · cases hcrash
  · cases hvalue

/-! ### Crashes behind the mutation -/

/-- If `p` crashed behind a commit point, `q` left the same state and only a constructor of a
reply can have stopped it. -/
def Resumes {α : Type} (p q : Except Failure α × Repository) : Prop :=
  ∀ point, p.1 = .error (.injectedCrash point) → point.isAfter = true →
    q.2 = p.2 ∧ ((∃ a, q.1 = .ok a) ∨ q.1 = .error .valueError)

section
variable {α β : Type} {env : Env}

theorem resumes_attempt {x x' : Except Failure α} {k k' : α → Except Failure β × Repository}
    (hquiet : Quiet x) (hx : ∀ a, x = .ok a → x' = .ok a) (hk : ∀ a, Resumes (k a) (k' a)) :
    Resumes (attempt s x k) (attempt s x' k') := by
  cases hcase : x with
  | error e =>
    intro point hpoint hafter
    obtain rfl : e = .injectedCrash point := Except.error.inj hpoint
    have hplain := hquiet _ hcase
    simp [Failure.isPlain, hafter] at hplain
  | ok a =>
    rw [hx a hcase]
    exact hk a

theorem resumes_expired (s' s'' : Repository) :
    Resumes ((.error (.denied .expired), s') : Except Failure α × Repository)
      (.error (.denied .expired), s'') := fun _ h => nomatch h

theorem resumes_hit (point : CrashPoint) {y : Except Failure α}
    (hy : (∃ a, y = .ok a) ∨ y = .error .valueError) :
    Resumes (hit env point >>= fun _ => y, s) (hit env.uninjected point >>= fun _ => y, s) :=
  fun _ _ _ => ⟨rfl, hy⟩

theorem hit_uninjected (point : CrashPoint) : hit env.uninjected point = .ok () := rfl

theorem claim_resumes (b : ActionBinding) (d : Bytes) :
    Resumes (claim cfg s b d env) (claim cfg s b d env.uninjected) := by
  unfold claim
  refine resumes_attempt (quiet_bind (quiet_record s _) fun _ => quiet_bind (quiet_ensure rfl)
    fun _ => quiet_bind (quiet_ensure rfl) fun _ =>
    quiet_bind (quiet_validatedRecordMaterial cfg _) fun _ =>
    quiet_bind (quiet_validatedRecordNow s _ _) fun _ => quiet_pure _) (fun _ h => h) ?_
  rintro ⟨r, now⟩
  dsimp only
  split
  · exact resumes_expired _ _
  · refine resumes_attempt (quiet_bind (quiet_ensure rfl) fun _ => ?_) (fun fields h => ?_)
      fun fields => resumes_hit _ ?_
    · split
      · exact quiet_bind (quiet_hit env rfl) fun _ => quiet_pure _
      · exact quiet_error.mpr rfl
    · simp only [bind_eq_ok_iff, ensure_eq_ok, exists_const] at h ⊢
      refine ⟨h.1, ?_⟩
      split at h
      · exact (bind_eq_ok_iff.mp h.2).elim fun _ h => h.2
      · exact nomatch h.2
    · unfold ClaimedAction.make
      split_ifs
      · exact Or.inl ⟨_, rfl⟩
      · exact Or.inr rfl

theorem stageEvidence_resumes (b : ActionBinding) (d : Bytes) (u : EvidenceUpload) :
    Resumes (stageEvidence cfg s b d u env) (stageEvidence cfg s b d u env.uninjected) := by
  unfold stageEvidence
  refine resumes_attempt (quiet_bind (quiet_record s _) fun _ =>
    quiet_bind (quiet_requireResultAccess _ _ _) fun _ =>
    quiet_bind (quiet_validatedRecordMaterial cfg _) fun _ =>
    quiet_bind (quiet_validatedRecordNow s _ _) fun _ => quiet_pure _) (fun _ h => h) ?_
  rintro ⟨r, now⟩
  dsimp only
  split
  · exact resumes_expired _ _
  · refine resumes_attempt (quiet_bind (quiet_ensure rfl) fun _ =>
      quiet_bind (quiet_ensure rfl) fun _ => quiet_bind (quiet_ensure rfl) fun _ =>
      quiet_bind (quiet_ensure rfl) fun _ => quiet_bind (quiet_ensure rfl) fun _ =>
      quiet_bind (quiet_unwrap cfg _ _ _) fun _ => quiet_hit env rfl) (fun _ h => ?_)
      fun _ => resumes_hit _ (Or.inl ⟨_, rfl⟩)
    simp only [bind_eq_ok_iff, ensure_eq_ok, exists_const] at h ⊢
    obtain ⟨h1, h2, h3, h4, h5, u', h6, -⟩ := h
    exact ⟨h1, h2, h3, h4, h5, u', h6, rfl⟩

theorem commitResult_resumes (b : ActionBinding) (d j : Bytes) (seals : List EvidenceSeal) :
    Resumes (commitResult cfg s b d j seals env)
      (commitResult cfg s b d j seals env.uninjected) := by
  unfold commitResult
  refine resumes_attempt (quiet_bind (quiet_record s _) fun _ =>
    quiet_bind (quiet_requireResultAccess _ _ _) fun _ =>
    quiet_bind (quiet_validatedRecordMaterial cfg _) fun _ =>
    quiet_bind (quiet_validatedRecordNow s _ _) fun _ => quiet_pure _) (fun _ h => h) ?_
  rintro ⟨r, evidence, now⟩
  dsimp only
  split
  · exact resumes_expired _ _
  · refine resumes_attempt (quiet_bind (quiet_ensure rfl) fun _ =>
      quiet_bind (quiet_ensure rfl) fun _ => quiet_bind (quiet_ensure rfl) fun _ =>
      quiet_bind (quiet_ensure rfl) fun _ => quiet_bind (quiet_ensure rfl) fun _ =>
      quiet_bind (quiet_bindingDigest _) fun _ =>
      quiet_bind (quiet_validateResultReferences cfg _ _ _) fun _ =>
      quiet_bind (quiet_buildCommittedManifest cfg _ _ _) fun _ =>
      quiet_bind (quiet_hit env rfl) fun _ => quiet_pure _) (fun x h => ?_)
      fun x => resumes_hit _ (Or.inl ⟨_, rfl⟩)
    simp only [bind_eq_ok_iff, ensure_eq_ok, exists_const, hit_uninjected] at h ⊢
    obtain ⟨h1, h2, h3, h4, h5, digest, h6, u, h7, manifest, h8, -, -, h9⟩ := h
    exact ⟨h1, h2, h3, h4, h5, digest, h6, u, h7, manifest, h8, trivial, h9⟩

theorem acknowledgeCollection_resumes (id : Uuid) (d : Bytes) :
    Resumes (acknowledgeCollection cfg s id d env)
      (acknowledgeCollection cfg s id d env.uninjected) := by
  unfold acknowledgeCollection
  refine resumes_attempt (quiet_collectionAccess cfg s id d env) (fun _ h => h) ?_
  rintro ⟨r, m, now⟩
  dsimp only
  split_ifs
  · exact fun _ h => by cases h
  · refine resumes_attempt (quiet_bind (quiet_ensure rfl) fun _ => quiet_hit env rfl)
      (fun _ h => ?_) fun _ => resumes_hit _ (Or.inl ⟨_, rfl⟩)
    simp only [bind_eq_ok_iff, ensure_eq_ok, exists_const] at h ⊢
    exact ⟨h.1, rfl⟩

theorem Resumes.reply {p q : Except Failure α × Repository} (h : Resumes p q) (f : α → Reply) :
    Resumes (reply f p) (reply f q) := by
  intro point hp hafter
  have hcrash : p.1 = .error (.injectedCrash point) := by
    cases hp1 : p.1 with
    | ok a =>
      rw [Mailbox.reply, hp1] at hp
      exact nomatch hp
    | error e =>
      rw [Mailbox.reply, hp1] at hp
      exact congrArg Except.error (Except.error.inj hp)
  obtain ⟨hstate, hout⟩ := h point hcrash hafter
  refine ⟨hstate, ?_⟩
  rcases hout with ⟨a, ha⟩ | hvalue
  · exact Or.inl ⟨f a, by rw [Mailbox.reply, ha]; rfl⟩
  · exact Or.inr (by rw [Mailbox.reply, hvalue]; rfl)

/-- A call that crashed behind its mutation left the state of the same call uninjected. -/
theorem apply_resumes (i : Call × Env) :
    Resumes (apply cfg s i) (apply cfg s (i.1, i.2.uninjected)) := by
  obtain ⟨call, env⟩ := i
  intro point hcrash hafter
  have hstep := apply_step cfg s (call, env)
  rw [hcrash] at hstep
  have hpoint : call.afterPoint = some point := by
    rcases hstep.failure_cases with ⟨-, hplain | hcreate⟩ | ⟨h, -⟩ | ⟨p, hp, hpoint⟩ | h
    · simp [Failure.isPlain, hafter] at hplain
    · cases hcreate.1
    · cases h
    · exact (Failure.injectedCrash.inj hp).symm ▸ hpoint
    · cases h
  cases call with
  | claim b d => exact (claim_resumes b d).reply _ point hcrash hafter
  | stageEvidence b d u => exact (stageEvidence_resumes b d u).reply _ point hcrash hafter
  | commitResult b d j seals =>
    exact (commitResult_resumes b d j seals).reply _ point hcrash hafter
  | acknowledgeCollection id d =>
    exact (acknowledgeCollection_resumes id d).reply _ point hcrash hafter
  | _ => cases hpoint

end

/-- In every reached state, a call that is denied or crashes before its commit point changes
nothing, one that expires ends exactly one record, and one that crashes behind its commit point
leaves what it would have left without the crash. -/
theorem failure_atomicity (cfg : Config) (is : List (Call × Env)) (i : Call × Env) :
    let s := run (apply cfg) .empty is
    let s' := (apply cfg s i).2
    (∀ denial, (apply cfg s i).1 = .error (.denied denial) → denial ≠ .expired → s' = s) ∧
      (∀ point, (apply cfg s i).1 = .error (.injectedCrash point) → point.isAfter = false →
        s' = s) ∧
      ((apply cfg s i).1 = .error (.denied .expired) →
        i.1.isCreate = true ∧ s' = s ∨ i.1.isCreate = false ∧
        ∃ id r r' now, i.1.target = some id ∧ s.records.get? id = some r ∧
          r'.state = .expired ∧ r'.terminalAt ≠ none ∧ r'.cleared ∧
          s' = { s with
            records := s.records.set id r'
            installationLastSeenUtc := some now
            totalActiveMaterialBytes := s.totalActiveMaterialBytes - r.activeBytes
            totalEvidenceBytes := s.totalEvidenceBytes - r.evidenceBytes
            totalCommittedBytes := s.totalCommittedBytes - r.committedBytes }) ∧
      (∀ point, (apply cfg s i).1 = .error (.injectedCrash point) → point.isAfter = true →
        s' = (apply cfg s (i.1, i.2.uninjected)).2 ∧
          ((∃ v, (apply cfg s (i.1, i.2.uninjected)).1 = .ok v) ∨
            (apply cfg s (i.1, i.2.uninjected)).1 = .error .valueError)) := by
  intro s s'
  have hstep := apply_step cfg s i
  refine ⟨fun denial hdenied hne => ?_, fun point hcrash hbefore => ?_, fun hexpired => ?_,
    fun point hcrash hafter => ?_⟩
  · rw [hdenied] at hstep
    exact hstep.unchanged (by simpa [Failure.isPlain] using hne) (by simp)
  · rw [hcrash] at hstep
    exact hstep.unchanged (by simp [Failure.isPlain, hbefore]) (by simp)
  · rw [hexpired] at hstep
    exact hstep.expired (coherent_run cfg is)
  · obtain ⟨hstate, hout⟩ := apply_resumes i point hcrash hafter
    exact ⟨hstate.symm, hout⟩

end MyCogni.Mailbox
