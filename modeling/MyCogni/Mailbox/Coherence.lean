import MyCogni.Mailbox.Semantics

/-! Every call keeps a repository coherent. -/

namespace MyCogni.Mailbox
variable {cfg : Config} {s : Repository} {highWater : Option Datetime} {id : Uuid} {r : Record}
  {now : Datetime}

/-! ### One record -/

theorem lifecycle_open (h : r.validLifecycle = true) (hopen : r.state.isOpen = true) :
    r.collectionState = .none ∧ r.resultEnvelope = none ∧ r.committedEvidenceManifest = none ∧
      r.committedAt = none ∧ r.terminalAt = none := by
  cases hstate : r.state <;>
    simp_all [Record.validLifecycle, Record.noCommitted, MailboxState.isOpen]

theorem lifecycle_empty (h : r.validLifecycle = true) (hstate : r.state = .empty) :
    r.envelopeJson = none ∧ r.actionKey = none ∧ r.resultCredential = none ∧
      r.resultCredentialDigest = none := by
  simp_all [Record.validLifecycle, Record.noActive]

theorem lifecycle_claimedOnce (h : r.validLifecycle = true) (hstate : r.state = .claimedOnce) :
    r.noActive = true := by
  simp_all [Record.validLifecycle]

theorem RecordCoherent.within_seen (h : RecordCoherent cfg highWater id r)
    (hnow : r.lastSeenUtc ≤ now) :
    (∀ t ∈ r.committedAt, r.createdAt ≤ t ∧ t ≤ now) ∧
      ∀ t ∈ r.terminalAt, r.createdAt ≤ t ∧ t ≤ now :=
  ⟨fun t ht => ⟨(h.committedAt t ht).1, (h.committedAt t ht).2.trans hnow⟩,
    fun t ht => ⟨(h.terminalAt t ht).1, (h.terminalAt t ht).2.trans hnow⟩⟩

theorem authentic_seen {m : List EvidenceUpload × Option Bytes} (hm : Authentic cfg r m)
    (now : Datetime) : Authentic cfg (r.seen now) m := by
  have hsame : validatedRecordMaterial cfg (r.seen now) = validatedRecordMaterial cfg r := rfl
  exact validatedRecordMaterial_eq_ok.mp (hsame.trans (validatedRecordMaterial_eq_ok.mpr hm))

theorem RecordCoherent.seen_at (h : RecordCoherent cfg highWater id r)
    (hnow : r.lastSeenUtc ≤ now) : RecordCoherent cfg (some now) id (r.seen now) where
  key := h.key
  created := h.created.trans hnow
  seen := ⟨now, rfl, le_rfl⟩
  inTime := h.inTime
  committedAt := (h.within_seen hnow).1
  terminalAt := (h.within_seen hnow).2
  nodup := h.nodup
  maintenance := h.maintenance
  items := h.items
  bytes := h.bytes
  lifecycle := h.lifecycle
  material := by
    obtain ⟨m, hm⟩ := h.material
    exact ⟨m, authentic_seen hm now⟩

theorem closed_digests_sublist (r : Record) (state : MailboxState) (now : Datetime) :
    (r.closed state now).credentialDigests.Sublist r.credentialDigests :=
  (List.Sublist.refl _).append (List.nil_sublist _)

theorem responseBytes_pos (b : ActionBinding) : 0 < b.responseBytes := by
  have h := b.valid
  simp only [BindingFields.wellFormed, Bool.and_eq_true, decide_eq_true_eq] at h
  exact h.1.2.2

theorem RecordCoherent.closed (h : RecordCoherent cfg highWater id r)
    (hnow : r.lastSeenUtc ≤ now) (hopen : r.state.isOpen = true) {state : MailboxState}
    (hend : state = .expired ∨ state = .abandoned) :
    RecordCoherent cfg (some now) id (r.closed state now) := by
  obtain ⟨hcollection, hresult, hmanifest, hat, hterminal⟩ := lifecycle_open h.lifecycle hopen
  refine
    { key := h.key
      created := h.created.trans hnow
      seen := ⟨now, rfl, le_rfl⟩
      inTime := h.inTime
      committedAt := (h.within_seen hnow).1
      terminalAt := ?_
      nodup := h.nodup.sublist (closed_digests_sublist ..)
      maintenance := fun hm => h.maintenance ((closed_digests_sublist ..).subset hm)
      items := Nat.zero_le _
      bytes := (responseBytes_pos _).le
      lifecycle := ?_
      material := ⟨([], none), ?_⟩ }
  · intro t ht
    obtain rfl : now = t := by simpa [Record.closed] using ht
    exact ⟨h.created.trans hnow, le_rfl⟩
  · rcases hend with rfl | rfl <;>
      simp [Record.validLifecycle, Record.closed, Record.noActive, Record.noCommitted, hcollection,
        hat, Dict.size, Dict.empty]
  · refine .uncommitted (slots_empty rfl) ?_ hcollection rfl rfl hat (Or.inr rfl)
    rcases hend with rfl | rfl <;> simp [Record.closed]

theorem RecordCoherent.lapse (h : RecordCoherent cfg highWater id r)
    (hnow : r.lastSeenUtc ≤ now) {r' : Record} (hlapse : Lapse now r r') :
    RecordCoherent cfg (some now) id r' := by
  cases hlapse with
  | again => exact h.seen_at hnow
  | due hopen => exact h.closed hnow hopen (Or.inl rfl)

theorem RecordCoherent.swept (h : RecordCoherent cfg highWater id r)
    (hnow : r.lastSeenUtc ≤ now) : RecordCoherent cfg (some now) id (r.swept now) := by
  unfold Record.swept
  split_ifs with hdue
  · exact h.closed hnow hdue.1 (Or.inl rfl)
  · exact h.seen_at hnow

theorem RecordCoherent.opened {b : ActionBinding} {a c k : Bytes} (hnodup : [a, c, k].Nodup)
    (hmaint : cfg.maintenanceCredentialDigest ∉ [a, c, k]) (hlt : now < b.claimDeadlineUtc) :
    RecordCoherent cfg (some now) b.mailboxId (.opened b a c k now) where
  key := rfl
  created := le_rfl
  seen := ⟨now, rfl, le_rfl⟩
  inTime := hlt
  committedAt := by simp [Record.opened]
  terminalAt := by simp [Record.opened]
  nodup := hnodup
  maintenance := hmaint
  items := Nat.zero_le _
  bytes := (responseBytes_pos _).le
  lifecycle := by simp [Record.validLifecycle, Record.opened, Record.noActive, Record.noCommitted,
    Dict.size, Dict.empty]
  material := ⟨([], none), .uncommitted (slots_empty rfl) (by simp [Record.opened]) rfl rfl rfl rfl
    (Or.inr rfl)⟩

theorem RecordCoherent.offeredWith (h : RecordCoherent cfg highWater id r)
    (hnow : r.lastSeenUtc ≤ now) (hstate : r.state = .empty) {e key rc rd : Bytes}
    (hnodup : [r.actionCredentialDigest, r.claimCredentialDigest, r.collectionCredentialDigest,
      rd].Nodup) (hmaint : cfg.maintenanceCredentialDigest ≠ rd) :
    RecordCoherent cfg (some now) id (r.offeredWith e key rc rd now) := by
  have hopen : r.state.isOpen = true := by simp [hstate, MailboxState.isOpen]
  obtain ⟨hcollection, hresult, hmanifest, hat, hterminal⟩ := lifecycle_open h.lifecycle hopen
  have hsize : r.evidence.size = 0 := by
    have hl := h.lifecycle
    simp only [Record.validLifecycle, hstate, Bool.and_eq_true, decide_eq_true_eq] at hl
    exact hl.1.1.2
  refine
    { key := h.key
      created := h.created.trans hnow
      seen := ⟨now, rfl, le_rfl⟩
      inTime := h.inTime
      committedAt := (h.within_seen hnow).1
      terminalAt := (h.within_seen hnow).2
      nodup := hnodup
      maintenance := ?_
      items := h.items
      bytes := h.bytes
      lifecycle := ?_
      material := ⟨([], none), ?_⟩ }
  · have hm := h.maintenance
    simp only [Record.credentialDigests, List.mem_append, List.mem_cons, not_or] at hm
    simp only [Record.credentialDigests, Record.offeredWith, Option.toList_some, List.mem_append,
      List.mem_cons, List.not_mem_nil, or_false, not_or]
    exact ⟨⟨hm.1.1, hm.1.2.1, hm.1.2.2.1⟩, hmaint⟩
  · simp [Record.validLifecycle, Record.offeredWith, Record.noCommitted, hcollection, hresult,
      hmanifest, hat, hterminal, hsize]
  · refine .uncommitted (slots_empty ?_) (by simp [Record.offeredWith]) hcollection hresult
      hmanifest hat (Or.inr rfl)
    exact Dict.eq_empty_of_size hsize

theorem RecordCoherent.afterClaim (h : RecordCoherent cfg highWater id r)
    (hnow : r.lastSeenUtc ≤ now) (hstate : r.state = .offered) :
    RecordCoherent cfg (some now) id (r.afterClaim now) := by
  have hopen : r.state.isOpen = true := by simp [hstate, MailboxState.isOpen]
  obtain ⟨hcollection, hresult, hmanifest, hat, hterminal⟩ := lifecycle_open h.lifecycle hopen
  have hdigest : r.resultCredentialDigest.isSome = true := by
    have hl := h.lifecycle
    simp only [Record.validLifecycle, hstate, Bool.and_eq_true] at hl
    exact hl.1.1.1.2
  obtain ⟨m, hm⟩ := h.material
  exact
    { key := h.key
      created := h.created.trans hnow
      seen := ⟨now, rfl, le_rfl⟩
      inTime := h.inTime
      committedAt := (h.within_seen hnow).1
      terminalAt := (h.within_seen hnow).2
      nodup := h.nodup
      maintenance := h.maintenance
      items := h.items
      bytes := h.bytes
      lifecycle := by simp [Record.validLifecycle, Record.afterClaim, Record.noActive,
        Record.noCommitted, hcollection, hresult, hmanifest, hat, hterminal, hdigest]
      material := ⟨(m.1, none), .uncommitted hm.slots (by simp [Record.afterClaim]) hcollection
        hresult hmanifest hat (Or.inl rfl)⟩ }

theorem RecordCoherent.withEvidence (h : RecordCoherent cfg highWater id r)
    (hnow : r.lastSeenUtc ≤ now) (hstate : r.state = .claimedOnce) {u : EvidenceUpload}
    {nonce : Nonce} (hnew : r.evidence.get? u.objectId = none)
    (hcount : r.evidence.size < maxEvidenceItems)
    (hbytes : r.evidenceBytes + u.payload.length ≤ r.binding.responseBytes)
    (hdigest : sha256Text u.payload = u.payloadDigest) :
    RecordCoherent cfg (some now) id
      (r.withEvidence (wrap cfg r.binding.mailboxId u nonce) now) := by
  have hopen : r.state.isOpen = true := by simp [hstate, MailboxState.isOpen]
  obtain ⟨hcollection, hresult, hmanifest, hat, -⟩ := lifecycle_open h.lifecycle hopen
  obtain ⟨m, hm⟩ := h.material
  refine
    { key := h.key
      created := h.created.trans hnow
      seen := ⟨now, rfl, le_rfl⟩
      inTime := h.inTime
      committedAt := (h.within_seen hnow).1
      terminalAt := (h.within_seen hnow).2
      nodup := h.nodup
      maintenance := h.maintenance
      items := ?_
      bytes := ?_
      lifecycle := ?_
      material := ⟨(m.1 ++ [u], none), ?_⟩ }
  · exact (Dict.size_set_of_none hnew _).trans_le hcount
  · exact (Dict.sum_set_of_none hnew _ _).trans_le hbytes
  · have hl := h.lifecycle
    simp only [Record.validLifecycle, hstate] at hl
    simp only [Record.validLifecycle, Record.withEvidence, hstate]
    exact hl
  · exact .uncommitted (slots_withEvidence hm.slots hnew hdigest rfl rfl)
      (by simp [Record.withEvidence, hstate]) hcollection hresult hmanifest hat (Or.inl hstate)

/-- A result that the repository can read back is not empty. -/
theorem json_ne_nil {b : ActionBinding} {j : Bytes} {evidence : List EvidenceUpload}
    (h : validateResultReferences cfg b j evidence = .ok ()) : j ≠ [] := by
  rintro rfl
  simp [validateResultReferences, cfg.pydantic.result_nonempty] at h

theorem authentic_committedWith {j digest : Bytes} {nonce : Nonce}
    {m : List EvidenceUpload × Option Bytes} {manifest : CommittedEvidenceManifest}
    (hm : Authentic cfg r m) (hdigest : bindingDigest r.binding = .ok digest)
    (hrefs : validateResultReferences cfg r.binding j m.1 = .ok ())
    (hmanifest : buildCommittedManifest cfg r.binding (m.1.map fun e => e.objectId)
      (wrapResult cfg digest j nonce) = .ok manifest) (now : Datetime) :
    Authentic cfg (r.committedWith (wrapResult cfg digest j nonce) manifest now) (m.1, some j) :=
  .retained hm.slots rfl (by simp [Record.committedWith]) (Or.inl rfl) rfl
    (by simp [Record.committedWith])
    (unwrapResult_wrapResult hdigest (json_ne_nil hrefs) nonce) hrefs
    (validateCommittedManifest_build rfl rfl hmanifest)

theorem authentic_delivering {m : List EvidenceUpload × Option Bytes} (hm : Authentic cfg r m)
    (hstate : r.state = .resultCommitted)
    (hcollection : r.collectionState = .ready ∨ r.collectionState = .delivering)
    (now : Datetime) : Authentic cfg (r.delivering now) m := by
  cases hm with
  | acknowledged _ _ _ hack => rcases hcollection with hc | hc <;> simp [hc] at hack
  | retained hslots _ hat _ hresult hmanifest hunwrap hrefs hman =>
    exact .retained hslots hstate hat (Or.inr rfl) hresult hmanifest hunwrap hrefs hman
  | uncommitted _ hnot => exact absurd hstate hnot

theorem RecordCoherent.committedWith (h : RecordCoherent cfg highWater id r)
    (hnow : r.lastSeenUtc ≤ now) (hstate : r.state = .claimedOnce) {j digest : Bytes}
    {nonce : Nonce} {m : List EvidenceUpload × Option Bytes}
    {manifest : CommittedEvidenceManifest} (hm : Authentic cfg r m)
    (hbytes : (j.length : Int) + r.evidenceBytes ≤ r.binding.responseBytes)
    (hdigest : bindingDigest r.binding = .ok digest)
    (hrefs : validateResultReferences cfg r.binding j m.1 = .ok ())
    (hmanifest : buildCommittedManifest cfg r.binding (m.1.map fun e => e.objectId)
      (wrapResult cfg digest j nonce) = .ok manifest) :
    RecordCoherent cfg (some now) id
      (r.committedWith (wrapResult cfg digest j nonce) manifest now) := by
  have hopen : r.state.isOpen = true := by simp [hstate, MailboxState.isOpen]
  obtain ⟨-, -, -, -, hterminal⟩ := lifecycle_open h.lifecycle hopen
  have hactive := lifecycle_claimedOnce h.lifecycle hstate
  have hsub : (r.committedWith (wrapResult cfg digest j nonce) manifest
      now).credentialDigests.Sublist r.credentialDigests :=
    (List.Sublist.refl _).append (List.nil_sublist _)
  refine
    { key := h.key
      created := h.created.trans hnow
      seen := ⟨now, rfl, le_rfl⟩
      inTime := h.inTime
      committedAt := ?_
      terminalAt := (h.within_seen hnow).2
      nodup := h.nodup.sublist hsub
      maintenance := fun hmem => h.maintenance (hsub.subset hmem)
      items := h.items
      bytes := h.bytes
      lifecycle := ?_
      material := ⟨(m.1, some j), authentic_committedWith hm hdigest hrefs hmanifest now⟩ }
  · intro t ht
    obtain rfl : now = t := by simpa [Record.committedWith] using ht
    exact ⟨h.created.trans hnow, le_rfl⟩
  · have hactive' : (r.committedWith (wrapResult cfg digest j nonce) manifest now).noActive =
        true := hactive
    have hfit : ¬ r.binding.responseBytes < (wrapResult cfg digest j nonce).byteCount +
        (r.committedWith (wrapResult cfg digest j nonce) manifest now).evidenceBytes :=
      not_lt.mpr hbytes
    simp only [Record.validLifecycle]
    rw [hactive']
    simpa [Record.committedWith, hterminal] using hfit

theorem RecordCoherent.delivering (h : RecordCoherent cfg highWater id r)
    (hnow : r.lastSeenUtc ≤ now) (hstate : r.state = .resultCommitted)
    (hcollection : r.collectionState = .ready ∨ r.collectionState = .delivering) :
    RecordCoherent cfg (some now) id (r.delivering now) := by
  obtain ⟨m, hm⟩ := h.material
  refine
    { key := h.key
      created := h.created.trans hnow
      seen := ⟨now, rfl, le_rfl⟩
      inTime := h.inTime
      committedAt := (h.within_seen hnow).1
      terminalAt := (h.within_seen hnow).2
      nodup := h.nodup
      maintenance := h.maintenance
      items := h.items
      bytes := h.bytes
      lifecycle := ?_
      material := ⟨m, authentic_delivering hm hstate hcollection now⟩ }
  refine Eq.trans ?_ h.lifecycle
  simp only [Record.validLifecycle, Record.delivering, hstate]
  rcases hcollection with hc | hc <;> rw [hc] <;> rfl

theorem RecordCoherent.acknowledged (h : RecordCoherent cfg highWater id r)
    (hnow : r.lastSeenUtc ≤ now) (hstate : r.state = .resultCommitted) :
    RecordCoherent cfg (some now) id (r.acknowledged now) := by
  have hl := h.lifecycle
  simp only [Record.validLifecycle, hstate, Bool.and_eq_true, decide_eq_true_eq] at hl
  obtain ⟨⟨⟨⟨⟨⟨-, hactive⟩, hdigest⟩, hat⟩, -⟩, -⟩, -⟩ := hl
  obtain ⟨c, hc⟩ := Option.isSome_iff_exists.mp hat
  have hle : ¬ now < c := not_lt.mpr ((h.within_seen hnow).1 c hc).2
  refine
    { key := h.key
      created := h.created.trans hnow
      seen := ⟨now, rfl, le_rfl⟩
      inTime := h.inTime
      committedAt := (h.within_seen hnow).1
      terminalAt := ?_
      nodup := h.nodup
      maintenance := h.maintenance
      items := Nat.zero_le _
      bytes := (responseBytes_pos _).le
      lifecycle := ?_
      material := ⟨([], none), ?_⟩ }
  · intro t ht
    obtain rfl : now = t := by simpa [Record.acknowledged] using ht
    exact ⟨h.created.trans hnow, le_rfl⟩
  · have hactive' : (r.acknowledged now).noActive = true := hactive
    simp only [Record.validLifecycle]
    rw [hactive']
    simpa [Record.acknowledged, hstate, hdigest, hc] using hle
  · exact .acknowledged (slots_empty rfl) hstate (by simp [Record.acknowledged, hc]) rfl rfl rfl

/-! ### The repository -/

theorem coherent_empty (cfg : Config) : Coherent cfg .empty where
  record := fun _ _ h => nomatch h
  distinct := fun _ _ _ _ h => nomatch h
  tombstone := fun _ _ h => nomatch h
  disjoint := fun _ _ h => nomatch h
  mailboxes := Nat.zero_le _
  tombstones := Nat.zero_le _
  drift := rfl
  active := Int.natCast_nonneg _
  evidence := Int.natCast_nonneg _
  committed := Int.natCast_nonneg _

theorem validTombstone_mono {t : Tombstone} (hafter : ∀ t ∈ highWater, t ≤ now)
    (h : validTombstone cfg highWater t = true) : validTombstone cfg (some now) t = true := by
  simp only [validTombstone, Bool.and_eq_true, decide_eq_true_eq, Option.any_eq_true] at h ⊢
  obtain ⟨h, w, hw, hle⟩ := h
  exact ⟨h, now, rfl, hle.trans (hafter w hw)⟩

/-- Assigning one coherent record, with credentials of its own or no one else's, and moving the
totals with it. -/
theorem Coherent.assign (h : Coherent cfg s) (hafter : s.notAfter now) {r' : Record}
    (hr' : RecordCoherent cfg (some now) id r') (htomb : s.tombstones.get? id = none)
    (hfresh : ∀ d ∈ r'.credentialDigests, ∀ id₂ r₂, s.records.get? id₂ = some r₂ → id₂ ≠ id →
      d ∉ r₂.credentialDigests)
    {s' : Repository} (hrecords : s'.records = s.records.set id r')
    (htombstones : s'.tombstones = s.tombstones) (htime : s'.installationLastSeenUtc = some now)
    (hsize : s'.records.size ≤ cfg.limits.maxMailboxes) (hdrift : s'.drift = (0, 0, 0))
    (hactive : s'.totalActiveMaterialBytes ≤ cfg.limits.maxTotalActiveMaterialBytes)
    (hevidence : s'.totalEvidenceBytes ≤ cfg.limits.maxTotalEvidenceBytes)
    (hcommitted : s'.totalCommittedBytes ≤ cfg.limits.maxTotalCommittedBytes) :
    Coherent cfg s' := by
  have hget : ∀ id₂ r₂, s'.records.get? id₂ = some r₂ →
      id₂ = id ∧ r₂ = r' ∨ id₂ ≠ id ∧ s.records.get? id₂ = some r₂ := by
    intro id₂ r₂ hr₂
    rw [hrecords, Dict.get?_set] at hr₂
    split_ifs at hr₂ with hid
    · exact Or.inl ⟨hid, (Option.some.inj hr₂).symm⟩
    · exact Or.inr ⟨hid, hr₂⟩
  refine ⟨fun id₂ r₂ hr₂ => ?_, fun id₁ id₂ r₁ r₂ hr₁ hr₂ hne d hd => ?_, fun id₂ t ht => ?_,
    fun id₂ r₂ hr₂ => ?_, hsize, htombstones ▸ h.tombstones, hdrift, hactive, hevidence, hcommitted⟩
  · rw [htime]
    rcases hget id₂ r₂ hr₂ with ⟨rfl, rfl⟩ | ⟨-, hr₂⟩
    · exact hr'
    · exact (h.record id₂ r₂ hr₂).mono hafter
  · rcases hget id₁ r₁ hr₁ with ⟨rfl, rfl⟩ | ⟨hne₁, hr₁⟩ <;>
      rcases hget id₂ r₂ hr₂ with ⟨rfl, rfl⟩ | ⟨hne₂, hr₂⟩
    · exact absurd rfl hne
    · exact hfresh d hd id₂ r₂ hr₂ hne₂
    · exact fun hd' => hfresh d hd' id₁ r₁ hr₁ hne₁ hd
    · exact h.distinct id₁ id₂ r₁ r₂ hr₁ hr₂ hne d hd
  · rw [htombstones] at ht
    rw [htime]
    exact validTombstone_mono hafter (h.tombstone id₂ t ht)
  · rw [htombstones]
    rcases hget id₂ r₂ hr₂ with ⟨rfl, rfl⟩ | ⟨-, hr₂⟩
    · exact htomb
    · exact h.disjoint id₂ r₂ hr₂

/-- Replacing a record by a coherent one without new credentials, within the limits. -/
theorem Coherent.replace (h : Coherent cfg s) (hr : s.records.get? id = some r)
    (hafter : s.notAfter now) {r' : Record} (hr' : RecordCoherent cfg (some now) id r')
    (hdigests : ∀ d ∈ r'.credentialDigests, d ∈ r.credentialDigests)
    (hactive : s.totalActiveMaterialBytes - r.activeBytes + r'.activeBytes ≤
      cfg.limits.maxTotalActiveMaterialBytes)
    (hevidence : s.totalEvidenceBytes - r.evidenceBytes + r'.evidenceBytes ≤
      cfg.limits.maxTotalEvidenceBytes)
    (hcommitted : s.totalCommittedBytes - r.committedBytes + r'.committedBytes ≤
      cfg.limits.maxTotalCommittedBytes) :
    Coherent cfg (s.replace id r r' now) := by
  refine h.assign hafter hr' (h.disjoint id r hr) ?_ rfl rfl rfl ?_
    ((drift_replace hr r' now).trans h.drift) hactive hevidence hcommitted
  · intro d hd id₂ r₂ hr₂ hne
    exact h.distinct id id₂ r r₂ hr hr₂ hne.symm d (hdigests d hd)
  · exact (Dict.size_set_of_some hr r').trans_le h.mailboxes

/-- The same where the record retains no more than before. -/
theorem Coherent.shrink (h : Coherent cfg s) (hr : s.records.get? id = some r)
    (hafter : s.notAfter now) {r' : Record} (hr' : RecordCoherent cfg (some now) id r')
    (hdigests : ∀ d ∈ r'.credentialDigests, d ∈ r.credentialDigests)
    (hactive : r'.activeBytes ≤ r.activeBytes) (hevidence : r'.evidenceBytes ≤ r.evidenceBytes)
    (hcommitted : r'.committedBytes ≤ r.committedBytes) :
    Coherent cfg (s.replace id r r' now) := by
  have ha := h.active
  have he := h.evidence
  have hc := h.committed
  exact h.replace hr hafter hr' hdigests (by omega) (by omega) (by omega)

theorem Coherent.close (h : Coherent cfg s) (hr : s.records.get? id = some r)
    (hafter : s.notAfter now) (hseen : r.lastSeenUtc ≤ now) (hopen : r.state.isOpen = true)
    {state : MailboxState} (hend : state = .expired ∨ state = .abandoned) :
    Coherent cfg (s.replace id r (r.closed state now) now) := by
  have hcoherent := h.record id r hr
  obtain ⟨m, hm⟩ := hcoherent.material
  obtain ⟨hactive, hevidence, hcommitted⟩ := closed_weights r state now
  refine h.shrink hr hafter (hcoherent.closed hseen hopen hend)
    (fun d hd => (closed_digests_sublist ..).subset hd) ?_ ?_ ?_
  · rw [hactive]
    exact activeBytes_nonneg r
  · rw [hevidence]
    exact hm.evidenceBytes_nonneg
  · rw [hcommitted]
    exact hm.committedBytes_nonneg

theorem Coherent.observe (h : Coherent cfg s) (hr : s.records.get? id = some r)
    (hafter : s.notAfter now) (hseen : r.lastSeenUtc ≤ now) :
    Coherent cfg (s.replace id r (r.seen now) now) :=
  h.shrink hr hafter ((h.record id r hr).seen_at hseen) (fun _ hd => hd) le_rfl le_rfl le_rfl

theorem Coherent.lapse (h : Coherent cfg s) (hr : s.records.get? id = some r)
    (hafter : s.notAfter now) (hseen : r.lastSeenUtc ≤ now) {r' : Record}
    (hlapse : Lapse now r r') : Coherent cfg (s.replace id r r' now) := by
  cases hlapse with
  | again => exact h.observe hr hafter hseen
  | due hopen => exact h.close hr hafter hseen hopen (Or.inl rfl)

/-- A sweep that keeps some records, each coherent and without new credentials. -/
theorem Coherent.sweep (h : Coherent cfg s)
    {f : Uuid → Record → Option Record} {s' : Repository} (hswept : Swept s s' f now)
    (hf : ∀ id r r', s.records.get? id = some r → f id r = some r' →
      RecordCoherent cfg (some now) id r' ∧ (∀ d ∈ r'.credentialDigests, d ∈ r.credentialDigests) ∧
        r'.activeBytes ≤ r.activeBytes ∧ r'.evidenceBytes ≤ r.evidenceBytes ∧
        r'.committedBytes ≤ r.committedBytes)
    (htombstone : ∀ id t, s'.tombstones.get? id = some t →
      validTombstone cfg (some now) t = true)
    (hdisjoint : ∀ id r', s'.records.get? id = some r' → s'.tombstones.get? id = none)
    (hsize : s'.tombstones.size ≤ cfg.limits.maxTombstones) : Coherent cfg s' := by
  have hget : ∀ id r', s'.records.get? id = some r' →
      ∃ r, s.records.get? id = some r ∧ f id r = some r' := by
    intro id r' hr'
    rw [hswept.records] at hr'
    exact Option.bind_eq_some_iff.mp hr'
  have hsum : ∀ g : Record → Int, (∀ id r, s.records.get? id = some r → 0 ≤ g r) →
      (∀ id r r', s.records.get? id = some r → f id r = some r' → g r' ≤ g r) →
      s'.records.sum g ≤ s.records.sum g := by
    intro g hnonneg hle
    refine Dict.sum_le_of_bind hswept.records hnonneg hle
  have hdrift := hswept.drift.trans h.drift
  have htotals := h.totals
  have hmaterial : ∀ id r, s.records.get? id = some r → ∃ m, Authentic cfg r m :=
    fun id r hr => (h.record id r hr).material
  have ha := hsum Record.activeBytes (fun _ r _ => activeBytes_nonneg r)
    (fun id r r' hr hr' => (hf id r r' hr hr').2.2.1)
  have he := hsum Record.evidenceBytes
    (fun id r hr => (hmaterial id r hr).elim fun _ hm => hm.evidenceBytes_nonneg)
    (fun id r r' hr hr' => (hf id r r' hr hr').2.2.2.1)
  have hc := hsum Record.committedBytes
    (fun id r hr => (hmaterial id r hr).elim fun _ hm => hm.committedBytes_nonneg)
    (fun id r r' hr hr' => (hf id r r' hr hr').2.2.2.2)
  have hactive := h.active
  have hevidence := h.evidence
  have hcommitted := h.committed
  have hzero := hdrift
  simp only [Repository.drift, Prod.mk.injEq] at hzero
  refine ⟨fun id r' hr' => ?_, fun id₁ id₂ r₁ r₂ hr₁ hr₂ hne d hd hd' => ?_,
    fun id t ht => hswept.time ▸ htombstone id t ht, hdisjoint,
    hswept.size.trans h.mailboxes, hsize, hdrift, by omega, by omega, by omega⟩
  · obtain ⟨r, hr, hfr⟩ := hget id r' hr'
    exact hswept.time ▸ (hf id r r' hr hfr).1
  · obtain ⟨r₃, hr₃, hf₁⟩ := hget id₁ r₁ hr₁
    obtain ⟨r₄, hr₄, hf₂⟩ := hget id₂ r₂ hr₂
    exact h.distinct id₁ id₂ r₃ r₄ hr₃ hr₄ hne d ((hf _ _ _ hr₃ hf₁).2.1 d hd)
      ((hf _ _ _ hr₄ hf₂).2.1 d hd')

/-- What `closed` and `seen` leave of the weights and credentials of a record. -/
theorem swept_le {m : List EvidenceUpload × Option Bytes} (hm : Authentic cfg r m) :
    (∀ d ∈ (r.swept now).credentialDigests, d ∈ r.credentialDigests) ∧
      (r.swept now).activeBytes ≤ r.activeBytes ∧ (r.swept now).evidenceBytes ≤ r.evidenceBytes ∧
      (r.swept now).committedBytes ≤ r.committedBytes := by
  unfold Record.swept
  split_ifs
  · obtain ⟨hactive, hevidence, hcommitted⟩ := closed_weights r .expired now
    rw [hactive, hevidence, hcommitted]
    exact ⟨fun d hd => (closed_digests_sublist ..).subset hd, activeBytes_nonneg r,
      hm.evidenceBytes_nonneg, hm.committedBytes_nonneg⟩
  · exact ⟨fun _ hd => hd, le_rfl, le_rfl, le_rfl⟩

/-- Every call keeps the repository coherent. -/
theorem Step.coherent {i : Call × Env} {out : Outcome} {s' : Repository}
    (hstep : Step cfg s i out s') (h : Coherent cfg s) : Coherent cfg s' := by
  cases hstep with
  | refused => exact h
  | @created b a c k env now hclock hafter hrec htomb hsize hnodup hmaint hfresh hlt =>
    have hzero := h.drift
    simp only [Repository.drift, Prod.mk.injEq] at hzero
    refine h.assign hafter (RecordCoherent.opened hnodup hmaint hlt) htomb ?_ rfl rfl rfl ?_ ?_
      h.active h.evidence h.committed
    · intro d hd id₂ r₂ hr₂ _
      exact hfresh d (by simpa [Record.credentialDigests, Record.opened] using hd) id₂ r₂ hr₂
    · exact (Dict.size_set_of_none hrec _).trans_le hsize
    · simp only [Repository.drift, Dict.sum_set_of_none hrec, Prod.mk.injEq]
      have hweights : (Record.opened b a c k now).activeBytes = 0 ∧
          (Record.opened b a c k now).evidenceBytes = 0 ∧
          (Record.opened b a c k now).committedBytes = 0 := ⟨rfl, rfl, rfl⟩
      omega
  | lapsed _ _ access hlapse => exact h.lapse access.found access.notAfter access.seen hlapse
  | viewed access _ hview =>
    rcases hview with hlapse | ⟨rfl, -⟩
    · exact h.lapse access.found access.notAfter access.seen hlapse
    · exact h.observe access.found access.notAfter access.seen
  | @offered b e key a k rc rd env r m now access hb _ _ hstate _ hnodup hmaint hfresh hquota =>
    have hcoherent := h.record _ r access.found
    obtain ⟨he, hk, hrc, -⟩ := lifecycle_empty hcoherent.lifecycle hstate
    have hzero : r.activeBytes = 0 := by simp [Record.activeBytes, he, hk, hrc]
    have hweight : (r.offeredWith e key rc rd now).activeBytes =
        (e.length + key.length + rc.length : Int) := rfl
    refine h.assign access.notAfter (hcoherent.offeredWith access.seen hstate hnodup hmaint)
      (h.disjoint _ r access.found) ?_ rfl rfl rfl
      ((Dict.size_set_of_some access.found _).trans_le h.mailboxes) ?_ hquota h.evidence h.committed
    · intro d hd id₂ r₂ hr₂ hne
      rcases List.mem_append.mp hd with hd | hd
      · exact h.distinct _ id₂ r r₂ access.found hr₂ hne.symm d (List.mem_append_left _ hd)
      · rw [List.mem_singleton.mp hd]
        exact hfresh id₂ r₂ hr₂ hne
    · have hdrift := drift_replace access.found (r.offeredWith e key rc rd now) now
      rw [h.drift] at hdrift
      simp only [Repository.drift, Repository.replace, hzero, hweight, Prod.mk.injEq] at hdrift ⊢
      have hev : (r.offeredWith e key rc rd now).evidenceBytes = r.evidenceBytes := rfl
      have hco : (r.offeredWith e key rc rd now).committedBytes = r.committedBytes := rfl
      omega
  | claimed access _ _ hstate =>
    refine h.shrink access.found access.notAfter
      ((h.record _ _ access.found).afterClaim access.seen hstate) (fun _ hd => hd) ?_ le_rfl le_rfl
    exact activeBytes_nonneg _
  | @staged b d u env r m now access hb hstate _ _ hnew hcount hbytes hquota hdigest _ =>
    subst hb
    have hcoherent := h.record _ r access.found
    have hat := (lifecycle_open hcoherent.lifecycle (by simp [hstate, MailboxState.isOpen])).2.2.2.1
    have hev : (r.withEvidence (wrap cfg r.binding.mailboxId u env.nonce) now).evidenceBytes =
        r.evidenceBytes + u.payload.length := Dict.sum_set_of_none hnew _ _
    have hco : (r.withEvidence (wrap cfg r.binding.mailboxId u env.nonce) now).committedBytes =
        r.committedBytes := by simp [Record.committedBytes, Record.withEvidence, hat]
    have hactive := h.active
    have hcommitted := h.committed
    refine h.replace access.found access.notAfter
      (hcoherent.withEvidence access.seen hstate hnew hcount hbytes hdigest) (fun _ hd => hd)
      ?_ (by omega) (by omega)
    exact (sub_add_cancel _ r.activeBytes).trans_le hactive
  | @committed b d j seals env r m now digest manifest access hb hstate _ _ hbytes hquota hdigest
      hrefs hmanifest _ =>
    subst hb
    have hcoherent := h.record _ r access.found
    have hat := (lifecycle_open hcoherent.lifecycle (by simp [hstate, MailboxState.isOpen])).2.2.2.1
    have hbefore : r.committedBytes = 0 := by simp [Record.committedBytes, hat]
    have hafter : (r.committedWith (wrapResult cfg digest j env.nonce) manifest
        now).committedBytes = j.length + r.evidenceBytes := by
      simp [Record.committedBytes, Record.committedWith, Record.resultBytes, Record.evidenceBytes,
        wrapResult]
    refine h.replace access.found access.notAfter (hcoherent.committedWith access.seen hstate
      (validatedRecordMaterial_eq_ok.mp access.authentic) hbytes hdigest hrefs hmanifest) ?_ ?_ ?_
      (by omega)
    · intro d hd
      exact ((List.Sublist.refl _).append (List.nil_sublist _)).subset hd
    · exact (sub_add_cancel _ r.activeBytes).trans_le h.active
    · exact (sub_add_cancel _ r.evidenceBytes).trans_le h.evidence
  | delivered access _ hstate _ hcollection =>
    exact h.shrink access.found access.notAfter
      ((h.record _ _ access.found).delivering access.seen hstate hcollection) (fun _ hd => hd)
      le_rfl le_rfl le_rfl
  | acknowledgedAgain access => exact h.observe access.found access.notAfter access.seen
  | @acknowledged id d env r m now access _ hstate _ _ =>
    have hm := validatedRecordMaterial_eq_ok.mp access.authentic
    have hzero : (r.acknowledged now).committedBytes = 0 := by
      simp [Record.committedBytes, Record.acknowledged, Record.resultBytes, Record.evidenceBytes]
    refine h.shrink access.found access.notAfter
      ((h.record _ _ access.found).acknowledged access.seen hstate) (fun _ hd => hd) le_rfl ?_ ?_
    · exact hm.evidenceBytes_nonneg
    · rw [hzero]
      exact hm.committedBytes_nonneg
  | abandoned access _ hopen =>
    exact h.close access.found access.notAfter access.seen hopen (Or.inr rfl)
  | @swept d env now ids s' _ hafter _ hseen hswept htomb =>
    refine h.sweep hswept ?_ ?_ ?_ (htomb ▸ h.tombstones)
    · intro id r r' hr hr'
      obtain rfl := Option.some.inj hr'
      obtain ⟨m, hm⟩ := (h.record id r hr).material
      exact ⟨(h.record id r hr).swept (hseen id r hr), swept_le hm⟩
    · intro id t ht
      rw [htomb] at ht
      exact validTombstone_mono hafter (h.tombstone id t ht)
    · intro id r' hr'
      rw [hswept.records] at hr'
      obtain ⟨r, hr, -⟩ := Option.bind_eq_some_iff.mp hr'
      rw [htomb]
      exact h.disjoint id r hr
  | @collected d env now expiresAt removed s' _ hafter _ hseen hadd hdue hswept htombs hsize =>
    have hexpires : now.val + cfg.limits.tombstoneRetention = expiresAt.val := by
      unfold Datetime.add at hadd
      split_ifs at hadd with hlt
      rw [← Option.some.inj hadd]
    have hnew : validTombstone cfg (some now) ⟨now, expiresAt⟩ = true := by
      have hpos := cfg.limits.positive
      simp only [validTombstone, Bool.and_eq_true, decide_eq_true_eq, Option.any_some]
      refine ⟨⟨?_, hexpires⟩, le_rfl⟩
      rw [Fin.lt_def]
      omega
    refine h.sweep hswept ?_ ?_ ?_ (hsize.trans (max_le le_rfl h.tombstones))
    · intro id r r' hr hr'
      split_ifs at hr'
      obtain rfl := Option.some.inj hr'
      exact ⟨(h.record id r hr).seen_at (hseen id r hr), fun _ hd => hd, le_rfl, le_rfl, le_rfl⟩
    · intro id t ht
      rw [htombs] at ht
      split_ifs at ht
      · obtain rfl := Option.some.inj ht
        exact hnew
      · exact validTombstone_mono hafter (h.tombstone id t (Option.filter_eq_some_iff.mp ht).1)
    · intro id r' hr'
      rw [hswept.records] at hr'
      obtain ⟨r, hr, hkeep⟩ := Option.bind_eq_some_iff.mp hr'
      have hid : id ∉ removed := by
        intro hmem
        simp [hmem] at hkeep
      rw [htombs, if_neg hid, h.disjoint id r hr]
      rfl

/-- Every run from the empty repository ends in a coherent one. -/
theorem coherent_run (cfg : Config) (is : List (Call × Env)) :
    Coherent cfg (run (apply cfg) .empty is) :=
  run_invariant (fun s i h => (apply_step cfg s i).coherent h) is (coherent_empty cfg)

theorem Coherent.digests_nodup (h : Coherent cfg s) :
    (cfg.maintenanceCredentialDigest :: s.records.values.flatMap Record.credentialDigests).Nodup := by
  rw [List.nodup_cons]
  constructor
  · intro hmem
    obtain ⟨r, hr, hd⟩ := List.mem_flatMap.mp hmem
    obtain ⟨id, hid⟩ := Dict.mem_values.mp hr
    exact (h.record id r hid).maintenance hd
  · refine List.nodup_flatMap.mpr ⟨fun r hr => ?_, h.pairwise.imp fun hpair d hd hd' => ?_⟩
    · obtain ⟨id, hid⟩ := Dict.mem_values.mp hr
      exact (h.record id r hid).nodup
    · exact hpair d hd' hd

/-- Whatever was called before, the repository passes the check of the persistent adapter and
every record authenticates, so that neither self-validation can refuse the next call. -/
theorem run_selfValidates (cfg : Config) (is : List (Call × Env)) :
    let s := run (apply cfg) .empty is
    validateRepositorySemantics cfg s = .ok () ∧
      (∀ r ∈ s.records.values, ∃ m, validatedRecordMaterial cfg r = .ok m) ∧
      (cfg.maintenanceCredentialDigest ::
        s.records.values.flatMap Record.credentialDigests).Nodup ∧
      (s.totalActiveMaterialBytes = s.records.sum Record.activeBytes ∧
        s.totalEvidenceBytes = s.records.sum Record.evidenceBytes ∧
        s.totalCommittedBytes = s.records.sum Record.committedBytes) ∧
      (0 ≤ s.totalActiveMaterialBytes ∧ 0 ≤ s.totalEvidenceBytes ∧ 0 ≤ s.totalCommittedBytes) ∧
      (s.totalActiveMaterialBytes ≤ cfg.limits.maxTotalActiveMaterialBytes ∧
        s.totalEvidenceBytes ≤ cfg.limits.maxTotalEvidenceBytes ∧
        s.totalCommittedBytes ≤ cfg.limits.maxTotalCommittedBytes) ∧
      (∀ id ∈ s.records.keys, id ∉ s.tombstones.keys) ∧
      s.records.size ≤ cfg.limits.maxMailboxes ∧
      s.tombstones.size ≤ cfg.limits.maxTombstones := by
  intro s
  have h : Coherent cfg s := coherent_run cfg is
  refine ⟨h.validate, fun r hr => ?_, h.digests_nodup, h.totals, h.totals_nonneg,
    ⟨h.active, h.evidence, h.committed⟩, fun id hid => ?_, h.mailboxes, h.tombstones⟩
  · obtain ⟨id, hid⟩ := Dict.mem_values.mp hr
    obtain ⟨m, hm⟩ := (h.record id r hid).material
    exact ⟨m, validatedRecordMaterial_eq_ok.mpr hm⟩
  · obtain ⟨r, hr⟩ := Dict.mem_keys.mp hid
    exact Dict.get?_eq_none.mp (h.disjoint id r hr)

end MyCogni.Mailbox
