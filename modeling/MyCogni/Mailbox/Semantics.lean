import MyCogni.Mailbox.Inversion

/-! The consistency of a repository: lifecycle, times, credentials and quotas. The check that the
persistent adapter makes of every state it reads or writes comes first, then the invariant that
every call keeps, from which the check follows. -/

namespace MyCogni.Mailbox

/-! ### The check -/

def Record.noActive (r : Record) : Bool :=
  r.envelopeJson = none && r.actionKey = none && r.resultCredential = none

def Record.noCommitted (r : Record) : Bool :=
  r.resultEnvelope = none && r.committedEvidenceManifest = none && r.committedAt = none

def Record.validLifecycle (r : Record) : Bool :=
  match r.state with
  | .empty => r.collectionState = .none && r.noActive && r.resultCredentialDigest = none &&
      r.evidence.size = 0 && r.noCommitted && r.terminalAt = none
  | .offered => r.collectionState = .none &&
      (r.envelopeJson.isSome && r.actionKey.isSome && r.resultCredential.isSome) &&
      r.resultCredentialDigest.isSome && r.evidence.size = 0 && r.noCommitted && r.terminalAt = none
  | .claimedOnce => r.collectionState = .none && r.noActive && r.resultCredentialDigest.isSome &&
      r.noCommitted && r.terminalAt = none
  | .expired | .abandoned => r.collectionState = .none && r.noActive &&
      r.resultCredentialDigest = none && r.evidence.size = 0 && r.noCommitted && r.terminalAt.isSome
  | .resultCommitted =>
      (r.collectionState = .ready || r.collectionState = .delivering ||
        r.collectionState = .acknowledged) &&
      r.noActive && r.resultCredentialDigest = none && r.committedAt.isSome &&
      decide (r.collectionState = .acknowledged) == r.terminalAt.isSome &&
      !(r.collectionState = .acknowledged &&
        r.terminalAt.any fun t => r.committedAt.any fun c => t < c) &&
      !(r.collectionState ≠ .acknowledged && r.resultEnvelope.any fun result =>
        r.binding.responseBytes < result.byteCount + r.evidenceBytes)

/-- The digests a record contributes; an empty result digest counts as absent. -/
def Record.observedCredentials (r : Record) : List Bytes :=
  [r.actionCredentialDigest, r.claimCredentialDigest, r.collectionCredentialDigest] ++
    (r.resultCredentialDigest.filter fun d => d ≠ []).toList

structure Tally where
  active : Int
  evidence : Int
  committed : Int
  credentials : List Bytes

def within (r : Record) (instant : Option Datetime) : Bool :=
  instant.all fun i => r.createdAt ≤ i && i ≤ r.lastSeenUtc

def validateRecordSemantics (highWater : Option Datetime) (tally : Tally) (r : Record) :
    Except Failure Tally := do
  ensure (r.createdAt ≤ r.lastSeenUtc ∧ highWater.all (r.lastSeenUtc ≤ ·) = true) uncertain
  ensure (r.createdAt < r.binding.claimDeadlineUtc) uncertain
  ensure (within r r.committedAt = true ∧ within r r.terminalAt = true) uncertain
  ensure (r.observedCredentials.Nodup ∧ ∀ d ∈ r.observedCredentials, d ∉ tally.credentials)
    uncertain
  ensure (r.evidence.size ≤ maxEvidenceItems ∧ r.evidenceBytes ≤ r.binding.responseBytes) uncertain
  ensure (r.validLifecycle = true) uncertain
  return {
    active := tally.active + r.activeBytes
    evidence := tally.evidence + r.evidenceBytes
    committed := tally.committed + r.committedBytes
    credentials := tally.credentials ++ r.observedCredentials }

def validTombstone (cfg : Config) (highWater : Option Datetime) (t : Tombstone) : Bool :=
  t.createdAt < t.expiresAt && t.createdAt.val + cfg.limits.tombstoneRetention = t.expiresAt.val &&
    highWater.any (t.createdAt ≤ ·)

def validateRepositorySemantics (cfg : Config) (s : Repository) : Except Failure Unit := do
  let highWater := s.installationLastSeenUtc
  ensure ((s.records.size = 0 ∧ s.tombstones.size = 0) ∨ highWater ≠ none) uncertain
  let tally ← s.records.values.foldlM (validateRecordSemantics highWater)
    ⟨0, 0, 0, [cfg.maintenanceCredentialDigest]⟩
  ensure (∀ t ∈ s.tombstones.values, validTombstone cfg highWater t = true) uncertain
  ensure (s.totalActiveMaterialBytes = tally.active ∧ s.totalEvidenceBytes = tally.evidence ∧
    s.totalCommittedBytes = tally.committed ∧ 0 ≤ tally.active ∧ 0 ≤ tally.evidence ∧
    0 ≤ tally.committed ∧ tally.active ≤ cfg.limits.maxTotalActiveMaterialBytes ∧
    tally.evidence ≤ cfg.limits.maxTotalEvidenceBytes ∧
    tally.committed ≤ cfg.limits.maxTotalCommittedBytes) uncertain

/-! ### The invariant -/

structure RecordCoherent (cfg : Config) (highWater : Option Datetime) (id : Uuid) (r : Record) :
    Prop where
  key : r.binding.mailboxId = id
  created : r.createdAt ≤ r.lastSeenUtc
  seen : ∃ t, highWater = some t ∧ r.lastSeenUtc ≤ t
  inTime : r.createdAt < r.binding.claimDeadlineUtc
  committedAt : ∀ t ∈ r.committedAt, r.createdAt ≤ t ∧ t ≤ r.lastSeenUtc
  terminalAt : ∀ t ∈ r.terminalAt, r.createdAt ≤ t ∧ t ≤ r.lastSeenUtc
  nodup : r.credentialDigests.Nodup
  maintenance : cfg.maintenanceCredentialDigest ∉ r.credentialDigests
  items : r.evidence.size ≤ maxEvidenceItems
  bytes : r.evidenceBytes ≤ r.binding.responseBytes
  lifecycle : r.validLifecycle = true
  material : ∃ m, Authentic cfg r m

structure Coherent (cfg : Config) (s : Repository) : Prop where
  record : ∀ id r, s.records.get? id = some r →
    RecordCoherent cfg s.installationLastSeenUtc id r
  distinct : ∀ id id' r r', s.records.get? id = some r → s.records.get? id' = some r' →
    id ≠ id' → ∀ d ∈ r.credentialDigests, d ∉ r'.credentialDigests
  tombstone : ∀ id t, s.tombstones.get? id = some t →
    validTombstone cfg s.installationLastSeenUtc t = true
  disjoint : ∀ id r, s.records.get? id = some r → s.tombstones.get? id = none
  mailboxes : s.records.size ≤ cfg.limits.maxMailboxes
  tombstones : s.tombstones.size ≤ cfg.limits.maxTombstones
  drift : s.drift = (0, 0, 0)
  active : s.totalActiveMaterialBytes ≤ cfg.limits.maxTotalActiveMaterialBytes
  evidence : s.totalEvidenceBytes ≤ cfg.limits.maxTotalEvidenceBytes
  committed : s.totalCommittedBytes ≤ cfg.limits.maxTotalCommittedBytes

variable {cfg : Config} {s : Repository}

theorem observedCredentials_sublist (r : Record) :
    r.observedCredentials.Sublist r.credentialDigests := by
  refine (List.Sublist.refl _).append ?_
  cases r.resultCredentialDigest with
  | none => exact List.Sublist.refl _
  | some d =>
    rw [Option.filter_some]
    split_ifs
    · exact List.Sublist.refl _
    · exact List.nil_sublist _

theorem activeBytes_nonneg (r : Record) : 0 ≤ r.activeBytes := by
  have h : ∀ b : Option Bytes, 0 ≤ optLength b := by
    intro b
    cases b with
    | none => exact le_rfl
    | some b => exact Int.natCast_nonneg _
  have he := h r.envelopeJson
  have hk := h r.actionKey
  have hc := h r.resultCredential
  unfold Record.activeBytes
  omega

theorem Authentic.committedBytes_nonneg {r : Record} {m : List EvidenceUpload × Option Bytes}
    (h : Authentic cfg r m) : 0 ≤ r.committedBytes := by
  have hresult := h.resultBytes_nonneg
  have hevidence := h.evidenceBytes_nonneg
  unfold Record.committedBytes
  split_ifs <;> omega

theorem RecordCoherent.mono {highWater : Option Datetime} {id : Uuid} {r : Record}
    (h : RecordCoherent cfg highWater id r) {now : Datetime} (hnow : ∀ t ∈ highWater, t ≤ now) :
    RecordCoherent cfg (some now) id r := by
  obtain ⟨t, ht, hle⟩ := h.seen
  exact { h with seen := ⟨now, rfl, hle.trans (hnow t ht)⟩ }

/-! ### The check follows from the invariant -/

theorem foldlM_validateRecordSemantics {highWater : Option Datetime} (rs : List Record)
    (hrs : ∀ r ∈ rs, ∃ id, RecordCoherent cfg highWater id r)
    (hpair : rs.Pairwise fun r r' => ∀ d ∈ r'.credentialDigests, d ∉ r.credentialDigests)
    (tally : Tally) (hfresh : ∀ r ∈ rs, ∀ d ∈ r.credentialDigests, d ∉ tally.credentials) :
    ∃ credentials, rs.foldlM (validateRecordSemantics highWater) tally = .ok
      ⟨tally.active + (rs.map Record.activeBytes).sum,
       tally.evidence + (rs.map Record.evidenceBytes).sum,
       tally.committed + (rs.map Record.committedBytes).sum, credentials⟩ := by
  induction rs generalizing tally with
  | nil => exact ⟨tally.credentials, by simp⟩
  | cons r rs ih =>
    obtain ⟨id, hr⟩ := hrs r List.mem_cons_self
    obtain ⟨t, rfl, hle⟩ := hr.seen
    rw [List.pairwise_cons] at hpair
    have hsub := observedCredentials_sublist r
    have hone : validateRecordSemantics (some t) tally r = .ok
        ⟨tally.active + r.activeBytes, tally.evidence + r.evidenceBytes,
         tally.committed + r.committedBytes, tally.credentials ++ r.observedCredentials⟩ := by
      unfold validateRecordSemantics within
      simp only [bind_eq_ok_iff, ensure_eq_ok, exists_const, pure_eq_ok_iff, and_true,
        Option.all_some, decide_eq_true_eq, Option.all_eq_true, Bool.and_eq_true]
      exact ⟨⟨hr.created, hle⟩, hr.inTime, ⟨hr.committedAt, hr.terminalAt⟩,
        ⟨hr.nodup.sublist hsub, fun d hd => hfresh r List.mem_cons_self d (hsub.subset hd)⟩,
        ⟨hr.items, hr.bytes⟩, hr.lifecycle⟩
    obtain ⟨credentials, hrest⟩ := ih (fun r hr => hrs r (List.mem_cons_of_mem _ hr)) hpair.2
      ⟨tally.active + r.activeBytes, tally.evidence + r.evidenceBytes,
       tally.committed + r.committedBytes, tally.credentials ++ r.observedCredentials⟩ (by
        intro r' hr' d hd hmem
        rcases List.mem_append.mp hmem with hmem | hmem
        · exact hfresh r' (List.mem_cons_of_mem _ hr') d hd hmem
        · exact hpair.1 r' hr' d hd (hsub.subset hmem))
    refine ⟨credentials, ?_⟩
    rw [List.foldlM_cons, hone]
    simp only [List.map_cons, List.sum_cons, ← add_assoc]
    exact hrest

theorem Coherent.pairwise (h : Coherent cfg s) : s.records.values.Pairwise
    fun r r' => ∀ d ∈ r'.credentialDigests, d ∉ r.credentialDigests := by
  have hkeys : s.records.entries.Pairwise fun e e' => e.1 ≠ e'.1 :=
    List.pairwise_map.mp s.records.nodup
  refine List.pairwise_map.mpr (hkeys.imp_of_mem fun he he' hne => ?_)
  exact h.distinct _ _ _ _ (Dict.get?_eq_some.mpr he') (Dict.get?_eq_some.mpr he) hne.symm

theorem Coherent.totals (h : Coherent cfg s) :
    s.totalActiveMaterialBytes = s.records.sum Record.activeBytes ∧
      s.totalEvidenceBytes = s.records.sum Record.evidenceBytes ∧
      s.totalCommittedBytes = s.records.sum Record.committedBytes := by
  have hdrift := h.drift
  simp only [Repository.drift, Prod.mk.injEq] at hdrift
  omega

theorem Coherent.totals_nonneg (h : Coherent cfg s) :
    0 ≤ s.totalActiveMaterialBytes ∧ 0 ≤ s.totalEvidenceBytes ∧ 0 ≤ s.totalCommittedBytes := by
  obtain ⟨hactive, hevidence, hcommitted⟩ := h.totals
  have hmaterial : ∀ r ∈ s.records.values, ∃ m, Authentic cfg r m := by
    intro r hr
    obtain ⟨id, hid⟩ := Dict.mem_values.mp hr
    exact (h.record id r hid).material
  refine ⟨?_, ?_, ?_⟩
  · rw [hactive]
    exact Dict.sum_nonneg fun r _ => activeBytes_nonneg r
  · rw [hevidence]
    exact Dict.sum_nonneg fun r hr => (hmaterial r hr).elim fun _ hm => hm.evidenceBytes_nonneg
  · rw [hcommitted]
    exact Dict.sum_nonneg fun r hr => (hmaterial r hr).elim fun _ hm => hm.committedBytes_nonneg

/-- A coherent repository passes the check of the persistent adapter. -/
theorem Coherent.validate (h : Coherent cfg s) : validateRepositorySemantics cfg s = .ok () := by
  have hrs : ∀ r ∈ s.records.values,
      ∃ id, RecordCoherent cfg s.installationLastSeenUtc id r := by
    intro r hr
    obtain ⟨id, hid⟩ := Dict.mem_values.mp hr
    exact ⟨id, h.record id r hid⟩
  obtain ⟨credentials, hfold⟩ := foldlM_validateRecordSemantics s.records.values hrs h.pairwise
    ⟨0, 0, 0, [cfg.maintenanceCredentialDigest]⟩ (by
      intro r hr d hd hmem
      obtain ⟨id, hcoherent⟩ := hrs r hr
      exact hcoherent.maintenance (List.mem_singleton.mp hmem ▸ hd))
  have hsum : ∀ f : Record → Int, (s.records.values.map f).sum = s.records.sum f := by
    intro f
    rw [Dict.values, List.map_map]
    rfl
  obtain ⟨hactive, hevidence, hcommitted⟩ := h.totals
  have hwater : (s.records.size = 0 ∧ s.tombstones.size = 0) ∨
      s.installationLastSeenUtc ≠ none := by
    by_contra hcon
    rw [not_or, not_and_or, not_not] at hcon
    rcases hcon with ⟨hrec | htomb, hnone⟩
    · obtain ⟨e, he⟩ := List.exists_mem_of_length_pos (Nat.pos_of_ne_zero hrec)
      obtain ⟨t, ht, -⟩ := (h.record e.1 e.2 (Dict.get?_eq_some.mpr he)).seen
      exact absurd (ht.symm.trans hnone) (by simp)
    · obtain ⟨e, he⟩ := List.exists_mem_of_length_pos (Nat.pos_of_ne_zero htomb)
      have hvalid := h.tombstone e.1 e.2 (Dict.get?_eq_some.mpr he)
      simp [validTombstone, hnone] at hvalid
  have htombs : ∀ t ∈ s.tombstones.values,
      validTombstone cfg s.installationLastSeenUtc t = true := by
    intro t ht
    obtain ⟨id, hid⟩ := Dict.mem_values.mp ht
    exact h.tombstone id t hid
  unfold validateRepositorySemantics
  simp only [bind_eq_ok_iff, ensure_eq_ok, exists_const, hfold, hsum, zero_add, Except.ok.injEq,
    exists_eq_left']
  exact ⟨hwater, htombs, hactive, hevidence, hcommitted, hactive ▸ h.totals_nonneg.1,
    hevidence ▸ h.totals_nonneg.2.1, hcommitted ▸ h.totals_nonneg.2.2, hactive ▸ h.active,
    hevidence ▸ h.evidence, hcommitted ▸ h.committed⟩

end MyCogni.Mailbox
