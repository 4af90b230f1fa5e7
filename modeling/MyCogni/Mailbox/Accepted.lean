import Mathlib.Data.List.Pairwise
import MyCogni.Mailbox.Loadable

/-! What the rows that the persistent adapter accepts hold. The checks that a load makes are
enough: whatever passes them is a coherent repository within the bounds of the codec, in canonical
order, so a call on it behaves as on a repository that calls have built. -/

namespace MyCogni.Mailbox
variable {inst : Installation} {s : Repository}

/-! ### Records -/

/-- What the check of one record establishes, beside that its credentials are new. -/
structure RecordChecked (highWater : Option Datetime) (r : Record) : Prop where
  created : r.createdAt ≤ r.lastSeenUtc
  seen : ∀ t ∈ highWater, r.lastSeenUtc ≤ t
  inTime : r.createdAt < r.binding.claimDeadlineUtc
  committedAt : ∀ t ∈ r.committedAt, r.createdAt ≤ t ∧ t ≤ r.lastSeenUtc
  terminalAt : ∀ t ∈ r.terminalAt, r.createdAt ≤ t ∧ t ≤ r.lastSeenUtc
  nodup : r.observedCredentials.Nodup
  items : r.evidence.size ≤ maxEvidenceItems
  bytes : r.evidenceBytes ≤ r.binding.responseBytes
  lifecycle : r.validLifecycle = true

theorem validateRecordSemantics_eq_ok {highWater : Option Datetime} {tally tally' : Tally}
    {r : Record} (h : validateRecordSemantics highWater tally r = .ok tally') :
    RecordChecked highWater r ∧ (∀ d ∈ r.observedCredentials, d ∉ tally.credentials) ∧
      tally' = ⟨tally.active + r.activeBytes, tally.evidence + r.evidenceBytes,
        tally.committed + r.committedBytes, tally.credentials ++ r.observedCredentials⟩ := by
  unfold validateRecordSemantics within at h
  simp only [bind_eq_ok_iff, ensure_eq_ok, exists_const, pure_eq_ok_iff, decide_eq_true_eq,
    Option.all_eq_true, Bool.and_eq_true] at h
  obtain ⟨⟨hcreated, hseen⟩, hinTime, ⟨hcommitted, hterminal⟩, ⟨hnodup, hfresh⟩, ⟨hitems, hbytes⟩,
    hlifecycle, htally⟩ := h
  exact ⟨⟨hcreated, hseen, hinTime, hcommitted, hterminal, hnodup, hitems, hbytes, hlifecycle⟩,
    hfresh, htally.symm⟩

/-- The loop over the records checks each of them, and that no two share a credential. -/
theorem of_foldlM_validateRecordSemantics {highWater : Option Datetime} (rs : List Record)
    {tally tally' : Tally}
    (h : rs.foldlM (validateRecordSemantics highWater) tally = .ok tally') :
    (∀ r ∈ rs, RecordChecked highWater r ∧ ∀ d ∈ r.observedCredentials, d ∉ tally.credentials) ∧
      rs.Pairwise (fun r r' => ∀ d ∈ r'.observedCredentials, d ∉ r.observedCredentials) ∧
      tally'.active = tally.active + (rs.map Record.activeBytes).sum ∧
      tally'.evidence = tally.evidence + (rs.map Record.evidenceBytes).sum ∧
      tally'.committed = tally.committed + (rs.map Record.committedBytes).sum := by
  induction rs generalizing tally with
  | nil =>
    obtain rfl := pure_eq_ok_iff.mp h
    simp
  | cons r rs ih =>
    rw [List.foldlM_cons, bind_eq_ok_iff] at h
    obtain ⟨next, hone, hrest⟩ := h
    obtain ⟨hchecked, hfresh, rfl⟩ := validateRecordSemantics_eq_ok hone
    obtain ⟨hall, hpair, hactive, hevidence, hcommitted⟩ := ih hrest
    have hapart : ∀ r' ∈ rs, ∀ d ∈ r'.observedCredentials,
        d ∉ tally.credentials ∧ d ∉ r.observedCredentials := by
      intro r' hr' d hd
      have hnot := (hall r' hr').2 d hd
      rw [List.mem_append, not_or] at hnot
      exact hnot
    refine ⟨List.forall_mem_cons.mpr ⟨⟨hchecked, hfresh⟩, fun r' hr' => ?_⟩,
      List.pairwise_cons.mpr ⟨fun r' hr' d hd => (hapart r' hr' d hd).2, hpair⟩, ?_, ?_, ?_⟩
    · exact ⟨(hall r' hr').1, fun d hd => (hapart r' hr' d hd).1⟩
    · rw [hactive, List.map_cons, List.sum_cons, add_assoc]
    · rw [hevidence, List.map_cons, List.sum_cons, add_assoc]
    · rw [hcommitted, List.map_cons, List.sum_cons, add_assoc]

theorem Record.Fits.observedCredentials {limits : MailboxLimits} {r : Record} (h : r.Fits limits) :
    r.observedCredentials = r.credentialDigests := by
  unfold Record.observedCredentials Record.credentialDigests
  cases hd : r.resultCredentialDigest with
  | none => rfl
  | some d =>
    have hlength := (h.resultDigest d hd).1
    have hne : d ≠ [] := by
      rintro rfl
      exact absurd hlength (by decide)
    rw [Option.filter_some, if_pos (decide_eq_true hne)]

/-! ### Repositories -/

theorem forM_authentic {cfg : Config} {rs : List Record}
    (h : (rs.forM fun r => (validatedRecordMaterial cfg r).map fun _ => ()) = .ok ()) :
    ∀ r ∈ rs, ∃ m, Authentic cfg r m := by
  induction rs with
  | nil => exact fun r hr => absurd hr List.not_mem_nil
  | cons r rs ih =>
    rw [List.forM, bind_eq_ok_iff] at h
    obtain ⟨u, hone, hrest⟩ := h
    refine List.forall_mem_cons.mpr ⟨?_, ih hrest⟩
    cases hm : validatedRecordMaterial cfg r with
    | error e =>
      rw [hm] at hone
      cases hone
    | ok m => exact ⟨m, validatedRecordMaterial_eq_ok.mp hm⟩

/-- What passes the check of the persistent adapter is coherent, where the codec has measured it and
its material is authentic. -/
theorem coherent_of_validate {cfg : Config} (hkeyed : s.Keyed) (hfits : s.Fits cfg.limits)
    (hmaterial : ∀ r ∈ s.records.values, ∃ m, Authentic cfg r m)
    (h : validateRepositorySemantics cfg s = .ok ()) : Coherent cfg s := by
  unfold validateRepositorySemantics at h
  simp only [bind_eq_ok_iff, ensure_eq_ok, exists_const] at h
  obtain ⟨hwater, tally, hfold, htombs, hactive, hevidence, hcommitted, -, -, -, hmaxActive,
    hmaxEvidence, hmaxCommitted⟩ := h
  obtain ⟨hall, hpair, hsumActive, hsumEvidence, hsumCommitted⟩ :=
    of_foldlM_validateRecordSemantics _ hfold
  have hsum : ∀ f : Record → Int, (s.records.values.map f).sum = s.records.sum f := by
    intro f
    rw [Dict.values, List.map_map]
    rfl
  rw [hsum, zero_add] at hsumActive hsumEvidence hsumCommitted
  have hobserved : ∀ r ∈ s.records.values, r.observedCredentials = r.credentialDigests := by
    intro r hr
    obtain ⟨id, hid⟩ := Dict.mem_values.mp hr
    exact (hfits.record id r hid).observedCredentials
  refine
    { record := fun id r hr => ?_
      distinct := fun id id' r r' hr hr' hne => ?_
      tombstone := fun id t ht => htombs t (Dict.mem_values.mpr ⟨id, ht⟩)
      disjoint := fun id r hr => ?_
      mailboxes := hfits.mailboxes
      tombstones := hfits.tombstones
      drift := ?_
      active := hactive.trans_le hmaxActive
      evidence := hevidence.trans_le hmaxEvidence
      committed := hcommitted.trans_le hmaxCommitted }
  · have hmem : r ∈ s.records.values := Dict.mem_values.mpr ⟨id, hr⟩
    obtain ⟨hchecked, hfresh⟩ := hall r hmem
    have hsome : s.installationLastSeenUtc ≠ none := by
      refine hwater.resolve_left fun hsizes => ?_
      have hempty := Dict.eq_empty_of_size hsizes.1
      rw [hempty] at hr
      cases hr
    obtain ⟨t, ht⟩ := Option.ne_none_iff_exists'.mp hsome
    rw [hobserved r hmem] at hfresh
    exact
      { key := (hkeyed id r hr).1
        created := hchecked.created
        seen := ⟨t, ht, hchecked.seen t ht⟩
        inTime := hchecked.inTime
        committedAt := hchecked.committedAt
        terminalAt := hchecked.terminalAt
        nodup := hobserved r hmem ▸ hchecked.nodup
        maintenance := fun hd => hfresh _ hd (List.mem_singleton_self _)
        items := hchecked.items
        bytes := hchecked.bytes
        lifecycle := hchecked.lifecycle
        material := hmaterial r hmem }
  · -- two entries of the dictionary stand in one order or the other
    let Apart (e e' : Uuid × Record) : Prop :=
      e.1 ≠ e'.1 → ∀ d ∈ e.2.credentialDigests, d ∉ e'.2.credentialDigests
    have hsymm : Std.Symm Apart := ⟨fun e e' h hne d hd hd' => h hne.symm d hd' hd⟩
    have hentries : s.records.entries.Pairwise Apart := by
      refine (List.pairwise_map.mp hpair).imp_of_mem fun {e e'} he he' hdisjoint _ d hd hd' => ?_
      have hvalue : e.2 ∈ s.records.values := List.mem_map.mpr ⟨e, he, rfl⟩
      have hvalue' : e'.2 ∈ s.records.values := List.mem_map.mpr ⟨e', he', rfl⟩
      rw [hobserved _ hvalue, hobserved _ hvalue'] at hdisjoint
      exact hdisjoint d hd' hd
    have hself : ∀ e ∈ s.records.entries, Apart e e := fun e _ h => absurd rfl h
    exact List.Pairwise.forall_of_forall hself hentries (Dict.get?_eq_some.mp hr)
      (Dict.get?_eq_some.mp hr') hne
  · cases ht : s.tombstones.get? id with
    | none => rfl
    | some t => exact absurd ((hfits.tombstone id t ht).2.symm.trans hr) (by simp)
  · rw [Repository.drift, hactive, hevidence, hcommitted, hsumActive, hsumEvidence, hsumCommitted]
    simp

/-- The decoder keeps a record under the identifier of its binding. -/
theorem decodeState_key {limits : MailboxLimits} {b : Bytes} (h : decodeState limits b = some s) :
    ∀ id r, s.records.get? id = some r → r.binding.mailboxId = id := by
  unfold decodeState stateFromWire at h
  simp only [Option.bind_eq_bind, Option.bind_eq_some_iff] at h
  obtain ⟨_, -, j, -, _, -, _, -, version, -, _, -, recordItems, -, tombstoneItems, -, _, -, records,
    hrecords, tombstones, -, active, -, evidence, -, committed, -, _, -, lastSeen, -, hs⟩ := h
  obtain rfl := Option.some.inj hs
  have hkeys : ∀ e ∈ records.entries, e.2.binding.mailboxId = e.1 := by
    have hread := dictFromWire_eq_some.mp hrecords
    clear hrecords
    generalize records.entries = entries at hread
    induction hread with
    | nil => exact fun e he => absurd he List.not_mem_nil
    | cons hone _ ih =>
      refine List.forall_mem_cons.mpr ⟨?_, ih⟩
      obtain ⟨r, -, hr⟩ := Option.bind_eq_some_iff.mp hone
      rw [← Option.some.inj hr]
  exact fun id r hr => hkeys (id, r) (Dict.get?_eq_some.mp hr)

/-- What a row holds where a load accepts it. -/
structure Accepted (inst : Installation) (row : Row) (s : Repository) : Prop where
  version : row.frameVersion = frameVersion
  generation : 0 ≤ row.generation ∧ row.generation < maxFrameGeneration
  nonce : row.nonce.length = 12
  digest : Sha256.digest row.ciphertext = row.ciphertextDigest
  length : row.ciphertext ≠ [] ∧ row.ciphertext.length ≤ inst.maxCiphertextBytes
  decrypts : ∃ serialized, inst.aead.decrypt inst.outerStorageKey row.nonce row.ciphertext
      (inst.aad row.generation) = some serialized ∧
    encodeState s = some serialized ∧ serialized.length ≤ inst.limits.maxSerializedBytes
  coherent : Coherent inst.config s
  fits : s.Fits inst.limits
  canonical : s.canonical = s

theorem loadRepository_accepted {row : Row} {generation : Int}
    (h : loadRepository inst row = .ok (generation, s)) :
    row.generation = generation ∧ Accepted inst row s := by
  unfold loadRepository at h
  simp only [bind_eq_ok_iff, ensure_eq_ok, exists_const] at h
  obtain ⟨⟨hversion, hpos, hmax, hnonce, -, hne, hlength⟩, hdigest, h⟩ := h
  cases hdecrypt : inst.aead.decrypt inst.outerStorageKey row.nonce row.ciphertext
      (inst.aad row.generation) with
  | none =>
    rw [hdecrypt] at h
    cases h
  | some serialized =>
    rw [hdecrypt] at h
    dsimp only at h
    cases hdecode : decodeState inst.limits serialized with
    | none =>
      rw [hdecode] at h
      cases h
    | some s' =>
      rw [hdecode] at h
      dsimp only at h
      simp only [bind_eq_ok_iff, ensure_eq_ok, pure_eq_ok_iff, exists_const,
        Prod.mk.injEq] at h
      obtain ⟨u, hmaterial, u', hvalid, hencode, hgeneration, rfl⟩ := h
      have hauthentic := forM_authentic hmaterial
      have hkeyed : s'.Keyed := by
        intro id r hr
        obtain ⟨m, hm⟩ := hauthentic r (Dict.mem_values.mpr ⟨id, hr⟩)
        exact ⟨decodeState_key hdecode id r hr, Record.keyed hm⟩
      obtain ⟨hshort, hfits, hcanonical⟩ := (decodeState_encodeState hkeyed hencode).mp hdecode
      exact ⟨hgeneration,
        { version := hversion
          generation := ⟨hpos, hmax⟩
          nonce := hnonce
          digest := hdigest
          length := ⟨hne, hlength⟩
          decrypts := ⟨serialized, hdecrypt, hencode, hshort⟩
          coherent := coherent_of_validate hkeyed hfits hauthentic hvalid
          fits := hfits
          canonical := hcanonical }⟩

/-- The rows that the persistent adapter accepts are those that hold the text of a coherent
repository within the bounds of the codec, in canonical order. -/
theorem loadRepository_iff {row : Row} {generation : Int} :
    loadRepository inst row = .ok (generation, s) ↔
      row.generation = generation ∧ Accepted inst row s := by
  constructor
  · exact loadRepository_accepted
  · rintro ⟨rfl, h⟩
    obtain ⟨serialized, hdecrypt, hencode, hshort⟩ := h.decrypts
    have hdigest : row.ciphertextDigest.length = 32 := h.digest ▸ Sha256.length_digest _
    have hchecks : row.frameVersion = frameVersion ∧ 0 ≤ row.generation ∧
        row.generation < maxFrameGeneration ∧ row.nonce.length = 12 ∧
        row.ciphertextDigest.length = 32 ∧ row.ciphertext ≠ [] ∧
        row.ciphertext.length ≤ inst.maxCiphertextBytes :=
      ⟨h.version, h.generation.1, h.generation.2, h.nonce, hdigest, h.length.1, h.length.2⟩
    have hread : decodeState inst.limits serialized = some s :=
      (decodeState_encodeState h.coherent.keyed hencode).mpr ⟨hshort, h.fits, h.canonical⟩
    unfold loadRepository
    rw [ensure_bind hchecks, ensure_bind h.digest, hdecrypt]
    dsimp only
    rw [hread]
    dsimp only
    rw [h.coherent.authenticates, ok_bind, h.coherent.validate, ok_bind, ensure_bind hencode]
    rfl

end MyCogni.Mailbox
