import MyCogni.Base.Agreement
import MyCogni.Mailbox.Same
import MyCogni.Mailbox.Collection

/-! The order of the dictionaries is not observable. On repositories that are the same up to that
order every call answers alike and leaves repositories that are the same again; only the evidence
of a collected bundle stands in the order in which it was kept. -/

namespace MyCogni.Mailbox
variable {cfg : Config} {s s' : Repository} {id : Uuid} {r r' : Record} {now : Datetime}

/-! ### What can be compared -/

/-- The repositories hold the same records and tombstones and have seen the same time. -/
structure Repository.Alike (s s' : Repository) : Prop where
  records : ∀ id, Option.Rel Record.Same (s.records.get? id) (s'.records.get? id)
  tombstones : ∀ id, s'.tombstones.get? id = s.tombstones.get? id
  time : s'.installationLastSeenUtc = s.installationLastSeenUtc

/-- The same answer, up to the order of the evidence in a bundle. -/
inductive Reply.Same : Reply → Reply → Prop where
  | refl (reply : Reply) : Reply.Same reply reply
  | bundle {b b' : CommittedBundle} : b'.binding = b.binding → b'.resultJson = b.resultJson →
      b'.evidence.Perm b.evidence → Reply.Same (.bundle b) (.bundle b')

/-- A record that was taken out of repositories that are alike. -/
structure Focus.Alike (p p' : Focus) : Prop where
  repository : Repository.Alike p.1 p'.1
  record : p.2.Same p'.2

theorem Repository.Same.alike (h : s.Same s') : s.Alike s' := ⟨h.records, h.tombstones, h.time⟩

theorem sum_records (h : ∀ id, Option.Rel Record.Same (s.records.get? id) (s'.records.get? id))
    {f : Record → Int} (hf : ∀ r r', r.Same r' → f r' = f r) :
    s'.records.sum f = s.records.sum f := by
  refine Dict.sum_congr fun id => ?_
  have hrel := h id
  generalize s.records.get? id = x at hrel ⊢
  generalize s'.records.get? id = y at hrel ⊢
  cases hrel with
  | none => rfl
  | some hsame => exact congrArg some (hf _ _ hsame)

/-- The totals of coherent repositories follow from their records. -/
theorem Repository.Alike.same (h : s.Alike s') (hs : Coherent cfg s) (hs' : Coherent cfg s') :
    s.Same s' := by
  obtain ⟨hactive, hevidence, hcommitted⟩ := hs.totals
  obtain ⟨hactive', hevidence', hcommitted'⟩ := hs'.totals
  have hsum := fun f hf => sum_records h.records (f := f) hf
  refine ⟨h.records, h.tombstones, h.time, ?_, ?_, ?_⟩
  · rw [hactive, hactive']
    exact hsum _ fun _ _ => Record.Same.activeBytes
  · rw [hevidence, hevidence']
    exact hsum _ fun _ _ => Record.Same.evidenceBytes
  · rw [hcommitted, hcommitted']
    exact hsum _ fun _ _ => Record.Same.committedBytes

/-! ### Changes to one record -/

theorem Repository.Alike.advance (h : s.Alike s') (now : Datetime) :
    (advanceInstallationTime s now).Alike (advanceInstallationTime s' now) := by
  unfold advanceInstallationTime
  rw [h.time]
  split
  · exact ⟨h.records, h.tombstones, rfl⟩
  · exact h

namespace Focus.Alike
variable {p p' : Focus}

theorem store (h : p.Alike p') (id : Uuid) :
    (Mailbox.store id p).Alike (Mailbox.store id p') := by
  refine ⟨fun k => ?_, h.repository.tombstones, h.repository.time⟩
  have hget := fun (q : Focus) => Dict.get?_set q.1.records id q.2 k
  rw [show (Mailbox.store id p).records.get? k = _ from hget p,
    show (Mailbox.store id p').records.get? k = _ from hget p']
  by_cases hk : k = id
  · rw [if_pos hk, if_pos hk]
    exact .some h.record
  · rw [if_neg hk, if_neg hk]
    exact h.repository.records k

theorem observe (h : p.Alike p') (now : Datetime) :
    (observeTime p now).Alike (observeTime p' now) := by
  refine ⟨h.repository.advance now, ?_⟩
  obtain ⟨d, hd, hget⟩ := h.record.exists
  unfold observeTime
  rw [hd]
  exact .intro hget

theorem clearClaim (h : p.Alike p') :
    (clearClaimDeliveryMaterial p).Alike (clearClaimDeliveryMaterial p') := by
  refine ⟨⟨h.repository.records, h.repository.tombstones, h.repository.time⟩, ?_⟩
  obtain ⟨d, hd, hget⟩ := h.record.exists
  unfold clearClaimDeliveryMaterial
  rw [hd]
  exact .intro hget

theorem release (h : p.Alike p') :
    (releaseRecordPayloads p).Alike (releaseRecordPayloads p') := by
  refine ⟨⟨h.repository.records, h.repository.tombstones, h.repository.time⟩, ?_⟩
  obtain ⟨d, hd, -⟩ := h.record.exists
  unfold releaseRecordPayloads
  rw [hd]
  exact .refl _

/-- A change of the record that leaves its evidence alone. -/
theorem change (h : p.Alike p') {f : Record → Record}
    (hf : ∀ (r : Record) d, f { r with evidence := d } = { f r with evidence := d })
    (hkeep : ∀ r, (f r).evidence = r.evidence) : Focus.Alike (p.1, f p.2) (p'.1, f p'.2) := by
  refine ⟨h.repository, ?_⟩
  obtain ⟨d, hd, hget⟩ := h.record.exists
  have hchange : f p'.2 = { f p.2 with evidence := d } := (congrArg f hd).trans (hf p.2 d)
  show (f p.2).Same (f p'.2)
  rw [hchange]
  refine .intro fun id => ?_
  rw [hkeep]
  exact hget id

theorem clearAction (h : p.Alike p') : (clearActionMaterial p).Alike (clearActionMaterial p') :=
  release (change (f := fun r => { r with resultCredentialDigest := none }) h.clearClaim
    (fun _ _ => rfl) fun _ => rfl)

end Focus.Alike

theorem expireIfDue_alike {p p' : Focus} (h : p.Alike p') (now : Datetime) :
    Option.Rel Focus.Alike (expireIfDue p now) (expireIfDue p' now) := by
  obtain ⟨d, hd, -⟩ := h.record.exists
  have hstate : p'.2.state = p.2.state := by rw [hd]
  have hdeadline : p'.2.deadline = p.2.deadline := by
    rw [hd]
    rfl
  unfold expireIfDue
  rw [hstate, hdeadline]
  split
  · exact .some (h.observe now)
  · split
    · have hended := h.clearAction.change
        (f := fun r => { r with state := .expired, terminalAt := some now }) (fun _ _ => rfl)
        fun _ => rfl
      exact .some (hended.observe now)
    · exact .none

/-- An operation that looks first whether the record has lapsed. -/
theorem lapsing_alike {α : Type} {R : α → α → Prop} {k k' : Except Failure α × Repository}
    (h : Focus.Alike (s, r) (s', r')) (id : Uuid) (hk : AgreeAfter R Repository.Alike k k') :
    AgreeAfter R Repository.Alike
      (match expireIfDue (s, r) now with
        | some p => (.error (.denied .expired), store id p)
        | none => k)
      (match expireIfDue (s', r') now with
        | some p => (.error (.denied .expired), store id p)
        | none => k') := by
  have hrel := expireIfDue_alike h now
  generalize expireIfDue (s, r) now = x at hrel ⊢
  generalize expireIfDue (s', r') now = y at hrel ⊢
  cases hrel with
  | none => exact hk
  | some hp => exact ⟨.error _, hp.store id⟩

/-! ### Checks -/

theorem record_agree (h : s.Same s') (id : Uuid) :
    Agree (fun r r' => s.records.get? id = some r ∧ r.Same r') (record s id) (record s' id) := by
  have hrel := h.records id
  unfold record Dict.contains
  rw [h.tombstones]
  generalize hx : s.records.get? id = x at hrel ⊢
  generalize s'.records.get? id = y at hrel ⊢
  cases hrel with
  | none => exact .error _
  | some hsame => exact .ok ⟨rfl, hsame⟩

theorem material_agree (hs : Coherent cfg s) (hr : s.records.get? id = some r)
    (h : r.Same r') : Agree (fun m m' => m'.2 = m.2 ∧ m'.1.Perm m.1)
      (validatedRecordMaterial cfg r) (validatedRecordMaterial cfg r') := by
  obtain ⟨m, hm⟩ := (hs.record id r hr).material
  obtain ⟨uploads, hperm, hm'⟩ := hm.same h
  rw [validatedRecordMaterial_eq_ok.mpr hm, validatedRecordMaterial_eq_ok.mpr hm']
  exact .ok ⟨rfl, hperm⟩

theorem validatedInstallationNow_same (h : s.Same s') (clock : Option Datetime) :
    validatedInstallationNow s' clock = validatedInstallationNow s clock := by
  unfold validatedInstallationNow
  rw [h.time]

theorem validatedRecordNow_same (h : s.Same s') (hr : r.Same r') (clock : Option Datetime) :
    validatedRecordNow s' r' clock = validatedRecordNow s r clock := by
  obtain ⟨d, rfl, -⟩ := hr.exists
  unfold validatedRecordNow
  rw [validatedInstallationNow_same h]

theorem requireResultAccess_same (h : r.Same r') (b : ActionBinding) (d : Bytes) :
    requireResultAccess r' b d = requireResultAccess r b d := by
  obtain ⟨e, rfl, -⟩ := h.exists
  rfl

theorem snapshotOf_same (h : r.Same r') : snapshotOf r' = snapshotOf r := by
  have hsize := h.size
  have hbytes := h.evidenceBytes
  obtain ⟨d, rfl, -⟩ := h.exists
  unfold snapshotOf
  rw [hsize, hbytes]

theorem credentialInUse_same (h : s.Same s') (digest : Bytes) (excluding : Option Uuid) :
    credentialInUse s' digest excluding = credentialInUse s digest excluding := by
  rw [Bool.eq_iff_iff, ← not_iff_not, Bool.not_eq_true, Bool.not_eq_true, credentialInUse_eq_false,
    credentialInUse_eq_false]
  constructor
  · intro hall id r hr hid
    obtain ⟨r', hr', hsame⟩ := h.found hr
    rw [← hsame.credentialDigests]
    exact hall id r' hr' hid
  · intro hall id r' hr' hid
    obtain ⟨r, hr, hsame⟩ := h.symm.found hr'
    rw [← hsame.credentialDigests]
    exact hall id r hr hid

/-- The record that an operation is about, and the time. -/
def Held (s : Repository) (x x' : Record × Datetime) : Prop :=
  (∃ id, s.records.get? id = some x.1) ∧ x.1.Same x'.1 ∧ x'.2 = x.2

/-- The record, what was authenticated of it, and the time. -/
def Accessed (s : Repository) (x x' : Record × (List EvidenceUpload × Option Bytes) × Datetime) :
    Prop :=
  Held s (x.1, x.2.2) (x'.1, x'.2.2) ∧ x'.2.1.2 = x.2.1.2 ∧ x'.2.1.1.Perm x.2.1.1

theorem collectionAccess_agree (h : s.Same s') (hs : Coherent cfg s) (id : Uuid) (d : Bytes)
    (env : Env) :
    Agree (Accessed s) (collectionAccess cfg s id d env) (collectionAccess cfg s' id d env) := by
  refine (record_agree h id).bind fun r r' hrecord => ?_
  obtain ⟨hr, hsame⟩ := hrecord
  have hmaterial := material_agree hs hr hsame
  have hnow := validatedRecordNow_same h hsame env.clock
  have hcredential : r'.collectionCredentialDigest = r.collectionCredentialDigest := by
    obtain ⟨e, rfl, -⟩ := hsame.exists
    rfl
  rw [hcredential, hnow]
  exact Agree.seq fun _ => hmaterial.bind fun m m' hm => Agree.seq fun now =>
    .ok ⟨⟨⟨id, hr⟩, hsame, rfl⟩, hm⟩

/-! ### Operations on one record -/

section Operations
variable (h : s.Same s') (hs : Coherent cfg s) (env : Env)
include h hs

omit hs in
theorem create_alike (b : ActionBinding) (a c k : Bytes) :
    AgreeAfter (· = ·) Repository.Alike (create cfg s b a c k env) (create cfg s' b a c k env) := by
  have hcontains : s'.records.contains b.mailboxId = s.records.contains b.mailboxId := by
    have hrel := h.records b.mailboxId
    unfold Dict.contains
    generalize s.records.get? b.mailboxId = x at hrel ⊢
    generalize s'.records.get? b.mailboxId = y at hrel ⊢
    cases hrel <;> rfl
  have hburied : s'.tombstones.contains b.mailboxId = s.tombstones.contains b.mailboxId := by
    unfold Dict.contains
    rw [h.tombstones]
  refine .attempt (R := (· = ·)) h.alike ?_ fun now now' hnow => ?_
  · rw [validatedInstallationNow_same h, hcontains, hburied, h.size_records]
    simp only [credentialInUse_same h]
    exact .refl _
  · subst hnow
    have hfocus : Focus.Alike (s, .opened b a c k now) (s', .opened b a c k now) :=
      ⟨h.alike, .refl _⟩
    exact ⟨.ok rfl, (hfocus.store b.mailboxId).advance now⟩

theorem offer_alike (b : ActionBinding) (e key a k rc rd : Bytes) :
    AgreeAfter (· = ·) Repository.Alike (offer cfg s b e key a k rc rd env)
      (offer cfg s' b e key a k rc rd env) := by
  refine .attempt (R := Held s) h.alike ?_ fun x x' hx => ?_
  · refine (record_agree h b.mailboxId).bind fun r r' hrecord => ?_
    obtain ⟨hr, hsame⟩ := hrecord
    have hmaterial := material_agree hs hr hsame
    have hnow := validatedRecordNow_same h hsame env.clock
    rw [hnow]
    obtain ⟨d, rfl, hd⟩ := hsame.exists
    refine Agree.seq fun _ => Agree.seq fun _ => Agree.seq fun _ => hmaterial.bind fun _ _ _ => ?_
    refine Agree.seq fun now => Agree.seq fun _ => Agree.seq fun _ => ?_
    rw [credentialInUse_same h]
    exact Agree.seq fun _ => .ok ⟨⟨_, hr⟩, hsame, rfl⟩
  · obtain ⟨r, now⟩ := x
    obtain ⟨r', now'⟩ := x'
    obtain ⟨-, hsame, rfl⟩ := hx
    dsimp only at hsame
    refine lapsing_alike ⟨h.alike, hsame⟩ b.mailboxId ?_
    obtain ⟨d, rfl, hd⟩ := hsame.exists
    refine .attempt (R := (· = ·)) h.alike ?_ fun _ _ _ => ?_
    · rw [h.active]
      exact .refl _
    · have hfocus : Focus.Alike (s, r) (s', { r with evidence := d }) := ⟨h.alike, hsame⟩
      have hoffered := (hfocus.change (f := fun r => { r with
        envelopeJson := some e
        actionKey := some key
        resultCredential := some rc
        resultCredentialDigest := some rd
        state := .offered }) (fun _ _ => rfl) fun _ => rfl).observe now'
      have hstored := hoffered.store b.mailboxId
      refine ⟨.ok (snapshotOf_same hoffered.record).symm, ?_⟩
      exact ⟨hstored.records, hstored.tombstones, hstored.time⟩

theorem claim_alike (b : ActionBinding) (d : Bytes) :
    AgreeAfter (· = ·) Repository.Alike (claim cfg s b d env) (claim cfg s' b d env) := by
  refine .attempt (R := Held s) h.alike ?_ fun x x' hx => ?_
  · refine (record_agree h b.mailboxId).bind fun r r' hrecord => ?_
    obtain ⟨hr, hsame⟩ := hrecord
    have hmaterial := material_agree hs hr hsame
    have hnow := validatedRecordNow_same h hsame env.clock
    rw [hnow]
    obtain ⟨d, rfl, hd⟩ := hsame.exists
    refine Agree.seq fun _ => Agree.seq fun _ => hmaterial.bind fun _ _ _ => ?_
    exact Agree.seq fun now => .ok ⟨⟨_, hr⟩, hsame, rfl⟩
  · obtain ⟨r, now⟩ := x
    obtain ⟨r', now'⟩ := x'
    obtain ⟨-, hsame, rfl⟩ := hx
    dsimp only at hsame
    refine lapsing_alike ⟨h.alike, hsame⟩ b.mailboxId ?_
    have hfocus : Focus.Alike (s, r) (s', r') := ⟨h.alike, hsame⟩
    have hclaimed := ((hfocus.change (f := fun r => { r with state := .claimedOnce })
      (fun _ _ => rfl) fun _ => rfl).observe now').clearClaim
    obtain ⟨e, rfl, he⟩ := hsame.exists
    refine .attempt (R := (· = ·)) h.alike (.refl _) fun fields fields' hfields => ?_
    subst hfields
    exact ⟨.refl _, hclaimed.store b.mailboxId⟩

theorem stageEvidence_alike (b : ActionBinding) (d : Bytes) (u : EvidenceUpload) :
    AgreeAfter (· = ·) Repository.Alike (stageEvidence cfg s b d u env)
      (stageEvidence cfg s' b d u env) := by
  refine .attempt (R := Held s) h.alike ?_ fun x x' hx => ?_
  · refine (record_agree h b.mailboxId).bind fun r r' hrecord => ?_
    obtain ⟨hr, hsame⟩ := hrecord
    rw [requireResultAccess_same hsame, validatedRecordNow_same h hsame]
    exact Agree.seq fun _ => (material_agree hs hr hsame).bind fun _ _ _ =>
      Agree.seq fun now => .ok ⟨⟨_, hr⟩, hsame, rfl⟩
  · obtain ⟨r, now⟩ := x
    obtain ⟨r', now'⟩ := x'
    obtain ⟨-, hsame, rfl⟩ := hx
    dsimp only at hsame
    refine lapsing_alike ⟨h.alike, hsame⟩ b.mailboxId ?_
    have hsize := hsame.size
    have hbytes := hsame.evidenceBytes
    have hcontains : r'.evidence.contains u.objectId = r.evidence.contains u.objectId := by
      unfold Dict.contains
      rw [hsame.evidence]
    obtain ⟨e, rfl, he⟩ := hsame.exists
    refine .attempt (R := (· = ·)) h.alike ?_ fun _ _ _ => ?_
    · rw [hcontains, hsize, hbytes, h.evidence]
      exact .refl _
    · have hstaged : Record.Same
          { r with evidence := r.evidence.set u.objectId (wrap cfg b.mailboxId u env.nonce) }
          { r with evidence := e.set u.objectId (wrap cfg b.mailboxId u env.nonce) } := by
        refine .intro fun id => ?_
        rw [Dict.get?_set, Dict.get?_set, he]
      have hfocus : Focus.Alike (s, _) (s', _) := ⟨h.alike, hstaged⟩
      have hobserved := hfocus.observe now'
      have hstored := hobserved.store b.mailboxId
      refine ⟨?_, hstored.records, hstored.tombstones, hstored.time⟩
      have hsnapshot := snapshotOf_same hobserved.record
      dsimp only at hsnapshot ⊢
      rw [hsnapshot]
      exact .refl _

theorem commitResult_alike (b : ActionBinding) (d j : Bytes) (seals : List EvidenceSeal) :
    AgreeAfter (· = ·) Repository.Alike (commitResult cfg s b d j seals env)
      (commitResult cfg s' b d j seals env) := by
  let Opened (x x' : Record × List EvidenceUpload × Datetime) : Prop :=
    Held s (x.1, x.2.2) (x'.1, x'.2.2) ∧ x'.2.1.Perm x.2.1
  refine .attempt (R := Opened) h.alike ?_ fun x x' hx => ?_
  · refine (record_agree h b.mailboxId).bind fun r r' hrecord => ?_
    obtain ⟨hr, hsame⟩ := hrecord
    rw [requireResultAccess_same hsame, validatedRecordNow_same h hsame]
    exact Agree.seq fun _ => (material_agree hs hr hsame).bind fun _ _ hm =>
      Agree.seq fun now => .ok ⟨⟨⟨_, hr⟩, hsame, rfl⟩, hm.2⟩
  · obtain ⟨r, uploads, now⟩ := x
    obtain ⟨r', uploads', now'⟩ := x'
    obtain ⟨⟨-, hsame, hnow⟩, hperm⟩ := hx
    dsimp only at hsame hnow hperm
    subst hnow
    refine lapsing_alike ⟨h.alike, hsame⟩ b.mailboxId ?_
    have hbytes := hsame.evidenceBytes
    have hcontains : ∀ id, r'.evidence.contains id = r.evidence.contains id := by
      intro id
      unfold Dict.contains
      rw [hsame.evidence]
    have hkeys : ∀ id, id ∈ r'.evidence.keys ↔ id ∈ r.evidence.keys := by
      intro id
      rw [Dict.mem_keys, Dict.mem_keys, hsame.evidence]
    have hfocus : Focus.Alike (s, r) (s', r') := ⟨h.alike, hsame⟩
    have hids := hperm.map fun e : EvidenceUpload => e.objectId
    obtain ⟨e, rfl, he⟩ := hsame.exists
    refine .attempt (R := (· = ·)) h.alike ?_ fun y y' hy => ?_
    · simp only [hcontains, hkeys, hperm.mem_iff, hbytes, h.committed,
        validateResultReferences_perm hperm, buildCommittedManifest_perm hids]
      exact .refl _
    · subst hy
      have hcommitted := (hfocus.change (f := fun r => { r with
        resultEnvelope := some y.1
        committedEvidenceManifest := some y.2
        state := .resultCommitted
        collectionState := .ready
        resultCredentialDigest := none
        committedAt := some now' }) (fun _ _ => rfl) fun _ => rfl).observe now'
      have hstored := hcommitted.store b.mailboxId
      refine ⟨?_, hstored.records, hstored.tombstones, hstored.time⟩
      have hsnapshot := snapshotOf_same hcommitted.record
      dsimp only at hsnapshot ⊢
      rw [hsnapshot]
      exact .refl _

/-- The same bundle, up to the order of its evidence. -/
def SameBundle (b b' : CommittedBundle) : Prop :=
  b'.binding = b.binding ∧ b'.resultJson = b.resultJson ∧ b'.evidence.Perm b.evidence

omit h hs in
theorem committedBundle_agree {b : ActionBinding} {j : Bytes} {es es' : List EvidenceUpload}
    (hperm : es'.Perm es) :
    Agree SameBundle (CommittedBundle.make ⟨b, j, es⟩) (CommittedBundle.make ⟨b, j, es'⟩) := by
  have hlength := hperm.length_eq
  have hbytes : evidencePayloadBytes es' = evidencePayloadBytes es :=
    (hperm.map fun item : EvidenceUpload => item.payload.length).sum_eq
  have hformed : (BundleFields.mk b j es').wellFormed = (BundleFields.mk b j es).wellFormed := by
    unfold BundleFields.wellFormed
    dsimp only
    rw [hlength, hbytes]
  unfold CommittedBundle.make
  by_cases hvalid : (BundleFields.mk b j es).wellFormed = true
  · rw [dif_pos hvalid, dif_pos (hformed.trans hvalid)]
    exact .ok ⟨rfl, rfl, hperm⟩
  · rw [dif_neg hvalid, dif_neg (hformed ▸ hvalid)]
    exact .error _

theorem collect_alike (id : Uuid) (d : Bytes) :
    AgreeAfter SameBundle Repository.Alike (collect cfg s id d env) (collect cfg s' id d env) := by
  let Collected (x x' : Record × BundleFields × Datetime) : Prop :=
    Held s (x.1, x.2.2) (x'.1, x'.2.2) ∧ x'.2.1.binding = x.2.1.binding ∧
      x'.2.1.resultJson = x.2.1.resultJson ∧ x'.2.1.evidence.Perm x.2.1.evidence
  refine .attempt (R := Collected) h.alike ?_ fun x x' hx => ?_
  · refine (collectionAccess_agree h hs id d env).bind fun x x' hx => ?_
    obtain ⟨r, ⟨uploads, json⟩, now⟩ := x
    obtain ⟨r', ⟨uploads', json'⟩, now'⟩ := x'
    obtain ⟨⟨hr, hsame, hnow⟩, hjson, hperm⟩ := hx
    dsimp only at hr hsame hnow hjson hperm ⊢
    subst hnow hjson
    obtain ⟨e, rfl, he⟩ := hsame.exists
    refine Agree.seq fun _ => Agree.seq fun _ => Agree.seq fun _ => ?_
    cases json' with
    | none => exact .error _
    | some j => exact .ok ⟨⟨hr, hsame, rfl⟩, rfl, rfl, hperm⟩
  · obtain ⟨r, ⟨b, j, es⟩, now⟩ := x
    obtain ⟨r', ⟨b', j', es'⟩, now'⟩ := x'
    obtain ⟨⟨-, hsame, hnow⟩, hb, hj, hperm⟩ := hx
    dsimp only at hsame hnow hb hj hperm
    subst hnow hb hj
    have hfocus : Focus.Alike (s, r) (s', r') := ⟨h.alike, hsame⟩
    have hdelivering := hfocus.change (f := fun r => { r with collectionState := .delivering })
      (fun _ _ => rfl) fun _ => rfl
    exact ⟨committedBundle_agree hperm, (hdelivering.observe now').store id⟩

theorem acknowledgeCollection_alike (id : Uuid) (d : Bytes) :
    AgreeAfter (· = ·) Repository.Alike (acknowledgeCollection cfg s id d env)
      (acknowledgeCollection cfg s' id d env) := by
  refine .attempt (R := Accessed s) h.alike (collectionAccess_agree h hs id d env)
    fun x x' hx => ?_
  obtain ⟨r, m, now⟩ := x
  obtain ⟨r', m', now'⟩ := x'
  obtain ⟨⟨-, hsame, hnow⟩, -⟩ := hx
  dsimp only at hsame hnow ⊢
  subst hnow
  have hfocus : Focus.Alike (s, r) (s', r') := ⟨h.alike, hsame⟩
  have hobserved := hfocus.observe now'
  have hacknowledged := (hfocus.release.change (f := fun r => { r with
    collectionState := .acknowledged, terminalAt := some now' }) (fun _ _ => rfl)
    fun _ => rfl).observe now'
  have hcollection : r'.collectionState = r.collectionState ∧ r'.state = r.state := by
    obtain ⟨e, rfl, -⟩ := hsame.exists
    exact ⟨rfl, rfl⟩
  rw [hcollection.1, hcollection.2]
  split
  · exact ⟨.ok (snapshotOf_same hobserved.record).symm, hobserved.store id⟩
  · refine .attempt (R := (· = ·)) h.alike (.refl _) fun _ _ _ => ?_
    refine ⟨?_, hacknowledged.store id⟩
    have hsnapshot := snapshotOf_same hacknowledged.record
    dsimp only at hsnapshot ⊢
    rw [hsnapshot]
    exact .refl _

theorem abandon_alike (id : Uuid) (d : Bytes) :
    AgreeAfter (· = ·) Repository.Alike (abandon cfg s id d env) (abandon cfg s' id d env) := by
  refine .attempt (R := Accessed s) h.alike (collectionAccess_agree h hs id d env)
    fun x x' hx => ?_
  obtain ⟨r, m, now⟩ := x
  obtain ⟨r', m', now'⟩ := x'
  obtain ⟨⟨-, hsame, hnow⟩, -⟩ := hx
  dsimp only at hsame hnow ⊢
  subst hnow
  refine lapsing_alike ⟨h.alike, hsame⟩ id ?_
  have hfocus : Focus.Alike (s, r) (s', r') := ⟨h.alike, hsame⟩
  have habandoned := (hfocus.clearAction.change (f := fun r => { r with
    state := .abandoned, terminalAt := some now' }) (fun _ _ => rfl) fun _ => rfl).observe now'
  have hstate : r'.state = r.state := by
    obtain ⟨e, rfl, -⟩ := hsame.exists
    rfl
  rw [hstate]
  refine .attempt (R := (· = ·)) h.alike (.refl _) fun _ _ _ => ?_
  exact ⟨.ok (snapshotOf_same habandoned.record).symm, habandoned.store id⟩

theorem snapshot_alike (id : Uuid) (d : Bytes) :
    AgreeAfter (· = ·) Repository.Alike (snapshot cfg s id d env) (snapshot cfg s' id d env) := by
  refine .attempt (R := Accessed s) h.alike (collectionAccess_agree h hs id d env)
    fun x x' hx => ?_
  obtain ⟨r, m, now⟩ := x
  obtain ⟨r', m', now'⟩ := x'
  obtain ⟨⟨-, hsame, hnow⟩, -⟩ := hx
  dsimp only at hsame hnow ⊢
  subst hnow
  have hfocus : Focus.Alike (s, r) (s', r') := ⟨h.alike, hsame⟩
  have hseen : Focus.Alike ((expireIfDue (s, r) now').getD (observeTime (s, r) now'))
      ((expireIfDue (s', r') now').getD (observeTime (s', r') now')) := by
    have hrel := expireIfDue_alike hfocus now'
    generalize expireIfDue (s, r) now' = x at hrel ⊢
    generalize expireIfDue (s', r') now' = y at hrel ⊢
    cases hrel with
    | none => exact hfocus.observe now'
    | some hp => exact hp
  exact ⟨.ok (snapshotOf_same hseen.record).symm, hseen.store id⟩

end Operations

/-! ### Sweeps -/

theorem Repository.Same.mem_values (h : s.Same s') {p : Record → Prop}
    (hp : ∀ r r', r.Same r' → (p r' ↔ p r)) :
    (∀ r ∈ s'.records.values, p r) ↔ ∀ r ∈ s.records.values, p r := by
  simp only [Dict.mem_values]
  constructor
  · rintro hall r ⟨id, hr⟩
    obtain ⟨r', hr', hsame⟩ := h.found hr
    exact (hp r r' hsame).mp (hall r' ⟨id, hr'⟩)
  · rintro hall r' ⟨id, hr'⟩
    obtain ⟨r, hr, hsame⟩ := h.symm.found hr'
    exact (hp r r' hsame.symm).mpr (hall r ⟨id, hr⟩)

theorem maintenanceAccess_same (h : s.Same s') (hs : Coherent cfg s) (d : Bytes) (env : Env) :
    maintenanceAccess cfg s' d env = maintenanceAccess cfg s d env := by
  have hread : ∀ {s : Repository}, Coherent cfg s →
      ∃ ms, s.records.values.mapM (validatedRecordMaterial cfg) = .ok ms := by
    intro s hs
    refine exists_mapM_ok fun r hr => ?_
    obtain ⟨id, hid⟩ := Dict.mem_values.mp hr
    obtain ⟨m, hm⟩ := (hs.record id r hid).material
    exact ⟨m, validatedRecordMaterial_eq_ok.mpr hm⟩
  obtain ⟨ms, hms⟩ := hread hs
  obtain ⟨ms', hms'⟩ := hread (hs.same h)
  have hseen : ∀ now, (∀ r ∈ s'.records.values, r.lastSeenUtc ≤ now) ↔
      ∀ r ∈ s.records.values, r.lastSeenUtc ≤ now := by
    intro now
    refine h.mem_values fun r r' hsame => ?_
    obtain ⟨e, rfl, -⟩ := hsame.exists
    exact Iff.rfl
  unfold maintenanceAccess
  rw [hms, hms', validatedInstallationNow_same h]
  simp only [hseen, ok_bind]

/-- The record is ended by a sweep. -/
def Record.lapses (now : Datetime) (r : Record) : Bool :=
  decide (r.state.isOpen = true ∧ r.deadline ≤ now)

theorem Record.Same.lapses (h : r.Same r') : r'.lapses now = r.lapses now := by
  obtain ⟨e, rfl, -⟩ := h.exists
  rfl

theorem Record.Same.swept (h : r.Same r') : (r.swept now).Same (r'.swept now) := by
  have hlapses : r'.lapses now = r.lapses now := h.lapses
  obtain ⟨e, rfl, he⟩ := h.exists
  have hdue := decide_eq_decide.mp hlapses
  unfold Record.swept
  simp only [hdue]
  split_ifs
  · exact .refl _
  · exact .intro he

/-- The identifiers that a sweep reports, in the order of the dictionary. -/
def lapsedIds (s : Repository) (now : Datetime) : List Uuid :=
  (s.records.entries.filter fun e => e.2.lapses now).map fun e => e.2.binding.mailboxId

theorem expireStep_ids (acc : Repository × List Uuid) (e : Uuid × Record) :
    (expireStep now acc e).2 =
      acc.2 ++ if e.2.lapses now then [e.2.binding.mailboxId] else [] := by
  unfold expireStep expireIfDue Record.lapses
  dsimp only
  by_cases hexpired : e.2.state = .expired
  · have hclosed : ¬ (e.2.state.isOpen = true ∧ e.2.deadline ≤ now) := by
      rw [hexpired]
      exact fun h => absurd h.1 (by decide)
    rw [if_pos hexpired, if_neg (by simpa using hclosed)]
    dsimp only
    rw [if_neg (not_not.mpr hexpired), List.append_nil]
  · rw [if_neg hexpired]
    by_cases hdue : e.2.state.isOpen = true ∧ e.2.deadline ≤ now
    · rw [if_pos hdue, if_pos (by simpa using hdue)]
      dsimp only
      rw [if_pos hexpired]
    · rw [if_neg hdue, if_neg (by simpa using hdue)]
      dsimp only
      rw [List.append_nil]

theorem expire_fold_ids (es : List (Uuid × Record)) (acc : Repository × List Uuid) :
    (es.foldl (expireStep now) acc).2 =
      acc.2 ++ (es.filter fun e => e.2.lapses now).map fun e => e.2.binding.mailboxId := by
  induction es generalizing acc with
  | nil => simp
  | cons e es ih =>
    rw [List.foldl_cons, ih, expireStep_ids, List.append_assoc, List.filter_cons]
    by_cases hlapses : e.2.lapses now = true
    · rw [if_pos hlapses, if_pos hlapses]
      rfl
    · rw [if_neg hlapses, if_neg hlapses]
      rfl

theorem lapsedIds_eq_keys (hs : Coherent cfg s) (now : Datetime) :
    lapsedIds s now = (s.records.entries.filter fun e => e.2.lapses now).map Prod.fst := by
  refine List.map_congr_left fun e he => ?_
  have hmem := (List.mem_filter.mp he).1
  exact (hs.record e.1 e.2 (Dict.get?_eq_some.mpr hmem)).key

theorem lapsedIds_perm (h : s.Same s') (hs : Coherent cfg s) (now : Datetime) :
    (lapsedIds s' now).Perm (lapsedIds s now) := by
  have hmem : ∀ (s : Repository) (id : Uuid),
      id ∈ (s.records.entries.filter fun e => e.2.lapses now).map Prod.fst ↔
        ∃ r, s.records.get? id = some r ∧ r.lapses now = true := by
    intro s id
    simp only [List.mem_map, List.mem_filter]
    constructor
    · rintro ⟨e, ⟨he, hlapses⟩, rfl⟩
      exact ⟨e.2, Dict.get?_eq_some.mpr he, hlapses⟩
    · rintro ⟨r, hr, hlapses⟩
      exact ⟨(id, r), ⟨Dict.get?_eq_some.mp hr, hlapses⟩, rfl⟩
  rw [lapsedIds_eq_keys hs, lapsedIds_eq_keys (hs.same h)]
  refine (List.perm_ext_iff_of_nodup (s'.records.nodup.sublist (List.filter_sublist.map _))
    (s.records.nodup.sublist (List.filter_sublist.map _))).mpr fun id => ?_
  rw [hmem, hmem]
  constructor
  · rintro ⟨r', hr', hlapses⟩
    obtain ⟨r, hr, hsame⟩ := h.symm.found hr'
    exact ⟨r, hr, hsame.lapses ▸ hlapses⟩
  · rintro ⟨r, hr, hlapses⟩
    obtain ⟨r', hr', hsame⟩ := h.found hr
    exact ⟨r', hr', hsame.lapses ▸ hlapses⟩

/-- What a sweep for expiry leaves, looked up. -/
theorem expire_swept (hafter : s.notAfter now) (removed : List Uuid) :
    let s₁ := advanceInstallationTime (s.records.entries.foldl (expireStep now) (s, removed)).1 now
    (∀ id, s₁.records.get? id = (s.records.get? id).map (Record.swept now)) ∧
      s₁.tombstones = s.tombstones ∧ s₁.installationLastSeenUtc = some now := by
  obtain ⟨hget, -, htomb, hnext, -⟩ := expire_fold s.records.entries s.records.nodup
    (s, removed) (fun e he => Dict.get?_eq_some.mpr he) hafter
  intro s₁
  have hs₁ : s₁ = { (s.records.entries.foldl (expireStep now) (s, removed)).1 with
      installationLastSeenUtc := some now } := advanceInstallationTime_eq hnext
  rw [hs₁]
  refine ⟨fun id => ?_, htomb, rfl⟩
  dsimp only
  rw [hget]
  split_ifs with hid
  · rfl
  · cases hr : s.records.get? id with
    | none => rfl
    | some r => exact absurd (List.mem_map.mpr ⟨_, Dict.get?_eq_some.mp hr, rfl⟩) hid

theorem expire_alike (h : s.Same s') (hs : Coherent cfg s) (d : Bytes) (env : Env) :
    AgreeAfter (· = ·) Repository.Alike (expire cfg s d env) (expire cfg s' d env) := by
  have haccess : Agree (fun now now' => now' = now ∧ s.notAfter now)
      (maintenanceAccess cfg s d env) (maintenanceAccess cfg s' d env) := by
    rw [maintenanceAccess_same h hs]
    cases hok : maintenanceAccess cfg s d env with
    | error e => exact .error e
    | ok now => exact .ok ⟨rfl, (maintenanceAccess_eq_ok.mp hok).2.2.2.1⟩
  refine .attempt h.alike haccess fun now now' hnow => ?_
  obtain ⟨rfl, hafter⟩ := hnow
  have hafter' : s'.notAfter now' := by
    intro t ht
    exact hafter t (h.time ▸ ht)
  obtain ⟨hget, htomb, htime⟩ := expire_swept hafter []
  obtain ⟨hget', htomb', htime'⟩ := expire_swept hafter' []
  refine ⟨.of_eq ?_, fun id => ?_, fun id => ?_, htime'.trans htime.symm⟩
  · dsimp only
    rw [expire_fold_ids, expire_fold_ids]
    exact congrArg Except.ok (Uuid.sorted_congr (lapsedIds_perm h hs now').symm)
  · rw [hget, hget']
    have hrel := h.records id
    generalize s.records.get? id = x at hrel ⊢
    generalize s'.records.get? id = y at hrel ⊢
    cases hrel with
    | none => exact .none
    | some hsame => exact .some hsame.swept
  · rw [htomb, htomb']
    exact h.tombstones id

theorem Repository.Same.keptTombstones (h : s.Same s') (now : Datetime) (id : Uuid) :
    (keptTombstones s' now).get? id = (keptTombstones s now).get? id := by
  unfold Mailbox.keptTombstones
  rw [Dict.get?_filter, Dict.get?_filter, h.tombstones]

theorem InDueOrder.same {due : List Uuid} (h : s.Same s') (hdue : InDueOrder cfg s' now due) :
    InDueOrder cfg s now due := by
  have hended : ∀ {id r' ended}, s'.records.get? id = some r' → r'.terminalAt = some ended →
      ∃ r, s.records.get? id = some r ∧ r.terminalAt = some ended := by
    intro id r' ended hr' hterminal
    obtain ⟨r, hr, hsame⟩ := h.symm.found hr'
    obtain ⟨e, rfl, -⟩ := hsame.exists
    exact ⟨_, hr, hterminal⟩
  refine ⟨fun id => ?_, hdue.nodup, hdue.ordered.imp ?_⟩
  · rw [hdue.mem_iff]
    constructor
    · rintro ⟨r', ended, hr', hterminal, hle⟩
      obtain ⟨r, hr, hat⟩ := hended hr' hterminal
      exact ⟨r, ended, hr, hat, hle⟩
    · rintro ⟨r, ended, hr, hterminal, hle⟩
      obtain ⟨r', hr', hsame⟩ := h.found hr
      obtain ⟨e, rfl, -⟩ := hsame.exists
      exact ⟨_, ended, hr', hterminal, hle⟩
  · rintro a b ⟨ra', rb', endedA, endedB, ha', hA', hb', hB', horder⟩
    obtain ⟨ra, ha, hA⟩ := hended ha' hA'
    obtain ⟨rb, hb, hB⟩ := hended hb' hB'
    exact ⟨ra, rb, endedA, endedB, ha, hA, hb, hB, horder⟩

theorem InDueOrder.unique {due due' : List Uuid} (h : InDueOrder cfg s now due)
    (h' : InDueOrder cfg s now due') : due = due' := by
  have hperm : due.Perm due' :=
    (List.perm_ext_iff_of_nodup h.nodup h'.nodup).mpr fun id => by rw [h.mem_iff, h'.mem_iff]
  refine List.Perm.eq_of_pairwise ?_ h.ordered h'.ordered hperm
  rintro a b - - ⟨ra, rb, endedA, endedB, ha, hA, hb, hB, horder⟩
    ⟨rb', ra', endedB', endedA', hb', hB', ha', hA', horder'⟩
  obtain rfl := Option.some.inj (ha.symm.trans ha')
  obtain rfl := Option.some.inj (hb.symm.trans hb')
  obtain rfl := Option.some.inj (hA.symm.trans hA')
  obtain rfl := Option.some.inj (hB.symm.trans hB')
  rcases horder with hlt | ⟨heq, hle⟩
  · rcases horder' with hlt' | ⟨heq', -⟩
    · exact absurd hlt' (lt_asymm hlt)
    · exact absurd heq'.symm (ne_of_lt hlt)
  · rcases horder' with hlt' | ⟨-, hle'⟩
    · exact absurd heq.symm (ne_of_lt hlt')
    · exact Uuid.leStr_antisymm hle hle'

/-- What is due, in the order in which it is collected, depends on nothing but the records. -/
theorem dueIds_same (h : s.Same s') (now : Datetime) : dueIds cfg s' now = dueIds cfg s now :=
  ((inDueOrder_dueIds cfg s' now).same h).unique (inDueOrder_dueIds cfg s now)

theorem garbageCollect_alike (h : s.Same s') (hs : Coherent cfg s) (d : Bytes) (env : Env) :
    AgreeAfter Reply.Same Repository.Alike (apply cfg s (.garbageCollect d, env))
      (apply cfg s' (.garbageCollect d, env)) := by
  have haccess := maintenanceAccess_same h hs d env
  cases hok : maintenanceAccess cfg s d env with
  | error e =>
    have hrefused : ∀ s : Repository, maintenanceAccess cfg s d env = .error e →
        apply cfg s (.garbageCollect d, env) = (.error e, s) := by
      intro s hok
      unfold apply garbageCollect
      dsimp only
      rw [hok]
      rfl
    rw [hrefused s hok, hrefused s' (haccess.trans hok)]
    exact ⟨.error e, h.alike⟩
  | ok now =>
    obtain ⟨rfl, -, hclock, hafter, -⟩ := maintenanceAccess_eq_ok.mp hok
    have hafter' : s'.notAfter now := fun t ht => hafter t (h.time ▸ ht)
    cases hexpires : now.add cfg.limits.tombstoneRetention with
    | none =>
      have hrefused : ∀ s : Repository,
          maintenanceAccess cfg s cfg.maintenanceCredentialDigest env = .ok now →
          apply cfg s (.garbageCollect cfg.maintenanceCredentialDigest, env) =
            (.error uncertain, s) := by
        intro s hok
        unfold apply garbageCollect
        dsimp only
        rw [hok, ok_bind, hexpires]
        rfl
      rw [hrefused s hok, hrefused s' (haccess.trans hok)]
      exact ⟨.error _, h.alike⟩
    | some expiresAt =>
      obtain ⟨s₁, happly, hcollected, -⟩ := garbageCollect_collected hs hclock hafter hexpires
      obtain ⟨s₁', happly', hcollected', -⟩ :=
        garbageCollect_collected (hs.same h) hclock hafter' hexpires
      have hroom : tombstoneRoom cfg s' now = tombstoneRoom cfg s now := by
        unfold tombstoneRoom
        rw [size_congr (h.keptTombstones now)]
      rw [dueIds_same h, hroom] at happly' hcollected'
      rw [happly, happly']
      refine ⟨.ok (.refl _), fun id => ?_, fun id => ?_,
        hcollected'.time.trans hcollected.time.symm⟩
      · rw [hcollected.records, hcollected'.records]
        split_ifs
        · exact .none
        · have hrel := h.records id
          generalize s.records.get? id = x at hrel ⊢
          generalize s'.records.get? id = y at hrel ⊢
          cases hrel with
          | none => exact .none
          | some hsame =>
            obtain ⟨e, rfl, he⟩ := hsame.exists
            exact .some (.intro he)
      · rw [hcollected.tombstones, hcollected'.tombstones, h.keptTombstones]

/-! ### Every call -/

/-- On repositories that are the same a call answers alike and leaves repositories that are the
same. -/
theorem apply_same (h : s.Same s') (hs : Coherent cfg s) (i : Call × Env) :
    AgreeAfter Reply.Same Repository.Same (apply cfg s i) (apply cfg s' i) := by
  have halike : AgreeAfter Reply.Same Repository.Alike (apply cfg s i) (apply cfg s' i) := by
    have hreply : ∀ {α : Type} {R : α → α → Prop} {f : α → Reply}
        {p p' : Except Failure α × Repository}, AgreeAfter R Repository.Alike p p' →
        (∀ a a', R a a' → Reply.Same (f a) (f a')) →
        AgreeAfter Reply.Same Repository.Alike (reply f p) (reply f p') :=
      fun hp hf => ⟨hp.outcome.map hf, hp.state⟩
    have heq : ∀ {α : Type} {f : α → Reply} (a a' : α), a = a' → Reply.Same (f a) (f a') := by
      rintro α f a a' rfl
      exact .refl _
    obtain ⟨call, env⟩ := i
    cases call with
    | create b a c k => exact hreply (create_alike h env b a c k) heq
    | offer b e key a k rc rd => exact hreply (offer_alike h hs env b e key a k rc rd) heq
    | claim b d => exact hreply (claim_alike h hs env b d) heq
    | stageEvidence b d u => exact hreply (stageEvidence_alike h hs env b d u) heq
    | commitResult b d j seals => exact hreply (commitResult_alike h hs env b d j seals) heq
    | collect id d =>
      exact hreply (collect_alike h hs env id d) fun b b' hb => .bundle hb.1 hb.2.1 hb.2.2
    | acknowledgeCollection id d => exact hreply (acknowledgeCollection_alike h hs env id d) heq
    | abandon id d => exact hreply (abandon_alike h hs env id d) heq
    | expire d => exact hreply (expire_alike h hs d env) heq
    | garbageCollect d => exact garbageCollect_alike h hs d env
    | snapshot id d => exact hreply (snapshot_alike h hs env id d) heq
  have hafter : Coherent cfg (apply cfg s i).2 := (apply_step cfg s i).coherent hs
  have hafter' : Coherent cfg (apply cfg s' i).2 := (apply_step cfg s' i).coherent (hs.same h)
  exact ⟨halike.outcome, halike.state.same hafter hafter'⟩

/-- Runs from repositories that are the same leave repositories that are the same. -/
theorem run_same (h : s.Same s') (hs : Coherent cfg s) (is : List (Call × Env)) :
    (run (apply cfg) s is).Same (run (apply cfg) s' is) := by
  induction is generalizing s s' with
  | nil => exact h
  | cons i is ih =>
    have hstep := apply_same h hs i
    exact ih hstep.state ((apply_step cfg s i).coherent hs)

/-- The order in which a repository has its dictionaries is never seen: where it stands in for one
that calls have built, every call of every run after that answers alike. -/
theorem order_unseen (cfg : Config) (before after : List (Call × Env)) (i : Call × Env)
    (h : (run (apply cfg) .empty before).Same s') :
    AgreeAfter Reply.Same Repository.Same
      (apply cfg (run (apply cfg) .empty (before ++ after)) i)
      (apply cfg (run (apply cfg) s' after) i) := by
  rw [run_append]
  have hcoherent := coherent_run cfg before
  have hafter := run_append (apply cfg) .empty before after ▸ coherent_run cfg (before ++ after)
  exact apply_same (run_same h hcoherent after) hafter i

/-- In the order in which it is stored, the open mailbox of the sample is collected alike. -/
theorem order_unseen_stored :
    AgreeAfter Reply.Same Repository.Same
      (apply Sample.small.config (run (apply Sample.small.config) .empty
        ([(.create Sample.small.binding (credentialDigest Sample.actionKey)
          (credentialDigest Sample.claimCredential) (credentialDigest Sample.collectionCredential),
          Sample.env)] ++ []))
        (.garbageCollect Sample.small.config.maintenanceCredentialDigest, Sample.env))
      (apply Sample.small.config (run (apply Sample.small.config)
        (run (apply Sample.small.config) .empty
          [(.create Sample.small.binding (credentialDigest Sample.actionKey)
            (credentialDigest Sample.claimCredential)
            (credentialDigest Sample.collectionCredential), Sample.env)]).canonical [])
        (.garbageCollect Sample.small.config.maintenanceCredentialDigest, Sample.env)) :=
  order_unseen Sample.small.config _ [] _ (same_repository_canonical _)

end MyCogni.Mailbox
