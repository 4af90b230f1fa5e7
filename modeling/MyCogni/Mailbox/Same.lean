import MyCogni.Mailbox.Storable

/-! Repositories that differ only in the order of their dictionaries. A row stores one order, so
what is loaded is the same as what was written in this sense, and every property of a repository
that matters passes from one to the other. -/

namespace MyCogni.Mailbox

/-- The records agree, up to the order of their evidence. -/
structure Record.Same (r r' : Record) : Prop where
  fields : { r' with evidence := r.evidence } = r
  evidence : ∀ id, r'.evidence.get? id = r.evidence.get? id

structure Repository.Same (s s' : Repository) : Prop where
  records : ∀ id, Option.Rel Record.Same (s.records.get? id) (s'.records.get? id)
  tombstones : ∀ id, s'.tombstones.get? id = s.tombstones.get? id
  time : s'.installationLastSeenUtc = s.installationLastSeenUtc
  active : s'.totalActiveMaterialBytes = s.totalActiveMaterialBytes
  evidence : s'.totalEvidenceBytes = s.totalEvidenceBytes
  committed : s'.totalCommittedBytes = s.totalCommittedBytes

variable {cfg : Config} {s s' : Repository} {id : Uuid} {r r' : Record}

/-! ### Records -/

/-- The other record is the first with its evidence in another order. -/
theorem Record.Same.exists (h : r.Same r') : ∃ d : Dict Uuid WrappedEvidence,
    r' = { r with evidence := d } ∧ ∀ id, d.get? id = r.evidence.get? id := by
  refine ⟨r'.evidence, ?_, h.evidence⟩
  have hfields := congrArg (fun x : Record => { x with evidence := r'.evidence }) h.fields
  exact hfields

theorem Record.Same.intro {d : Dict Uuid WrappedEvidence}
    (h : ∀ id, d.get? id = r.evidence.get? id) : r.Same { r with evidence := d } :=
  ⟨rfl, h⟩

theorem Record.Same.refl (r : Record) : r.Same r := ⟨rfl, fun _ => rfl⟩

theorem Record.Same.symm (h : r.Same r') : r'.Same r := by
  obtain ⟨d, rfl, hd⟩ := h.exists
  exact ⟨rfl, fun id => (hd id).symm⟩

theorem Record.Same.trans {r'' : Record} (h : r.Same r') (h' : r'.Same r'') : r.Same r'' := by
  obtain ⟨d, rfl, hd⟩ := h.exists
  obtain ⟨d', rfl, hd'⟩ := h'.exists
  exact ⟨rfl, fun id => (hd' id).trans (hd id)⟩

theorem same_canonical (r : Record) : r.Same r.canonical :=
  .intro fun id => get?_sortedDict r.evidence id

theorem entries_perm {ν : Type} {d d' : Dict Uuid ν} (h : ∀ id, d'.get? id = d.get? id) :
    d'.entries.Perm d.entries := by
  refine (List.perm_ext_iff_of_nodup d'.nodup.of_map d.nodup.of_map).mpr fun e => ?_
  rw [← Dict.get?_eq_some, ← Dict.get?_eq_some, h]

theorem size_congr {ν : Type} {d d' : Dict Uuid ν} (h : ∀ id, d'.get? id = d.get? id) :
    d'.size = d.size := (entries_perm h).length_eq

theorem Record.Same.evidenceBytes (h : r.Same r') : r'.evidenceBytes = r.evidenceBytes :=
  Dict.sum_congr fun id => by rw [h.evidence]

theorem Record.Same.size (h : r.Same r') : r'.evidence.size = r.evidence.size :=
  size_congr h.evidence

theorem Record.Same.activeBytes (h : r.Same r') : r'.activeBytes = r.activeBytes := by
  obtain ⟨d, rfl, -⟩ := h.exists
  rfl

theorem Record.Same.committedBytes (h : r.Same r') : r'.committedBytes = r.committedBytes := by
  have hbytes := h.evidenceBytes
  obtain ⟨d, rfl, -⟩ := h.exists
  unfold Record.committedBytes
  rw [hbytes]
  rfl

theorem Record.Same.validLifecycle (h : r.Same r') : r'.validLifecycle = r.validLifecycle := by
  have hbytes := h.evidenceBytes
  have hsize := h.size
  obtain ⟨d, rfl, -⟩ := h.exists
  unfold Record.validLifecycle
  rw [hbytes, hsize]
  rfl

theorem slots_same {uploads : List EvidenceUpload} (h : r.Same r')
    (hslots : validatedEvidenceSlots cfg r = .ok uploads) :
    ∃ uploads', validatedEvidenceSlots cfg r' = .ok uploads' ∧ uploads'.Perm uploads := by
  have hperm := entries_perm h.evidence
  obtain ⟨d, rfl, -⟩ := h.exists
  rw [validatedEvidenceSlots_eq_ok] at hslots
  obtain ⟨uploads', hforall, hperm'⟩ := List.perm_comp_forall₂ hperm hslots
  exact ⟨uploads', validatedEvidenceSlots_eq_ok.mpr hforall, hperm'⟩

theorem validateResultReferences_perm {uploads uploads' : List EvidenceUpload}
    (h : uploads'.Perm uploads) (b : ActionBinding) (j : Bytes) :
    validateResultReferences cfg b j uploads' = validateResultReferences cfg b j uploads := by
  have hids := h.map fun u : EvidenceUpload => u.objectId
  unfold validateResultReferences
  simp only [h.mem_iff, hids.mem_iff]

theorem buildCommittedManifest_perm {ids ids' : List Uuid} (h : ids'.Perm ids) (b : ActionBinding)
    (result : WrappedResult) :
    buildCommittedManifest cfg b ids' result = buildCommittedManifest cfg b ids result := by
  unfold buildCommittedManifest
  simp only [h.nodup_iff, Uuid.sorted_congr h]

/-- The material of a record is authentic in every order of its evidence. -/
theorem Authentic.same {m : List EvidenceUpload × Option Bytes} (h : r.Same r')
    (hm : Authentic cfg r m) :
    ∃ uploads, uploads.Perm m.1 ∧ Authentic cfg r' (uploads, m.2) := by
  obtain ⟨uploads, hslots, hperm⟩ := slots_same h hm.slots
  obtain ⟨d, rfl, -⟩ := h.exists
  cases hm with
  | acknowledged _ hstate hat hack hresult hmanifest =>
    obtain rfl := hperm.eq_nil
    exact ⟨[], .nil, .acknowledged hslots hstate hat hack hresult hmanifest⟩
  | retained _ hstate hat hready hresult hmanifest hunwrap hrefs hvalid =>
    refine ⟨uploads, hperm, .retained hslots hstate hat hready hresult hmanifest hunwrap ?_ ?_⟩
    · exact (validateResultReferences_perm hperm _ _).trans hrefs
    · unfold validateCommittedManifest at hvalid ⊢
      dsimp only
      rw [hresult] at hvalid ⊢
      cases hsome : r.committedEvidenceManifest with
      | none => exact absurd hsome hmanifest
      | some manifest =>
        rw [hsome] at hvalid
        dsimp only at hvalid ⊢
        rw [buildCommittedManifest_perm (hperm.map fun u => u.objectId)]
        exact hvalid
  | uncommitted _ hstate hcollection hresult hmanifest hat hev =>
    refine ⟨uploads, hperm, .uncommitted hslots hstate hcollection hresult hmanifest hat ?_⟩
    refine hev.imp_right fun hnil => ?_
    dsimp only at hnil hperm
    exact (hnil ▸ hperm).eq_nil

theorem RecordCoherent.same {highWater : Option Datetime} (h : r.Same r')
    (hr : RecordCoherent cfg highWater id r) : RecordCoherent cfg highWater id r' := by
  obtain ⟨m, hm⟩ := hr.material
  obtain ⟨uploads, -, hmaterial⟩ := hm.same h
  have hsize := h.size
  have hbytes := h.evidenceBytes
  have hlife := h.validLifecycle
  obtain ⟨d, rfl, -⟩ := h.exists
  exact
    { key := hr.key
      created := hr.created
      seen := hr.seen
      inTime := hr.inTime
      committedAt := hr.committedAt
      terminalAt := hr.terminalAt
      nodup := hr.nodup
      maintenance := hr.maintenance
      items := hsize.trans_le hr.items
      bytes := hbytes.trans_le hr.bytes
      lifecycle := hlife.trans hr.lifecycle
      material := ⟨_, hmaterial⟩ }

theorem Record.Presentable.same (h : r.Same r') (hr : r.Presentable) : r'.Presentable := by
  obtain ⟨d, rfl, -⟩ := h.exists
  exact ⟨hr.envelope, hr.actionKey, hr.resultCredential, hr.result⟩

theorem Record.Framed.same (h : r.Same r') (hr : r.Framed) : r'.Framed := by
  obtain ⟨d, rfl, hd⟩ := h.exists
  refine ⟨hr.credentials, hr.resultDigest, fun id item hitem => ?_, hr.result⟩
  exact hr.evidence id item ((hd id).symm.trans hitem)

theorem Record.Same.credentialDigests (h : r.Same r') :
    r'.credentialDigests = r.credentialDigests := by
  obtain ⟨d, rfl, -⟩ := h.exists
  rfl

theorem recordWire_same (h : r.Same r') : recordWire r' = recordWire r := by
  obtain ⟨d, rfl, hd⟩ := h.exists
  unfold recordWire recordFields
  dsimp only
  rw [ordered_congr hd]

/-! ### Repositories -/

namespace Repository.Same

theorem refl (s : Repository) : s.Same s := by
  refine ⟨fun id => ?_, fun _ => rfl, rfl, rfl, rfl, rfl⟩
  cases s.records.get? id with
  | none => exact .none
  | some r => exact .some (.refl r)

/-- A record of the one has its counterpart in the other. -/
theorem found (h : s.Same s') (hr : s.records.get? id = some r) :
    ∃ r', s'.records.get? id = some r' ∧ r.Same r' := by
  have hrel := h.records id
  rw [hr] at hrel
  cases hcase : s'.records.get? id with
  | none =>
    rw [hcase] at hrel
    exact nomatch hrel
  | some r' =>
    rw [hcase] at hrel
    cases hrel with
    | some hsame => exact ⟨r', rfl, hsame⟩

theorem symm (h : s.Same s') : s'.Same s := by
  refine ⟨fun id => ?_, fun id => (h.tombstones id).symm, h.time.symm, h.active.symm,
    h.evidence.symm, h.committed.symm⟩
  have hrel := h.records id
  generalize s.records.get? id = x at hrel
  generalize s'.records.get? id = y at hrel
  cases hrel with
  | none => exact .none
  | some hsame => exact .some hsame.symm

theorem keys_records (h : s.Same s') : s'.records.keys.Perm s.records.keys := by
  refine Dict.keys_perm fun id => ?_
  rw [Dict.mem_keys, Dict.mem_keys]
  constructor
  · rintro ⟨r', hr'⟩
    obtain ⟨r, hr, -⟩ := h.symm.found hr'
    exact ⟨r, hr⟩
  · rintro ⟨r, hr⟩
    obtain ⟨r', hr', -⟩ := h.found hr
    exact ⟨r', hr'⟩

theorem size_records (h : s.Same s') : s'.records.size = s.records.size := by
  rw [← Dict.length_keys, ← Dict.length_keys, h.keys_records.length_eq]

/-- A sum over the records that each contributes alike is the same. -/
theorem sum (h : s.Same s') {f : Record → Int} (hf : ∀ r r', r.Same r' → f r' = f r) :
    s'.records.sum f = s.records.sum f := by
  refine Dict.sum_congr fun id => ?_
  have hrel := h.records id
  generalize s.records.get? id = x at hrel ⊢
  generalize s'.records.get? id = y at hrel ⊢
  cases hrel with
  | none => rfl
  | some hsame => exact congrArg some (hf _ _ hsame)

theorem drift (h : s.Same s') : s'.drift = s.drift := by
  unfold Repository.drift
  rw [h.active, h.evidence, h.committed, h.sum fun _ _ => Record.Same.activeBytes,
    h.sum fun _ _ => Record.Same.evidenceBytes, h.sum fun _ _ => Record.Same.committedBytes]

end Repository.Same

theorem same_repository_canonical (s : Repository) : s.Same s.canonical := by
  refine ⟨fun id => ?_, fun id => get?_sortedDict _ id, rfl, rfl, rfl, rfl⟩
  rw [get?_canonical]
  cases s.records.get? id with
  | none => exact .none
  | some r => exact .some (same_canonical r)

theorem Coherent.same (h : s.Same s') (hs : Coherent cfg s) : Coherent cfg s' where
  record id r' hr' := by
    obtain ⟨r, hr, hsame⟩ := h.symm.found hr'
    rw [h.time]
    exact (hs.record id r hr).same hsame.symm
  distinct id id' r₁ r₁' hr₁ hr₁' hne d hd := by
    obtain ⟨r, hr, hsame⟩ := h.symm.found hr₁
    obtain ⟨r', hr', hsame'⟩ := h.symm.found hr₁'
    rw [← hsame.credentialDigests] at hd
    rw [← hsame'.credentialDigests]
    exact hs.distinct id id' r r' hr hr' hne d hd
  tombstone id t ht := by
    rw [h.tombstones] at ht
    rw [h.time]
    exact hs.tombstone id t ht
  disjoint id r' hr' := by
    obtain ⟨r, hr, -⟩ := h.symm.found hr'
    rw [h.tombstones]
    exact hs.disjoint id r hr
  mailboxes := h.size_records.trans_le hs.mailboxes
  tombstones := (size_congr h.tombstones).trans_le hs.tombstones
  drift := h.drift.trans hs.drift
  active := h.active.trans_le hs.active
  evidence := h.evidence.trans_le hs.evidence
  committed := h.committed.trans_le hs.committed

theorem Storable.same (h : s.Same s') (hs : Storable cfg s) : Storable cfg s' := by
  refine ⟨hs.coherent.same h, fun id r' hr' => ?_, fun id r' hr' => ?_, fun id t ht => ?_⟩
  · obtain ⟨r, hr, hsame⟩ := h.symm.found hr'
    exact (hs.presentable id r hr).same hsame.symm
  · obtain ⟨r, hr, hsame⟩ := h.symm.found hr'
    exact (hs.framed.record id r hr).same hsame.symm
  · exact hs.framed.tombstone id t ((h.tombstones id).symm.trans ht)

theorem ordered_records (h : s.Same s') :
    (ordered s'.records).map (fun e => recordWire e.2) =
      (ordered s.records).map fun e => recordWire e.2 := by
  unfold ordered
  rw [Uuid.sorted_congr h.keys_records, List.map_filterMap, List.map_filterMap]
  refine congrArg (fun f => List.filterMap f _) (funext fun id => ?_)
  have hrel := h.records id
  generalize s.records.get? id = x at hrel ⊢
  generalize s'.records.get? id = y at hrel ⊢
  cases hrel with
  | none => rfl
  | some hsame => exact congrArg some (recordWire_same hsame)

/-- The codec does not see the order of the dictionaries. -/
theorem encodeState_same (h : s.Same s') : encodeState s' = encodeState s := by
  unfold encodeState stateWire stateFields
  rw [ordered_records h, ordered_congr h.tombstones, h.time, h.active, h.evidence, h.committed]

end MyCogni.Mailbox
