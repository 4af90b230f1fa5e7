import MyCogni.Base.Frame
import MyCogni.Mailbox.Delivery

/-! A committed record is sealed: whatever replaces its evidence and its result, what the
validation accepts is what was committed, and its manifest fits no other binding. The hash and the
cipher are only relied on for the inputs that the two validations give them. -/

namespace MyCogni.Mailbox

/-! ### The two framings -/

def bindingParts (b : ActionBinding) : List Bytes :=
  [b.mailboxId.bytes, b.actionId.bytes, b.intentId.bytes, b.attemptId.bytes,
    Text.encode b.connectorRelease, Text.encode b.capability,
    Text.encode b.selectedArtifactDigest, Text.encode (intText b.dispatchEpoch),
    Text.encode (intText b.fence), Text.encode (intText b.authorizationEpoch),
    Text.encode b.claimDeadlineUtc.isoformatMicro, Text.encode b.deadlineUtc.isoformatMicro,
    Text.encode (intText b.wallSeconds), Text.encode (intText b.responseBytes),
    Text.encode b.envelopeDigest]

/-- What the digest of a binding is taken of. -/
def bindingFrame (b : ActionBinding) : Bytes := (bindingParts b).flatMap frame

/-- What the digest of a manifest is taken of. -/
def manifestFrame (b : ActionBinding) (result : WrappedResult) (objectIds : List Uuid) : Bytes :=
  manifestContext ++ Sha256.digest (bindingFrame b) ++ result.storageDigest ++
    toBytesBE 8 (Uuid.sorted objectIds).length ++ (Uuid.sorted objectIds).flatMap Uuid.bytes

/-- The integers that the digest of a binding renders are short enough. -/
structure Renders (b : ActionBinding) : Prop where
  dispatchEpoch : strDigitsOk b.dispatchEpoch = true
  fence : strDigitsOk b.fence = true
  authorizationEpoch : strDigitsOk b.authorizationEpoch = true
  wallSeconds : strDigitsOk b.wallSeconds = true
  responseBytes : strDigitsOk b.responseBytes = true

theorem strInt_eq_some {i : Int} {t : Text} (h : strInt i = some t) :
    strDigitsOk i = true ∧ t = intText i := by
  unfold strInt at h
  split_ifs at h with hi
  exact ⟨hi, (Option.some.inj h).symm⟩

theorem bindingDigest_eq_ok {b : ActionBinding} {digest : Bytes}
    (h : bindingDigest b = .ok digest) :
    Renders b ∧ digest = Sha256.digest (bindingFrame b) := by
  unfold bindingDigest at h
  split at h
  · next t₁ t₂ t₃ t₄ t₅ h₁ h₂ h₃ h₄ h₅ =>
    obtain ⟨hd₁, rfl⟩ := strInt_eq_some h₁
    obtain ⟨hd₂, rfl⟩ := strInt_eq_some h₂
    obtain ⟨hd₃, rfl⟩ := strInt_eq_some h₃
    obtain ⟨hd₄, rfl⟩ := strInt_eq_some h₄
    obtain ⟨hd₅, rfl⟩ := strInt_eq_some h₅
    exact ⟨⟨hd₁, hd₂, hd₃, hd₄, hd₅⟩, (Except.ok.inj h).symm⟩
  · exact nomatch h

theorem intText_inj {i j : Int} (hi : strDigitsOk i = true) (hj : strDigitsOk j = true)
    (h : intText i = intText j) : i = j := by
  have hnil : NoDigit [] := fun _ hc => nomatch hc
  have hread := readInt_intText hnil hi
  rw [h, readInt_intText hnil hj] at hread
  exact (congrArg Prod.fst (Option.some.inj hread)).symm

theorem length_intText_le_of_ok {i : Int} (h : strDigitsOk i = true) : (intText i).length ≤ 4301 := by
  have hdigits : (Nat.toDigits 10 i.natAbs).length ≤ 4300 := of_decide_eq_true h
  unfold intText
  rw [List.length_append]
  split_ifs
  · rw [List.length_singleton]
    omega
  · rw [List.length_nil]
    omega

theorem length_isDigest {t : Text} (h : isDigest t = true) : t.length = 71 := by
  simp only [isDigest, Bool.and_eq_true, decide_eq_true_eq] at h
  obtain ⟨⟨htake, hdrop⟩, -⟩ := h
  rw [← List.take_append_drop 7 t, List.length_append, htake, hdrop]
  rfl

theorem length_isIdentifier {n : Nat} {t : Text} (h : isIdentifier n t = true) :
    t.length ≤ n + 1 := by
  cases t with
  | nil => exact Nat.zero_le _
  | cons c t =>
    simp only [isIdentifier, Bool.and_eq_true, decide_eq_true_eq] at h
    rw [List.length_cons]
    omega

theorem length_bindingParts_lt {b : ActionBinding} (h : Renders b) :
    ∀ part ∈ bindingParts b, part.length < 256 ^ 8 := by
  have hvalid := b.valid
  simp only [BindingFields.wellFormed, Bool.and_eq_true, decide_eq_true_eq] at hvalid
  obtain ⟨⟨⟨⟨⟨⟨⟨-, hrelease, -⟩, hcapability⟩, hartifact, henvelope⟩, -⟩, -⟩, -⟩, -⟩ := hvalid
  have hcapability := length_isIdentifier hcapability
  have hartifact := length_isDigest hartifact
  have henvelope := length_isDigest henvelope
  have htext : ∀ t : Text, t.length ≤ 4301 → t.encode.length < 256 ^ 8 := by
    intro t ht
    have hencode := length_encode_le t
    norm_num
    omega
  have huuid : ∀ u : Uuid, u.bytes.length < 256 ^ 8 := fun u => by rw [u.length]; norm_num
  have hiso : ∀ t : Datetime, t.isoformatMicro.length ≤ 4301 := fun t => by
    rw [Datetime.length_isoformatMicro]
    norm_num
  simp only [bindingParts, List.forall_mem_cons, List.not_mem_nil, IsEmpty.forall_iff,
    implies_true, and_true]
  exact ⟨huuid _, huuid _, huuid _, huuid _, htext _ (by omega), htext _ (by omega),
    htext _ (by omega), htext _ (length_intText_le_of_ok h.dispatchEpoch),
    htext _ (length_intText_le_of_ok h.fence), htext _ (length_intText_le_of_ok h.authorizationEpoch),
    htext _ (hiso _), htext _ (hiso _), htext _ (length_intText_le_of_ok h.wallSeconds),
    htext _ (length_intText_le_of_ok h.responseBytes), htext _ (by omega)⟩

theorem Uuid.bytes_injective : Function.Injective Uuid.bytes := by
  intro a b h
  cases a
  cases b
  simpa using h

/-- The framed fields of a binding determine it. -/
theorem bindingFrame_inj {a b : ActionBinding} (ha : Renders a) (hb : Renders b)
    (h : bindingFrame a = bindingFrame b) : a = b := by
  have hparts : bindingParts a = bindingParts b :=
    flatMap_frame_inj rfl (length_bindingParts_lt ha) (length_bindingParts_lt hb) h
  simp only [bindingParts, List.cons.injEq, and_true] at hparts
  obtain ⟨h₁, h₂, h₃, h₄, h₅, h₆, h₇, h₈, h₉, h₁₀, h₁₁, h₁₂, h₁₃, h₁₄, h₁₅⟩ := hparts
  obtain ⟨⟨⟩, va⟩ := a
  obtain ⟨⟨⟩, vb⟩ := b
  simp only [ActionBinding.mk.injEq, BindingFields.mk.injEq]
  exact ⟨Uuid.bytes_injective h₁, Uuid.bytes_injective h₂, Uuid.bytes_injective h₃,
    Uuid.bytes_injective h₄, Text.encode_injective h₅, Text.encode_injective h₆,
    Text.encode_injective h₇,
    intText_inj ha.dispatchEpoch hb.dispatchEpoch (Text.encode_injective h₈),
    intText_inj ha.fence hb.fence (Text.encode_injective h₉),
    intText_inj ha.authorizationEpoch hb.authorizationEpoch (Text.encode_injective h₁₀),
    Datetime.isoformatMicro_injective (Text.encode_injective h₁₁),
    Datetime.isoformatMicro_injective (Text.encode_injective h₁₂),
    intText_inj ha.wallSeconds hb.wallSeconds (Text.encode_injective h₁₃),
    intText_inj ha.responseBytes hb.responseBytes (Text.encode_injective h₁₄),
    Text.encode_injective h₁₅⟩

/-! ### What the hash and the cipher are relied on for -/

/-- SHA-256 tells the two inputs apart. -/
def NoCollision (x y : Bytes) : Prop := Sha256.digest x = Sha256.digest y → x = y

/-- SHA-256 tells apart what the validations of the two records hash. -/
structure CollisionFree (cfg : Config) (r r' : Record) : Prop where
  binding : NoCollision (bindingFrame r.binding) (bindingFrame r'.binding)
  manifest : ∀ item ∈ r.resultEnvelope, ∀ item' ∈ r'.resultEnvelope,
    NoCollision (manifestFrame r.binding item r.evidence.keys)
      (manifestFrame r'.binding item' r'.evidence.keys)
  result : ∀ item ∈ r.resultEnvelope, ∀ item' ∈ r'.resultEnvelope,
    NoCollision item.wrappedPayload item'.wrappedPayload
  payload : ∀ uploads uploads', validatedEvidenceSlots cfg r = .ok uploads →
    validatedEvidenceSlots cfg r' = .ok uploads' →
    ∀ u ∈ uploads, ∀ u' ∈ uploads', NoCollision u.payload u'.payload

/-- The additional data under which a record's result is wrapped. -/
def Record.resultAad (r : Record) (item : WrappedResult) : Bytes :=
  Mailbox.resultAad (Sha256.digest (bindingFrame r.binding)) item.byteCount

/-- Where the two results have one ciphertext, it decrypts under one nonce and additional data. -/
def ExactCipher (cfg : Config) (r r' : Record) : Prop :=
  ∀ item ∈ r.resultEnvelope, ∀ item' ∈ r'.resultEnvelope,
    item'.wrappedPayload = item.wrappedPayload →
    cfg.aead.decrypt cfg.storageKey item.nonce item.wrappedPayload (r.resultAad item) ≠ none →
    cfg.aead.decrypt cfg.storageKey item'.nonce item'.wrappedPayload (r'.resultAad item') ≠ none →
    item'.nonce = item.nonce ∧ r'.resultAad item' = r.resultAad item

variable {cfg : Config} {r r' : Record} {item item' : WrappedResult}
  {manifest : CommittedEvidenceManifest} {j j' : Bytes} {uploads uploads' : List EvidenceUpload}

/-! ### The manifest -/

theorem validateCommittedManifest_eq_ok {ids : List Uuid}
    (hresult : r.resultEnvelope = some item)
    (h : validateCommittedManifest cfg r ids = .ok ()) :
    Renders r.binding ∧ ∃ manifest, r.committedEvidenceManifest = some manifest ∧
      manifest.itemCount = (Uuid.sorted ids).length ∧
      manifest.storageDigest = Sha256.digest (manifestFrame r.binding item ids) := by
  unfold validateCommittedManifest at h
  rw [hresult] at h
  cases hmanifest : r.committedEvidenceManifest with
  | none =>
    rw [hmanifest] at h
    exact nomatch h
  | some manifest =>
    rw [hmanifest] at h
    simp only [buildCommittedManifest, bind_eq_ok_iff, ensure_eq_ok, exists_const,
      Except.ok.injEq] at h
    obtain ⟨-, expected, ⟨-, digest, hdigest, rfl⟩, rfl⟩ := h
    obtain ⟨hrenders, rfl⟩ := bindingDigest_eq_ok hdigest
    exact ⟨hrenders, _, rfl, rfl, rfl⟩

theorem manifestFrame_inj {a b : ActionBinding} {ids ids' : List Uuid}
    (hlength : (Uuid.sorted ids).length = (Uuid.sorted ids').length)
    (hitem : item.storageDigest.length = 32) (hitem' : item'.storageDigest.length = 32)
    (h : manifestFrame a item ids = manifestFrame b item' ids') :
    Sha256.digest (bindingFrame a) = Sha256.digest (bindingFrame b) ∧
      item.storageDigest = item'.storageDigest ∧ ids.Perm ids' := by
  unfold manifestFrame at h
  rw [hlength] at h
  obtain ⟨hfront, hids⟩ := List.append_inj' h (by
    rw [List.length_flatMap, List.length_flatMap]
    simp only [Uuid.length, List.map_const', List.sum_replicate, hlength])
  have hfront := List.append_cancel_right hfront
  obtain ⟨hbinding, hstorage⟩ := List.append_inj' hfront (hitem.trans hitem'.symm)
  have hsorted := flatMap_inj_of_length Uuid.bytes_injective Uuid.length hlength hids
  have hperm : ids.Perm ids' :=
    (Uuid.sorted_perm ids).symm.trans (hsorted ▸ Uuid.sorted_perm ids')
  exact ⟨List.append_cancel_left hbinding, hstorage, hperm⟩

theorem unwrapResult_eq_ok (h : unwrapResult cfg r.binding item = .ok j) :
    item.storageDigest.length = 32 ∧ Sha256.digest item.wrappedPayload = item.storageDigest ∧
      ∃ framed, cfg.aead.decrypt cfg.storageKey item.nonce item.wrappedPayload
          (r.resultAad item) = some framed ∧
        j = framed.drop (innerResultBindingBytes + innerDigestBytes) := by
  unfold unwrapResult at h
  simp only [bind_eq_ok_iff, ensure_eq_ok, exists_const] at h
  obtain ⟨⟨-, hlength, -⟩, hdigest, digest, hbinding, h⟩ := h
  obtain ⟨-, rfl⟩ := bindingDigest_eq_ok hbinding
  refine ⟨hlength, hdigest, ?_⟩
  split at h
  · exact nomatch h
  · next framed hframed =>
    simp only [bind_eq_ok_iff, ensure_eq_ok, exists_const] at h
    obtain ⟨-, -, -, -, h⟩ := h
    exact ⟨framed, hframed, (Except.ok.inj h).symm⟩

/-- What is known of a record that retains a result. -/
structure Sealed (cfg : Config) (r : Record) (item : WrappedResult)
    (manifest : CommittedEvidenceManifest) (uploads : List EvidenceUpload) (j : Bytes) : Prop where
  envelope : r.resultEnvelope = some item
  committed : r.committedEvidenceManifest = some manifest
  slots : validatedEvidenceSlots cfg r = .ok uploads
  renders : Renders r.binding
  unwraps : unwrapResult cfg r.binding item = .ok j
  references : validateResultReferences cfg r.binding j uploads = .ok ()
  count : manifest.itemCount = (Uuid.sorted r.evidence.keys).length
  digest : manifest.storageDigest = Sha256.digest (manifestFrame r.binding item r.evidence.keys)

theorem Authentic.isSealed {m : List EvidenceUpload × Option Bytes} (h : Authentic cfg r m)
    (hmanifest : r.committedEvidenceManifest = some manifest) :
    ∃ item j, m.2 = some j ∧ Sealed cfg r item manifest m.1 j := by
  cases h with
  | acknowledged _ _ _ _ _ hnone => simp [hmanifest] at hnone
  | uncommitted _ _ _ _ hnone => simp [hmanifest] at hnone
  | @retained uploads item j hslots _ _ _ hresult _ hunwrap hrefs hvalid =>
    rw [slots_objectIds hslots] at hvalid
    obtain ⟨hrenders, manifest', hmanifest', hcount, hdigest⟩ :=
      validateCommittedManifest_eq_ok hresult hvalid
    obtain rfl := Option.some.inj (hmanifest.symm.trans hmanifest')
    exact ⟨item, j, rfl, hresult, hmanifest, hslots, hrenders, hunwrap, hrefs, hcount, hdigest⟩

/-- A manifest belongs to one binding, one wrapped result and one set of evidence. -/
theorem Sealed.manifest_pins (h : Sealed cfg r item manifest uploads j)
    (h' : Sealed cfg r' item' manifest uploads' j') (hfree : CollisionFree cfg r r') :
    r.binding = r'.binding ∧ item.wrappedPayload = item'.wrappedPayload ∧
      r.evidence.keys.Perm r'.evidence.keys := by
  obtain ⟨hlength, hhash, -⟩ := unwrapResult_eq_ok h.unwraps
  obtain ⟨hlength', hhash', -⟩ := unwrapResult_eq_ok h'.unwraps
  have hframe := hfree.manifest item h.envelope item' h'.envelope (h.digest.symm.trans h'.digest)
  have hcount : (Uuid.sorted r.evidence.keys).length = (Uuid.sorted r'.evidence.keys).length := by
    exact_mod_cast h.count.symm.trans h'.count
  obtain ⟨hbinding, hstorage, hkeys⟩ := manifestFrame_inj hcount hlength hlength' hframe
  have hwrapped : Sha256.digest item.wrappedPayload = Sha256.digest item'.wrappedPayload := by
    rw [hhash, hhash', hstorage]
  exact ⟨bindingFrame_inj h.renders h'.renders (hfree.binding hbinding),
    hfree.result item h.envelope item' h'.envelope hwrapped, hkeys⟩

/-! ### The result and the evidence -/

theorem Sealed.result_pinned (h : Sealed cfg r item manifest uploads j)
    (h' : Sealed cfg r' item' manifest uploads' j') (hfree : CollisionFree cfg r r')
    (hexact : ExactCipher cfg r r') : j = j' := by
  obtain ⟨-, hwrapped, -⟩ := h.manifest_pins h' hfree
  obtain ⟨-, -, framed, hframed, rfl⟩ := unwrapResult_eq_ok h.unwraps
  obtain ⟨-, -, framed', hframed', rfl⟩ := unwrapResult_eq_ok h'.unwraps
  obtain ⟨hnonce, haad⟩ := hexact item h.envelope item' h'.envelope hwrapped.symm
    (by simp [hframed]) (by simp [hframed'])
  rw [← hwrapped, hnonce, haad, hframed] at hframed'
  rw [Option.some.inj hframed']

theorem slots_payloadDigest (h : validatedEvidenceSlots cfg r = .ok uploads) :
    ∀ u ∈ uploads, u.payloadDigest = sha256Text u.payload := by
  rw [validatedEvidenceSlots_eq_ok] at h
  generalize r.evidence.entries = es at h
  induction h with
  | nil =>
    intro u hu
    exact nomatch hu
  | cons hunwrap _ ih =>
    intro u hu
    rcases List.mem_cons.mp hu with rfl | hu
    · exact (unwrap_eq_ok hunwrap).2.2.2.2
    · exact ih u hu

theorem sha256Text_inj {x y : Bytes} (hfree : NoCollision x y)
    (h : sha256Text x = sha256Text y) : x = y :=
  hfree (hex_injective (List.append_cancel_left h))

/-- The references of the result determine the upload of every identifier. -/
theorem upload_pinned {b b' : ActionBinding}
    (hrefs : validateResultReferences cfg b j uploads = .ok ())
    (hrefs' : validateResultReferences cfg b' j uploads' = .ok ())
    (hdigest : ∀ u ∈ uploads, u.payloadDigest = sha256Text u.payload)
    (hdigest' : ∀ u ∈ uploads', u.payloadDigest = sha256Text u.payload)
    (hfree : ∀ u ∈ uploads, ∀ u' ∈ uploads', NoCollision u.payload u'.payload)
    {u v : EvidenceUpload} (hu : u ∈ uploads) (hv : v ∈ uploads')
    (hid : u.objectId = v.objectId) : u = v := by
  obtain ⟨result, hresult, -, hmem, hmatch⟩ := validateResultReferences_eq_ok hrefs
  obtain ⟨result', hresult', -, -, hmatch'⟩ := validateResultReferences_eq_ok hrefs'
  obtain rfl := Option.some.inj (hresult.symm.trans hresult')
  obtain ⟨reference, hreference, hobject⟩ :=
    List.mem_map.mp ((hmem u.objectId).mpr (List.mem_map_of_mem hu))
  have hleft := hmatch reference hreference u hu hobject
  have hright := hmatch' reference hreference v hv (hobject.trans hid)
  simp only [referenceMatches, Bool.and_eq_true, decide_eq_true_eq] at hleft hright
  obtain ⟨⟨hkind, hpayload⟩, -⟩ := hleft
  obtain ⟨⟨hkind', hpayload'⟩, -⟩ := hright
  have hdigests : u.payloadDigest = v.payloadDigest := hpayload.symm.trans hpayload'
  have hbytes : u.payload = v.payload := by
    refine sha256Text_inj (hfree u hu v hv) ?_
    rw [← hdigest u hu, ← hdigest' v hv, hdigests]
  obtain ⟨⟨⟩, _⟩ := u
  obtain ⟨⟨⟩, _⟩ := v
  simp only [EvidenceUpload.mk.injEq, UploadFields.mk.injEq]
  exact ⟨hid, hkind.symm.trans hkind', hdigests, hbytes⟩

theorem Sealed.evidence_pinned (h : Sealed cfg r item manifest uploads j)
    (h' : Sealed cfg r' item' manifest uploads' j) (hfree : CollisionFree cfg r r') :
    uploads.Perm uploads' := by
  obtain ⟨-, -, hkeys⟩ := h.manifest_pins h' hfree
  rw [← slots_objectIds h.slots, ← slots_objectIds h'.slots] at hkeys
  have hnodup : (uploads.map fun u => u.objectId).Nodup := by
    rw [slots_objectIds h.slots]
    exact r.evidence.nodup
  have hnodup' : (uploads'.map fun u => u.objectId).Nodup := by
    rw [slots_objectIds h'.slots]
    exact r'.evidence.nodup
  have hpinned := fun {u u'} => upload_pinned (u := u) (v := u') h.references h'.references
    (slots_payloadDigest h.slots) (slots_payloadDigest h'.slots)
    (hfree.payload _ _ h.slots h'.slots)
  refine (List.perm_ext_iff_of_nodup hnodup.of_map hnodup'.of_map).mpr fun u => ⟨?_, ?_⟩
  · intro hu
    obtain ⟨u', hu', hid⟩ := List.mem_map.mp (hkeys.mem_iff.mp (List.mem_map_of_mem hu))
    rw [hpinned hu hu' hid.symm]
    exact hu'
  · intro hu'
    obtain ⟨v, hv, hid⟩ := List.mem_map.mp (hkeys.mem_iff.mpr (List.mem_map_of_mem hu'))
    rw [← hpinned hv hu' hid]
    exact hv

/-- What is accepted for a committed record with its binding and its manifest is the result and
the evidence that were committed, and for no other binding is its manifest accepted at all. -/
theorem committed_material_pinned (cfg : Config) (is : List (Request × Env)) (id : Uuid) (r : Record)
    (hr : (noted cfg is).1.records.get? id = some r) (hstate : r.state = .resultCommitted)
    (hcollection : r.collectionState ≠ .acknowledged) :
    ∃ j uploads, ((noted cfg is).2 id).committed = some (j, uploads) ∧
      ∀ r' : Record, r'.committedEvidenceManifest = r.committedEvidenceManifest →
        CollisionFree cfg r r' →
        (r'.binding = r.binding → ExactCipher cfg r r' →
          ∀ m, validatedRecordMaterial cfg r' = .ok m → m.2 = some j ∧ m.1.Perm uploads) ∧
        (r'.binding ≠ r.binding → ∀ m, validatedRecordMaterial cfg r' ≠ .ok m) := by
  obtain ⟨j, hj, hauthentic⟩ := ((accounted_noted cfg is).agrees id r hr).committed hstate
    hcollection
  generalize ((noted cfg is).2 id).staged = uploads at hj hauthentic
  obtain ⟨manifest, hmanifest⟩ : ∃ manifest, r.committedEvidenceManifest = some manifest := by
    cases hauthentic with
    | retained _ _ _ _ _ hsome => exact Option.ne_none_iff_exists'.mp hsome
  obtain ⟨item, j', hj', hsealed⟩ := hauthentic.isSealed hmanifest
  obtain rfl := Option.some.inj hj'
  refine ⟨j, uploads, hj, fun r' hsame hfree => ⟨?_, ?_⟩⟩
  · intro _ hexact m hm
    obtain ⟨item', j', hj', hsealed'⟩ :=
      (validatedRecordMaterial_eq_ok.mp hm).isSealed (hsame.trans hmanifest)
    obtain rfl := hsealed.result_pinned hsealed' hfree hexact
    exact ⟨hj', (hsealed.evidence_pinned hsealed' hfree).symm⟩
  · intro hbinding m hm
    obtain ⟨item', j', -, hsealed'⟩ :=
      (validatedRecordMaterial_eq_ok.mp hm).isSealed (hsame.trans hmanifest)
    exact hbinding (hsealed.manifest_pins hsealed' hfree).1.symm

namespace Sample

/-- The evidence of the sample, wrapped once more under another nonce. -/
def rewrapped : Dict Uuid WrappedEvidence :=
  small.taken.evidence.set (sampleUuid 6)
    (wrap small.config (sampleUuid 1) upload ⟨List.replicate 12 1, rfl⟩)

theorem slots_rewrapped {r : Record} (hbinding : r.binding = small.taken.binding) :
    validatedEvidenceSlots small.config { r with evidence := rewrapped } = .ok [upload] := by
  have hslots := @slots_empty small.config small.taken rfl
  exact slots_withEvidence (u := upload) hslots rfl rfl hbinding rfl

theorem rewrapped_ne {r : Record} (h : r.evidence = small.filled.evidence) :
    rewrapped ≠ r.evidence := by
  rw [h]
  intro h
  have hitem := congrArg (fun d => d.get? (sampleUuid 6)) h
  unfold rewrapped filled Record.withEvidence at hitem
  dsimp only at hitem
  rw [Dict.get?_set_self] at hitem
  rw [show (wrap small.config (sampleUuid 1) upload env.nonce).objectId = sampleUuid 6 from rfl,
    Dict.get?_set_self] at hitem
  have hnonce : List.replicate 12 (1 : UInt8) = List.replicate 12 0 :=
    congrArg WrappedEvidence.nonce (Option.some.inj hitem)
  exact absurd hnonce (by decide)

theorem authentic_rewrapped {d : Dict Uuid WrappedEvidence}
    (h : Authentic cfg r (uploads, some j))
    (hslots : validatedEvidenceSlots cfg { r with evidence := d } = .ok uploads) :
    Authentic cfg { r with evidence := d } (uploads, some j) := by
  cases h with
  | retained _ hstate hat hready hresult hmanifest hunwrap hrefs hvalid =>
    exact .retained hslots hstate hat hready hresult hmanifest hunwrap hrefs hvalid

theorem collisionFree_rewrapped {d : Dict Uuid WrappedEvidence} {u : EvidenceUpload}
    (h : validatedEvidenceSlots cfg r = .ok [u])
    (hslots : validatedEvidenceSlots cfg { r with evidence := d } = .ok [u]) :
    CollisionFree cfg r { r with evidence := d } := by
  have hkeys : d.keys = r.evidence.keys := (slots_objectIds hslots).symm.trans (slots_objectIds h)
  refine ⟨fun _ => rfl, ?_, ?_, ?_⟩
  · intro item hitem item' hitem' _
    obtain rfl := Option.some.inj (hitem.symm.trans hitem')
    show manifestFrame _ _ _ = manifestFrame _ _ d.keys
    rw [hkeys]
  · intro item hitem item' hitem' _
    obtain rfl := Option.some.inj (hitem.symm.trans hitem')
    rfl
  · intro us us' hus hus' v hv v' hv' _
    obtain rfl := Except.ok.inj (h.symm.trans hus)
    obtain rfl := Except.ok.inj (hslots.symm.trans hus')
    rw [List.mem_singleton.mp hv, List.mem_singleton.mp hv']

theorem exactCipher_rewrapped (d : Dict Uuid WrappedEvidence) :
    ExactCipher cfg r { r with evidence := d } := by
  intro item hitem item' hitem' _ _ _
  obtain rfl := Option.some.inj (hitem.symm.trans hitem')
  exact ⟨rfl, rfl⟩

/-- The record that the sample leaves behind. -/
theorem committed_record : ∃ r, (noted small.config small.course).1.records.get? (sampleUuid 1) =
      some r ∧ r.state = .resultCommitted ∧ r.collectionState = .ready ∧
    r.evidence = small.filled.evidence ∧ r.binding = small.taken.binding ∧
    Authentic small.config r ([upload], some result.modelDumpJson) := by
  obtain ⟨item, manifest, -, hr, hauthentic⟩ := committed_spec small_admissible small_short
  rw [← run_course, ← noted_fst] at hr
  exact ⟨_, hr, rfl, rfl, rfl, rfl, hauthentic⟩

theorem committed_material_rewrapped : ∃ r j uploads,
    let r' : Record := { r with evidence := rewrapped }
    (noted small.config small.course).1.records.get? (sampleUuid 1) = some r ∧
      r.state = .resultCommitted ∧ r.collectionState ≠ .acknowledged ∧
      r'.evidence ≠ r.evidence ∧ CollisionFree small.config r r' ∧ ExactCipher small.config r r' ∧
      validatedRecordMaterial small.config r' = .ok ([upload], some result.modelDumpJson) ∧
      some result.modelDumpJson = some j ∧ [upload].Perm uploads ∧
      ((noted small.config small.course).2 (sampleUuid 1)).committed = some (j, uploads) := by
  obtain ⟨r, hr, hstate, hready, hevidence, hbinding, hauthentic⟩ := committed_record
  have hack : r.collectionState ≠ .acknowledged := by
    rw [hready]
    exact nofun
  have hslots := slots_rewrapped hbinding
  have hfree := collisionFree_rewrapped hauthentic.slots hslots
  have hexact := @exactCipher_rewrapped small.config r rewrapped
  have hmaterial := validatedRecordMaterial_eq_ok.mpr (authentic_rewrapped hauthentic hslots)
  obtain ⟨j, uploads, hj, hpinned⟩ := committed_material_pinned small.config small.course
    (sampleUuid 1) r hr hstate hack
  obtain ⟨hjson, hperm⟩ := (hpinned { r with evidence := rewrapped } rfl hfree).1 rfl hexact
    _ hmaterial
  exact ⟨r, j, uploads, hr, hstate, hack, rewrapped_ne hevidence, hfree, hexact, hmaterial, hjson,
    hperm, hj⟩

end Sample
end MyCogni.Mailbox
