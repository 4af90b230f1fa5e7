import MyCogni.Mailbox.Boundary
import MyCogni.Mailbox.Persistent
import MyCogni.Mailbox.Sealed

/-! What the decoder of the persistent adapter checks of a state, and where each of its bounds
comes from: a check of the service, of the volatile machine or of the wrapping. Only the length of
a retained envelope is bounded by none of them. -/

namespace MyCogni.Mailbox

/-! ### The lengths of what is retained -/

/-- Digests are digests, and a wrapped item is as long as its frame and the tag. -/
structure Record.Framed (r : Record) : Prop where
  credentials : r.actionCredentialDigest.length = 32 ∧ r.claimCredentialDigest.length = 32 ∧
    r.collectionCredentialDigest.length = 32
  resultDigest : ∀ d ∈ r.resultCredentialDigest, d.length = 32
  evidence : ∀ id item, r.evidence.get? id = some item →
    (item.wrappedPayload.length : Int) = item.byteCount + 64
  result : ∀ item ∈ r.resultEnvelope, (item.wrappedPayload.length : Int) = item.byteCount + 80 ∧
    item.byteCount ≤ canonicalResultRoom

def Call.framed : Call → Prop
  | .create _ a c k => a.length = 32 ∧ c.length = 32 ∧ k.length = 32
  | .offer _ _ _ _ _ _ rd => rd.length = 32
  | .commitResult _ _ j _ => j.length ≤ canonicalResultRoom
  | _ => True

variable {cfg : Config} {s s' : Repository} {id : Uuid} {r r' : Record}

theorem length_credentialDigest (c : Bytes) : (credentialDigest c).length = 32 :=
  Sha256.length_digest _

theorem Request.Makes.framed {request : Request} {call : Call} (h : request.Makes cfg call) :
    call.framed := by
  cases h with
  | openEmpty =>
    exact ⟨length_credentialDigest _, length_credentialDigest _, length_credentialDigest _⟩
  | offer => exact length_credentialDigest _
  | @commitResult _ _ _ _ result _ hparse =>
    obtain ⟨-, -, -, hcanonical⟩ := parseResult_eq_ok hparse
    dsimp only at hcanonical
    subst hcanonical
    exact result.length_modelDumpJson_le_room
  | _ => trivial

theorem length_wrap (m : Uuid) (u : EvidenceUpload) (nonce : Nonce) :
    ((wrap cfg m u nonce).wrappedPayload.length : Int) = (wrap cfg m u nonce).byteCount + 64 := by
  have hlength : (wrap cfg m u nonce).wrappedPayload.length = u.payload.length + 64 := by
    simp only [wrap, cfg.aead.length_encrypt, List.length_append, Sha256.length_digest, Uuid.length]
    omega
  have hcount : (wrap cfg m u nonce).byteCount = u.payload.length := rfl
  omega

theorem length_wrapResult {digest : Bytes} (hdigest : digest.length = 32) (j : Bytes)
    (nonce : Nonce) :
    ((wrapResult cfg digest j nonce).wrappedPayload.length : Int) =
      (wrapResult cfg digest j nonce).byteCount + 80 := by
  have hlength : (wrapResult cfg digest j nonce).wrappedPayload.length = j.length + 80 := by
    simp only [wrapResult, cfg.aead.length_encrypt, List.length_append, Sha256.length_digest,
      hdigest]
    omega
  have hcount : (wrapResult cfg digest j nonce).byteCount = j.length := rfl
  omega

theorem Record.Framed.closed (h : r.Framed) (state : MailboxState) (now : Datetime) :
    (r.closed state now).Framed :=
  ⟨h.credentials, nofun, nofun, nofun⟩

theorem Record.Framed.seen (h : r.Framed) (now : Datetime) : (r.seen now).Framed :=
  ⟨h.credentials, h.resultDigest, h.evidence, h.result⟩

theorem Record.Framed.swept (h : r.Framed) (now : Datetime) : (r.swept now).Framed := by
  unfold Record.swept
  split_ifs
  · exact h.closed _ now
  · exact h.seen now

theorem Lapse.framed {now : Datetime} (h : r.Framed) (hlapse : Lapse now r r') : r'.Framed := by
  cases hlapse with
  | again => exact h.seen now
  | due => exact h.closed _ now

/-- Every record is framed, and so is every tombstone kept under an identifier of a mailbox. -/
structure Framed (s : Repository) : Prop where
  record : ∀ id r, s.records.get? id = some r → r.Framed
  tombstone : ∀ id t, s.tombstones.get? id = some t → id.isV4 = true

theorem Framed.set (h : Framed s) (hrecords : s'.records = s.records.set id r)
    (htombstones : s'.tombstones = s.tombstones) (hr : r.Framed) : Framed s' := by
  refine ⟨fun id' r' hr' => ?_, htombstones ▸ h.tombstone⟩
  rw [hrecords, Dict.get?_set] at hr'
  split_ifs at hr'
  · exact Option.some.inj hr' ▸ hr
  · exact h.record id' r' hr'

theorem framed_empty : Framed .empty :=
  ⟨(fun _ _ h => nomatch h), (fun _ _ h => nomatch h)⟩

theorem Step.framed {i : Call × Env} {out : Outcome} (h : Step cfg s i out s') (hs : Framed s)
    (hcoherent : Coherent cfg s) (hcall : i.1.framed) : Framed s' := by
  cases h with
  | refused => exact hs
  | created =>
    refine hs.set rfl rfl ⟨hcall, fun _ h => (by cases h), fun _ _ h => (by cases h),
      fun _ h => (by cases h)⟩
  | lapsed _ _ access hlapse =>
    exact hs.set rfl rfl (hlapse.framed (hs.record _ _ access.found))
  | viewed access _ hr' =>
    have hr := hs.record _ _ access.found
    rcases hr' with hlapse | ⟨rfl, -⟩
    · exact hs.set rfl rfl (hlapse.framed hr)
    · exact hs.set rfl rfl (hr.seen _)
  | offered access =>
    have hr := hs.record _ _ access.found
    refine hs.set rfl rfl ⟨hr.credentials, ?_, hr.evidence, hr.result⟩
    exact fun _ h => Option.some.inj h ▸ hcall
  | claimed access =>
    have hr := hs.record _ _ access.found
    exact hs.set rfl rfl ⟨hr.credentials, hr.resultDigest, hr.evidence, hr.result⟩
  | staged access =>
    have hr := hs.record _ _ access.found
    refine hs.set rfl rfl ⟨hr.credentials, hr.resultDigest, ?_, hr.result⟩
    intro id' item hitem
    rw [Record.withEvidence, Dict.get?_set] at hitem
    split_ifs at hitem
    · obtain rfl := Option.some.inj hitem
      exact length_wrap ..
    · exact hr.evidence id' item hitem
  | committed access _ _ _ _ _ _ hdigest =>
    have hr := hs.record _ _ access.found
    refine hs.set rfl rfl ⟨hr.credentials, (fun _ h => by cases h), hr.evidence, ?_⟩
    intro item hitem
    obtain rfl := Option.some.inj hitem
    exact ⟨length_wrapResult (length_bindingDigest hdigest) .., Int.ofNat_le.mpr hcall⟩
  | delivered access =>
    have hr := hs.record _ _ access.found
    exact hs.set rfl rfl ⟨hr.credentials, hr.resultDigest, hr.evidence, hr.result⟩
  | acknowledgedAgain access => exact hs.set rfl rfl ((hs.record _ _ access.found).seen _)
  | acknowledged access =>
    have hr := hs.record _ _ access.found
    exact hs.set rfl rfl ⟨hr.credentials, hr.resultDigest, fun _ _ h => (by cases h),
      fun _ h => (by cases h)⟩
  | abandoned access => exact hs.set rfl rfl ((hs.record _ _ access.found).closed _ _)
  | swept _ _ _ _ hswept htombstones =>
    refine ⟨fun id r' hr' => ?_, htombstones ▸ hs.tombstone⟩
    rw [hswept.records] at hr'
    obtain ⟨r, hr, h⟩ := Option.bind_eq_some_iff.mp hr'
    obtain rfl := Option.some.inj h
    exact (hs.record _ _ hr).swept _
  | collected _ _ _ _ _ hremoved hswept htombstones =>
    refine ⟨fun id r' hr' => ?_, fun id t ht => ?_⟩
    · rw [hswept.records] at hr'
      obtain ⟨r, hr, h⟩ := Option.bind_eq_some_iff.mp hr'
      split_ifs at h
      obtain rfl := Option.some.inj h
      exact (hs.record _ _ hr).seen _
    · rw [htombstones] at ht
      split_ifs at ht with hid
      · -- a tombstone takes the place of a record, whose binding names the mailbox
        obtain ⟨r, hr, -⟩ := hremoved id hid
        rw [← (hcoherent.record id r hr).key]
        exact r.binding.mailboxId_isV4
      · exact hs.tombstone id t (Option.filter_eq_some_iff.mp ht).1

/-! ### What the decoder checks -/

/-- What holds of every state that the service can bring about. -/
structure Storable (cfg : Config) (s : Repository) : Prop where
  coherent : Coherent cfg s
  presentable : AllPresentable s
  framed : Framed s

theorem storable_empty (cfg : Config) : Storable cfg .empty :=
  ⟨coherent_empty cfg, (fun _ _ h => nomatch h), framed_empty⟩

theorem Storable.apply {request : Request} {call : Call} (h : Storable cfg s)
    (hcall : request.call cfg = .ok call) (env : Env) :
    Storable cfg (Mailbox.apply cfg s (call, env)).2 := by
  have hstep := apply_step cfg s (call, env)
  have hmakes := Request.call_makes hcall
  exact ⟨hstep.coherent h.coherent, hstep.allPresentable h.presentable hmakes.presentable,
    hstep.framed h.framed h.coherent hmakes.framed⟩

/-- No retained envelope is longer than the decoder admits. -/
def ShortEnvelopes (s : Repository) : Prop :=
  ∀ id r, s.records.get? id = some r → ∀ e ∈ r.envelopeJson, e.length ≤ maxActionEnvelopeBytes

theorem slots_items {uploads : List EvidenceUpload}
    (h : validatedEvidenceSlots cfg r = .ok uploads) :
    ∀ slot item, r.evidence.get? slot = some item →
      ∃ u ∈ uploads, unwrap cfg r.binding.mailboxId slot item = .ok u := by
  intro slot item hitem
  have hentry : (slot, item) ∈ r.evidence.entries := Dict.get?_eq_some.mp hitem
  exact mapM_mem h hentry

/-- The fields that the unwrapping of an item measures. -/
theorem unwrap_measures {m slot : Uuid} {item : WrappedEvidence} {u : EvidenceUpload}
    (h : unwrap cfg m slot item = .ok u) :
    0 < item.byteCount ∧ item.storageDigest.length = 32 ∧ item.semanticMac.length = 32 ∧
      item.nonce.length = 12 ∧ item.objectId.isV4 = true := by
  have hobject : item.objectId = u.objectId := (unwrap_eq_ok h).1.trans (unwrap_eq_ok h).2.1.symm
  have hvalid := u.valid
  simp only [UploadFields.wellFormed, Bool.and_eq_true] at hvalid
  unfold unwrap at h
  simp only [bind_eq_ok_iff, ensure_eq_ok, exists_const] at h
  obtain ⟨⟨-, hpos, hstorage, hmac, hnonce⟩, -⟩ := h
  exact ⟨hpos, hstorage, hmac, hnonce, hobject ▸ hvalid.1.1.1⟩

theorem unwrapResult_measures {b : ActionBinding} {item : WrappedResult} {j : Bytes}
    (h : unwrapResult cfg b item = .ok j) :
    0 < item.byteCount ∧ item.storageDigest.length = 32 ∧ item.semanticMac.length = 32 ∧
      item.nonce.length = 12 := by
  unfold unwrapResult at h
  simp only [bind_eq_ok_iff, ensure_eq_ok, exists_const] at h
  exact h.1

theorem Record.evidence_le {slot : Uuid} {item : WrappedEvidence} {uploads : List EvidenceUpload}
    (h : validatedEvidenceSlots cfg r = .ok uploads) (hitem : r.evidence.get? slot = some item) :
    item.byteCount ≤ r.evidenceBytes := by
  refine Dict.le_sum (fun item hmem => ?_) (Dict.mem_values.mpr ⟨slot, hitem⟩)
  obtain ⟨slot', hslot'⟩ := Dict.mem_values.mp hmem
  obtain ⟨u, -, hu⟩ := slots_items h slot' item hslot'
  exact (unwrap_measures hu).1.le

theorem Record.keyed {m : List EvidenceUpload × Option Bytes} (h : Authentic cfg r m) : r.Keyed := by
  intro slot item hitem
  obtain ⟨u, -, hu⟩ := slots_items h.slots slot item hitem
  exact (unwrap_eq_ok hu).1

theorem Coherent.keyed (h : Coherent cfg s) : s.Keyed := by
  intro id r hr
  obtain ⟨m, hm⟩ := (h.record id r hr).material
  exact ⟨(h.record id r hr).key, Record.keyed hm⟩

theorem Coherent.evidenceBytes_le (h : Coherent cfg s) (hr : s.records.get? id = some r) :
    r.evidenceBytes ≤ cfg.limits.maxTotalEvidenceBytes := by
  have htotal := h.totals.2.1
  have hle : r.evidenceBytes ≤ s.records.sum Record.evidenceBytes := by
    refine Dict.le_sum (fun r' hr' => ?_) (Dict.mem_values.mpr ⟨id, hr⟩)
    obtain ⟨id', hid'⟩ := Dict.mem_values.mp hr'
    obtain ⟨m, hm⟩ := (h.record id' r' hid').material
    exact hm.evidenceBytes_nonneg
  have hbound := h.evidence
  omega

theorem Authentic.manifest_lengths {m : List EvidenceUpload × Option Bytes} (h : Authentic cfg r m)
    {manifest : CommittedEvidenceManifest} (hmanifest : r.committedEvidenceManifest = some manifest) :
    manifest.storageDigest.length = 32 ∧ manifest.semanticMac.length = 32 := by
  cases h with
  | acknowledged _ _ _ _ _ hnone => simp [hmanifest] at hnone
  | uncommitted _ _ _ _ hnone => simp [hmanifest] at hnone
  | retained _ _ _ _ hresult _ _ _ hvalid =>
    unfold validateCommittedManifest at hvalid
    rw [hmanifest, hresult] at hvalid
    simp only [bind_eq_ok_iff, ensure_eq_ok, exists_const] at hvalid
    exact hvalid.1

theorem Authentic.unwraps {m : List EvidenceUpload × Option Bytes} (h : Authentic cfg r m)
    {item : WrappedResult} (hitem : r.resultEnvelope = some item) :
    ∃ j, unwrapResult cfg r.binding item = .ok j := by
  cases h with
  | acknowledged _ _ _ _ hnone => exact absurd (hitem.symm.trans hnone) (by simp)
  | uncommitted _ _ _ hnone => exact absurd (hitem.symm.trans hnone) (by simp)
  | @retained _ result j _ _ _ _ hresult _ hunwrap =>
    obtain rfl := Option.some.inj (hitem.symm.trans hresult)
    exact ⟨j, hunwrap⟩

theorem bounded_of_length {n : Nat} {b : Bytes} (h : b.length = n) : Bounded n n b :=
  ⟨h.ge, h.le⟩

/-- The decoder admits every record that the service can bring about, save for its envelope. -/
theorem Storable.fits_record (h : Storable cfg s) (hr : s.records.get? id = some r) :
    r.Fits cfg.limits ↔ ∀ e ∈ r.envelopeJson, e.length ≤ maxActionEnvelopeBytes := by
  have hrecord := h.coherent.record id r hr
  have hframed := h.framed.record id r hr
  have hpresent := h.presentable id r hr
  obtain ⟨m, hm⟩ := hrecord.material
  have hbytes := h.coherent.evidenceBytes_le hr
  refine ⟨fun hfits e he => (hfits.envelope e he).2, fun hshort => ?_⟩
  constructor
  · exact hrecord.items
  · intro slot item hitem
    obtain ⟨u, -, hu⟩ := slots_items hm.slots slot item hitem
    obtain ⟨hpos, hstorage, hmac, hnonce, hv4⟩ := unwrap_measures hu
    have hlength := hframed.evidence slot item hitem
    have hcount := Record.evidence_le hm.slots hitem
    refine ⟨hv4, bounded_of_length hstorage, bounded_of_length hmac, bounded_of_length hnonce, ?_⟩
    exact ⟨by omega, by omega⟩
  · exact bounded_of_length hframed.credentials.1
  · exact bounded_of_length hframed.credentials.2.1
  · exact bounded_of_length hframed.credentials.2.2
  · intro e he
    exact ⟨List.length_pos_of_ne_nil (hpresent.envelope e he), hshort e he⟩
  · exact fun key hkey => bounded_of_length (hpresent.actionKey key hkey)
  · exact fun c hc => hpresent.resultCredential c hc
  · exact fun d hd => bounded_of_length (hframed.resultDigest d hd)
  · intro item hitem
    obtain ⟨j, hunwrap⟩ := hm.unwraps hitem
    obtain ⟨hpos, hstorage, hmac, hnonce⟩ := unwrapResult_measures hunwrap
    obtain ⟨hlength, hcount⟩ := hframed.result item hitem
    have hroom : canonicalResultRoom = 480000 := rfl
    refine ⟨bounded_of_length hstorage, bounded_of_length hmac, bounded_of_length hnonce, ?_⟩
    exact ⟨by omega, by omega⟩
  · intro manifest hmanifest
    obtain ⟨hstorage, hmac⟩ := hm.manifest_lengths hmanifest
    exact ⟨bounded_of_length hstorage, bounded_of_length hmac⟩

/-- The decoder admits what the service can bring about if and only if no envelope is too long. -/
theorem Storable.fits (h : Storable cfg s) : s.Fits cfg.limits ↔ ShortEnvelopes s := by
  constructor
  · exact fun hfits id r hr => (h.fits_record hr).mp (hfits.record id r hr)
  · intro hshort
    refine ⟨h.coherent.mailboxes, h.coherent.tombstones, ?_, ?_, h.coherent.totals_nonneg⟩
    · exact fun id r hr => (h.fits_record hr).mpr (hshort id r hr)
    · intro id t ht
      refine ⟨h.framed.tombstone id t ht, ?_⟩
      cases hr : s.records.get? id with
      | none => rfl
      | some r => exact absurd (ht.symm.trans (h.coherent.disjoint id r hr)) (by simp)

end MyCogni.Mailbox
