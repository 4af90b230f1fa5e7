import MyCogni.Base.JsonLength
import MyCogni.Mailbox.Same

/-! How long the frame of a repository is. Byte strings grow by a third in Base64, every record,
item of evidence and tombstone adds the text around them, and the adapter's bound counts the bytes
only once and reserves one fixed overhead for all the rest. -/

namespace MyCogni.Mailbox

/-- What a record, a tombstone and the frame add at most to the Base64 texts of the envelopes and
the evidence. -/
def recordTextRoom : Nat := 700000
def tombstoneTextRoom : Nat := 180
def frameTextRoom : Nat := 13500

/-- The adapter's bound leaves room for everything that the other limits admit. -/
def MailboxLimits.Roomy (limits : MailboxLimits) : Prop :=
  4 * (limits.maxTotalActiveMaterialBytes + limits.maxTotalEvidenceBytes) +
      3 * (limits.maxMailboxes * recordTextRoom + limits.maxTombstones * tombstoneTextRoom +
        frameTextRoom) ≤ 3 * limits.maxSerializedBytes

instance (limits : MailboxLimits) : Decidable limits.Roomy := inferInstanceAs (Decidable (_ ≤ _))

variable {cfg : Config} {s : Repository} {id : Uuid} {r : Record}

/-! ### Values -/

theorem length_bytesWire_le (b : Bytes) : 3 * (bytesWire b).text.length ≤ 4 * b.length + 14 := by
  have hlength : (bytesWire b).text.length = _ := Base64.length_text_encode b
  omega

theorem length_bytesWire {b : Bytes} (h : b.length = 32) : (bytesWire b).text.length = 46 := by
  have hlength : (bytesWire b).text.length = _ := Base64.length_text_encode b
  rw [hlength, h]

theorem length_nullable_le {α : Type} {wire : α → Json} {o : Option α} {n : Nat} (hn : 4 ≤ n)
    (h : ∀ a ∈ o, (wire a).text.length ≤ n) : (nullableWire wire o).text.length ≤ n := by
  cases o with
  | none => exact hn
  | some a => exact h a rfl

theorem length_nullableBytes_le (o : Option Bytes) :
    3 * ((nullableWire bytesWire o).text.length : Int) ≤ 4 * optLength o + 14 := by
  cases o with
  | none => decide
  | some b =>
    have hlength := length_bytesWire_le b
    show 3 * ((bytesWire b).text.length : Int) ≤ 4 * (b.length : Int) + 14
    omega

theorem length_nullableDatetime_le (o : Option Datetime) :
    (nullableWire datetimeWire o).text.length ≤ 34 :=
  length_nullable_le (by decide) fun t _ => t.length_text_isoformat_le

theorem isPlainChar_of_isLowerAlnum {c : Char} (h : isLowerAlnum c = true) :
    isPlainChar c = true := by
  have hcode : 48 ≤ c.toNat ∧ c.toNat ≤ 57 ∨ 97 ≤ c.toNat ∧ c.toNat ≤ 122 := by
    simp only [isLowerAlnum, Bool.or_eq_true, Bool.and_eq_true, decide_eq_true_eq] at h
    exact h
  have hne : ∀ d : Char, c.toNat ≠ d.toNat → c ≠ d := fun d hd heq => hd (congrArg Char.toNat heq)
  simp only [isPlainChar, Bool.and_eq_true, decide_eq_true_eq]
  refine ⟨⟨⟨?_, ?_⟩, hne '"' ?_⟩, hne '\\' ?_⟩
  · show 32 ≤ c.toNat
    omega
  · show c.toNat ≤ 126
    omega
  · show c.toNat ≠ 34
    omega
  · show c.toNat ≠ 92
    omega

theorem isPlain_identifier {n : Nat} {t : Text} (h : isIdentifier n t = true) :
    isPlain t = true := by
  cases t with
  | nil => rfl
  | cons c t =>
    simp only [isIdentifier, Bool.and_eq_true, decide_eq_true_eq, List.all_eq_true] at h
    obtain ⟨⟨hc, -⟩, ht⟩ := h
    rw [isPlain_cons, Bool.and_eq_true]
    refine ⟨isPlainChar_of_isLowerAlnum (by simp [isLowerAlnum, hc]), ?_⟩
    refine List.all_eq_true.mpr fun d hd => ?_
    rcases Bool.or_eq_true_iff.mp (ht d hd) with h | h
    · exact isPlainChar_of_isLowerAlnum h
    · rw [of_decide_eq_true h]
      rfl

/-! ### Records -/

theorem length_evidenceWire_le {m slot : Uuid} {item : WrappedEvidence} {u : EvidenceUpload}
    (h : unwrap cfg m slot item = .ok u)
    (hframed : (item.wrappedPayload.length : Int) = item.byteCount + 64) :
    3 * ((evidenceWire item).text.length : Int) ≤ 4 * item.byteCount + 1240 := by
  obtain ⟨hpos, hstorage, hmac, hnonce, -⟩ := unwrap_measures h
  obtain ⟨-, -, hkind, hcount, -⟩ := unwrap_eq_ok h
  have hvalid := u.valid
  simp only [UploadFields.wellFormed, Bool.and_eq_true, decide_eq_true_eq] at hvalid
  have hidentifier : isEvidenceKind item.kind = true := hkind ▸ hvalid.1.1.2
  have hkind : (Json.str item.kind).text.length ≤ 66 := by
    have hle := length_of_isEvidenceKind hidentifier
    rw [length_text_str (isPlain_identifier hidentifier)]
    omega
  have hdigits : (Json.int item.byteCount).text.length ≤ 8 := by
    refine length_intText_le ⟨hpos, ?_⟩
    have hmax := hvalid.2.2
    omega
  have hid : (uuidWire item.objectId).text.length = 38 := length_text_uuid _
  have hpayload := length_bytesWire_le item.wrappedPayload
  have hnonce := length_bytesWire_le item.nonce
  have hstorage := length_bytesWire hstorage
  have hmac := length_bytesWire hmac
  have hobj : (evidenceWire item).text.length = _ :=
    length_text_obj_names (show _ = evidenceNames.map String.toList from rfl) (by decide) (by decide)
  have hnames : (evidenceNames.map fun n => n.length + 4).sum = 97 := by decide
  simp only [evidenceFields, List.map_cons, List.map_nil, List.sum_cons, List.sum_nil,
    hnames] at hobj
  omega

theorem length_evidence_le {m : List EvidenceUpload × Option Bytes} (hm : Authentic cfg r m)
    (hframed : r.Framed) (hitems : r.evidence.size ≤ maxEvidenceItems) :
    3 * ((Json.arr ((ordered r.evidence).map fun e => evidenceWire e.2)).text.length : Int) ≤
      4 * r.evidenceBytes + 79555 := by
  have hbytes : r.evidenceBytes = ((ordered r.evidence).map fun e => e.2.byteCount).sum :=
    (same_canonical r).evidenceBytes.symm
  have hlength : ((ordered r.evidence).length : Int) ≤ 64 := by
    rw [length_ordered]
    exact_mod_cast hitems
  have hitem : ∀ e ∈ ordered r.evidence,
      3 * ((evidenceWire e.2).text.length : Int) ≤ 4 * e.2.byteCount + 1240 := by
    intro e he
    have hget := mem_ordered.mp he
    obtain ⟨u, -, hu⟩ := slots_items hm.slots e.1 e.2 hget
    exact length_evidenceWire_le hu (hframed.evidence e.1 e.2 hget)
  rw [hbytes]
  generalize ordered r.evidence = es at hlength hitem ⊢
  have hsum : 3 * ((((es.map fun e => evidenceWire e.2).map fun j => j.text.length + 1).sum : Nat) :
      Int) ≤ 4 * (es.map fun e => e.2.byteCount).sum + 1243 * es.length := by
    clear hlength
    induction es with
    | nil => decide
    | cons e es ih =>
      rw [List.forall_mem_cons] at hitem
      have hrest := ih hitem.2
      have hhead := hitem.1
      simp only [List.map_cons, List.sum_cons, List.length_cons]
      push_cast at hrest ⊢
      omega
  cases es with
  | nil => decide
  | cons e es =>
    rw [length_text_arr (by simp)]
    push_cast at hsum ⊢
    omega

theorem digitsOk_field {fields : List (Text × Json)} (h : (Json.obj fields).digitsOk = true)
    {n : Text} {j : Json} (hj : (n, j) ∈ fields) : j.digitsOk = true := by
  rw [Json.digitsOk, fieldsDigitsOk_iff] at h
  exact h _ hj

theorem length_int_le {fields : List (Text × Json)} (h : (Json.obj fields).digitsOk = true)
    {n : Text} {i : Int} (hi : (n, Json.int i) ∈ fields) :
    (Json.int i).text.length ≤ 4301 :=
  length_intText_le_of_ok (digitsOk_field h hi)

theorem length_resultWire_le {b : ActionBinding} {item : WrappedResult} {j : Bytes}
    (h : unwrapResult cfg b item = .ok j)
    (hframed : (item.wrappedPayload.length : Int) = item.byteCount + 80 ∧
      item.byteCount ≤ canonicalResultRoom) :
    (resultWire item).text.length ≤ 640400 := by
  obtain ⟨hpos, hstorage, hmac, hnonce⟩ := unwrapResult_measures h
  obtain ⟨hlength, hcount⟩ := hframed
  have hroom : canonicalResultRoom = 480000 := rfl
  have hmax : maxEvidenceBytes = 67108864 := rfl
  have hdigits : (Json.int item.byteCount).text.length ≤ 8 :=
    length_intText_le ⟨hpos, by omega⟩
  have hpayload := length_bytesWire_le item.wrappedPayload
  have hnonce := length_bytesWire_le item.nonce
  have hstorage := length_bytesWire hstorage
  have hmac := length_bytesWire hmac
  have hobj : (resultWire item).text.length = _ :=
    length_text_obj_names (show _ = resultNames.map String.toList from rfl) (by decide) (by decide)
  have hnames : (resultNames.map fun n => n.length + 4).sum = 76 := by decide
  simp only [resultFields, List.map_cons, List.map_nil, List.sum_cons, List.sum_nil,
    hnames] at hobj
  omega

theorem length_manifestWire_le {item : CommittedEvidenceManifest}
    (hlengths : item.storageDigest.length = 32 ∧ item.semanticMac.length = 32)
    (hdigits : (manifestWire item).digitsOk = true) : (manifestWire item).text.length ≤ 4450 := by
  have hcount : (Json.int item.itemCount).text.length ≤ 4301 :=
    length_int_le hdigits List.mem_cons_self
  have hstorage := length_bytesWire hlengths.1
  have hmac := length_bytesWire hlengths.2
  have hobj : (manifestWire item).text.length = _ :=
    length_text_obj_names (show _ = manifestNames.map String.toList from rfl) (by decide) (by decide)
  have hnames : (manifestNames.map fun n => n.length + 4).sum = 48 := by decide
  simp only [manifestFields, List.map_cons, List.map_nil, List.sum_cons, List.sum_nil,
    hnames] at hobj
  omega

theorem length_bindingWire_le {b : ActionBinding} (hdigits : (bindingWire b).digitsOk = true) :
    (bindingWire b).text.length ≤ 26400 := by
  have hvalid := b.valid
  simp only [BindingFields.wellFormed, Bool.and_eq_true, decide_eq_true_eq] at hvalid
  obtain ⟨⟨⟨⟨⟨⟨⟨-, hrelease, -⟩, hcapability⟩, hartifact, henvelope⟩, -⟩, -⟩, -⟩, -⟩ := hvalid
  have hrelease := length_str_text_le hrelease
  have hcapability := length_str_text_le (length_isIdentifier hcapability)
  have hartifact := length_str_text_le (length_isDigest hartifact).le
  have henvelope := length_str_text_le (length_isDigest henvelope).le
  have hmailbox : (uuidWire b.mailboxId).text.length = 38 := length_text_uuid _
  have haction : (uuidWire b.actionId).text.length = 38 := length_text_uuid _
  have hintent : (uuidWire b.intentId).text.length = 38 := length_text_uuid _
  have hattempt : (uuidWire b.attemptId).text.length = 38 := length_text_uuid _
  have hclaim : (datetimeWire b.claimDeadlineUtc).text.length ≤ 34 :=
    Datetime.length_text_isoformat_le _
  have hdeadline : (datetimeWire b.deadlineUtc).text.length ≤ 34 :=
    Datetime.length_text_isoformat_le _
  have hint : ∀ {n : Text} {i : Int}, (n, Json.int i) ∈ bindingFields b →
      (Json.int i).text.length ≤ 4301 := length_int_le hdigits
  have hdispatch := hint (i := b.dispatchEpoch) (n := "dispatch_epoch".toList)
    (by simp [bindingFields])
  have hfence := hint (i := b.fence) (n := "fence".toList) (by simp [bindingFields])
  have hauthorization := hint (i := b.authorizationEpoch) (n := "authorization_epoch".toList)
    (by simp [bindingFields])
  have hwall := hint (i := b.wallSeconds) (n := "wall_seconds".toList) (by simp [bindingFields])
  have hresponse := hint (i := b.responseBytes) (n := "response_bytes".toList)
    (by simp [bindingFields])
  have hobj : (bindingWire b).text.length = _ :=
    length_text_obj_names (show _ = bindingNames.map String.toList from rfl) (by decide) (by decide)
  have hnames : (bindingNames.map fun n => n.length + 4).sum = 258 := by decide
  simp only [bindingFields, List.map_cons, List.map_nil, List.sum_cons, List.sum_nil,
    hnames] at hobj
  omega

/-- A record is as long as the Base64 texts of its material, and the room of a record. -/
theorem length_recordWire_le (h : Storable cfg s) (hr : s.records.get? id = some r)
    (hdigits : (recordWire r).digitsOk = true) :
    3 * ((recordWire r).text.length + 1 : Int) ≤
      4 * (r.activeBytes + r.evidenceBytes) + 3 * recordTextRoom := by
  have hcoherent := h.coherent.record id r hr
  have hframed := h.framed.record id r hr
  obtain ⟨m, hm⟩ := hcoherent.material
  have hbinding := length_bindingWire_le (b := r.binding)
    (digitsOk_field hdigits List.mem_cons_self)
  have hcreated : (datetimeWire r.createdAt).text.length ≤ 34 := Datetime.length_text_isoformat_le _
  have hseen : (datetimeWire r.lastSeenUtc).text.length ≤ 34 := Datetime.length_text_isoformat_le _
  have haction := length_bytesWire hframed.credentials.1
  have hclaim := length_bytesWire hframed.credentials.2.1
  have hcollection := length_bytesWire hframed.credentials.2.2
  have hstate : (Json.str r.state.value).text.length ≤ 18 := by cases r.state <;> decide
  have hcollected : (Json.str r.collectionState.value).text.length ≤ 14 := by
    cases r.collectionState <;> decide
  have henvelope := length_nullableBytes_le r.envelopeJson
  have hkey := length_nullableBytes_le r.actionKey
  have hcredential := length_nullableBytes_le r.resultCredential
  have hdigest : (nullableWire bytesWire r.resultCredentialDigest).text.length ≤ 46 :=
    length_nullable_le (by decide) fun d hd => (length_bytesWire (hframed.resultDigest d hd)).le
  have hevidence := length_evidence_le hm hframed hcoherent.items
  have hresult : (nullableWire resultWire r.resultEnvelope).text.length ≤ 640400 := by
    refine length_nullable_le (by decide) fun item hitem => ?_
    obtain ⟨j, hunwrap⟩ := hm.unwraps hitem
    exact length_resultWire_le hunwrap (hframed.result item hitem)
  have hmanifest :
      (nullableWire manifestWire r.committedEvidenceManifest).text.length ≤ 4450 := by
    have hok : (nullableWire manifestWire r.committedEvidenceManifest).digitsOk = true :=
      digitsOk_field hdigits (n := "committed_evidence_manifest".toList) (by simp [recordFields])
    refine length_nullable_le (by decide) fun item hitem => ?_
    rw [show r.committedEvidenceManifest = some item from hitem] at hok
    exact length_manifestWire_le (hm.manifest_lengths hitem) hok
  have hcommitted := length_nullableDatetime_le r.committedAt
  have hterminal := length_nullableDatetime_le r.terminalAt
  have hobj : (recordWire r).text.length = _ :=
    length_text_obj_names (show _ = recordNames.map String.toList from rfl) (by decide) (by decide)
  have hnames : (recordNames.map fun n => n.length + 4).sum = 331 := by decide
  have hroom : recordTextRoom = 700000 := rfl
  simp only [recordFields, List.map_cons, List.map_nil, List.sum_cons, List.sum_nil,
    hnames] at hobj
  unfold Record.activeBytes
  omega

/-! ### States -/

theorem length_tombstoneWire_le (e : Uuid × Tombstone) :
    (tombstoneWire e).text.length + 1 ≤ tombstoneTextRoom := by
  have hid : (uuidWire e.1).text.length = 38 := length_text_uuid _
  have hcreated : (datetimeWire e.2.createdAt).text.length ≤ 34 :=
    Datetime.length_text_isoformat_le _
  have hexpires : (datetimeWire e.2.expiresAt).text.length ≤ 34 :=
    Datetime.length_text_isoformat_le _
  have hobj : (tombstoneWire e).text.length = _ :=
    length_text_obj_names (show _ = tombstoneNames.map String.toList from rfl) (by decide)
      (by decide)
  have hnames : (tombstoneNames.map fun n => n.length + 4).sum = 42 := by decide
  have hroom : tombstoneTextRoom = 180 := rfl
  simp only [tombstoneFields, List.map_cons, List.map_nil, List.sum_cons, List.sum_nil,
    hnames] at hobj
  omega

theorem length_text_arr_le (items : List Json) :
    (Json.arr items).text.length ≤ (items.map fun j => j.text.length + 1).sum + 2 := by
  by_cases h : items = []
  · subst h
    rfl
  · rw [length_text_arr h]
    omega

theorem length_tombstones_le (s : Repository) :
    (Json.arr ((ordered s.tombstones).map tombstoneWire)).text.length ≤
      s.tombstones.size * tombstoneTextRoom + 2 := by
  have harr := length_text_arr_le ((ordered s.tombstones).map tombstoneWire)
  have hsum : (((ordered s.tombstones).map tombstoneWire).map fun j => j.text.length + 1).sum ≤
      (ordered s.tombstones).length * tombstoneTextRoom := by
    refine (List.sum_le_card_nsmul _ tombstoneTextRoom ?_).trans ?_
    · intro x hx
      rw [List.map_map] at hx
      obtain ⟨e, -, rfl⟩ := List.mem_map.mp hx
      exact length_tombstoneWire_le e
    · rw [List.length_map, List.length_map, nsmul_eq_mul]
      exact le_rfl
  rw [length_ordered] at hsum
  omega

theorem length_records_le (h : Storable cfg s) (hdigits : (stateWire s).digitsOk = true) :
    3 * ((Json.arr ((ordered s.records).map fun e => recordWire e.2)).text.length : Int) ≤
      4 * (s.totalActiveMaterialBytes + s.totalEvidenceBytes) +
        3 * (s.records.size * recordTextRoom + 2) := by
  have hok : ∀ e ∈ ordered s.records, (recordWire e.2).digitsOk = true := by
    have harr : (Json.arr ((ordered s.records).map fun e => recordWire e.2)).digitsOk = true :=
      digitsOk_field hdigits (n := "records".toList) (by simp [stateFields])
    rw [Json.digitsOk, itemsDigitsOk_iff] at harr
    exact fun e he => harr _ (List.mem_map_of_mem he)
  have hrecord : ∀ e ∈ ordered s.records, 3 * ((recordWire e.2).text.length + 1 : Int) ≤
      4 * (e.2.activeBytes + e.2.evidenceBytes) + 3 * recordTextRoom :=
    fun e he => length_recordWire_le h (mem_ordered.mp he) (hok e he)
  -- the totals are sums over the records in any order
  have hactive : s.totalActiveMaterialBytes =
      ((ordered s.records).map fun e => e.2.activeBytes).sum := by
    rw [h.coherent.totals.1]
    show s.records.sum Record.activeBytes = (sortedDict s.records).sum Record.activeBytes
    exact Dict.sum_congr fun id => by rw [get?_sortedDict]
  have hevidence : s.totalEvidenceBytes =
      ((ordered s.records).map fun e => e.2.evidenceBytes).sum := by
    rw [h.coherent.totals.2.1]
    show s.records.sum Record.evidenceBytes = (sortedDict s.records).sum Record.evidenceBytes
    exact Dict.sum_congr fun id => by rw [get?_sortedDict]
  have hsize := length_ordered s.records
  rw [hactive, hevidence, ← hsize]
  generalize ordered s.records = es at hrecord
  have harr := length_text_arr_le (es.map fun e => recordWire e.2)
  have hsum : 3 * ((((es.map fun e => recordWire e.2).map fun j => j.text.length + 1).sum : Nat) :
      Int) ≤ 4 * ((es.map fun e => e.2.activeBytes).sum + (es.map fun e => e.2.evidenceBytes).sum) +
        3 * (es.length * recordTextRoom) := by
    clear harr
    induction es with
    | nil => decide
    | cons e es ih =>
      rw [List.forall_mem_cons] at hrecord
      have hrest := ih hrecord.2
      have hhead := hrecord.1
      simp only [List.map_cons, List.sum_cons, List.length_cons]
      push_cast at hrest ⊢
      linarith
  omega

/-- The frame of a repository grows by a third of its bytes and by the room of its parts. -/
theorem length_encodeState_le (h : Storable cfg s) {b : Bytes} (hb : encodeState s = some b) :
    3 * (b.length : Int) ≤ 4 * (s.totalActiveMaterialBytes + s.totalEvidenceBytes) +
      3 * (s.records.size * recordTextRoom + s.tombstones.size * tombstoneTextRoom +
        frameTextRoom) := by
  have hdigits : (stateWire s).digitsOk = true := by
    unfold encodeState Json.dumps at hb
    split_ifs at hb with hok
    exact hok
  have hlength := length_dumps hb
  have hrecords := length_records_le h hdigits
  have htombstones := length_tombstones_le s
  have hversion : (Json.int frameVersion).text.length = 1 := rfl
  have htime := length_nullableDatetime_le s.installationLastSeenUtc
  have hint : ∀ {n : Text} {i : Int}, (n, Json.int i) ∈ stateFields s →
      (Json.int i).text.length ≤ 4301 := length_int_le hdigits
  have hactive := hint (n := "total_active_material_bytes".toList) (i := s.totalActiveMaterialBytes)
    (by simp [stateFields])
  have hevidence := hint (n := "total_evidence_bytes".toList) (i := s.totalEvidenceBytes)
    (by simp [stateFields])
  have hcommitted := hint (n := "total_committed_bytes".toList) (i := s.totalCommittedBytes)
    (by simp [stateFields])
  have hobj : (stateWire s).text.length = _ :=
    length_text_obj_names (show _ = stateNames.map String.toList from rfl) (by decide) (by decide)
  have hnames : (stateNames.map fun n => n.length + 4).sum = 146 := by decide
  have hroom : frameTextRoom = 13500 := rfl
  simp only [stateFields, List.map_cons, List.map_nil, List.sum_cons, List.sum_nil,
    hnames] at hobj
  generalize (s.records.size * recordTextRoom : Int) = x at hrecords ⊢
  have htombstones' : ((Json.arr ((ordered s.tombstones).map tombstoneWire)).text.length : Int) ≤
      s.tombstones.size * tombstoneTextRoom + 2 := by exact_mod_cast htombstones
  generalize (s.tombstones.size * tombstoneTextRoom : Int) = y at htombstones' ⊢
  omega

/-- Under roomy limits no state of the service is too long to be written. -/
theorem MailboxLimits.Roomy.length_le (hroomy : cfg.limits.Roomy) (h : Storable cfg s) {b : Bytes}
    (hb : encodeState s = some b) : b.length ≤ cfg.limits.maxSerializedBytes := by
  have hlength := length_encodeState_le h hb
  have hactive := h.coherent.active
  have hevidence := h.coherent.evidence
  have hrecords : s.records.size * recordTextRoom ≤ cfg.limits.maxMailboxes * recordTextRoom :=
    Nat.mul_le_mul_right _ h.coherent.mailboxes
  have htombstones : s.tombstones.size * tombstoneTextRoom ≤
      cfg.limits.maxTombstones * tombstoneTextRoom :=
    Nat.mul_le_mul_right _ h.coherent.tombstones
  unfold MailboxLimits.Roomy at hroomy
  zify at hroomy hrecords htombstones ⊢
  linarith

end MyCogni.Mailbox
